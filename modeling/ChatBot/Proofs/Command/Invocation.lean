import ChatBot.Proofs.Command.Call
import ChatBot.Proofs.Command.Extraction
import ChatBot.Proofs.Command.Registry
import ChatBot.Proofs.Text.Trim

/-!
Lines that name a command in full. No name has a space in it, so a line with a space or nothing behind a name has no longer
name in front, and what it means hangs on that command alone.
-/
set_option autoImplicit false

namespace ChatBot.Command

/-! ## Cutting and binding -/

/-- What a line means that begins with the name, behind the leader or without it. -/
theorem extract_of_dropLeading {s : Schema} {line rest : Text} (h : Text.dropLeading s.leader line = s.name ++ rest) :
    s.extract line =
      if (Text.trimLeft rest).isEmpty && s.hasKind [.required] then .missingRequired
      else .matched (bindSlots s.slots (Text.trimLeft rest) []) := by
  unfold Schema.extract Schema.extractLedBy
  rw [h, Text.after?_append]

/-- What a line means that begins with the leader and the name. -/
theorem extract_append (s : Schema) (rest : Text) :
    s.extract (s.leader ++ (s.name ++ rest)) =
      if (Text.trimLeft rest).isEmpty && s.hasKind [.required] then .missingRequired
      else .matched (bindSlots s.slots (Text.trimLeft rest) []) :=
  extract_of_dropLeading (Text.dropLeading_append s.leader _)

/-- A line is read where a command is named: what stands behind the name, without the blanks in front, fills the slots. -/
theorem exists_rest_of_extract {s : Schema} {line : Text} {bindings : Bindings} (h : s.extract line = .matched bindings) :
    ∃ rest, Text.dropLeading s.leader line = s.name ++ rest ∧ bindings = bindSlots s.slots (Text.trimLeft rest) [] ∧
      (s.hasKind [.required] = true → Text.trimLeft rest ≠ []) := by
  unfold Schema.extract Schema.extractLedBy at h
  cases hafter : Text.after? s.name (Text.dropLeading s.leader line) with
  | none =>
    rw [hafter] at h
    cases h
  | some rest =>
    rw [hafter] at h
    dsimp only at h
    split at h
    · cases h
    · rename_i hgiven
      refine ⟨rest, Text.after?_eq_some_iff.mp hafter, (Extraction.matched.inj h).symm, fun hrequired hnil => hgiven ?_⟩
      rw [hrequired, hnil]
      rfl

/-- A required and a flexible slot take a word and all that is behind the space after it, character by character. -/
theorem extract_word_and_rest {s : Schema} {first second word body : Text} {c : Char}
    (hslots : s.slots = [⟨first, .required⟩, ⟨second, .flexible⟩]) (hkeys : first ≠ second)
    (hhead : word.head? = some c) (hc : Text.isBlank c = false) (hspace : ' ' ∉ word) (hbody : body ≠ []) :
    s.extract (s.leader ++ (s.name ++ ' ' :: (word ++ ' ' :: body))) = .matched [(first, word), (second, body)] := by
  have hword : word ≠ [] := by
    rintro rfl
    cases hhead
  have hblank : Text.isBlank ' ' = true := by decide
  have htrim : Text.trimLeft (' ' :: (word ++ ' ' :: body)) = word ++ ' ' :: body := by
    have hline : (word ++ ' ' :: body).head? = some c := by
      rw [List.head?_append_of_ne_nil word hword, hhead]
    rw [Text.trimLeft, List.dropWhile_cons_of_pos hblank]
    exact Text.trimLeft_of_head? hline hc
  have hgiven : (word ++ ' ' :: body).isEmpty = false := by
    simp
  rw [extract_append, htrim, hgiven, Bool.false_and, if_neg Bool.false_ne_true, hslots, bindSlots,
    if_neg (by simp), cutAtSpace?_append hspace]
  simp [bindSlots, bindSlot, hword, hbody, Assoc.insert, hkeys]

theorem find?_bindSlot_of_ne {key other : Text} (bindings : Bindings) (text : Text) (h : key ≠ other) :
    (bindSlot bindings key text).find? other = bindings.find? other := by
  unfold bindSlot
  split
  · rfl
  · rw [Assoc.find?_insert_of_ne _ _ h]

theorem find?_bindSlots_of_not_mem {key : Text} (slots : List Slot) (rest : Text) (bindings : Bindings)
    (h : key ∉ slots.map Slot.key) : (bindSlots slots rest bindings).find? key = bindings.find? key := by
  induction slots generalizing rest bindings with
  | nil => rfl
  | cons slot slots ih =>
    have hslot : slot.key ≠ key := fun e => h (e ▸ List.mem_cons_self)
    have hslots : key ∉ slots.map Slot.key := fun hmem => h (List.mem_cons_of_mem _ hmem)
    unfold bindSlots
    split
    · exact find?_bindSlot_of_ne bindings rest hslot
    · split
      · exact find?_bindSlot_of_ne bindings rest hslot
      · rw [ih _ _ hslots, find?_bindSlot_of_ne bindings _ hslot]

/-- A first slot that must be filled takes a word off a text that does not begin with a blank. -/
theorem exists_word_of_bindSlots {key t : Text} {c : Char} (slots : List Slot) (hkey : key ∉ slots.map Slot.key)
    (hhead : t.head? = some c) (hc : Text.isBlank c = false) :
    ∃ word, (bindSlots (⟨key, .required⟩ :: slots) t []).find? key = some word ∧ ' ' ∉ word ∧ word.head? = some c ∧
      word <+: t ∧ (' ' ∉ t → bindSlots (⟨key, .required⟩ :: slots) t [] = [(key, word)]) := by
  rw [bindSlots, if_neg (by simp)]
  cases hcut : cutAtSpace? t with
  | none =>
    have hspace : ' ' ∉ t := cutAtSpace?_eq_none_iff.mp hcut
    have hbound : bindSlot [] key t = [(key, t)] := by
      cases t with
      | nil => cases hhead
      | cons d t => rfl
    refine ⟨t, ?_, hspace, hhead, List.prefix_rfl, fun _ => hbound⟩
    simp only [hbound, Assoc.find?, if_pos]
  | some cut =>
    obtain ⟨word, rest⟩ := cut
    obtain ⟨rfl, hspace⟩ := cutAtSpace?_eq_some hcut
    cases word with
    | nil =>
      -- The space in front would be a blank.
      obtain rfl : ' ' = c := Option.some.inj hhead
      exact absurd hc (by decide)
    | cons d word =>
      refine ⟨d :: word, ?_, hspace, hhead, List.prefix_append _ _, fun hnone => absurd (by simp) hnone⟩
      simp only [find?_bindSlots_of_not_mem slots _ _ hkey]
      simp [bindSlot, Assoc.insert, Assoc.find?]

/-- What a line binds a first slot to that must be filled: a word behind the name, in whose front there is no blank. A line
without spaces binds nothing else. -/
theorem exists_word_of_extract {s : Schema} {line key : Text} {slots : List Slot} {bindings : Bindings}
    (hslots : s.slots = ⟨key, .required⟩ :: slots) (hkey : key ∉ slots.map Slot.key)
    (h : s.extract line = .matched bindings) :
    ∃ word, bindings.find? key = some word ∧ ' ' ∉ word ∧ (∃ c, word.head? = some c ∧ Text.isBlank c = false) ∧
      s.name.length + word.length ≤ (Text.dropLeading s.leader line).length ∧
      (' ' ∉ Text.dropLeading s.leader line → bindings = [(key, word)]) := by
  obtain ⟨after, hline, rfl, hgiven⟩ := exists_rest_of_extract h
  have hsuffix : Text.trimLeft after <:+ after := List.dropWhile_suffix _
  obtain ⟨c, t, hrest⟩ := List.exists_cons_of_ne_nil (hgiven (by simp [Schema.hasKind, hslots]))
  have hc : Text.isBlank c = false := Text.isBlank_of_trimLeft_eq_cons hrest
  have hfront : List.head? (c :: t) = some c := rfl
  obtain ⟨word, hfind, hspace, hhead, hprefix, hone⟩ := exists_word_of_bindSlots slots hkey hfront hc
  rw [hrest] at hsuffix ⊢
  rw [hslots, hline]
  have hlength : word.length ≤ after.length := Nat.le_trans hprefix.length_le hsuffix.length_le
  refine ⟨word, hfind, hspace, ⟨c, hhead, hc⟩, ?_, fun hnone => hone fun hmem => ?_⟩
  · rw [List.length_append]
    omega
  · exact hnone (List.mem_append_right _ (hsuffix.subset hmem))

/-- The first slot must be filled, and it is bound to a word in whose front there is no blank. -/
def Schema.BindsFirst (s : Schema) (bindings : Bindings) : Prop :=
  ∃ slot word, s.slots.head? = some slot ∧ slot.kind = .required ∧ bindings.find? slot.key = some word ∧ word ≠ [] ∧
    ' ' ∉ word ∧ ∀ c ∈ word.head?, Text.isBlank c = false

theorem Schema.BindsFirst.isSome_find? {s : Schema} {bindings : Bindings} (h : s.BindsFirst bindings) {slot : Slot}
    (hslot : s.slots.head? = some slot) : (bindings.find? slot.key).isSome = true := by
  obtain ⟨first, word, hfirst, -, hfind, -⟩ := h
  obtain rfl := Option.some.inj (hslot.symm.trans hfirst)
  rw [hfind]
  rfl

/-- Slots that must be filled come first, so the first of them takes a word off every line that is read. -/
theorem bindsFirst_of_extract {leader usage line : Text} {elevated : Bool} {s : Schema} {bindings : Bindings}
    (hs : Schema.ofUsage leader usage elevated = .ok s) (hrequired : ∃ slot ∈ s.slots, slot.kind = .required)
    (h : s.extract line = .matched bindings) : s.BindsFirst bindings := by
  obtain ⟨c, -, hdeclares, -⟩ := exists_leader_of_ofUsage hs
  have horder := inOrder_iff_pairwise.mp hdeclares.inOrder
  have hkeys := hdeclares.keys_nodup
  obtain ⟨required, hmem, hkind⟩ := hrequired
  cases hslots : s.slots with
  | nil =>
    rw [hslots] at hmem
    cases hmem
  | cons slot slots =>
    rw [hslots, List.map_cons] at horder hkeys
    have hfirst : slot.kind = .required := by
      rw [hslots] at hmem
      rcases List.mem_cons.mp hmem with rfl | hlater
      · exact hkind
      · have hbefore := (List.pairwise_cons.mp horder).1 .required (hkind ▸ List.mem_map_of_mem hlater)
        cases hslot : slot.kind with
        | required => rfl
        | optional => exact absurd (by rw [hslot]) (mayPrecede_required_iff.mp hbefore ∘ .inl)
        | flexible => exact absurd (by rw [hslot]) (mayPrecede_required_iff.mp hbefore ∘ .inr)
    obtain ⟨word, hfind, hspace, ⟨d, hhead, hd⟩, -⟩ :=
      exists_word_of_extract (hslots.trans (by rw [← hfirst])) (List.nodup_cons.mp hkeys).1 h
    refine ⟨slot, word, by rw [hslots]; rfl, hfirst, hfind, ?_, hspace, fun e he => ?_⟩
    · rintro rfl
      cases hhead
    · obtain rfl := Option.some.inj (hhead.symm.trans he)
      exact hd

namespace Registry
variable {η : Type}

/-! ## The command that is named -/

theorem WellFormed.space_not_mem_name {r : Registry η} (hr : r.WellFormed) {c : Registration η}
    (hc : c ∈ r.registrations) : ' ' ∉ c.schema.name := by
  obtain ⟨usage, elevated, hschema⟩ := hr.declared c.schema (List.mem_map_of_mem hc)
  obtain ⟨leader, -, hdeclares, -⟩ := exists_leader_of_ofUsage hschema
  obtain ⟨words, hwords, -⟩ := hdeclares.words
  exact space_not_mem_of_mem_usagePieces (hwords ▸ List.mem_cons_self)

theorem WellFormed.isLongest_of_invocation {r : Registry η} (hr : r.WellFormed) {c : Registration η}
    (hc : c ∈ r.registrations) {rest : Text} (hrest : ∀ d ∈ rest.head?, d = ' ') :
    r.IsLongest (r.leader ++ (c.schema.name ++ rest)) c := by
  have hdrop : (r.leader ++ (c.schema.name ++ rest)).drop r.leader.length = c.schema.name ++ rest := List.drop_left
  have hnames : Names r.leader (r.leader ++ (c.schema.name ++ rest)) c := by
    refine ⟨List.prefix_append _ _, ?_⟩
    rw [hdrop]
    exact List.prefix_append _ _
  refine ⟨hc, hnames, fun d hd hdn hne => ?_⟩
  by_contra hlong
  have hd' : d.schema.name <+: c.schema.name ++ rest := hdrop ▸ hdn.2
  obtain ⟨more, hmore⟩ : c.schema.name <+: d.schema.name :=
    List.prefix_of_prefix_length_le (List.prefix_append _ _) hd' (Nat.le_of_not_lt hlong)
  cases more with
  | nil =>
    rw [List.append_nil] at hmore
    exact hne (hr.eq_of_name_eq hd hc hmore.symm)
  | cons x more =>
    -- A longer name would go on with the space.
    rw [← hmore] at hd'
    obtain ⟨tail, htail⟩ := (List.prefix_append_right_inj _).mp hd'
    have hx : x = ' ' := hrest x (by rw [← htail]; rfl)
    have hspace : ' ' ∉ d.schema.name := hr.space_not_mem_name hd
    rw [← hmore, hx] at hspace
    exact hspace (List.mem_append_right _ List.mem_cons_self)

theorem WellFormed.route_of_invocation {r : Registry η} (hr : r.WellFormed) {c : Registration η} {m : Message} {rest : Text}
    (hc : c ∈ r.registrations) (hcontent : m.content = r.leader ++ (c.schema.name ++ rest))
    (hrest : ∀ d ∈ rest.head?, d = ' ') : r.route m = routeTo m c := by
  have hlongest : r.IsLongest m.content c := hcontent ▸ hr.isLongest_of_invocation hc hrest
  exact hr.route_of_isLongest hlongest

end Registry
end ChatBot.Command
