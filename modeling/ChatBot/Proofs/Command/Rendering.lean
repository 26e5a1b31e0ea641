import ChatBot.Proofs.Command.Invocation

/-!
Lines written for given arguments, and what is read off them. Values that are written behind the name of a command, a space before
each, are read back as they are. Where the last slot takes all that remains, a line can be written again from what it binds:
nothing behind the name is lost but the blanks in front.
-/
set_option autoImplicit false

namespace ChatBot.Command

/-! ## Values for the slots -/

/-- The line that gives these values to the first slots. -/
def Schema.rendered (s : Schema) (values : List Text) : Text :=
  s.leader ++ (s.name ++ values.flatMap fun value => ' ' :: value)

/-- The values can stand on a line one after the other: none is empty, and only a flexible slot takes one with a space in it. -/
structure Fit (slots : List Slot) (values : List Text) : Prop where
  length_le : values.length ≤ slots.length
  ne_nil : ∀ value ∈ values, value ≠ []
  space_not_mem : ∀ placed ∈ slots.zip values, placed.1.kind ≠ .flexible → ' ' ∉ placed.2

/-- Values that can be given to the command: they fit its slots, the first does not begin with a blank, and there is one where the
command requires some. -/
structure Schema.Takes (s : Schema) (values : List Text) : Prop where
  fit : Fit s.slots values
  front : ∀ value ∈ values.head?, ∀ c ∈ value.head?, Text.isBlank c = false
  given : (∃ slot ∈ s.slots, slot.kind = .required) → values ≠ []

theorem Fit.tail {slot : Slot} {slots : List Slot} {value : Text} {values : List Text}
    (h : Fit (slot :: slots) (value :: values)) : Fit slots values where
  length_le := Nat.le_of_succ_le_succ h.length_le
  ne_nil v hv := h.ne_nil v (List.mem_cons_of_mem _ hv)
  space_not_mem placed hplaced := h.space_not_mem placed (List.mem_cons_of_mem _ hplaced)

/-! ## The texts of the slots -/

theorem keys_slotTexts_sublist (slots : List Slot) (pieces : List Text) :
    (Assoc.keys (slotTexts slots pieces)).Sublist (slots.map Slot.key) := by
  have hkeys : slots.zipIdx.map (fun placed => placed.1.key) = slots.map Slot.key := by
    rw [show (fun placed : Slot × ℕ => placed.1.key) = Slot.key ∘ Prod.fst from rfl, ← List.map_map, List.zipIdx_map_fst]
  rw [← hkeys]
  refine Assoc.keys_filterMap_sublist_map (fun placed c hc => ?_) slots.zipIdx
  obtain ⟨text, -, rfl⟩ := Option.map_eq_some_iff.mp hc
  rfl

/-- Where no key occurs twice, the walk binds the texts of the slots, in their order. -/
theorem bindSlots_eq_slotTexts {slots : List Slot} (hkeys : (slots.map Slot.key).Nodup) (rest : Text) :
    bindSlots slots rest [] = slotTexts slots (List.splitOn ' ' rest) := by
  rw [bindSlots_eq_foldl]
  exact Assoc.ofList_of_nodup (hkeys.sublist (keys_slotTexts_sublist slots _))

/-- Values are read back slot after slot; a flexible slot is the last and takes its value with the spaces in it. -/
theorem slotTexts_of_fit {slots : List Slot} {value : Text} {values : List Text}
    (horder : (slots.map Slot.kind).Pairwise MayPrecede) (h : Fit slots (value :: values)) :
    slotTexts slots (List.splitOn ' ' (value ++ values.flatMap fun value => ' ' :: value)) =
      (slots.zip (value :: values)).map fun placed => (placed.1.key, placed.2) := by
  induction slots generalizing value values with
  | nil => exact absurd h.length_le (Nat.not_succ_le_zero _)
  | cons slot slots ih =>
    rw [List.map_cons, List.pairwise_cons] at horder
    have hvalue : value ≠ [] := h.ne_nil value List.mem_cons_self
    by_cases hkind : slot.kind = .flexible
    · -- Nothing may stand behind a flexible slot.
      have hslots : slots = [] := by
        cases slots with
        | nil => rfl
        | cons next slots =>
          have hnever := horder.1 next.kind List.mem_cons_self
          rw [hkind] at hnever
          exact hnever.elim
      subst hslots
      have hvalues : values = [] := List.eq_nil_of_length_eq_zero (Nat.le_zero.mp (Nat.le_of_succ_le_succ h.length_le))
      subst hvalues
      rw [List.flatMap_nil, List.append_nil, slotTexts_cons_of_flexible [] value hkind, if_neg hvalue]
      rfl
    · have hspace : ' ' ∉ value := h.space_not_mem (slot, value) List.mem_cons_self hkind
      rw [List.zip_cons_cons, List.map_cons]
      cases values with
      | nil =>
        rw [List.flatMap_nil, List.append_nil, List.splitOn_eq_singleton hspace, slotTexts_cons slots value [] hkind,
          slotTexts_nil, if_neg hvalue, List.zip_nil_right]
        rfl
      | cons next values =>
        rw [List.flatMap_cons, List.cons_append, List.splitOn_append_cons_self_of_not_mem hspace,
          slotTexts_cons slots value _ hkind, if_neg hvalue, ih horder.2 h.tail]
        rfl

/-! ## Nothing is lost -/

/-- The texts of the slots, an empty one where a slot has none, joined with spaces. -/
def joined (slots : List Slot) (bindings : Bindings) : Text :=
  Text.join [' '] (slots.map fun slot => (bindings.find? slot.key).getD [])

theorem find?_given_self {key text : Text} {more : Bindings} (h : key ∉ more.keys) :
    (Assoc.find? ((if text = [] then [] else [(key, text)]) ++ more) key).getD [] = text := by
  by_cases htext : text = []
  · rw [if_pos htext, List.nil_append, Assoc.find?_eq_none_of_not_mem_keys h, htext]
    rfl
  · rw [if_neg htext, List.singleton_append, Assoc.find?, if_pos rfl]
    rfl

theorem find?_given_of_ne {key other : Text} (h : key ≠ other) (text : Text) (more : Bindings) :
    Assoc.find? ((if text = [] then [] else [(key, text)]) ++ more) other = more.find? other := by
  by_cases htext : text = []
  · rw [if_pos htext, List.nil_append]
  · rw [if_neg htext, List.singleton_append, Assoc.find?, if_neg h]

theorem joined_given {slot : Slot} (slots : List Slot) {more : Bindings} (hslot : slot.key ∉ slots.map Slot.key)
    (hmore : slot.key ∉ more.keys) (text : Text) :
    joined (slot :: slots) ((if text = [] then [] else [(slot.key, text)]) ++ more) =
      if slots = [] then text else text ++ ' ' :: joined slots more := by
  have hrest : (slots.map fun next =>
      (Assoc.find? ((if text = [] then [] else [(slot.key, text)]) ++ more) next.key).getD []) =
        slots.map fun next => (more.find? next.key).getD [] := by
    refine List.map_congr_left fun next hnext => ?_
    have hne : slot.key ≠ next.key := fun e => hslot (e ▸ List.mem_map_of_mem hnext)
    rw [find?_given_of_ne hne]
  rw [joined, List.map_cons, find?_given_self hmore, hrest]
  cases slots with
  | nil => exact List.append_nil text
  | cons next slots => simp [joined, Text.join, List.intercalate]

/-- All that is bound is bound to the first `k` slots, and their texts give the line back. -/
structure GivesBack (slots : List Slot) (k : ℕ) (bindings : Bindings) (rest : Text) : Prop where
  pos : 1 ≤ k
  le_length : k ≤ slots.length
  mem_keys : ∀ key ∈ bindings.keys, key ∈ (slots.take k).map Slot.key
  joined_eq : joined (slots.take k) bindings = rest

theorem eq_of_mem_keys_given {key other text : Text} (h : other ∈ Assoc.keys (if text = [] then [] else [(key, text)])) :
    other = key := by
  split at h
  · cases h
  · exact List.mem_singleton.mp h

/-- A slot that takes all that remains gives it back. -/
theorem givesBack_all (slot : Slot) (slots : List Slot) (rest : Text) :
    GivesBack (slot :: slots) 1 (if rest = [] then [] else [(slot.key, rest)]) rest where
  pos := Nat.le_refl 1
  le_length := Nat.succ_le_succ (Nat.zero_le _)
  mem_keys _ hkey := List.mem_singleton.mpr (eq_of_mem_keys_given hkey)
  joined_eq := by
    have hslot : slot.key ∉ ([] : List Slot).map Slot.key := List.not_mem_nil
    have hmore : slot.key ∉ Assoc.keys ([] : Bindings) := List.not_mem_nil
    have hjoined := joined_given [] hslot hmore rest
    rwa [List.append_nil, if_pos rfl] at hjoined

theorem GivesBack.cons {slot : Slot} {slots : List Slot} {k : ℕ} {more : Bindings} {rest : Text}
    (h : GivesBack slots k more rest) (hslot : slot.key ∉ slots.map Slot.key) (hmore : slot.key ∉ more.keys) (token : Text) :
    GivesBack (slot :: slots) (k + 1) ((if token = [] then [] else [(slot.key, token)]) ++ more) (token ++ ' ' :: rest) where
  pos := Nat.le_add_left 1 k
  le_length := Nat.succ_le_succ h.le_length
  mem_keys key hkey := by
    rw [Assoc.keys, List.map_append, List.mem_append] at hkey
    rcases hkey with hkey | hkey
    · exact List.mem_cons.mpr (.inl (eq_of_mem_keys_given hkey))
    · exact List.mem_cons_of_mem _ (h.mem_keys key hkey)
  joined_eq := by
    have hfirst : slot.key ∉ (slots.take k).map Slot.key :=
      fun hmem => hslot (((List.take_sublist k slots).map Slot.key).subset hmem)
    have hne : slots.take k ≠ [] := by
      have hpos := h.pos
      have hle := h.le_length
      rw [← List.length_pos_iff, List.length_take]
      omega
    rw [List.take_succ_cons, joined_given _ hfirst hmore, if_neg hne, h.joined_eq]

/-- Where some slot takes all that remains, the first slots give back the line, as many as it has pieces for. -/
theorem exists_givesBack {slots : List Slot} (hkeys : (slots.map Slot.key).Nodup)
    (hflexible : ∃ slot ∈ slots, slot.kind = .flexible) (rest : Text) :
    ∃ k, GivesBack slots k (slotTexts slots (List.splitOn ' ' rest)) rest := by
  induction slots generalizing rest with
  | nil =>
    obtain ⟨slot, hslot, -⟩ := hflexible
    cases hslot
  | cons slot slots ih =>
    obtain ⟨hslot, hslots⟩ := List.nodup_cons.mp hkeys
    by_cases hkind : slot.kind = .flexible
    · rw [slotTexts_cons_of_flexible slots rest hkind]
      exact ⟨1, givesBack_all slot slots rest⟩
    cases hcut : cutAtSpace? rest with
    | none =>
      rw [splitOn_of_cutAtSpace?_eq_none hcut, slotTexts_cons slots rest [] hkind, slotTexts_nil, List.append_nil]
      exact ⟨1, givesBack_all slot slots rest⟩
    | some cut =>
      obtain ⟨token, rest'⟩ := cut
      have hlater : ∃ slot ∈ slots, slot.kind = .flexible := by
        obtain ⟨flexible, hmem, hflexible⟩ := hflexible
        exact ⟨flexible, (List.mem_cons.mp hmem).resolve_left fun e => hkind (e ▸ hflexible), hflexible⟩
      obtain ⟨k, hk⟩ := ih hslots hlater rest'
      have hmore : slot.key ∉ Assoc.keys (slotTexts slots (List.splitOn ' ' rest')) :=
        fun hmem => hslot ((keys_slotTexts_sublist slots _).subset hmem)
      rw [splitOn_of_cutAtSpace?_eq_some hcut, slotTexts_cons slots token _ hkind, (cutAtSpace?_eq_some hcut).1]
      exact ⟨k + 1, hk.cons hslot hmore token⟩

/-! ## The whole line -/

theorem bindSlots_nil_text (slots : List Slot) : bindSlots slots [] [] = [] := by
  cases slots with
  | nil => rfl
  | cons slot slots =>
    rw [bindSlots]
    split <;> rfl

theorem extract_rendered {s : Schema} (hkeys : (s.slots.map Slot.key).Nodup)
    (horder : (s.slots.map Slot.kind).Pairwise MayPrecede) {values : List Text} (h : s.Takes values) :
    s.extract (s.rendered values) = .matched ((s.slots.zip values).map fun placed => (placed.1.key, placed.2)) := by
  rw [Schema.rendered, extract_append]
  cases values with
  | nil =>
    have hrequired : s.hasKind [.required] = false := by
      rw [Bool.eq_false_iff, ne_eq, hasKind_required_iff]
      exact fun hsome => h.given hsome rfl
    rw [hrequired, Bool.and_false, if_neg Bool.false_ne_true, List.zip_nil_right]
    exact congrArg Extraction.matched (bindSlots_nil_text s.slots)
  | cons value values =>
    obtain ⟨c, text, rfl⟩ := List.exists_cons_of_ne_nil (h.fit.ne_nil value List.mem_cons_self)
    have hc : Text.isBlank c = false := h.front (c :: text) rfl c rfl
    have htrim : Text.trimLeft (((c :: text) :: values).flatMap fun value => ' ' :: value) =
        c :: text ++ values.flatMap fun value => ' ' :: value := by
      rw [List.flatMap_cons, List.cons_append, Text.trimLeft, List.dropWhile_cons_of_pos (by decide)]
      exact Text.trimLeft_of_head? rfl hc
    rw [htrim, bindSlots_eq_slotTexts hkeys, slotTexts_of_fit horder h.fit]
    rfl

/-- Values that a command takes are read off the line that is written for them, one for each of the first slots and in their order.
Conversely, where the last slot is flexible, every line that is read can be written again from what it binds: all bindings are those
of some first slots, and the texts of these, joined with spaces, are what stands behind the name. -/
theorem extraction_undoes_rendering {leader usage : Text} {elevated : Bool} {s : Schema}
    (h : Schema.ofUsage leader usage elevated = .ok s) :
    (∀ values, s.Takes values →
      s.extract (s.rendered values) = .matched ((s.slots.zip values).map fun placed => (placed.1.key, placed.2))) ∧
    ((∃ slot ∈ s.slots.getLast?, slot.kind = .flexible) → ∀ line bindings, s.extract line = .matched bindings →
      ∃ rest, Text.dropLeading s.leader line = s.name ++ rest ∧ ∃ k ≤ s.slots.length,
        (∀ key ∈ bindings.keys, key ∈ (s.slots.take k).map Slot.key) ∧
        Text.join [' '] ((s.slots.take k).map fun slot => (bindings.find? slot.key).getD []) = Text.trimLeft rest) := by
  obtain ⟨c, -, hdeclares, -⟩ := exists_leader_of_ofUsage h
  have horder := inOrder_iff_pairwise.mp hdeclares.inOrder
  refine ⟨fun values hvalues => extract_rendered hdeclares.keys_nodup horder hvalues, ?_⟩
  rintro ⟨slot, hslot, hflexible⟩ line bindings hextract
  obtain ⟨rest, hline, rfl, -⟩ := exists_rest_of_extract hextract
  rw [bindSlots_eq_slotTexts hdeclares.keys_nodup]
  obtain ⟨k, hk⟩ := exists_givesBack hdeclares.keys_nodup ⟨slot, List.mem_of_getLast? hslot, hflexible⟩ (Text.trimLeft rest)
  exact ⟨rest, hline, k, hk.le_length, hk.mem_keys, hk.joined_eq⟩

/-- A tab is a value like others unless it comes first, and the flexible slot takes all spaces behind its own. On the line that is
read, the second slot is passed over by a doubled space. -/
theorem extraction_undoes_rendering_of_doubled_spaces :
    let s : Schema := ⟨"hello", "hello <name> <other?> <rest...>",
      [⟨"name", .required⟩, ⟨"other", .optional⟩, ⟨"rest", .flexible⟩], false, ['!']⟩
    let values : List Text := ["ana", "\t", " x  y "]
    let line : Text := "!hello \t ana  x "
    let bindings : Bindings := [("name", "ana"), ("rest", "x ")]
    Schema.ofUsage ['!'] s.usage false = .ok s ∧ s.Takes values ∧ (∃ slot ∈ s.slots.getLast?, slot.kind = .flexible) ∧
      s.extract line = .matched bindings ∧
      s.extract (s.rendered values) = .matched [("name", "ana"), ("other", "\t"), ("rest", " x  y ")] ∧
      ∃ rest, Text.dropLeading s.leader line = s.name ++ rest ∧ ∃ k ≤ s.slots.length,
        (∀ key ∈ bindings.keys, key ∈ (s.slots.take k).map Slot.key) ∧
        Text.join [' '] ((s.slots.take k).map fun slot => (bindings.find? slot.key).getD []) = Text.trimLeft rest := by
  intro s values line bindings
  have hdeclared : Schema.ofUsage ['!'] s.usage false = .ok s := by decide
  have hfront : ∀ value ∈ values.head?, ∀ c ∈ value.head?, Text.isBlank c = false := by
    rintro value ⟨⟩ c ⟨⟩
    decide
  have htakes : s.Takes values := ⟨⟨by decide, by decide, by decide⟩, hfront, fun _ => List.cons_ne_nil _ _⟩
  have hflexible : ∃ slot ∈ s.slots.getLast?, slot.kind = .flexible := ⟨⟨"rest", .flexible⟩, rfl, rfl⟩
  have hread : s.extract line = .matched bindings := by decide
  obtain ⟨hrendered, hback⟩ := extraction_undoes_rendering hdeclared
  exact ⟨hdeclared, htakes, hflexible, hread, hrendered values htakes, hback hflexible line bindings hread⟩

end ChatBot.Command
