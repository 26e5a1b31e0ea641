import ChatBot.Command.Extraction
import ChatBot.Proofs.Assoc
import ChatBot.Proofs.Text.Pieces

/-!
Reading arguments by splitting. The walk over a line agrees with a reading that looks at the whole line at once: what
follows the name is split at single spaces, each slot before the first flexible one takes the piece at its place, and that
one takes all pieces from its place on.
-/
set_option autoImplicit false

namespace ChatBot.Command

/-! ## The reading by pieces -/

/-- The place of the first flexible slot; the number of slots when none is flexible. -/
def flexiblePlace (slots : List Slot) : Nat := slots.findIdx fun slot => slot.kind = .flexible

/-- The text for the slot at a place, unless there is none for it or it is empty. -/
def slotText? (flexible : Nat) (pieces : List Text) (place : Nat) : Option Text :=
  (if place < flexible then pieces[place]?
    else if place = flexible ∧ flexible < pieces.length then some ([' '].intercalate (pieces.drop flexible))
    else none).filter fun text => text ≠ []

/-- The keys of the slots that have a text, with these texts, in the order of the slots. -/
def slotTexts (slots : List Slot) (pieces : List Text) : List (Text × Text) :=
  slots.zipIdx.filterMap fun placed => (slotText? (flexiblePlace slots) pieces placed.2).map (placed.1.key, ·)

/-- What a line means, read by its pieces. -/
def Schema.readPieces (s : Schema) (leader line : Text) : Extraction :=
  let text := if leader <+: line then line.drop leader.length else line
  if s.name <+: text then
    let rest := (text.drop s.name.length).dropWhile Text.isBlank
    if rest = [] ∧ ∃ slot ∈ s.slots, slot.kind = .required then .missingRequired
    else .matched (Assoc.settled (slotTexts s.slots (List.splitOn ' ' rest)))
  else .noMatch

/-! ## Cutting at a space -/

theorem cutAtSpace?_eq_none_iff {t : Text} : cutAtSpace? t = none ↔ ' ' ∉ t := by
  induction t with
  | nil => simp [cutAtSpace?]
  | cons c t ih =>
    by_cases h : c = ' '
    · simp [cutAtSpace?, h]
    · have h' : ¬ ' ' = c := fun e => h e.symm
      simp [cutAtSpace?, h, h', ih]

theorem cutAtSpace?_eq_some {t token rest : Text} (h : cutAtSpace? t = some (token, rest)) :
    t = token ++ ' ' :: rest ∧ ' ' ∉ token := by
  induction t generalizing token with
  | nil => exact absurd h (by simp [cutAtSpace?])
  | cons c t ih =>
    by_cases hc : c = ' '
    · subst hc
      simp only [cutAtSpace?, if_true, Option.some.injEq, Prod.mk.injEq] at h
      obtain ⟨rfl, rfl⟩ := h
      exact ⟨rfl, List.not_mem_nil⟩
    · simp only [cutAtSpace?, if_neg hc, Option.map_eq_some_iff, Prod.exists, Prod.mk.injEq] at h
      obtain ⟨token', rest', hcut, rfl, rfl⟩ := h
      obtain ⟨rfl, hfree⟩ := ih hcut
      have hc' : ¬ ' ' = c := fun e => hc e.symm
      exact ⟨rfl, by simp [hc', hfree]⟩

theorem cutAtSpace?_append {token : Text} (h : ' ' ∉ token) (rest : Text) :
    cutAtSpace? (token ++ ' ' :: rest) = some (token, rest) := by
  induction token with
  | nil => rfl
  | cons c token ih =>
    have hc : c ≠ ' ' := fun e => h (e ▸ List.mem_cons_self)
    have htoken : ' ' ∉ token := fun hmem => h (List.mem_cons_of_mem c hmem)
    rw [List.cons_append, cutAtSpace?, if_neg hc, ih htoken]
    rfl

theorem splitOn_of_cutAtSpace?_eq_none {t : Text} (h : cutAtSpace? t = none) : List.splitOn ' ' t = [t] :=
  List.splitOn_eq_singleton (cutAtSpace?_eq_none_iff.mp h)

theorem splitOn_of_cutAtSpace?_eq_some {t token rest : Text} (h : cutAtSpace? t = some (token, rest)) :
    List.splitOn ' ' t = token :: List.splitOn ' ' rest := by
  obtain ⟨rfl, hfree⟩ := cutAtSpace?_eq_some h
  exact List.splitOn_append_cons_self_of_not_mem hfree rest

/-! ## One slot after the other -/

theorem slotText?_succ (flexible : Nat) (piece : Text) (pieces : List Text) (place : Nat) :
    slotText? (flexible + 1) (piece :: pieces) (place + 1) = slotText? flexible pieces place := by
  simp [slotText?]

theorem slotText?_nil (flexible place : Nat) : slotText? flexible [] place = none := by
  simp [slotText?]

theorem flexiblePlace_cons_of_flexible {slot : Slot} (slots : List Slot) (h : slot.kind = .flexible) :
    flexiblePlace (slot :: slots) = 0 := by
  simp [flexiblePlace, List.findIdx_cons, h]

theorem flexiblePlace_cons_of_ne {slot : Slot} (slots : List Slot) (h : slot.kind ≠ .flexible) :
    flexiblePlace (slot :: slots) = flexiblePlace slots + 1 := by
  simp [flexiblePlace, List.findIdx_cons, h]

theorem slotTexts_cons_eq (slot : Slot) (slots : List Slot) (pieces : List Text) :
    slotTexts (slot :: slots) pieces =
      ((slotText? (flexiblePlace (slot :: slots)) pieces 0).map (slot.key, ·)).toList ++
        slots.zipIdx.filterMap fun placed =>
          (slotText? (flexiblePlace (slot :: slots)) pieces (placed.2 + 1)).map (placed.1.key, ·) := by
  rw [slotTexts, List.zipIdx_cons, List.zipIdx_succ, List.filterMap_cons, List.filterMap_map]
  cases slotText? (flexiblePlace (slot :: slots)) pieces 0 with
  | none => rfl
  | some text => rfl

/-- No slot behind the flexible one has a text. -/
theorem slotTexts_cons_of_flexible {slot : Slot} (slots : List Slot) (rest : Text) (h : slot.kind = .flexible) :
    slotTexts (slot :: slots) (List.splitOn ' ' rest) = if rest = [] then [] else [(slot.key, rest)] := by
  have hpieces : 0 < (List.splitOn ' ' rest).length := List.length_pos_of_ne_nil (List.splitOn_ne_nil ' ' rest)
  have hlater : ∀ place, slotText? 0 (List.splitOn ' ' rest) (place + 1) = none := by
    intro place
    simp [slotText?]
  have hself : slotText? 0 (List.splitOn ' ' rest) 0 = if rest = [] then none else some rest := by
    by_cases hrest : rest = [] <;> simp [slotText?, hpieces, hrest, Option.filter]
  rw [slotTexts_cons_eq, flexiblePlace_cons_of_flexible slots h, hself]
  simp only [hlater]
  by_cases hrest : rest = [] <;> simp [hrest]

theorem slotTexts_cons {slot : Slot} (slots : List Slot) (piece : Text) (pieces : List Text)
    (h : slot.kind ≠ .flexible) :
    slotTexts (slot :: slots) (piece :: pieces) =
      (if piece = [] then [] else [(slot.key, piece)]) ++ slotTexts slots pieces := by
  have hself : slotText? (flexiblePlace slots + 1) (piece :: pieces) 0 = if piece = [] then none else some piece := by
    by_cases hpiece : piece = [] <;> simp [slotText?, hpiece, Option.filter]
  rw [slotTexts_cons_eq, flexiblePlace_cons_of_ne slots h, hself]
  simp only [slotText?_succ]
  by_cases hpiece : piece = [] <;> simp [hpiece, slotTexts]

theorem slotTexts_nil (slots : List Slot) : slotTexts slots [] = [] := by
  simp [slotTexts, slotText?_nil]

theorem bindSlot_eq_foldl (bindings : Bindings) (key text : Text) :
    bindSlot bindings key text =
      (if text = [] then [] else [(key, text)]).foldl (fun m b => Assoc.insert m b.1 b.2) bindings := by
  cases text with
  | nil => rfl
  | cons c text => rfl

/-- The walk binds the texts of the slots one after the other: what it has still to read is always the pieces that no slot
has taken. -/
theorem bindSlots_eq_foldl (slots : List Slot) (rest : Text) (bindings : Bindings) :
    bindSlots slots rest bindings =
      (slotTexts slots (List.splitOn ' ' rest)).foldl (fun m b => Assoc.insert m b.1 b.2) bindings := by
  induction slots generalizing rest bindings with
  | nil => rfl
  | cons slot slots ih =>
    by_cases hkind : slot.kind = .flexible
    · rw [bindSlots, if_pos hkind, slotTexts_cons_of_flexible slots rest hkind, bindSlot_eq_foldl]
    · rw [bindSlots, if_neg hkind]
      cases hcut : cutAtSpace? rest with
      | none =>
        rw [splitOn_of_cutAtSpace?_eq_none hcut, slotTexts_cons slots rest [] hkind, slotTexts_nil, List.append_nil]
        exact bindSlot_eq_foldl bindings slot.key rest
      | some cut =>
        obtain ⟨token, rest'⟩ := cut
        rw [splitOn_of_cutAtSpace?_eq_some hcut, slotTexts_cons slots token _ hkind, List.foldl_append,
          ← bindSlot_eq_foldl]
        exact ih rest' (bindSlot bindings slot.key token)

theorem hasKind_required_iff {s : Schema} : s.hasKind [.required] = true ↔ ∃ slot ∈ s.slots, slot.kind = .required := by
  simp [Schema.hasKind]

/-! ## The whole line -/

theorem extractLedBy_eq_readPieces (s : Schema) (leader line : Text) :
    s.extractLedBy leader line = s.readPieces leader line := by
  have htext : Text.dropLeading leader line = if leader <+: line then line.drop leader.length else line := by
    by_cases h : leader <+: line
    · rw [if_pos h, Text.dropLeading_eq_drop h]
    · rw [if_neg h, Text.dropLeading_eq_self h]
  rw [Schema.extractLedBy, Schema.readPieces, htext]
  generalize (if leader <+: line then line.drop leader.length else line) = text
  by_cases hname : s.name <+: text
  · rw [Text.after?_eq_drop hname]
    simp only [if_pos hname, Text.trimLeft, bindSlots_eq_foldl, ← Assoc.ofList_eq_settled, Assoc.ofList,
      Bool.and_eq_true, List.isEmpty_iff, hasKind_required_iff]
  · rw [Text.after?_eq_none_iff.mpr hname]
    simp only [if_neg hname]

/-- Under whatever leader a line is read, the walk and the reading by pieces agree; without one it is the leader of the
command. -/
theorem extraction_by_pieces (s : Schema) (leader? : Option Text) (line : Text) :
    (match leader? with
      | none => s.extract line
      | some leader => s.extractLedBy leader line) = s.readPieces (leader?.getD s.leader) line := by
  cases leader? with
  | none => exact extractLedBy_eq_readPieces s s.leader line
  | some leader => exact extractLedBy_eq_readPieces s leader line

end ChatBot.Command
