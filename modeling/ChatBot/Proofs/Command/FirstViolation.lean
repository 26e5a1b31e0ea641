import ChatBot.Proofs.Command.UsageGrammar

/-!
The report on a usage line that declares no command. It is about the first word in brackets that may not be added to the slots
before it, and it depends on this word and on these slots alone. So a line that is refused for one of its slots is refused for
the same reason whatever is written behind it.
-/
set_option autoImplicit false

namespace ChatBot.Command

/-! ## One slot -/

/-- The slot that is written in a word in brackets, whatever its key. -/
def Writes (word : Text) (slot : Slot) : Prop := ∃ text, unwrapSlot? word = some text ∧ Slot.ofDeclaration text = slot

/-- Why a slot of a kind may not stand behind the given ones. -/
inductive Misplaces (slots : List Slot) : SlotKind → UsageError → Prop
  | requiredTooLate : (∃ s ∈ slots, s.kind = .optional ∨ s.kind = .flexible) → Misplaces slots .required .requiredTooLate
  | optionalTooLate : (∃ s ∈ slots, s.kind = .flexible) → Misplaces slots .optional .optionalTooLate
  | secondFlexible : (∃ s ∈ slots, s.kind = .flexible) → Misplaces slots .flexible .secondFlexible

/-- Why a slot may not be added to the given ones: first for its key, then for the keys it meets, and last for its kind. -/
inductive Refuses (slots : List Slot) (slot : Slot) : UsageError → Prop
  | badKey : ¬ IsKey slot.key → Refuses slots slot .badKey
  | duplicateKey : IsKey slot.key → slot.key ∈ slots.map Slot.key → Refuses slots slot (.duplicateKey slot.key)
  | misplaced {e : UsageError} : IsKey slot.key → slot.key ∉ slots.map Slot.key → Misplaces slots slot.kind e →
      Refuses slots slot e

theorem declares_iff_writes {word : Text} {slot : Slot} : Declares word slot ↔ IsKey slot.key ∧ Writes word slot :=
  declares_iff

theorem Writes.isBracketed {word : Text} {slot : Slot} (h : Writes word slot) : IsBracketed word := by
  obtain ⟨text, htext, -⟩ := h
  by_contra hnot
  rw [unwrapSlot?_eq_none_iff.mpr hnot] at htext
  cases htext

theorem Writes.unique {word : Text} {slot slot' : Slot} (h : Writes word slot) (h' : Writes word slot') : slot = slot' := by
  obtain ⟨text, htext, rfl⟩ := h
  obtain ⟨text', htext', rfl⟩ := h'
  rw [Option.some.inj (htext.symm.trans htext')]

theorem eq_of_ite_eq_error {p : Prop} [Decidable p] {e e' : UsageError}
    (h : (if p then Except.error e else .ok ()) = .error e') : p ∧ e = e' := by
  split at h
  next hp => exact ⟨hp, Except.error.inj h⟩
  next => cases h

theorem checkOrder_eq_error_iff {slots : List Slot} {kind : SlotKind} {e : UsageError} :
    checkOrder slots kind = .error e ↔ Misplaces slots kind e := by
  constructor
  · intro h
    cases kind with
    | required =>
      obtain ⟨hlate, rfl⟩ := eq_of_ite_eq_error h
      exact .requiredTooLate (by simpa using hlate)
    | optional =>
      obtain ⟨hlate, rfl⟩ := eq_of_ite_eq_error h
      exact .optionalTooLate (by simpa using hlate)
    | flexible =>
      obtain ⟨hlate, rfl⟩ := eq_of_ite_eq_error h
      exact .secondFlexible (by simpa using hlate)
  · rintro (hlate | hlate | hlate) <;> exact if_pos (by simpa using hlate)

theorem addSlot_eq_error_iff {slots : List Slot} {slot : Slot} {e : UsageError} :
    addSlot slots slot = .error e ↔ Refuses slots slot e := by
  have hbad_iff : (!Text.isAlphanumericText slot.key) = true ↔ ¬ IsKey slot.key := by
    rw [← isAlphanumericText_iff, Bool.not_eq_true, Bool.not_eq_true']
  have hseen_iff : slots.any (·.key = slot.key) = true ↔ slot.key ∈ slots.map Slot.key := by simp
  constructor
  · intro h
    rw [addSlot] at h
    split at h
    next hbad => exact Except.error.inj h ▸ .badKey (hbad_iff.mp hbad)
    next hgood =>
      have hkey : IsKey slot.key := not_not.mp (mt hbad_iff.mpr hgood)
      split at h
      next hseen => exact Except.error.inj h ▸ .duplicateKey hkey (hseen_iff.mp hseen)
      next hfresh =>
        split at h
        next e' hcheck =>
          exact Except.error.inj h ▸ .misplaced hkey (mt hseen_iff.mpr hfresh) (checkOrder_eq_error_iff.mp hcheck)
        next => cases h
  · rintro (hbad | ⟨hkey, hseen⟩ | ⟨hkey, hfresh, hmisplaced⟩)
    · rw [addSlot, if_pos (hbad_iff.mpr hbad)]
    · rw [addSlot, if_neg (mt hbad_iff.mp (not_not.mpr hkey)), if_pos (hseen_iff.mpr hseen)]
    · rw [addSlot, if_neg (mt hbad_iff.mp (not_not.mpr hkey)), if_neg (mt hseen_iff.mp hfresh),
        checkOrder_eq_error_iff.mpr hmisplaced]

/-- A slot is refused for one reason. -/
theorem Refuses.unique {slots : List Slot} {slot : Slot} {e e' : UsageError} (h : Refuses slots slot e)
    (h' : Refuses slots slot e') : e' = e :=
  Except.error.inj ((addSlot_eq_error_iff.mpr h').symm.trans (addSlot_eq_error_iff.mpr h))

theorem Refuses.not_compatible {slots : List Slot} {slot : Slot} {e : UsageError} (hslots : Compatible slots)
    (h : Refuses slots slot e) (hkey : IsKey slot.key) : ¬ Compatible (slots ++ [slot]) := by
  intro hcompatible
  have hadded := (addSlot_eq_ok_iff hslots).mpr ⟨hkey, hcompatible, rfl⟩
  rw [addSlot_eq_error_iff.mpr h] at hadded
  cases hadded

/-! ## The slots of a line -/

theorem addSlots_append (slots : List Slot) (before after : List Text) :
    addSlots slots (before ++ after) = (addSlots slots before).bind fun declared => addSlots declared after := by
  induction before generalizing slots with
  | nil => rfl
  | cons word before ih =>
    cases hword : unwrapSlot? word with
    | none =>
      simp only [List.cons_append, addSlots, hword]
      exact ih slots
    | some text =>
      cases hadd : addSlot slots (Slot.ofDeclaration text) with
      | error e =>
        simp only [List.cons_append, addSlots, hword, hadd]
        rfl
      | ok slots' =>
        simp only [List.cons_append, addSlots, hword, hadd]
        exact ih slots'

/-- Adding slots fails at the first word that is refused: the words before it are all read. -/
theorem addSlots_eq_error_iff {slots : List Slot} {words : List Text} {e : UsageError} :
    addSlots slots words = .error e ↔ ∃ before word after declared slot, words = before ++ word :: after ∧
      addSlots slots before = .ok declared ∧ Writes word slot ∧ Refuses declared slot e := by
  constructor
  · intro h
    induction words generalizing slots with
    | nil => cases h
    | cons word words ih =>
      -- A word that is read goes to the front of those before the one that is refused.
      have later (slots' : List Slot) (hread : ∀ words', addSlots slots (word :: words') = addSlots slots' words') :
          ∃ before word' after declared slot, word :: words = before ++ word' :: after ∧
            addSlots slots before = .ok declared ∧ Writes word' slot ∧ Refuses declared slot e := by
        rw [hread] at h
        obtain ⟨before, word', after, declared, slot, rfl, hbefore, hrefused⟩ := ih h
        exact ⟨word :: before, word', after, declared, slot, rfl, (hread before).trans hbefore, hrefused⟩
      cases hword : unwrapSlot? word with
      | none => exact later slots fun words' => by simp only [addSlots, hword]
      | some text =>
        cases hadd : addSlot slots (Slot.ofDeclaration text) with
        | error e' =>
          simp only [addSlots, hword, hadd] at h
          exact ⟨[], word, words, slots, _, rfl, rfl, ⟨text, hword, rfl⟩, addSlot_eq_error_iff.mp (hadd.trans h)⟩
        | ok slots' => exact later slots' fun words' => by simp only [addSlots, hword, hadd]
  · rintro ⟨before, word, after, declared, slot, rfl, hbefore, ⟨text, hword, rfl⟩, hrefused⟩
    rw [addSlots_append, hbefore, Except.bind, addSlots, hword]
    simp only [addSlot_eq_error_iff.mpr hrefused]

/-! ## The whole line -/

/-- Reading stops at a word: those before it declare slots that may stand together, and the slot that is written in it may not be
added to them. -/
structure StopsAt (before : List Text) (word : Text) (slots : List Slot) (slot : Slot) (e : UsageError) : Prop where
  declared : List.Forall₂ Declares (before.filter fun word => IsBracketed word) slots
  compatible : Compatible slots
  written : Writes word slot
  refused : Refuses slots slot e

/-- The word where reading stops breaks the rules. -/
theorem StopsAt.not_declares {before : List Text} {word : Text} {slots : List Slot} {slot : Slot} {e : UsageError}
    (h : StopsAt before word slots slot e) : ¬ ∃ s, Declares word s ∧ Compatible (slots ++ [s]) := by
  rintro ⟨s, hs, hcompatible⟩
  obtain ⟨hkey, hwritten⟩ := declares_iff_writes.mp hs
  obtain rfl := hwritten.unique h.written
  exact h.refused.not_compatible h.compatible hkey hcompatible

theorem ofUsage_eq_error_iff {leader : Char} {usage : Text} {elevated : Bool} {e : UsageError} (he : e ≠ .missingName) :
    Schema.ofUsage [leader] usage elevated = .error e ↔ ∃ name before word after slots slot, name ≠ [] ∧
      usagePieces leader usage = name :: (before ++ word :: after) ∧ StopsAt before word slots slot e := by
  have hread {before : List Text} {slots : List Slot} : addSlots [] before = .ok slots ↔
      Compatible slots ∧ List.Forall₂ Declares (before.filter fun word => IsBracketed word) slots := by
    simp [addSlots_eq_ok_iff compatible_nil]
  rw [ofUsage_eq]
  constructor
  · intro h
    generalize usagePieces leader usage = pieces at h ⊢
    rcases pieces with _ | ⟨name, words⟩
    · exact absurd (Except.error.inj h).symm he
    · rcases name with _ | ⟨c, name⟩
      · exact absurd (Except.error.inj h).symm he
      · cases hadd : addSlots [] words with
        | ok slots => exact absurd h (by simp [hadd])
        | error e' =>
          obtain rfl : e' = e := by simpa [hadd] using h
          obtain ⟨before, word, after, slots, slot, rfl, hbefore, hwritten, hrefused⟩ := addSlots_eq_error_iff.mp hadd
          obtain ⟨hcompatible, hdeclared⟩ := hread.mp hbefore
          exact ⟨c :: name, before, word, after, slots, slot, List.cons_ne_nil _ _, rfl,
            hdeclared, hcompatible, hwritten, hrefused⟩
  · rintro ⟨name, before, word, after, slots, slot, hname, hpieces, hstops⟩
    obtain ⟨c, name, rfl⟩ := List.exists_cons_of_ne_nil hname
    have hadd : addSlots [] (before ++ word :: after) = .error e :=
      addSlots_eq_error_iff.mpr ⟨before, word, after, slots, slot, rfl, hread.mpr ⟨hstops.compatible, hstops.declared⟩,
        hstops.written, hstops.refused⟩
    simp only [hpieces, hadd]

/-- Behind a space a line goes on with further pieces; those it has stay as they are. -/
theorem usagePieces_prefix (leader : Char) (usage x : Text) :
    usagePieces leader usage <+: usagePieces leader (usage ++ ' ' :: x) := by
  cases usage with
  | nil =>
    have hnone : usagePieces leader [] = [] := by simp [usagePieces]
    rw [hnone]
    exact List.nil_prefix
  | cons c usage =>
    have htext : (if [leader] <+: c :: usage ++ ' ' :: x then (c :: usage ++ ' ' :: x).drop 1 else c :: usage ++ ' ' :: x) =
        (if [leader] <+: c :: usage then (c :: usage).drop 1 else c :: usage) ++ ' ' :: x := by
      by_cases hc : leader = c <;> simp [hc]
    simp only [usagePieces, htext, List.splitOn_append_cons_self]
    generalize List.splitOn ' ' (if [leader] <+: c :: usage then (c :: usage).drop 1 else c :: usage) = pieces
    have hkept : (if pieces.getLast? = some [] then pieces.dropLast else pieces) <+: pieces := by
      split
      · exact List.dropLast_prefix pieces
      · exact List.prefix_refl pieces
    refine hkept.trans ?_
    -- An empty piece at the end of the longer line is not one of these.
    split
    · rw [List.dropLast_append_of_ne_nil (List.splitOn_ne_nil ' ' x)]
      exact List.prefix_append _ _
    · exact List.prefix_append _ _

/-- A line that is refused, but not for want of a name, is refused for the first word in brackets that breaks the rules: those
before it declare slots that may stand together, the reason is the only one this word and these slots leave, and it stays the
reason whatever is added to the line. -/
theorem first_violation_is_reported {leader : Char} {usage : Text} {elevated : Bool} {e : UsageError}
    (h : Schema.ofUsage [leader] usage elevated = .error e) (he : e ≠ .missingName) :
    (∃ name before word after slots slot, name ≠ [] ∧ usagePieces leader usage = name :: (before ++ word :: after) ∧
      StopsAt before word slots slot e ∧ IsBracketed word ∧ (¬ ∃ s, Declares word s ∧ Compatible (slots ++ [s])) ∧
      ∀ e', Refuses slots slot e' → e' = e) ∧
    ∀ x, Schema.ofUsage [leader] (usage ++ ' ' :: x) elevated = .error e := by
  obtain ⟨name, before, word, after, slots, slot, hname, hpieces, hstops⟩ := (ofUsage_eq_error_iff he).mp h
  refine ⟨⟨name, before, word, after, slots, slot, hname, hpieces, hstops, hstops.written.isBracketed, hstops.not_declares,
    fun e' he' => hstops.refused.unique he'⟩, fun x => ?_⟩
  obtain ⟨more, hmore⟩ := usagePieces_prefix leader usage x
  refine (ofUsage_eq_error_iff he).mpr ⟨name, before, word, after ++ more, slots, slot, hname, ?_, hstops⟩
  rw [← hmore, hpieces, List.cons_append, List.append_assoc, List.cons_append]

/-- A slot that comes too late with a key that is taken is refused for its key, and the bad key behind it is not looked at. -/
theorem first_violation_is_reported_of_duplicate :
    let usage : Text := "!copy <from> then <to?> <from> <a-b> "
    let e : UsageError := .duplicateKey "from"
    Schema.ofUsage ['!'] usage false = .error e ∧ e ≠ .missingName ∧
      (∃ name before word after slots slot, name ≠ [] ∧ usagePieces '!' usage = name :: (before ++ word :: after) ∧
        StopsAt before word slots slot e ∧ IsBracketed word ∧ (¬ ∃ s, Declares word s ∧ Compatible (slots ++ [s])) ∧
        ∀ e', Refuses slots slot e' → e' = e) ∧
      Schema.ofUsage ['!'] (usage ++ ' ' :: "<>") false = .error e := by
  intro usage e
  have h : Schema.ofUsage ['!'] usage false = .error e := by decide
  have he : e ≠ .missingName := by decide
  obtain ⟨hfirst, hlonger⟩ := first_violation_is_reported h he
  exact ⟨h, he, hfirst, hlonger _⟩

end ChatBot.Command
