import ChatBot.Proofs.Command.Rendering

/-!
A usage line read by the command it declares. Declaring and reading both take one leader off and cut at single spaces, so the command
finds its name there and is never short of arguments. Where every word behind the name declares a slot, each slot is bound to the word
that declares it.
-/
set_option autoImplicit false

namespace ChatBot.Command

/-! ## The pieces of a usage line -/

/-- Nothing but an empty piece at the end keeps the words of a usage line from being its pieces. -/
theorem exists_splitOn_of_usagePieces {leader : Char} {usage name : Text} {words : List Text}
    (h : usagePieces leader usage = name :: words) :
    ∃ pieces, List.splitOn ' ' (Text.dropLeading [leader] usage) = name :: pieces ∧
      (pieces = words ∨ pieces = words ++ [[]]) := by
  rw [← usageWords_eq_usagePieces, usageWords, Text.splitOn_eq_list_splitOn] at h
  split at h
  · rename_i hlast
    have hpieces := List.dropLast_append_getLast? [] hlast
    rw [h, List.cons_append] at hpieces
    exact ⟨words ++ [[]], hpieces.symm, .inr rfl⟩
  · exact ⟨words, h, .inl rfl⟩

theorem DeclaresCommand.exists_splitOn {leader : Char} {usage name : Text} {slots : List Slot}
    (h : DeclaresCommand leader usage name slots) :
    ∃ pieces, List.splitOn ' ' (Text.dropLeading [leader] usage) = name :: pieces ∧
      List.Forall₂ Declares (pieces.filter fun piece => IsBracketed piece) slots := by
  obtain ⟨words, hwords, hdeclared⟩ := h.words
  obtain ⟨pieces, hpieces, rfl | rfl⟩ := exists_splitOn_of_usagePieces hwords
  · exact ⟨pieces, hpieces, hdeclared⟩
  · refine ⟨words ++ [[]], hpieces, ?_⟩
    have hempty : ([[]] : List Text).filter (fun piece => IsBracketed piece) = [] := by decide
    rwa [List.filter_append, hempty, List.append_nil]

theorem IsBracketed.head? {word : Text} (h : IsBracketed word) : word.head? = some '<' := by
  obtain ⟨rest, rfl⟩ := h.1
  rfl

/-- A line that declares slots has an opening bracket behind the name. -/
theorem bracket_mem_of_declares {pieces : List Text} {slots : List Slot}
    (h : List.Forall₂ Declares (pieces.filter fun piece => IsBracketed piece) slots) (hslots : slots ≠ []) :
    '<' ∈ pieces.flatMap fun piece => ' ' :: piece := by
  obtain ⟨slot, slots, rfl⟩ := List.exists_cons_of_ne_nil hslots
  obtain ⟨word, rest, -, -, hfilter⟩ := List.forall₂_cons_right_iff.mp h
  have hmem : word ∈ pieces.filter fun piece => IsBracketed piece := hfilter ▸ List.mem_cons_self
  obtain ⟨hword, hbracketed⟩ := List.mem_filter.mp hmem
  have hopen : '<' ∈ word := List.mem_of_head? (of_decide_eq_true hbracketed).head?
  exact List.mem_flatMap.mpr ⟨word, hword, List.mem_cons_of_mem ' ' hopen⟩

/-! ## Reading the line -/

/-- A line with a slot in it has something that is not blank behind the name, so no required slot goes without. -/
theorem exists_bindings_of_usage {leader : Char} {usage : Text} {s : Schema} (hleader : s.leader = [leader])
    (h : DeclaresCommand leader usage s.name s.slots) : ∃ bindings, s.extract usage = .matched bindings := by
  obtain ⟨pieces, hpieces, hdeclared⟩ := h.exists_splitOn
  have hline := Text.eq_append_of_splitOn hpieces
  rw [← hleader] at hline
  have hgiven : ((Text.trimLeft (pieces.flatMap fun piece => ' ' :: piece)).isEmpty && s.hasKind [.required]) = false := by
    by_cases hslots : s.slots = []
    · rw [Schema.hasKind, hslots, List.any_nil, Bool.and_false]
    · have hmem := Text.mem_dropWhile_of_mem (p := Text.isBlank) (bracket_mem_of_declares hdeclared hslots) (by decide)
      rw [Text.trimLeft, List.isEmpty_eq_false_iff.mpr (List.ne_nil_of_mem hmem), Bool.false_and]
  rw [extract_of_dropLeading hline, hgiven, if_neg Bool.false_ne_true]
  exact ⟨_, rfl⟩

/-- Words that declare the slots one by one are values for them. -/
theorem takes_of_declares {s : Schema} {words : List Text} (hbracketed : ∀ word ∈ words, IsBracketed word)
    (hspace : ∀ word ∈ words, ' ' ∉ word) (h : List.Forall₂ Declares words s.slots) : s.Takes words where
  fit := {
    length_le := Nat.le_of_eq h.length_eq
    ne_nil := by
      rintro word hword rfl
      cases (hbracketed [] hword).head?
    space_not_mem := fun placed hplaced _ => hspace placed.2 (List.of_mem_zip hplaced).2 }
  front := by
    intro word hword c hc
    have hhead := (hbracketed word (List.mem_of_head? hword)).head?
    obtain rfl : '<' = c := Option.some.inj (hhead.symm.trans hc)
    decide
  given := by
    rintro ⟨slot, hslot, -⟩ rfl
    rw [List.forall₂_nil_left_iff.mp h] at hslot
    cases hslot

/-- A command reads its own usage line, whether the leader is written there or not. If the line is the name and words in brackets, a
single space before each, then each of these words declares a slot, in order, and that slot is bound to it as it stands. -/
theorem usage_line_reads_itself {leader usage : Text} {elevated : Bool} {s : Schema}
    (h : Schema.ofUsage leader usage elevated = .ok s) :
    ∃ bindings, s.extract usage = .matched bindings ∧
      ∀ words, List.splitOn ' ' (Text.dropLeading leader usage) = s.name :: words → (∀ word ∈ words, IsBracketed word) →
        List.Forall₂ Declares words s.slots ∧ bindings.keys = s.keys ∧ bindings.map Prod.snd = words := by
  obtain ⟨c, rfl, hdeclares, -, hleader, -⟩ := exists_leader_of_ofUsage h
  obtain ⟨bindings, hread⟩ := exists_bindings_of_usage hleader hdeclares
  refine ⟨bindings, hread, fun words hwords hbracketed => ?_⟩
  obtain ⟨pieces, hpieces, hdeclared⟩ := hdeclares.exists_splitOn
  obtain rfl : words = pieces := (List.cons.inj (hwords.symm.trans hpieces)).2
  rw [List.filter_eq_self.mpr fun word hword => decide_eq_true (hbracketed word hword)] at hdeclared
  have hspace : ∀ word ∈ words, ' ' ∉ word := fun word hword hmem =>
    (Text.mem_and_ne_of_mem_splitOn (hwords ▸ List.mem_cons_of_mem s.name hword) hmem).2 rfl
  -- The line is the one that would be written for its own words, but perhaps for the leader.
  have hline := Text.eq_append_of_splitOn hwords
  rw [← hleader] at hline
  have hrendered := extract_rendered hdeclares.keys_nodup (inOrder_iff_pairwise.mp hdeclares.inOrder)
    (takes_of_declares hbracketed hspace hdeclared)
  rw [Schema.rendered, extract_append, ← extract_of_dropLeading hline, hread, Extraction.matched.injEq] at hrendered
  have hzip : ((s.slots.zip words).map fun placed => (placed.1.key, placed.2)) = s.keys.zip words := List.zip_map_left.symm
  have hlength : words.length = s.keys.length := hdeclared.length_eq.trans (List.length_map _).symm
  rw [hrendered, hzip]
  exact ⟨hdeclared, List.map_fst_zip (Nat.le_of_eq hlength.symm), List.map_snd_zip (Nat.le_of_eq hlength)⟩

/-- The name begins with the leader again and ends in a tab, and the words have more brackets and marks than they need. -/
theorem usage_line_reads_itself_of_odd_name :
    let s : Schema := ⟨"!say\t", "!!say\t <<name> <other??> <rest......>>",
      [⟨"name", .required⟩, ⟨"other", .optional⟩, ⟨"rest", .flexible⟩], false, ['!']⟩
    let words : List Text := ["<<name>", "<other??>", "<rest......>>"]
    Schema.ofUsage ['!'] s.usage false = .ok s ∧ List.splitOn ' ' (Text.dropLeading ['!'] s.usage) = s.name :: words ∧
      (∀ word ∈ words, IsBracketed word) ∧
      ∃ bindings, s.extract s.usage = .matched bindings ∧
        List.Forall₂ Declares words s.slots ∧ bindings.keys = s.keys ∧ bindings.map Prod.snd = words := by
  intro s words
  have hdeclared : Schema.ofUsage ['!'] s.usage false = .ok s := by decide
  have hwords : List.splitOn ' ' (Text.dropLeading ['!'] s.usage) = s.name :: words := by decide
  have hbracketed : ∀ word ∈ words, IsBracketed word := by decide
  obtain ⟨bindings, hread, hown⟩ := usage_line_reads_itself hdeclared
  exact ⟨hdeclared, hwords, hbracketed, bindings, hread, hown words hwords hbracketed⟩

end ChatBot.Command
