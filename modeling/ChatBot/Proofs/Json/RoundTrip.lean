import Mathlib.Data.Nat.Notation
import ChatBot.Json.Printer
import ChatBot.Json.Reader
import ChatBot.Proofs.Assoc

/-!
Documents made of texts and objects. What is printed of one reads back as the same document, whatever characters its texts
hold, and no carriage return is in it.
-/
set_option autoImplicit false

namespace ChatBot.Json

/-! ## Characters -/

/-- The written forms of a character: an escape of one letter, one of two digits, or the character itself. -/
inductive WrittenAs (c : Char) : Text → Prop
  | letter (e : Char) : e ≠ 'u' → e ≠ '\r' → escaped? e = some c → WrittenAs c ['\\', e]
  | code (d e : Char) : d ≠ '\r' → e ≠ '\r' → hexCode? '0' '0' d e = some c.toNat → WrittenAs c ['\\', 'u', '0', '0', d, e]
  | plain : c ≠ '"' → c ≠ '\\' → ¬ c.toNat < 32 → WrittenAs c [c]

/-- The escape of a control character ends in the two digits of its code. -/
theorem hexadecimal_control : ∀ n < 32,
    Text.hexadecimal 4 n = ['0', '0', Nat.digitChar (n / 16), Nat.digitChar (n % 16)] ∧
      hexCode? '0' '0' (Nat.digitChar (n / 16)) (Nat.digitChar (n % 16)) = some n ∧
      Nat.digitChar (n / 16) ≠ '\r' ∧ Nat.digitChar (n % 16) ≠ '\r' := by
  decide

theorem writtenAs_printChar (c : Char) : WrittenAs c (printChar c) := by
  have hcode : ∀ n, c.toNat = n → c = Char.ofNat n := fun n h => h ▸ (Char.ofNat_toNat c).symm
  rw [printChar]
  split
  · rename_i h
    subst h
    exact .letter '"' (by decide) (by decide) rfl
  split
  · rename_i h
    subst h
    exact .letter '\\' (by decide) (by decide) rfl
  split
  · rename_i h
    exact .letter 'n' (by decide) (by decide) (h ▸ rfl)
  split
  · rename_i h
    exact .letter 'r' (by decide) (by decide) (h ▸ rfl)
  split
  · rename_i h
    exact .letter 't' (by decide) (by decide) (h ▸ rfl)
  split
  · rename_i h
    exact .letter 'b' (by decide) (by decide) (hcode 8 h ▸ rfl)
  split
  · rename_i h
    exact .letter 'f' (by decide) (by decide) (hcode 12 h ▸ rfl)
  split
  · rename_i h
    obtain ⟨hdigits, hread, hfirst, hsecond⟩ := hexadecimal_control c.toNat h
    rw [hdigits]
    exact .code _ _ hfirst hsecond hread
  · rename_i hquote hslash _ _ _ _ _ hplain
    exact .plain hquote hslash hplain

/-- A written character stands for itself, unless nothing comes after it. -/
theorem WrittenAs.readUnits {c : Char} {t : Text} (h : WrittenAs c t) (start : ℕ) {rest : Text} (hrest : rest ≠ []) :
    readUnits start (t ++ rest) = consUnit c.toNat (Json.readUnits start rest) := by
  cases h with
  | letter e hu _ he =>
    rw [List.cons_append, List.cons_append, List.nil_append, Json.readUnits]
    · rw [he]
    · exact fun _ _ _ _ h _ => hu h
    · exact fun _ _ _ _ _ h _ => hu h
  | code d e _ _ he =>
    change Json.readUnits start ('\\' :: 'u' :: '0' :: '0' :: d :: e :: rest) = _
    rw [Json.readUnits]
    · rw [he]
    · exact hrest
  | plain hquote hslash hplain =>
    rw [List.cons_append, List.nil_append, Json.readUnits]
    · rw [if_neg hplain]
    · exact hquote
    · exact fun h _ => hslash h
    · exact fun _ _ _ _ h _ => hslash h
    · exact fun _ _ _ _ _ h _ => hslash h
    · exact fun _ _ h _ => hslash h

theorem WrittenAs.not_mem_return {c : Char} {t : Text} (h : WrittenAs c t) : '\r' ∉ t := by
  cases h with
  | letter e _ hreturn _ => simp [hreturn.symm]
  | code d e hd he _ => simp [hd.symm, he.symm]
  | plain _ _ hplain =>
    rw [List.mem_singleton]
    rintro rfl
    exact hplain (by decide)

/-! ## Texts -/

theorem readUnits_printed (start : ℕ) (t rest : Text) :
    readUnits start (t.flatMap printChar ++ '"' :: rest) = .ok (t.map Char.toNat, rest) := by
  induction t with
  | nil => exact readUnits.eq_2 start rest
  | cons c t ih =>
    rw [List.flatMap_cons, List.append_assoc, (writtenAs_printChar c).readUnits start (by simp), ih]
    rfl

/-- No code of a character is half of another one. -/
theorem joinUnit_toNat (c : Char) (units : List ℕ) : joinUnit c.toNat units = c.toNat :: units := by
  cases units with
  | nil => rfl
  | cons next units =>
    have hvalid : c.toNat < 0xD800 ∨ 0xDC00 ≤ c.toNat := by
      rcases c.valid with h | h
      · exact .inl h
      · exact .inr (Nat.le_of_lt (Nat.lt_trans (by decide) h.1))
    rw [joinUnit, if_neg]
    simp only [Bool.and_eq_true, decide_eq_true_eq, not_and]
    omega

theorem ofUnits_map_toNat (runtime : Runtime) (t : Text) : ofUnits runtime (t.map Char.toNat) = t := by
  have hjoin : (t.map Char.toNat).foldr joinUnit [] = t.map Char.toNat := by
    induction t with
    | nil => rfl
    | cons c t ih => rw [List.map_cons, List.foldr_cons, ih, joinUnit_toNat]
  rw [ofUnits, hjoin, List.map_map]
  exact (List.map_congr_left fun c _ => runtime.character_toNat c).trans (List.map_id t)

theorem readText_printed (runtime : Runtime) (t rest : Text) :
    readText runtime (t.flatMap printChar ++ '"' :: rest) = .ok (t, rest) := by
  rw [readText, readUnits_printed]
  exact congrArg (fun read => Except.ok (read, rest)) (ofUnits_map_toNat runtime t)

theorem printText_append (t rest : Text) : printText t ++ rest = '"' :: (t.flatMap printChar ++ '"' :: rest) := by
  simp [printText]

theorem not_mem_return_printText (t : Text) : '\r' ∉ printText t := by
  have hbody : '\r' ∉ t.flatMap printChar := by
    rw [List.mem_flatMap]
    rintro ⟨c, -, hc⟩
    exact (writtenAs_printChar c).not_mem_return hc
  simp [printText, hbody]

/-! ## Blanks -/

theorem skipSpace_of_isSpace_eq_false {c : Char} (t : Text) (h : isSpace c = false) : skipSpace (c :: t) = c :: t :=
  List.dropWhile_cons_of_neg (by simp [h])

theorem skipSpace_newLine {c : Char} (level : ℕ) (t : Text) (h : isSpace c = false) :
    skipSpace (newLine level ++ c :: t) = c :: t := by
  rw [skipSpace, List.dropWhile_append_of_pos]
  · exact skipSpace_of_isSpace_eq_false t h
  · intro a ha
    rcases List.mem_cons.mp ha with rfl | ha
    · rfl
    · rw [List.eq_of_mem_replicate ha]
      rfl

theorem not_mem_return_newLine (level : ℕ) : '\r' ∉ newLine level := by
  rw [newLine, List.mem_cons, List.mem_replicate]
  rintro (h | ⟨-, h⟩) <;> cases h

/-! ## Documents -/

/-- A document of texts and of objects with distinct names, which nest at most so deep. -/
inductive IsTextual : ℕ → Json → Prop
  | string (levels : ℕ) (t : Text) : IsTextual levels (.string t)
  | object {levels : ℕ} {members : List (Text × Json)} : (Assoc.keys members).Nodup →
      (∀ m ∈ members, IsTextual levels m.2) → IsTextual (levels + 1) (.object members)

/-- A printed value reads back as itself wherever it stands, if there may be as many readings as it has characters. -/
def ReadsBack (runtime : Runtime) (levels : ℕ) (v : Json) : Prop :=
  ∀ level depth rest, (printAt level v).length ≤ depth →
    readValue runtime depth levels (skipSpace (printAt level v ++ rest)) = .ok (v, rest)

/-- The object ends after a member, or it goes on with other members. -/
theorem readMembers_member {runtime : Runtime} {levels level depth : ℕ} {v : Json} {name after rest : Text}
    (hv : ReadsBack runtime levels v) (hdepth : (printAt level v).length ≤ depth) :
    (skipSpace after = '\x7d' :: rest →
      readMembers runtime (depth + 1) levels (printText name ++ (": " ++ (printAt level v ++ after))) =
        .ok ([(name, v)], rest)) ∧
    (∀ next ms, skipSpace after = ',' :: next → readMembers runtime depth levels (skipSpace next) = .ok (ms, rest) →
      readMembers runtime (depth + 1) levels (printText name ++ (": " ++ (printAt level v ++ after))) =
        .ok ((name, v) :: ms, rest)) := by
  have hcolon : skipSpace (": " ++ (printAt level v ++ after)) = ':' :: ' ' :: (printAt level v ++ after) :=
    skipSpace_of_isSpace_eq_false _ rfl
  have hblank : skipSpace (' ' :: (printAt level v ++ after)) = skipSpace (printAt level v ++ after) :=
    List.dropWhile_cons_of_pos rfl
  rw [printText_append, readMembers, readText_printed]
  simp only [hcolon, hblank, hv level depth after hdepth]
  refine ⟨fun hend => ?_, fun next ms hnext hms => ?_⟩
  · simp only [hend]
  · simp only [hnext, hms]

/-- The members of an object, up to its last line. -/
def printAll (level : ℕ) (name : Text) (v : Json) (members : List (Text × Json)) : Text :=
  printText name ++ (": " ++ (printAt level v ++ printMembers level members))

theorem printMembers_cons (level : ℕ) (name : Text) (v : Json) (members : List (Text × Json)) :
    printMembers level ((name, v) :: members) = ',' :: (newLine level ++ printAll level name v members) := by
  simp [printMembers, printAll]

theorem skipSpace_printAll (level : ℕ) (name : Text) (v : Json) (members : List (Text × Json)) (rest : Text) :
    skipSpace (newLine level ++ (printAll level name v members ++ rest)) = printAll level name v members ++ rest := by
  rw [printAll, List.append_assoc, printText_append]
  exact skipSpace_newLine level _ rfl

theorem readMembers_printAll {runtime : Runtime} (outer : ℕ) (rest : Text) {levels level depth : ℕ} {name : Text} {v : Json}
    {members : List (Text × Json)} (hv : ReadsBack runtime levels v) (hmembers : ∀ m ∈ members, ReadsBack runtime levels m.2)
    (hdepth : (printAll level name v members).length ≤ depth) :
    readMembers runtime depth levels (printAll level name v members ++ (newLine outer ++ '\x7d' :: rest)) =
      .ok ((name, v) :: members, rest) := by
  have hname : 2 ≤ (printText name).length := by simp [printText]
  induction members generalizing name v depth with
  | nil =>
    obtain ⟨depth, rfl⟩ : ∃ d, depth = d + 1 := ⟨depth - 1, by simp [printAll] at hdepth; omega⟩
    have hlength : (printAt level v).length ≤ depth := by
      simp [printAll] at hdepth
      omega
    have hshape : printAll level name v [] ++ (newLine outer ++ '\x7d' :: rest) =
        printText name ++ (": " ++ (printAt level v ++ (newLine outer ++ '\x7d' :: rest))) := by
      simp [printAll, printMembers]
    rw [hshape]
    exact (readMembers_member hv hlength).1 (skipSpace_newLine outer rest rfl)
  | cons m members ih =>
    obtain ⟨next, w⟩ := m
    obtain ⟨depth, rfl⟩ : ∃ d, depth = d + 1 := ⟨depth - 1, by simp [printAll] at hdepth; omega⟩
    have hlength : (printAt level v).length ≤ depth ∧ (printAll level next w members).length ≤ depth := by
      rw [printAll, printMembers_cons] at hdepth
      simp at hdepth
      omega
    have hshape : printAll level name v ((next, w) :: members) ++ (newLine outer ++ '\x7d' :: rest) =
        printText name ++ (": " ++ (printAt level v ++ (',' :: (newLine level ++
          (printAll level next w members ++ (newLine outer ++ '\x7d' :: rest)))))) := by
      rw [printAll, printMembers_cons]
      simp
    have hnext := ih (hmembers (next, w) List.mem_cons_self) (fun m hm => hmembers m (List.mem_cons_of_mem _ hm)) hlength.2
    rw [hshape]
    refine (readMembers_member hv hlength.1).2 _ _ (skipSpace_of_isSpace_eq_false _ rfl) ?_
    rw [skipSpace_printAll]
    exact hnext (by simp [printText])

theorem readValue_of_readMembers {runtime : Runtime} {depth levels : ℕ} {r t rest : Text} {members : List (Text × Json)}
    (hspace : skipSpace r = '"' :: t) (hread : readMembers runtime depth levels ('"' :: t) = .ok (members, rest)) :
    readValue runtime (depth + 1) (levels + 1) ('\x7b' :: r) = .ok (.object (Assoc.ofList members), rest) := by
  simp only [readValue, hspace]
  split
  · rename_i h
    cases h
  · rw [hread]

theorem printAt_object_cons (level : ℕ) (name : Text) (v : Json) (members : List (Text × Json)) :
    printAt level (.object ((name, v) :: members)) =
      '\x7b' :: (newLine (level + 1) ++ (printAll (level + 1) name v members ++ (newLine level ++ ['\x7d']))) := by
  simp [printAt, printAll]

theorem IsTextual.readsBack (runtime : Runtime) {levels : ℕ} {v : Json} (h : IsTextual levels v) : ReadsBack runtime levels v := by
  induction h with
  | string levels t =>
    intro level depth rest hdepth
    obtain ⟨depth, rfl⟩ : ∃ d, depth = d + 1 := ⟨depth - 1, by simp [printAt, printText] at hdepth; omega⟩
    rw [printAt, printText_append, skipSpace_of_isSpace_eq_false _ rfl, readValue, readText_printed]
  | @object levels members hnodup _ ih =>
    intro level depth rest hdepth
    cases members with
    | nil =>
      obtain ⟨depth, rfl⟩ : ∃ d, depth = d + 1 := ⟨depth - 1, by simp [printAt] at hdepth; omega⟩
      rfl
    | cons m members =>
      obtain ⟨name, v⟩ := m
      obtain ⟨depth, rfl⟩ : ∃ d, depth = d + 1 := ⟨depth - 1, by simp [printAt] at hdepth; omega⟩
      have hlength : (printAll (level + 1) name v members).length ≤ depth := by
        rw [printAt_object_cons] at hdepth
        simp at hdepth
        omega
      have hmembers := readMembers_printAll level rest (ih (name, v) List.mem_cons_self)
        (fun m hm => ih m (List.mem_cons_of_mem _ hm)) hlength
      have hshape : printAt level (.object ((name, v) :: members)) ++ rest = '\x7b' :: (newLine (level + 1) ++
          (printAll (level + 1) name v members ++ (newLine level ++ '\x7d' :: rest))) := by
        rw [printAt_object_cons]
        simp
      have hquote : ∃ t, printAll (level + 1) name v members ++ (newLine level ++ '\x7d' :: rest) = '"' :: t :=
        ⟨_, by rw [printAll, List.append_assoc, printText_append]⟩
      obtain ⟨t, ht⟩ := hquote
      rw [ht] at hmembers
      rw [hshape, skipSpace_of_isSpace_eq_false _ rfl, readValue_of_readMembers (by rw [skipSpace_printAll, ht]) hmembers,
        Assoc.ofList_of_nodup hnodup]

/-- What is printed of a document that does not nest too deep reads back as the document. -/
theorem read_print {runtime : Runtime} {v : Json} (h : IsTextual runtime.deepestNesting v) :
    read runtime (print v) = .ok v := by
  have hread := h.readsBack runtime 0 (2 * (print v).length + 2) [] (by rw [print]; omega)
  have hmark : ((print v).head?.any (·.toNat = 0xFEFF)) = false := by
    generalize runtime.deepestNesting = levels at h
    cases h with
    | string levels t => rfl
    | @object levels members _ _ =>
      cases members with
      | nil => rfl
      | cons m members =>
        rw [print, printAt_object_cons]
        rfl
  rw [List.append_nil] at hread
  rw [read, hmark]
  simp only [Bool.false_eq_true, if_false]
  rw [print] at hread ⊢
  rw [hread]
  rfl

theorem IsTextual.not_mem_return {levels : ℕ} {v : Json} (h : IsTextual levels v) (level : ℕ) :
    '\r' ∉ printAt level v := by
  induction h generalizing level with
  | string levels t =>
    rw [printAt]
    exact not_mem_return_printText t
  | @object levels members _ _ ih =>
    have hmembers : ∀ ms ⊆ members, '\r' ∉ printMembers (level + 1) ms := by
      intro ms
      induction ms with
      | nil => exact fun _ => List.not_mem_nil
      | cons m ms ihms =>
        intro hsub
        have hvalue := ih m (hsub List.mem_cons_self) (level + 1)
        have hrest := ihms fun a ha => hsub (List.mem_cons_of_mem m ha)
        have hname := not_mem_return_printText m.1
        have hline := not_mem_return_newLine (level + 1)
        simp [printMembers, hvalue, hrest, hname, hline]
    cases members with
    | nil => simp [printAt]
    | cons m members =>
      -- the first member differs from the others only by the comma in front of them
      have hall : '\r' ∉ printMembers (level + 1) (m :: members) := hmembers _ (List.Subset.refl _)
      rw [printMembers_cons] at hall
      rw [printAt_object_cons]
      have hline := not_mem_return_newLine level
      simp only [List.mem_cons, List.mem_append, not_or] at hall ⊢
      simp [hall, hline]

end ChatBot.Json
