import Mathlib.Data.List.Basic
import ChatBot.Text.Basic

/-!
Leading parts, final parts and pieces of a text, in the terms of the list library: `after?` reads a prefix, `endsWith`
tests for a suffix, and `splitOn` is the split of a list. Replacing goes on behind each place it replaces.
-/
set_option autoImplicit false

namespace ChatBot.Text

/-! ## Leading and final parts -/

theorem after?_eq_some_iff {lead t rest : Text} : after? lead t = some rest ↔ t = lead ++ rest := by
  induction lead generalizing t with
  | nil => simp [after?, eq_comm]
  | cons a lead ih =>
    cases t with
    | nil => simp [after?]
    | cons c t =>
      by_cases h : a = c
      · subst h
        simp [after?, ih]
      · have h' : ¬ c = a := fun e => h e.symm
        simp [after?, h, h']

@[simp] theorem after?_append (lead rest : Text) : after? lead (lead ++ rest) = some rest :=
  after?_eq_some_iff.mpr rfl

theorem after?_eq_none_iff {lead t : Text} : after? lead t = none ↔ ¬ lead <+: t := by
  rw [Option.eq_none_iff_forall_not_mem]
  constructor
  · rintro h ⟨rest, rfl⟩
    exact h rest (after?_append lead rest)
  · rintro h rest hrest
    exact h ⟨rest, (after?_eq_some_iff.mp hrest).symm⟩

theorem after?_eq_drop {lead t : Text} (h : lead <+: t) : after? lead t = some (t.drop lead.length) := by
  obtain ⟨rest, rfl⟩ := h
  rw [after?_append, List.drop_left]

theorem startsWith_iff {lead t : Text} : startsWith lead t = true ↔ lead <+: t := by
  rw [startsWith, Option.isSome_iff_ne_none, ne_eq, after?_eq_none_iff, not_not]

theorem endsWith_iff {tail t : Text} : endsWith tail t = true ↔ tail <:+ t := by
  rw [endsWith, startsWith_iff, List.reverse_prefix]

theorem dropLeading_eq_drop {lead t : Text} (h : lead <+: t) : dropLeading lead t = t.drop lead.length := by
  rw [dropLeading, after?_eq_drop h, Option.getD_some]

theorem dropLeading_eq_self {lead t : Text} (h : ¬ lead <+: t) : dropLeading lead t = t := by
  rw [dropLeading, after?_eq_none_iff.mpr h, Option.getD_none]

theorem dropLeading_append (lead rest : Text) : dropLeading lead (lead ++ rest) = rest := by
  rw [dropLeading, after?_append, Option.getD_some]

/-! ## Runs of one character -/

theorem dropWhile_replicate_append {c : Char} {t : Text} (n : ℕ) (h : ¬ [c] <+: t) :
    (List.replicate n c ++ t).dropWhile (· == c) = t := by
  rw [List.dropWhile_append_of_pos (by simp)]
  cases t with
  | nil => rfl
  | cons a t =>
    have hne : ¬ c = a := fun e => h ⟨t, by rw [e]; rfl⟩
    exact List.dropWhile_cons_of_neg (by simpa using fun e => hne e.symm)

theorem exists_replicate_append_dropWhile (c : Char) (t : Text) :
    ∃ n, t = List.replicate n c ++ t.dropWhile (· == c) ∧ ([c] <+: t → 1 ≤ n) := by
  induction t with
  | nil => exact ⟨0, rfl, by simp⟩
  | cons a t ih =>
    by_cases h : a = c
    · subst h
      obtain ⟨n, hn, -⟩ := ih
      refine ⟨n + 1, ?_, fun _ => Nat.le_add_left 1 n⟩
      rw [List.dropWhile_cons_of_pos (by simp), List.replicate_succ, List.cons_append, ← hn]
    · refine ⟨0, ?_, fun hc => ?_⟩
      · rw [List.dropWhile_cons_of_neg (by simpa using h)]
        rfl
      · exact absurd (List.cons_prefix_cons.mp hc).1.symm h

theorem dropWhileEnd_append_replicate {c : Char} {t : Text} (n : ℕ) (h : ¬ [c] <:+ t) :
    dropWhileEnd (· == c) (t ++ List.replicate n c) = t := by
  have hrev : ¬ [c] <+: t.reverse := by simpa [← List.reverse_suffix] using h
  rw [dropWhileEnd, List.reverse_append, List.reverse_replicate, dropWhile_replicate_append n hrev, List.reverse_reverse]

theorem exists_dropWhileEnd_append_replicate (c : Char) (t : Text) :
    ∃ n, t = dropWhileEnd (· == c) t ++ List.replicate n c ∧ ([c] <:+ t → 1 ≤ n) := by
  obtain ⟨n, hn, hpos⟩ := exists_replicate_append_dropWhile c t.reverse
  refine ⟨n, ?_, fun h => hpos (by simpa [← List.reverse_suffix] using h)⟩
  have hrev := congrArg List.reverse hn
  rwa [List.reverse_reverse, List.reverse_append, List.reverse_replicate] at hrev

/-! ## Pieces -/

theorem splitWhere_eq_splitOnP (p : Char → Bool) (t : Text) : splitWhere p t = t.splitOnP p := by
  induction t with
  | nil => rfl
  | cons c t ih =>
    rw [List.splitOnP_cons_eq_if_modifyHead, ← ih, splitWhere]
    cases h : splitWhere p t with
    | nil => exact absurd (ih ▸ h) (List.splitOnP_ne_nil p t)
    | cons piece pieces => rfl

theorem splitOn_eq_list_splitOn (separator : Char) (t : Text) :
    splitOn separator t = List.splitOn separator t := by
  rw [splitOn, splitWhere_eq_splitOnP, List.splitOn_eq_splitOnP]

/-- A piece is cut off at the separator behind it. -/
theorem splitOn_append_cons {separator : Char} {piece : Text} (h : separator ∉ piece) (rest : Text) :
    splitOn separator (piece ++ separator :: rest) = piece :: splitOn separator rest := by
  rw [splitOn_eq_list_splitOn, splitOn_eq_list_splitOn, List.splitOn_append_cons_self_of_not_mem h]

theorem splitOn_of_not_mem {separator : Char} {t : Text} (h : separator ∉ t) : splitOn separator t = [t] := by
  rw [splitOn_eq_list_splitOn, List.splitOn_eq_singleton h]

/-- The pieces hold characters of the text, but no separator. -/
theorem mem_and_ne_of_mem_splitOn {separator c : Char} {t piece : Text} (h : piece ∈ List.splitOn separator t)
    (hc : c ∈ piece) : c ∈ t ∧ c ≠ separator := by
  induction t generalizing piece with
  | nil =>
    obtain rfl : piece = [] := by simpa using h
    exact absurd hc List.not_mem_nil
  | cons a t ih =>
    have hlater : ∀ {piece}, piece ∈ List.splitOn separator t → c ∈ piece → c ∈ a :: t ∧ c ≠ separator :=
      fun h hc => ⟨List.mem_cons_of_mem a (ih h hc).1, (ih h hc).2⟩
    rw [List.splitOn_cons_eq_if_modifyHead] at h
    by_cases ha : a = separator
    · subst ha
      rcases List.mem_cons.mp (by simpa using h : piece ∈ [] :: List.splitOn a t) with rfl | htail
      · exact absurd hc List.not_mem_nil
      · exact hlater htail hc
    · obtain ⟨first, pieces, hpieces⟩ := List.exists_cons_of_ne_nil (List.splitOn_ne_nil separator t)
      rw [hpieces] at h hlater
      rcases List.mem_cons.mp (by simpa [ha] using h : piece ∈ (a :: first) :: pieces) with rfl | htail
      · rcases List.mem_cons.mp hc with rfl | hfirst
        · exact ⟨List.mem_cons_self, ha⟩
        · exact hlater List.mem_cons_self hfirst
      · exact hlater (List.mem_cons_of_mem first htail) hc

/-- A text is its first piece, and a separator before each of the others. -/
theorem eq_append_of_splitOn {separator : Char} {t first : Text} {pieces : List Text}
    (h : List.splitOn separator t = first :: pieces) : t = first ++ pieces.flatMap fun piece => separator :: piece := by
  have hjoined (first : Text) (pieces : List Text) :
      [separator].intercalate (first :: pieces) = first ++ pieces.flatMap fun piece => separator :: piece := by
    induction pieces generalizing first with
    | nil => rw [List.intercalate_singleton, List.flatMap_nil, List.append_nil]
    | cons piece pieces ih =>
      rw [List.intercalate_cons_cons, ih, List.flatMap_cons, List.append_assoc]
      rfl
  calc t = [separator].intercalate (List.splitOn separator t) := (List.intercalate_splitOn separator).symm
    _ = first ++ pieces.flatMap fun piece => separator :: piece := by rw [h, hjoined]

/-! ## Replacing -/

theorem replaceFrom_skip (old new t : Text) (n : ℕ) :
    replaceFrom old new n t = replaceAll old new (t.drop n) := by
  induction n generalizing t with
  | zero => rfl
  | succ n ih =>
    cases t with
    | nil => rfl
    | cons c t => exact ih t

theorem replaceAll_append_self {old : Text} (hold : old ≠ []) (new t : Text) :
    replaceAll old new (old ++ t) = new ++ replaceAll old new t := by
  obtain ⟨c, rest, rfl⟩ := List.exists_cons_of_ne_nil hold
  have hstarts : startsWith (c :: rest) (c :: (rest ++ t)) = true := startsWith_iff.mpr ⟨t, rfl⟩
  rw [replaceAll, List.cons_append, replaceFrom, if_pos hstarts, replaceFrom_skip, List.length_cons,
    Nat.add_sub_cancel, List.drop_left]

theorem replaceAll_cons {old : Text} {c : Char} {t : Text} (h : ¬ old <+: c :: t) (new : Text) :
    replaceAll old new (c :: t) = c :: replaceAll old new t := by
  rw [replaceAll, replaceFrom, if_neg fun hstarts => h (startsWith_iff.mp hstarts)]
  rfl

end ChatBot.Text
