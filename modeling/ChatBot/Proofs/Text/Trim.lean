import Mathlib.Data.List.DropRight
import ChatBot.Text.Alphanumeric
import ChatBot.Text.Blank

/-!
What trimming leaves: every character that is not blank, and so the first of them in front. Trimming again changes nothing.
-/
set_option autoImplicit false

namespace ChatBot.Text

theorem mem_dropWhile_of_mem {p : Char → Bool} {c : Char} {t : Text} (h : c ∈ t) (hc : p c = false) :
    c ∈ t.dropWhile p := by
  induction t with
  | nil => exact h
  | cons a t ih =>
    by_cases ha : p a = true
    · rw [List.dropWhile_cons_of_pos ha]
      rcases List.mem_cons.mp h with rfl | h
      · exact absurd ha (by simp [hc])
      · exact ih h
    · rwa [List.dropWhile_cons_of_neg ha]

theorem mem_trim_of_mem {c : Char} {t : Text} (h : c ∈ t) (hc : isBlank c = false) : c ∈ trim t := by
  have hleft : c ∈ trimLeft t := mem_dropWhile_of_mem h hc
  rw [trim, trimRight, dropWhileEnd, List.mem_reverse]
  exact mem_dropWhile_of_mem (List.mem_reverse.mpr hleft) hc

theorem mem_of_mem_trim {c : Char} {t : Text} (h : c ∈ trim t) : c ∈ t := by
  rw [trim, trimRight, dropWhileEnd, List.mem_reverse] at h
  have hleft : c ∈ trimLeft t := List.mem_reverse.mp ((List.dropWhile_sublist isBlank).subset h)
  exact (List.dropWhile_sublist isBlank).subset hleft

theorem isAlphanumeric_of_isBlank {c : Char} (hc : isBlank c = true) : isAlphanumeric c = false := by
  have hall : ∀ n ∈ blankCodes, isAlphanumeric (Char.ofNat n) = false := by decide +kernel
  have hmem : c.toNat ∈ blankCodes := List.contains_iff_mem.mp hc
  have hblank := hall c.toNat hmem
  rwa [Char.ofNat_toNat] at hblank

theorem isBlank_of_trimLeft_eq_cons {c : Char} {t rest : Text} (h : trimLeft t = c :: rest) : isBlank c = false := by
  have hfront := List.head?_dropWhile_not isBlank t
  rw [← trimLeft, h] at hfront
  simpa using hfront

theorem trimLeft_of_head? {c : Char} {t : Text} (hhead : t.head? = some c) (hc : isBlank c = false) : trimLeft t = t := by
  cases t with
  | nil => cases hhead
  | cons d t =>
    obtain rfl : d = c := Option.some.inj hhead
    rw [trimLeft, List.dropWhile_cons_of_neg (by simp [hc])]

/-! ## The first character that is not blank -/

def front? (t : Text) : Option Char := (trimLeft t).head?

@[simp] theorem front?_cons_of_blank {c : Char} (t : Text) (hc : isBlank c = true) : front? (c :: t) = front? t := by
  rw [front?, trimLeft, List.dropWhile_cons_of_pos hc, front?, trimLeft]

@[simp] theorem front?_cons_of_not_blank {c : Char} (t : Text) (hc : isBlank c = false) : front? (c :: t) = some c := by
  rw [front?, trimLeft, List.dropWhile_cons_of_neg (by simp [hc]), List.head?_cons]

theorem front?_append_of_isSome {t : Text} (rest : Text) (h : (front? t).isSome = true) :
    front? (t ++ rest) = front? t := by
  induction t with
  | nil => cases h
  | cons c t ih =>
    cases hc : isBlank c with
    | true =>
      rw [front?_cons_of_blank t hc] at h
      rw [List.cons_append, front?_cons_of_blank _ hc, front?_cons_of_blank t hc, ih h]
    | false => rw [List.cons_append, front?_cons_of_not_blank _ hc, front?_cons_of_not_blank t hc]

theorem trimRight_cons {c : Char} (t : Text) (hc : isBlank c = false) : trimRight (c :: t) = c :: trimRight t := by
  rw [trimRight, trimRight, dropWhileEnd, dropWhileEnd, List.reverse_cons, List.dropWhile_append]
  split
  · rename_i hall
    rw [List.dropWhile_cons_of_neg (by simp [hc]), List.isEmpty_iff.mp hall]
    rfl
  · rw [List.reverse_append]
    rfl

/-- A trimmed text begins with the first character that is not blank. -/
theorem head?_trim (t : Text) : (trim t).head? = front? t := by
  rw [trim, front?]
  cases hleft : trimLeft t with
  | nil => rfl
  | cons c rest => rw [trimRight_cons rest (isBlank_of_trimLeft_eq_cons hleft), List.head?_cons, List.head?_cons]

theorem trimRight_trimRight (t : Text) : trimRight (trimRight t) = trimRight t := by
  rw [trimRight, trimRight, dropWhileEnd, dropWhileEnd, List.reverse_reverse, List.dropWhile_idempotent]

theorem trim_trim (t : Text) : trim (trim t) = trim t := by
  have hleft : trimLeft (trim t) = trim t := by
    cases htrim : trim t with
    | nil => rfl
    | cons c rest =>
      have hhead : (trim t).head? = some c := by rw [htrim]; rfl
      rw [← htrim]
      refine trimLeft_of_head? hhead ?_
      rw [head?_trim, front?] at hhead
      obtain ⟨rest', hrest'⟩ := List.head?_eq_some_iff.mp hhead
      exact isBlank_of_trimLeft_eq_cons hrest'
  rw [trim, hleft, trim, trimRight_trimRight]

/-! ## Blank ends -/

theorem trim_append_of_blank {t tail : Text} (h : ∀ c ∈ tail, isBlank c = true) : trim (t ++ tail) = trim t := by
  have hright : ∀ u : Text, trimRight (u ++ tail) = trimRight u := by
    intro u
    rw [trimRight, trimRight, dropWhileEnd, dropWhileEnd, List.reverse_append,
      List.dropWhile_append_of_pos fun c hc => h c (List.mem_reverse.mp hc)]
  have hnothing : tail.dropWhile isBlank = [] := List.dropWhile_eq_nil_iff.mpr h
  rw [trim, trim, trimLeft, trimLeft, List.dropWhile_append]
  split
  · rename_i hall
    rw [hnothing, List.isEmpty_iff.mp hall]
  · exact hright _

theorem trim_dropWhileEnd {p : Char → Bool} (h : ∀ c, p c = true → isBlank c = true) (t : Text) :
    trim (dropWhileEnd p t) = trim t := by
  have hsplit : t = dropWhileEnd p t ++ (t.reverse.takeWhile p).reverse := by
    rw [dropWhileEnd, ← List.reverse_append, List.takeWhile_append_dropWhile, List.reverse_reverse]
  have htail : ∀ c ∈ (t.reverse.takeWhile p).reverse, isBlank c = true := fun c hc =>
    h c (List.mem_takeWhile_imp (List.mem_reverse.mp hc))
  conv_rhs => rw [hsplit]
  exact (trim_append_of_blank htail).symm

theorem isEmpty_trim (t : Text) : (trim t).isEmpty = isBlankText t := by
  cases hblank : isBlankText t with
  | true =>
    have hleft : trimLeft t = [] := List.dropWhile_eq_nil_iff.mpr (List.all_eq_true.mp hblank)
    rw [trim, hleft]
    rfl
  | false =>
    obtain ⟨c, hc, hvisible⟩ := List.all_eq_false.mp hblank
    have hmem : c ∈ trim t := mem_trim_of_mem hc (Bool.eq_false_iff.mpr hvisible)
    rw [List.isEmpty_eq_false_iff]
    exact List.ne_nil_of_mem hmem

/-- A text that is not blank begins visibly once it is trimmed. -/
theorem exists_head?_trim {t : Text} (h : isBlankText t = false) : ∃ c, (trim t).head? = some c ∧ isBlank c = false := by
  have hgiven : trim t ≠ [] := fun hnone => by
    rw [← isEmpty_trim, hnone] at h
    cases h
  obtain ⟨c, rest, htrim⟩ := List.exists_cons_of_ne_nil hgiven
  have hfront : (trimLeft t).head? = some c := by rw [← front?, ← head?_trim, htrim, List.head?_cons]
  obtain ⟨rest', hleft⟩ := List.head?_eq_some_iff.mp hfront
  exact ⟨c, by rw [htrim, List.head?_cons], isBlank_of_trimLeft_eq_cons hleft⟩

end ChatBot.Text
