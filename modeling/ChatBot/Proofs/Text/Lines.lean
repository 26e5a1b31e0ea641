import ChatBot.Proofs.Text.Trim

/-!
Lines, and texts put together from them. No line holds a line boundary, so lines joined by blanks are one line again. What is left of a
text that is shortened is a beginning of it, and stays within the limit.
-/
set_option autoImplicit false

namespace ChatBot.Text

/-! ## Lines -/

theorem isBreak_of_mem_lines {t line : Text} (h : line ∈ lines t) : ∀ c ∈ line, isBreak c = false := by
  induction t using lines.induct generalizing line with
  | case1 => cases h
  | case2 t ih =>
    rw [lines] at h
    rcases List.mem_cons.mp h with rfl | h
    · exact fun c hc => absurd hc List.not_mem_nil
    · exact ih h
  | case3 a t hpair hbreak ih =>
    rw [lines.eq_3 a t hpair, if_pos hbreak] at h
    rcases List.mem_cons.mp h with rfl | h
    · exact fun c hc => absurd hc List.not_mem_nil
    · exact ih h
  | case4 a t hpair hbreak hnone ih =>
    rw [lines.eq_3 a t hpair, if_neg hbreak, hnone] at h
    obtain rfl := List.mem_singleton.mp h
    simpa using hbreak
  | case5 a t hpair hbreak first rest hlines ih =>
    rw [lines.eq_3 a t hpair, if_neg hbreak, hlines] at h
    have hself : isBreak a = false := by simpa using hbreak
    rcases List.mem_cons.mp h with rfl | h
    · exact List.forall_mem_cons.mpr ⟨hself, ih (hlines ▸ List.mem_cons_self)⟩
    · exact ih (hlines ▸ List.mem_cons_of_mem first h)

/-! ## Joining -/

theorem head?_join {first between : Text} (h : first ≠ []) (pieces : List Text) :
    (join between (first :: pieces)).head? = first.head? := by
  cases pieces with
  | nil => rw [join, List.intercalate_singleton]
  | cons next pieces => rw [join, List.intercalate_cons_cons, List.append_assoc, List.head?_append_of_ne_nil first h]

theorem mem_of_mem_join {c : Char} {between : Text} {pieces : List Text} (h : c ∈ join between pieces) :
    c ∈ between ∨ ∃ piece ∈ pieces, c ∈ piece := by
  induction pieces with
  | nil => cases h
  | cons first pieces ih =>
    cases pieces with
    | nil =>
      rw [join, List.intercalate_singleton] at h
      exact .inr ⟨first, List.mem_cons_self, h⟩
    | cons next pieces =>
      rw [join, List.intercalate_cons_cons, List.mem_append, List.mem_append] at h
      rcases h with (h | h) | h
      · exact .inr ⟨first, List.mem_cons_self, h⟩
      · exact .inl h
      · exact (ih h).imp_right fun ⟨piece, hpiece, hc⟩ => ⟨piece, List.mem_cons_of_mem first hpiece, hc⟩

/-! ## Shortening -/

theorem shrink_of_le {limit : ℤ} {t : Text} (h : (t.length : ℤ) ≤ limit) : shrink limit t = t := if_pos h

theorem shrink_isBeginning (limit : ℤ) (t : Text) : shrink limit t <+: t := by
  rw [shrink]
  split
  · exact List.prefix_refl t
  · exact List.take_prefix _ t

theorem length_shrink_le {limit : ℤ} (hlimit : 0 ≤ limit) (t : Text) : ((shrink limit t).length : ℤ) ≤ limit := by
  rw [shrink]
  split
  · assumption
  · rw [List.length_take]
    omega

theorem shrink_ne_nil {limit : ℤ} (hlimit : 2 ≤ limit) {t : Text} (h : t ≠ []) : shrink limit t ≠ [] := by
  have hlength := List.length_pos_iff.mpr h
  rw [shrink]
  split
  · exact h
  · rw [← List.length_pos_iff, List.length_take]
    omega

end ChatBot.Text
