import Mathlib.Data.List.TakeWhile
import Mathlib.Tactic.SplitIfs
import ChatBot.Terminal.Layout
import ChatBot.Text.Quoted
import ChatBot.Proofs.Text.Pieces

/-!
Text that a terminal shows as it is: no character of it is dropped or filled up, and it names no emoji.
-/
set_option autoImplicit false

namespace ChatBot.Terminal

/-- No character moves the cursor back, rings the bell or is filled up. -/
def IsSteady (t : Text) : Prop := ∀ c ∈ t, isDropped c = false ∧ c ≠ '\t'

instance (t : Text) : Decidable (IsSteady t) := List.decidableBAll (fun c => isDropped c = false ∧ c ≠ '\t') t

/-- Between any two colons there is a blank, or what is no name of an emoji. -/
def NamesNoEmoji (t : Text) : Prop :=
  ∀ before code after, t = before ++ ':' :: code ++ ':' :: after → ':' ∉ code →
    (∃ c ∈ code, Text.isBlank c = true) ∨ emoji? code = none

/-! ## Layout -/

theorem IsSteady.append {first second : Text} (hfirst : IsSteady first) (hsecond : IsSteady second) :
    IsSteady (first ++ second) :=
  fun c hc => (List.mem_append.mp hc).elim (hfirst c) (hsecond c)

theorem isSteady_of_visible {t : Text} (h : ∀ c ∈ t, 32 ≤ c.toNat) : IsSteady t := by
  intro c hc
  have hvisible := h c hc
  refine ⟨?_, ?_⟩
  · simp only [isDropped, List.contains_eq_mem, List.mem_cons, List.not_mem_nil, or_false, decide_eq_false_iff_not]
    omega
  · rintro rfl
    revert hvisible
    decide

theorem expandTabs_of_not_mem {t : Text} (h : '\t' ∉ t) : expandTabs t = t := by
  have hline (line : Text) (hline : line ∈ Text.splitOn '\n' t) : fillTabs 0 (Text.splitOn '\t' line) = line := by
    have htab : '\t' ∉ line := fun hmem =>
      h (Text.mem_and_ne_of_mem_splitOn (Text.splitOn_eq_list_splitOn '\n' t ▸ hline) hmem).1
    rw [Text.splitOn_of_not_mem htab]
    rfl
  rw [expandTabs, List.map_congr_left hline, List.map_id', Text.join, Text.splitOn_eq_list_splitOn]
  exact List.intercalate_splitOn '\n'

theorem layOut_of_isSteady {t : Text} (h : IsSteady t) : layOut t = t := by
  have hkept : t.filter (!isDropped ·) = t := List.filter_eq_self.mpr fun c hc => by rw [(h c hc).1]; rfl
  rw [layOut, hkept, expandTabs_of_not_mem fun htab => (h _ htab).2 rfl]

/-! ## Quoted text -/

theorem exists_digitChar_of_mem_toDigitsCore {base fuel n : ℕ} {digits : List Char} {c : Char}
    (h : c ∈ Nat.toDigitsCore base fuel n digits) : (∃ d, c = Nat.digitChar d) ∨ c ∈ digits := by
  induction fuel generalizing n digits with
  | zero => exact .inr h
  | succ fuel ih =>
    rw [Nat.toDigitsCore] at h
    have hfirst (h : c ∈ Nat.digitChar (n % base) :: digits) : (∃ d, c = Nat.digitChar d) ∨ c ∈ digits :=
      (List.mem_cons.mp h).imp_left fun heq => ⟨_, heq⟩
    split at h
    · exact hfirst h
    · exact (ih h).elim .inl hfirst

theorem visible_digitChar (d : ℕ) : 32 ≤ (Nat.digitChar d).toNat := by
  by_cases hd : d < 16
  · have hdigits : ∀ d < 16, 32 ≤ (Nat.digitChar d).toNat := by decide
    exact hdigits d hd
  · have hne (k : ℕ) (hk : k < 16) : d ≠ k := by omega
    have hstar : Nat.digitChar d = '*' := by simp [Nat.digitChar, hne]
    rw [hstar]
    decide

theorem visible_hexadecimal {width n : ℕ} {c : Char} (h : c ∈ Text.hexadecimal width n) : 32 ≤ c.toNat := by
  rcases List.mem_append.mp h with hzero | hdigit
  · rw [List.eq_of_mem_replicate hzero]
    decide
  · rcases exists_digitChar_of_mem_toDigitsCore hdigit with ⟨d, rfl⟩ | hnone
    · exact visible_digitChar d
    · cases hnone

theorem visible_quoteChar {mark c d : Char} (hmark : 32 ≤ mark.toNat) (h : d ∈ Text.quoteChar mark c) : 32 ≤ d.toNat := by
  have hescaped {letter : Char} {rest : Text} (hletter : 32 ≤ letter.toNat) (hrest : ∀ e ∈ rest, 32 ≤ e.toNat)
      (h : d ∈ '\\' :: letter :: rest) : 32 ≤ d.toNat := by
    rcases List.mem_cons.mp h with rfl | h
    · decide
    · rcases List.mem_cons.mp h with rfl | h
      · exact hletter
      · exact hrest d h
  rw [Text.quoteChar] at h
  split_ifs at h with hmarked hline hreturn htab hvisible hbyte hshort
  · refine hescaped ?_ (by simp) h
    rcases (by simpa using hmarked : c = '\\' ∨ c = mark) with rfl | rfl
    · decide
    · exact hmark
  · exact hescaped (by decide) (by simp) h
  · exact hescaped (by decide) (by simp) h
  · exact hescaped (by decide) (by simp) h
  · obtain rfl := List.mem_singleton.mp h
    rw [Text.isVisible] at hvisible
    split at hvisible
    · simp only [Bool.and_eq_true, decide_eq_true_eq] at hvisible
      exact hvisible.1
    · omega
  · exact hescaped (by decide) (fun e => visible_hexadecimal) h
  · exact hescaped (by decide) (fun e => visible_hexadecimal) h
  · exact hescaped (by decide) (fun e => visible_hexadecimal) h

/-- Nothing is left in a quoted text that a terminal drops or fills up. -/
theorem visible_quote {t : Text} {c : Char} (h : c ∈ Text.quote t) : 32 ≤ c.toNat := by
  have hmark : 32 ≤ (Text.quoteMark t).toNat := by
    rw [Text.quoteMark]
    split <;> decide
  rw [Text.quote, List.mem_append, List.mem_cons, List.mem_singleton, List.mem_flatMap] at h
  rcases h with (rfl | ⟨d, -, hd⟩) | rfl
  · exact hmark
  · exact visible_quoteChar hmark hd
  · exact hmark

/-! ## Emoji -/

theorem NamesNoEmoji.of_suffix {s t : Text} (h : NamesNoEmoji t) (hs : s <:+ t) : NamesNoEmoji s := by
  obtain ⟨lead, rfl⟩ := hs
  rintro before code after rfl hcode
  exact h (lead ++ before) code after (by simp) hcode

theorem namesNoEmoji_of_count {t : Text} (h : t.count ':' ≤ 1) : NamesNoEmoji t := by
  rintro before code after rfl -
  simp only [List.count_append, List.count_cons_self] at h
  omega

theorem namesNoEmoji_of_not_mem {t : Text} (h : ':' ∉ t) : NamesNoEmoji t :=
  namesNoEmoji_of_count (by rw [List.count_eq_zero.mpr h]; exact Nat.zero_le 1)

theorem replaceEmojiFrom_eq_drop (n : ℕ) (t : Text) : replaceEmojiFrom n t = replaceEmoji (t.drop n) := by
  induction n generalizing t with
  | zero => rfl
  | succ n ih =>
    cases t with
    | nil => rfl
    | cons c t => exact ih t

theorem replaceEmoji_cons_of_none {c : Char} {t : Text} (h : c = ':' → emojiCode? t = none) :
    replaceEmoji (c :: t) = c :: replaceEmoji t := by
  rw [replaceEmoji, replaceEmojiFrom]
  by_cases hc : c = ':'
  · rw [if_pos hc, h hc]
    rfl
  · rw [if_neg hc]
    rfl

theorem drop_length_takeWhile (p : Char → Bool) (t : Text) : t.drop (t.takeWhile p).length = t.dropWhile p := by
  induction t with
  | nil => rfl
  | cons c t ih =>
    cases hc : p c with
    | true => rw [List.takeWhile_cons_of_pos hc, List.dropWhile_cons_of_pos hc, List.length_cons, List.drop_succ_cons, ih]
    | false =>
      have hneg : ¬ p c = true := by simp [hc]
      rw [List.takeWhile_cons_of_neg hneg, List.dropWhile_cons_of_neg hneg]
      rfl

theorem exists_of_emojiCode? {t code : Text} (h : emojiCode? t = some code) :
    ∃ after, t = code ++ ':' :: after ∧ ∀ c ∈ code, c ≠ ':' ∧ Text.isBlank c = false := by
  rw [emojiCode?] at h
  split at h
  · rename_i hcolon
    obtain rfl := Option.some.inj h
    obtain ⟨after, hafter⟩ := List.head?_eq_some_iff.mp hcolon
    refine ⟨after, ?_, fun c hc => ?_⟩
    · rw [← hafter, drop_length_takeWhile, List.takeWhile_append_dropWhile]
    · have hpart := List.mem_takeWhile_imp hc
      simpa using hpart
  · cases h

/-- A text in which no emoji is named stays as it is. -/
theorem replaceEmoji_of_namesNoEmoji {t : Text} (h : NamesNoEmoji t) : replaceEmoji t = t := by
  induction hn : t.length using Nat.strongRecOn generalizing t with
  | ind n ih =>
    cases t with
    | nil => rfl
    | cons c t =>
      have hlater : replaceEmoji t = t := ih t.length (by simp [← hn]) (h.of_suffix (List.suffix_cons c t)) rfl
      by_cases hcode : c = ':' ∧ (emojiCode? t).isSome = true
      · obtain ⟨rfl, hsome⟩ := hcode
        obtain ⟨code, hcode⟩ := Option.isSome_iff_exists.mp hsome
        obtain ⟨after, rfl, hpart⟩ := exists_of_emojiCode? hcode
        -- The code lies between two colons and has no blank, so it can only be kept for want of such an emoji.
        have hunknown : emoji? code = none := by
          refine (h [] code after rfl fun hcolon => (hpart _ hcolon).1 rfl).resolve_left ?_
          rintro ⟨c, hc, hblank⟩
          rw [(hpart c hc).2] at hblank
          cases hblank
        have hafter : replaceEmoji after = after :=
          ih after.length (by simp [← hn]; omega) (h.of_suffix ⟨':' :: code ++ [':'], by simp⟩) rfl
        rw [replaceEmoji, replaceEmojiFrom, if_pos rfl, hcode]
        simp [hunknown, replaceEmojiFrom_eq_drop, hafter]
      · have hnone (hc : c = ':') : emojiCode? t = none := Option.not_isSome_iff_eq_none.mp fun hsome => hcode ⟨hc, hsome⟩
        rw [replaceEmoji_cons_of_none hnone, hlater]

/-- What has no colon is kept, whatever follows. -/
theorem replaceEmoji_append_of_not_mem {lead : Text} (h : ':' ∉ lead) (t : Text) :
    replaceEmoji (lead ++ t) = lead ++ replaceEmoji t := by
  induction lead with
  | nil => rfl
  | cons c lead ih =>
    rw [List.mem_cons, not_or] at h
    rw [List.cons_append, replaceEmoji_cons_of_none fun hc => absurd hc.symm h.1, ih h.2]
    rfl

/-- A colon before a blank begins no name. -/
theorem replaceEmoji_colon_blank {c : Char} (hc : Text.isBlank c = true) (t : Text) :
    replaceEmoji (':' :: c :: t) = ':' :: replaceEmoji (c :: t) := by
  refine replaceEmoji_cons_of_none fun _ => ?_
  have hcolon : c ≠ ':' := by
    rintro rfl
    revert hc
    decide
  rw [emojiCode?, List.takeWhile_cons_of_neg (by simp [hc])]
  simp [hcolon]

theorem print_of_namesNoEmoji {t : Text} (hsteady : IsSteady t) (hnames : NamesNoEmoji t) : print t = t ++ ['\n'] := by
  rw [print, replaceEmoji_of_namesNoEmoji hnames, layOut_of_isSteady hsteady]

end ChatBot.Terminal
