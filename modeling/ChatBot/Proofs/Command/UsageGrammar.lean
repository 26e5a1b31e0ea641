import Mathlib.Data.List.Forall2
import ChatBot.Command.Usage
import ChatBot.Proofs.Text.Pieces

/-!
The grammar of usage lines. A line declares a command when its first word is not empty, every later word in brackets is a
declaration, no key occurs twice, and required slots come before optional ones and these before at most one flexible slot.
Reading accepts these lines and no others, and gives back what they declare.
-/
set_option autoImplicit false

namespace ChatBot.Command

/-! ## The grammar -/

/-- A key consists of letters, digits and other numerals, at least one. -/
def IsKey (key : Text) : Prop := key ≠ [] ∧ ∀ c ∈ key, Text.isAlphanumeric c = true

/-- The marks after a key that make its slot one of the kind: none, question marks, or groups of three dots. -/
def MarksKind : SlotKind → Text → Prop
  | .required, marks => marks = []
  | .optional, marks => ∃ n, 1 ≤ n ∧ marks = List.replicate n '?'
  | .flexible, marks => ∃ n, 1 ≤ n ∧ marks = List.replicate (3 * n) '.'

/-- A word declares a slot: brackets around the key and the marks of the kind. -/
def Declares (word : Text) (slot : Slot) : Prop :=
  IsKey slot.key ∧ ∃ opening closing marks, 1 ≤ opening ∧ 1 ≤ closing ∧ MarksKind slot.kind marks ∧
    word = List.replicate opening '<' ++ slot.key ++ marks ++ List.replicate closing '>'

/-- Words that begin and end with a bracket; all others are commentary. -/
def IsBracketed (word : Text) : Prop := ['<'] <+: word ∧ ['>'] <:+ word

instance : DecidablePred IsBracketed := fun word => inferInstanceAs (Decidable (['<'] <+: word ∧ ['>'] <:+ word))

/-- Required kinds, then optional ones, then at most one flexible. -/
def InOrder (kinds : List SlotKind) : Prop :=
  ∃ required optional flexible, flexible ≤ 1 ∧
    kinds = List.replicate required .required ++ List.replicate optional .optional ++ List.replicate flexible .flexible

/-- The pieces of a usage line between single spaces, after one leader and without an empty piece at the end. -/
def usagePieces (leader : Char) (usage : Text) : List Text :=
  let pieces := List.splitOn ' ' (if [leader] <+: usage then usage.drop 1 else usage)
  if pieces.getLast? = some [] then pieces.dropLast else pieces

/-- A usage line that declares a command with this name and these slots. -/
structure DeclaresCommand (leader : Char) (usage name : Text) (slots : List Slot) : Prop where
  name_ne_nil : name ≠ []
  words : ∃ words, usagePieces leader usage = name :: words ∧
    List.Forall₂ Declares (words.filter fun word => IsBracketed word) slots
  keys_nodup : (slots.map Slot.key).Nodup
  inOrder : InOrder (slots.map Slot.kind)

/-! ## Keys and marks -/

theorem isAlphanumericText_iff {t : Text} : Text.isAlphanumericText t = true ↔ IsKey t := by
  simp [Text.isAlphanumericText, IsKey]

theorem isAlphanumeric_of_mark {c : Char} (hc : c ∈ ['<', '>', '?', '.']) : Text.isAlphanumeric c = false := by
  simp only [List.mem_cons, List.not_mem_nil, or_false] at hc
  rcases hc with rfl | rfl | rfl | rfl <;> decide

theorem IsKey.not_mem {key : Text} (h : IsKey key) {c : Char} (hc : c ∈ ['<', '>', '?', '.']) : c ∉ key := by
  intro hmem
  have halpha := h.2 c hmem
  rw [isAlphanumeric_of_mark hc] at halpha
  exact Bool.false_ne_true halpha

theorem IsKey.not_prefix {key : Text} (h : IsKey key) (rest : Text) {c : Char} (hc : c ∈ ['<', '>', '?', '.']) :
    ¬ [c] <+: key ++ rest := by
  cases key with
  | nil => exact absurd rfl h.1
  | cons a key =>
    intro hpre
    have hca : c = a := (List.cons_prefix_cons.mp hpre).1
    exact h.not_mem hc (hca ▸ List.mem_cons_self)

theorem IsKey.not_suffix {key : Text} (h : IsKey key) {c : Char} (hc : c ∈ ['<', '>', '?', '.']) : ¬ [c] <:+ key :=
  fun hsuf => h.not_mem hc (hsuf.subset List.mem_cons_self)

theorem not_suffix_append_replicate {t : Text} {c d : Char} {n : ℕ} (hn : 1 ≤ n) (hcd : c ≠ d) :
    ¬ [c] <:+ t ++ List.replicate n d := by
  obtain ⟨m, rfl⟩ : ∃ m, n = m + 1 := ⟨n - 1, by omega⟩
  rw [List.replicate_succ', ← List.append_assoc]
  rintro ⟨s, hs⟩
  exact hcd (List.singleton_inj.mp (List.append_inj_right' hs rfl))

theorem suffix_of_suffix_append {s t : Text} {c : Char} (h : [c] <:+ s ++ t) (hc : c ∉ s) : [c] <:+ t := by
  rcases List.eq_nil_or_concat' t with rfl | ⟨t, d, rfl⟩
  · rw [List.append_nil] at h
    exact absurd (h.subset List.mem_cons_self) hc
  · obtain ⟨u, hu⟩ := h
    rw [← List.append_assoc] at hu
    exact ⟨t, by rw [List.append_inj_right' hu rfl]⟩

theorem MarksKind.not_suffix {kind : SlotKind} {key marks : Text} (hkey : IsKey key) (hmarks : MarksKind kind marks) :
    ¬ ['>'] <:+ key ++ marks := by
  cases kind with
  | required =>
    obtain rfl : marks = [] := hmarks
    rw [List.append_nil]
    exact hkey.not_suffix (by decide)
  | optional =>
    obtain ⟨n, hn, rfl⟩ := hmarks
    exact not_suffix_append_replicate hn (by decide)
  | flexible =>
    obtain ⟨n, hn, rfl⟩ := hmarks
    exact not_suffix_append_replicate (by omega) (by decide)

/-! ## Groups of dots -/

theorem dropDots_of_not_prefix {t : Text} (h : ¬ ['.'] <+: t) : dropDots t = t := by
  unfold dropDots
  split
  · exact absurd ⟨_, rfl⟩ h
  · rfl

theorem dropDots_replicate_append {t : Text} (n : ℕ) (h : ¬ ['.'] <+: t) :
    dropDots (List.replicate (3 * n) '.' ++ t) = t := by
  induction n with
  | zero => exact dropDots_of_not_prefix h
  | succ n ih =>
    change dropDots ('.' :: '.' :: '.' :: (List.replicate (3 * n) '.' ++ t)) = t
    rw [dropDots, ih]

theorem exists_replicate_append_dropDots (t : Text) :
    ∃ n, t = List.replicate (3 * n) '.' ++ dropDots t ∧ (['.', '.', '.'] <+: t → 1 ≤ n) := by
  fun_induction dropDots t with
  | case1 t ih =>
    obtain ⟨n, hn, -⟩ := ih
    refine ⟨n + 1, ?_, fun _ => Nat.le_add_left 1 n⟩
    change '.' :: '.' :: '.' :: t = '.' :: '.' :: '.' :: (List.replicate (3 * n) '.' ++ dropDots t)
    rw [← hn]
  | case2 t hnot =>
    refine ⟨0, rfl, ?_⟩
    rintro ⟨rest, hrest⟩
    exact absurd hrest.symm (hnot rest)

/-! ## One declaration -/

theorem isBracketed_of_brackets {opening closing : ℕ} (text : Text) (hopening : 1 ≤ opening) (hclosing : 1 ≤ closing) :
    IsBracketed (List.replicate opening '<' ++ (text ++ List.replicate closing '>')) := by
  obtain ⟨m, rfl⟩ : ∃ m, opening = m + 1 := ⟨opening - 1, by omega⟩
  obtain ⟨n, rfl⟩ : ∃ n, closing = n + 1 := ⟨closing - 1, by omega⟩
  constructor
  · exact ⟨_, rfl⟩
  · exact List.suffix_append_of_suffix
      (List.suffix_append_of_suffix ⟨List.replicate n '>', List.replicate_succ'.symm⟩)

theorem unwrapSlot?_eq_none_iff {word : Text} : unwrapSlot? word = none ↔ ¬ IsBracketed word := by
  simp only [unwrapSlot?, IsBracketed, Bool.and_eq_true, Text.startsWith_iff, Text.endsWith_iff]
  by_cases h : ['<'] <+: word ∧ ['>'] <:+ word
  · simp [h]
  · simp [h]

theorem unwrapSlot?_of_isBracketed {word : Text} (h : IsBracketed word) :
    unwrapSlot? word = some (Text.dropWhileEnd (· == '>') (word.dropWhile (· == '<'))) := by
  have hboth : (Text.startsWith ['<'] word && Text.endsWith ['>'] word) = true := by
    rw [Bool.and_eq_true, Text.startsWith_iff, Text.endsWith_iff]
    exact h
  rw [unwrapSlot?, if_pos hboth]

theorem unwrapSlot?_of_brackets {opening closing : ℕ} {text : Text} (hopening : 1 ≤ opening) (hclosing : 1 ≤ closing)
    (hopen : ¬ ['<'] <+: text ++ List.replicate closing '>') (hclose : ¬ ['>'] <:+ text) :
    unwrapSlot? (List.replicate opening '<' ++ (text ++ List.replicate closing '>')) = some text := by
  rw [unwrapSlot?_of_isBracketed (isBracketed_of_brackets text hopening hclosing),
    Text.dropWhile_replicate_append opening hopen, Text.dropWhileEnd_append_replicate closing hclose]

/-- All brackets around a text are taken off, and there is at least one on either side. -/
theorem brackets_of_unwrapSlot? {word text : Text} (h : unwrapSlot? word = some text) :
    ∃ opening closing, 1 ≤ opening ∧ 1 ≤ closing ∧
      word = List.replicate opening '<' ++ (text ++ List.replicate closing '>') := by
  have hbracketed : IsBracketed word := by
    by_contra hnot
    rw [unwrapSlot?_eq_none_iff.mpr hnot] at h
    exact absurd h (by simp)
  rw [unwrapSlot?_of_isBracketed hbracketed, Option.some.injEq] at h
  obtain ⟨opening, hword, hopening⟩ := Text.exists_replicate_append_dropWhile '<' word
  obtain ⟨closing, hinner, hclosing⟩ := Text.exists_dropWhileEnd_append_replicate '>' (word.dropWhile (· == '<'))
  rw [h] at hinner
  refine ⟨opening, closing, hopening hbracketed.1, hclosing ?_, by rw [← hinner, ← hword]⟩
  -- The closing bracket at the end of the word cannot be one of the opening ones.
  have hsuf : ['>'] <:+ List.replicate opening '<' ++ word.dropWhile (· == '<') := hword ▸ hbracketed.2
  exact suffix_of_suffix_append hsuf (by simp)

theorem ofDeclaration_append {slot : Slot} {marks : Text} (hkey : IsKey slot.key) (hmarks : MarksKind slot.kind marks) :
    Slot.ofDeclaration (slot.key ++ marks) = slot := by
  obtain ⟨key, kind⟩ := slot
  simp only at hkey hmarks ⊢
  rw [Slot.ofDeclaration]
  simp only [Text.endsWith_iff]
  cases kind with
  | required =>
    obtain rfl : marks = [] := hmarks
    have hdots : ¬ ['.', '.', '.'] <:+ key := fun h =>
      hkey.not_mem (by decide) (h.subset (List.mem_cons_self : '.' ∈ ['.', '.', '.']))
    rw [List.append_nil, if_neg (hkey.not_suffix (by decide)), if_neg hdots]
  | optional =>
    obtain ⟨n, hn, rfl⟩ := hmarks
    obtain ⟨m, rfl⟩ : ∃ m, n = m + 1 := ⟨n - 1, by omega⟩
    have hmark : ['?'] <:+ key ++ List.replicate (m + 1) '?' :=
      List.suffix_append_of_suffix ⟨List.replicate m '?', List.replicate_succ'.symm⟩
    rw [if_pos hmark, Text.dropWhileEnd_append_replicate _ (hkey.not_suffix (by decide))]
  | flexible =>
    obtain ⟨n, hn, rfl⟩ := hmarks
    obtain ⟨m, rfl⟩ : ∃ m, n = m + 1 := ⟨n - 1, by omega⟩
    have hmark : ¬ ['?'] <:+ key ++ List.replicate (3 * (m + 1)) '.' :=
      not_suffix_append_replicate (by omega) (by decide)
    have hdots : ['.', '.', '.'] <:+ key ++ List.replicate (3 * (m + 1)) '.' :=
      List.suffix_append_of_suffix ⟨List.replicate (3 * m) '.', by rw [Nat.mul_succ, List.replicate_add]; rfl⟩
    have hrev : ¬ ['.'] <+: key.reverse := by
      rw [← List.reverse_suffix]
      simpa using hkey.not_suffix (c := '.') (by decide)
    rw [if_neg hmark, if_pos hdots, List.reverse_append, List.reverse_replicate,
      dropDots_replicate_append (m + 1) hrev, List.reverse_reverse]

theorem exists_ofDeclaration_append (text : Text) :
    ∃ marks, MarksKind (Slot.ofDeclaration text).kind marks ∧ text = (Slot.ofDeclaration text).key ++ marks := by
  rw [Slot.ofDeclaration]
  simp only [Text.endsWith_iff]
  by_cases hmark : ['?'] <:+ text
  · obtain ⟨n, htext, hn⟩ := Text.exists_dropWhileEnd_append_replicate '?' text
    rw [if_pos hmark]
    exact ⟨List.replicate n '?', ⟨n, hn hmark, rfl⟩, htext⟩
  · rw [if_neg hmark]
    by_cases hdots : ['.', '.', '.'] <:+ text
    · obtain ⟨n, htext, hn⟩ := exists_replicate_append_dropDots text.reverse
      have hrev := congrArg List.reverse htext
      rw [List.reverse_reverse, List.reverse_append, List.reverse_replicate] at hrev
      rw [if_pos hdots]
      exact ⟨List.replicate (3 * n) '.', ⟨n, hn (by simpa using List.reverse_prefix.mpr hdots), rfl⟩, hrev⟩
    · rw [if_neg hdots]
      exact ⟨[], rfl, (List.append_nil text).symm⟩

/-- A word declares at most one slot, the one that reading it gives. -/
theorem declares_iff {word : Text} {slot : Slot} :
    Declares word slot ↔ IsKey slot.key ∧ ∃ text, unwrapSlot? word = some text ∧ Slot.ofDeclaration text = slot := by
  constructor
  · rintro ⟨hkey, opening, closing, marks, hopening, hclosing, hmarks, rfl⟩
    refine ⟨hkey, slot.key ++ marks, ?_, ofDeclaration_append hkey hmarks⟩
    have hopen : ¬ ['<'] <+: slot.key ++ marks ++ List.replicate closing '>' := by
      rw [List.append_assoc]
      exact hkey.not_prefix _ (by decide)
    have hword := unwrapSlot?_of_brackets hopening hclosing hopen (hmarks.not_suffix hkey)
    simpa only [List.append_assoc] using hword
  · rintro ⟨hkey, text, hword, rfl⟩
    obtain ⟨opening, closing, hopening, hclosing, rfl⟩ := brackets_of_unwrapSlot? hword
    obtain ⟨marks, hmarks, htext⟩ := exists_ofDeclaration_append text
    refine ⟨hkey, opening, closing, marks, hopening, hclosing, hmarks, ?_⟩
    rw [List.append_assoc _ _ marks, ← htext, List.append_assoc]

/-! ## The order of kinds -/

/-- Whether a slot of the first kind may stand somewhere before one of the second. -/
def MayPrecede : SlotKind → SlotKind → Prop
  | .required, _ => True
  | .optional, kind => kind ≠ .required
  | .flexible, _ => False

theorem inOrder_iff_pairwise {kinds : List SlotKind} : InOrder kinds ↔ kinds.Pairwise MayPrecede := by
  constructor
  · rintro ⟨r, o, f, hf, rfl⟩
    have hflexible : f ≤ 1 ∨ MayPrecede .flexible .flexible := .inl hf
    simp only [List.pairwise_append, List.pairwise_replicate, List.mem_append, List.mem_replicate]
    refine ⟨⟨.inr trivial, .inr SlotKind.noConfusion, ?_⟩, hflexible, ?_⟩
    · rintro a ⟨-, rfl⟩ b -
      trivial
    · rintro a (⟨-, rfl⟩ | ⟨-, rfl⟩) b ⟨-, rfl⟩
      · trivial
      · exact SlotKind.noConfusion
  · intro h
    induction kinds with
    | nil => exact ⟨0, 0, 0, Nat.zero_le 1, rfl⟩
    | cons kind kinds ih =>
      obtain ⟨hfirst, hrest⟩ := List.pairwise_cons.mp h
      obtain ⟨r, o, f, hf, rfl⟩ := ih hrest
      cases kind with
      | required => exact ⟨r + 1, o, f, hf, rfl⟩
      | optional =>
        have hr : r = 0 := by
          by_contra hr
          exact hfirst .required (by simp [hr]) rfl
        subst hr
        exact ⟨0, o + 1, f, hf, rfl⟩
      | flexible =>
        refine ⟨0, 0, 1, Nat.le_refl 1, ?_⟩
        rw [List.eq_nil_iff_forall_not_mem.mpr hfirst]
        rfl

theorem mayPrecede_required_iff {kind : SlotKind} :
    MayPrecede kind .required ↔ ¬ (kind = .optional ∨ kind = .flexible) := by
  cases kind <;> simp [MayPrecede]

theorem mayPrecede_optional_iff {kind : SlotKind} : MayPrecede kind .optional ↔ ¬ kind = .flexible := by
  cases kind <;> simp [MayPrecede]

theorem mayPrecede_flexible_iff {kind : SlotKind} : MayPrecede kind .flexible ↔ ¬ kind = .flexible := by
  cases kind <;> simp [MayPrecede]

theorem checkOrder_eq_ok_iff {slots : List Slot} {kind : SlotKind} :
    checkOrder slots kind = .ok () ↔ ∀ slot ∈ slots, MayPrecede slot.kind kind := by
  cases kind with
  | required => simp [checkOrder, mayPrecede_required_iff]
  | optional => simp [checkOrder, mayPrecede_optional_iff]
  | flexible => simp [checkOrder, mayPrecede_flexible_iff]

/-! ## The slots of a line -/

/-- Slots that may stand together: no key occurs twice, and the kinds are in order. -/
def Compatible (slots : List Slot) : Prop := (slots.map Slot.key).Nodup ∧ InOrder (slots.map Slot.kind)

theorem compatible_nil : Compatible [] := ⟨.nil, 0, 0, 0, Nat.zero_le 1, rfl⟩

theorem compatible_append_iff {slots added : List Slot} :
    Compatible (slots ++ added) ↔ Compatible slots ∧ Compatible added ∧
      ∀ s ∈ slots, ∀ t ∈ added, s.key ≠ t.key ∧ MayPrecede s.kind t.kind := by
  simp only [Compatible, inOrder_iff_pairwise, List.Nodup, List.pairwise_map, List.pairwise_append]
  constructor
  · rintro ⟨⟨h1, h2, h3⟩, h4, h5, h6⟩
    exact ⟨⟨h1, h4⟩, ⟨h2, h5⟩, fun s hs t ht => ⟨h3 s hs t ht, h6 s hs t ht⟩⟩
  · rintro ⟨⟨h1, h4⟩, ⟨h2, h5⟩, h⟩
    exact ⟨⟨h1, h2, fun s hs t ht => (h s hs t ht).1⟩, h4, h5, fun s hs t ht => (h s hs t ht).2⟩

theorem compatible_singleton (slot : Slot) : Compatible [slot] :=
  ⟨List.pairwise_singleton _ _, inOrder_iff_pairwise.mpr (List.pairwise_singleton _ _)⟩

theorem addSlot_eq_ok_iff {slots result : List Slot} {slot : Slot} (h : Compatible slots) :
    addSlot slots slot = .ok result ↔ IsKey slot.key ∧ Compatible (slots ++ [slot]) ∧ result = slots ++ [slot] := by
  have hnew : Compatible (slots ++ [slot]) ↔ (∀ s ∈ slots, s.key ≠ slot.key) ∧ checkOrder slots slot.kind = .ok () := by
    rw [compatible_append_iff, checkOrder_eq_ok_iff]
    simp [h, compatible_singleton, forall_and]
  rw [hnew, addSlot, ← isAlphanumericText_iff]
  by_cases hkey : Text.isAlphanumericText slot.key = true
  · by_cases hdup : slots.any (·.key = slot.key) = true
    · obtain ⟨s, hs, hsame⟩ := List.any_eq_true.mp hdup
      have hclash : ¬ ∀ s ∈ slots, s.key ≠ slot.key := fun hall => hall s hs (by simpa using hsame)
      simp [hkey, hdup, hclash]
    · have hfresh : ∀ s ∈ slots, s.key ≠ slot.key := by simpa using hdup
      cases hcheck : checkOrder slots slot.kind with
      | error e => simp [hkey, hdup]
      | ok u =>
        simp only [hkey, hdup, Bool.not_true, Bool.false_eq_true, if_false, Except.ok.injEq, true_and, and_true]
        exact ⟨fun h => ⟨hfresh, h.symm⟩, fun h => h.2.symm⟩
  · simp [hkey]

/-- What is declared so far stays compatible; the words still to come decide on their own slots. -/
theorem addSlots_eq_ok_iff {slots result : List Slot} {words : List Text} (h : Compatible slots) :
    addSlots slots words = .ok result ↔ ∃ added, result = slots ++ added ∧ Compatible result ∧
      List.Forall₂ Declares (words.filter fun word => IsBracketed word) added := by
  induction words generalizing slots with
  | nil =>
    simp only [addSlots, Except.ok.injEq, List.filter_nil, List.forall₂_nil_left_iff]
    constructor
    · rintro rfl
      exact ⟨[], (List.append_nil slots).symm, h, rfl⟩
    · rintro ⟨added, rfl, -, rfl⟩
      exact (List.append_nil slots).symm
  | cons word words ih =>
    cases hword : unwrapSlot? word with
    | none =>
      have hfilter : (word :: words).filter (fun word => IsBracketed word) = words.filter fun word => IsBracketed word :=
        List.filter_cons_of_neg (by simpa using unwrapSlot?_eq_none_iff.mp hword)
      simp only [addSlots, hword]
      rw [hfilter]
      exact ih h
    | some text =>
      have hbracketed : IsBracketed word := by
        by_contra hnot
        rw [unwrapSlot?_eq_none_iff.mpr hnot] at hword
        exact absurd hword (by simp)
      rw [List.filter_cons_of_pos (by simpa using hbracketed)]
      constructor
      · intro hok
        simp only [addSlots, hword] at hok
        cases hadd : addSlot slots (Slot.ofDeclaration text) with
        | error e => exact absurd hok (by simp [hadd])
        | ok slots' =>
          simp only [hadd] at hok
          obtain ⟨hkey, hcompatible, rfl⟩ := (addSlot_eq_ok_iff h).mp hadd
          obtain ⟨added, rfl, hresult, hadded⟩ := (ih hcompatible).mp hok
          exact ⟨Slot.ofDeclaration text :: added, List.append_assoc .., hresult,
            .cons (declares_iff.mpr ⟨hkey, text, hword, rfl⟩) hadded⟩
      · rintro ⟨added, rfl, hresult, hadded⟩
        obtain ⟨slot, added, hslot, hrest, rfl⟩ := List.forall₂_cons_left_iff.mp hadded
        obtain ⟨hkey, text', hword', rfl⟩ := declares_iff.mp hslot
        obtain rfl : text = text' := Option.some.inj (hword.symm.trans hword')
        have hsplit : slots ++ Slot.ofDeclaration text :: added = slots ++ [Slot.ofDeclaration text] ++ added :=
          (List.append_assoc slots [Slot.ofDeclaration text] added).symm
        have hcompatible : Compatible (slots ++ [Slot.ofDeclaration text]) := by
          rw [hsplit] at hresult
          exact (compatible_append_iff.mp hresult).1
        simp only [addSlots, hword, (addSlot_eq_ok_iff h).mpr ⟨hkey, hcompatible, rfl⟩]
        exact (ih hcompatible).mpr ⟨added, hsplit, hresult, hrest⟩

/-! ## The whole line -/

theorem usageWords_eq_usagePieces (leader : Char) (usage : Text) :
    usageWords (Text.dropLeading [leader] usage) = usagePieces leader usage := by
  have htext : Text.dropLeading [leader] usage = if [leader] <+: usage then usage.drop 1 else usage := by
    by_cases h : [leader] <+: usage
    · rw [if_pos h, Text.dropLeading_eq_drop h]
      rfl
    · rw [if_neg h, Text.dropLeading_eq_self h]
  rw [usageWords, usagePieces, htext, Text.splitOn_eq_list_splitOn]

theorem mem_splitOn_of_mem_usagePieces {leader : Char} {usage word : Text} (h : word ∈ usagePieces leader usage) :
    word ∈ List.splitOn ' ' (if [leader] <+: usage then usage.drop 1 else usage) := by
  simp only [usagePieces] at h
  generalize (if [leader] <+: usage then usage.drop 1 else usage) = text at h ⊢
  by_cases hlast : (List.splitOn ' ' text).getLast? = some []
  · rw [if_pos hlast] at h
    exact (List.dropLast_sublist _).subset h
  · rwa [if_neg hlast] at h

theorem space_not_mem_of_mem_usagePieces {leader : Char} {usage word : Text} (h : word ∈ usagePieces leader usage) :
    ' ' ∉ word := by
  intro hmem
  exact (Text.mem_and_ne_of_mem_splitOn (mem_splitOn_of_mem_usagePieces h) hmem).2 rfl

theorem mem_usage_of_mem_usagePieces {leader c : Char} {usage word : Text} (h : word ∈ usagePieces leader usage)
    (hc : c ∈ word) : c ∈ usage := by
  have hmem := (Text.mem_and_ne_of_mem_splitOn (mem_splitOn_of_mem_usagePieces h) hc).1
  by_cases hleader : [leader] <+: usage
  · rw [if_pos hleader] at hmem
    exact List.mem_of_mem_drop hmem
  · rwa [if_neg hleader] at hmem

theorem usage_mem_lineage_of_addSlot {slots : List Slot} {slot : Slot} {e : UsageError}
    (h : addSlot slots slot = .error e) : .usage ∈ e.family.lineage := by
  cases e with
  | leader given =>
    rw [addSlot] at h
    cases hkind : slot.kind <;> simp only [checkOrder, hkind] at h <;> grind
  | _ => simp [UsageError.family, ErrorFamily.lineage, ErrorFamily.parents]

theorem usage_mem_lineage_of_addSlots {slots : List Slot} {words : List Text} {e : UsageError}
    (h : addSlots slots words = .error e) : .usage ∈ e.family.lineage := by
  induction words generalizing slots with
  | nil => exact absurd h (by simp [addSlots])
  | cons word words ih =>
    cases hword : unwrapSlot? word with
    | none =>
      simp only [addSlots, hword] at h
      exact ih h
    | some text =>
      simp only [addSlots, hword] at h
      cases hadd : addSlot slots (Slot.ofDeclaration text) with
      | error e' =>
        simp only [hadd, Except.error.injEq] at h
        exact h ▸ usage_mem_lineage_of_addSlot hadd
      | ok slots' =>
        simp only [hadd] at h
        exact ih h

theorem ofUsage_eq (leader : Char) (usage : Text) (elevated : Bool) :
    Schema.ofUsage [leader] usage elevated =
      match usagePieces leader usage with
      | [] | [] :: _ => .error .missingName
      | name :: words =>
        match addSlots [] words with
        | .error e => .error e
        | .ok slots => .ok { name, usage, slots, elevated, leader := [leader] } := by
  rw [← usageWords_eq_usagePieces]
  rfl

theorem declaresCommand_iff {leader : Char} {usage name : Text} {slots : List Slot} :
    DeclaresCommand leader usage name slots ↔
      name ≠ [] ∧ ∃ words, usagePieces leader usage = name :: words ∧ addSlots [] words = .ok slots := by
  simp only [addSlots_eq_ok_iff compatible_nil, List.nil_append]
  constructor
  · rintro ⟨hname, ⟨words, hwords, hdeclared⟩, hkeys, horder⟩
    exact ⟨hname, words, hwords, slots, rfl, ⟨hkeys, horder⟩, hdeclared⟩
  · rintro ⟨hname, words, hwords, added, rfl, ⟨hkeys, horder⟩, hdeclared⟩
    exact ⟨hname, ⟨words, hwords, hdeclared⟩, hkeys, horder⟩

theorem ofUsage_eq_ok_iff {leader : Char} {usage : Text} {elevated : Bool} {s : Schema} :
    Schema.ofUsage [leader] usage elevated = .ok s ↔
      DeclaresCommand leader usage s.name s.slots ∧
        s.usage = usage ∧ s.leader = [leader] ∧ s.elevated = elevated := by
  obtain ⟨name, usage', slots, elevated', leader'⟩ := s
  rw [ofUsage_eq, declaresCommand_iff]
  generalize usagePieces leader usage = pieces
  rcases pieces with _ | ⟨first, words⟩
  · simp
  · rcases first with _ | ⟨c, first⟩
    · simp only [reduceCtorEq, false_iff]
      rintro ⟨⟨hname, words', hwords, -⟩, -⟩
      exact hname (List.cons.inj hwords).1.symm
    · cases hadd : addSlots [] words with
      | error e =>
        simp only [hadd, reduceCtorEq, false_iff]
        rintro ⟨⟨-, words', hwords, hslots⟩, -⟩
        rw [← (List.cons.inj hwords).2, hadd] at hslots
        exact absurd hslots (by simp)
      | ok added =>
        simp only [hadd, Except.ok.injEq, Schema.mk.injEq]
        constructor
        · rintro ⟨rfl, rfl, rfl, rfl, rfl⟩
          exact ⟨⟨List.cons_ne_nil c first, words, rfl, hadd⟩, rfl, rfl, rfl⟩
        · rintro ⟨⟨-, words', hwords, hslots⟩, rfl, rfl, rfl⟩
          obtain ⟨rfl, rfl⟩ := List.cons.inj hwords
          exact ⟨rfl, rfl, Except.ok.inj (hadd.symm.trans hslots), rfl, rfl⟩

theorem exists_leader_of_ofUsage {leader usage : Text} {elevated : Bool} {s : Schema}
    (h : Schema.ofUsage leader usage elevated = .ok s) :
    ∃ c, leader = [c] ∧ DeclaresCommand c usage s.name s.slots ∧
      s.usage = usage ∧ s.leader = leader ∧ s.elevated = elevated := by
  have hlength : leader.length = 1 := by
    by_contra hlength
    simp [Schema.ofUsage, hlength] at h
  obtain ⟨c, rfl⟩ := List.length_eq_one_iff.mp hlength
  exact ⟨c, rfl, ofUsage_eq_ok_iff.mp h⟩

theorem usage_mem_lineage_of_ofUsage {leader : Char} {usage : Text} {elevated : Bool} {e : UsageError}
    (h : Schema.ofUsage [leader] usage elevated = .error e) : .usage ∈ e.family.lineage := by
  rw [ofUsage_eq] at h
  generalize usagePieces leader usage = pieces at h
  rcases pieces with _ | ⟨first, words⟩
  · obtain rfl : UsageError.missingName = e := Except.error.inj h
    decide
  · rcases first with _ | ⟨c, first⟩
    · obtain rfl : UsageError.missingName = e := Except.error.inj h
      decide
    · cases hadd : addSlots [] words with
      | error e' =>
        obtain rfl : e' = e := by simpa [hadd] using h
        exact usage_mem_lineage_of_addSlots hadd
      | ok slots => exact absurd h (by simp [hadd])

theorem DeclaresCommand.bracket_mem {leader : Char} {usage name : Text} {slots : List Slot}
    (h : DeclaresCommand leader usage name slots) (hslots : slots ≠ []) : '<' ∈ usage := by
  obtain ⟨words, hwords, hdeclared⟩ := h.words
  obtain ⟨slot, slots', rfl⟩ := List.exists_cons_of_ne_nil hslots
  obtain ⟨word, rest, -, -, hfilter⟩ := List.forall₂_cons_right_iff.mp hdeclared
  have hmem : word ∈ words.filter fun word => IsBracketed word := hfilter ▸ List.mem_cons_self
  obtain ⟨hword, hbracketed⟩ := List.mem_filter.mp hmem
  have hopen : '<' ∈ word := (of_decide_eq_true hbracketed).1.subset List.mem_cons_self
  exact mem_usage_of_mem_usagePieces (hwords ▸ List.mem_cons_of_mem name hword) hopen

/-- A usage line is read exactly when it is one of the grammar; the command is the one it declares, and every other line is
refused for a fault of usage. -/
theorem ofUsage_reads_grammar (leader : Char) (usage : Text) (elevated : Bool) :
    (∀ s, Schema.ofUsage [leader] usage elevated = .ok s ↔
      DeclaresCommand leader usage s.name s.slots ∧
        s.usage = usage ∧ s.leader = [leader] ∧ s.elevated = elevated) ∧
    (∀ s, Schema.ofUsage [leader] usage elevated = .ok s → s.name ≠ [] ∧ ' ' ∉ s.name) ∧
    (∀ e, Schema.ofUsage [leader] usage elevated = .error e → .usage ∈ e.family.lineage) := by
  refine ⟨fun s => ofUsage_eq_ok_iff, fun s hs => ?_, fun e he => usage_mem_lineage_of_ofUsage he⟩
  obtain ⟨hname, words, hwords, -⟩ := declaresCommand_iff.mp (ofUsage_eq_ok_iff.mp hs).1
  exact ⟨hname, space_not_mem_of_mem_usagePieces (hwords ▸ List.mem_cons_self)⟩

/-- A line with all three kinds of slots, written with more brackets and marks than are needed. -/
theorem ofUsage_reads_grammar_of_all_kinds :
    ∃ s, Schema.ofUsage ['!'] "!hello you <<name> <other??>> <rest......> " false = .ok s ∧
      (s.name ≠ [] ∧ ' ' ∉ s.name) ∧
      s.slots = [⟨"name", .required⟩, ⟨"other", .optional⟩, ⟨"rest", .flexible⟩] := by
  refine ⟨⟨"hello", "!hello you <<name> <other??>> <rest......> ",
    [⟨"name", .required⟩, ⟨"other", .optional⟩, ⟨"rest", .flexible⟩], false, ['!']⟩, by decide, ?_, rfl⟩
  exact (ofUsage_reads_grammar '!' "!hello you <<name> <other??>> <rest......> " false).2.1 _ (by decide)

end ChatBot.Command
