import Mathlib.Algebra.Group.Nat.Defs
import Mathlib.Data.Int.Notation
import ChatBot.Duration
import ChatBot.Proofs.Text.Pieces

/-!
What the words of a duration say. A number of seconds breaks down into days, hours, minutes and seconds, none of them so many that they
make up a larger unit. Its words enumerate the counts that are not zero, and whoever reads them piece by piece gets the number back.
There are words as long as the days are not too many to be printed.
-/
set_option autoImplicit false

namespace ChatBot

/-! ## Numerals -/

theorem Decimal.valueOf_ofNat (n : ℕ) : valueOf (Text.ofNat n) = n := Nat.ofDigitChars_toDigits (by decide) (by decide)

/-- The least number with more than so many digits. -/
@[irreducible] def Decimal.leastLonger (digits : ℕ) : ℕ := 10 ^ digits

theorem Decimal.leastLonger_eq (digits : ℕ) : leastLonger digits = 10 ^ digits := by rw [leastLonger]

theorem Decimal.printWhole?_natCast (n : ℕ) :
    printWhole? n = if leastLonger mostDigits ≤ n then none else some (Text.ofNat n) := by
  have hlength : ∀ k > 0, k < (Text.ofNat n).length ↔ leastLonger k ≤ n := fun k hk => by
    have hle : (Text.ofNat n).length ≤ k ↔ n < 10 ^ k := Nat.length_toDigits_le_iff (by decide) hk
    rw [← Nat.not_le, hle, Nat.not_lt, leastLonger_eq]
  rw [printWhole?, Int.natAbs_natCast]
  exact if_congr (hlength mostDigits (by decide)) rfl rfl

theorem Decimal.hundred_le_leastLonger {digits : ℕ} (h : 2 ≤ digits) : 100 ≤ leastLonger digits := by
  rw [leastLonger_eq]
  exact Nat.pow_le_pow_right (show 0 < 10 by decide) h

theorem Text.not_mem_ofNat {c : Char} (hc : c.isDigit = false) (n : ℕ) : c ∉ ofNat n := fun h =>
  absurd (Nat.isDigit_of_mem_toDigits (by decide) (by decide) h) (by simp [hc])

namespace Duration

/-! ## Breaking down -/

/-- The seconds that counts of units add up to. -/
def total : List (ℕ × TimeUnit) → ℕ
  | [] => 0
  | p :: parts => p.1 * p.2.seconds + total parts

/-- Counts of units that make up a number of seconds: each unit at most once, the longest first, and no more of it than fit into a
longer one. -/
structure BreaksDown (n : ℕ) (parts : List (ℕ × TimeUnit)) : Prop where
  in_order : (parts.map Prod.snd).Sublist [day, hour, minute, second]
  positive : ∀ p ∈ parts, 0 < p.1
  hours : ∀ count, (count, hour) ∈ parts → count ≤ 23
  minutes : ∀ count, (count, minute) ∈ parts → count ≤ 59
  seconds : ∀ count, (count, second) ∈ parts → count ≤ 59
  total_eq : total parts = n

/-- How often each unit goes into what the units before it leave over. -/
def shares : List TimeUnit → ℕ → List (ℕ × TimeUnit)
  | [], _ => []
  | u :: us, n => (n / u.seconds, u) :: shares us (n % u.seconds)

/-- The shares that are not zero. -/
def breakdown (n : ℕ) : List (ℕ × TimeUnit) := (shares units n).filter fun p => decide (0 < p.1)

theorem counts_natCast (us : List TimeUnit) (n : ℕ) : counts us n = (shares us n).map fun p => ((p.1 : ℤ), p.2) := by
  induction us generalizing n with
  | nil => rfl
  | cons u us ih => rw [counts, shares, List.map_cons, ← Int.ofNat_fdiv, ← Int.ofNat_fmod, ih]

theorem map_snd_shares (us : List TimeUnit) (n : ℕ) : (shares us n).map Prod.snd = us := by
  induction us generalizing n with
  | nil => rfl
  | cons u us ih => rw [shares, List.map_cons, ih]

/-- Nothing is left over by the last of the units, which is the second. -/
theorem total_shares (us : List TimeUnit) (n : ℕ) : total (shares (us ++ [second]) n) = n := by
  induction us generalizing n with
  | nil =>
    change n / 1 * 1 + 0 = n
    omega
  | cons u us ih => rw [List.cons_append, shares, total, ih, Nat.div_add_mod']

theorem total_filter_pos (parts : List (ℕ × TimeUnit)) : total (parts.filter fun p => decide (0 < p.1)) = total parts := by
  induction parts with
  | nil => rfl
  | cons p parts ih =>
    rw [total]
    by_cases hp : 0 < p.1
    · rw [List.filter_cons_of_pos (by simpa using hp), total, ih]
    · have hzero : p.1 = 0 := by omega
      rw [List.filter_cons_of_neg (by simpa using hzero), ih, hzero, Nat.zero_mul, Nat.zero_add]

theorem mem_breakdown_iff {n : ℕ} {p : ℕ × TimeUnit} : p ∈ breakdown n ↔ p ∈ shares units n ∧ 0 < p.1 := by
  rw [breakdown, List.mem_filter, decide_eq_true_iff]

theorem breaksDown_breakdown (n : ℕ) : BreaksDown n (breakdown n) := by
  have hmem (count : ℕ) (u : TimeUnit) (h : (count, u) ∈ breakdown n) :
      (count, u) ∈ [(n / 86400, day), (n % 86400 / 3600, hour), (n % 86400 % 3600 / 60, minute),
        (n % 86400 % 3600 % 60 / 1, second)] := (mem_breakdown_iff.mp h).1
  have hdistinct : hour ≠ day ∧ hour ≠ minute ∧ hour ≠ second ∧ minute ≠ day ∧ minute ≠ hour ∧ minute ≠ second ∧
      second ≠ day ∧ second ≠ hour ∧ second ≠ minute := by decide
  have hsublist : ((breakdown n).map Prod.snd).Sublist ((shares units n).map Prod.snd) := List.filter_sublist.map Prod.snd
  refine ⟨?_, fun p hp => (mem_breakdown_iff.mp hp).2, fun count h => ?_, fun count h => ?_, fun count h => ?_, ?_⟩
  · rwa [map_snd_shares] at hsublist
  · have hcount : count = n % 86400 / 3600 := by simpa [hdistinct] using hmem count hour h
    omega
  · have hcount : count = n % 86400 % 3600 / 60 := by simpa [hdistinct] using hmem count minute h
    omega
  · have hcount : count = n % 86400 % 3600 % 60 := by simpa [hdistinct] using hmem count second h
    omega
  · rw [breakdown, total_filter_pos]
    exact total_shares [day, hour, minute] n

/-! ## Enumerating -/

/-- What is written behind a unit of which there are so many: nothing behind one of it. -/
def plural (count : ℕ) : Text := if count = 1 then [] else ['s']

/-- A count with its unit, which is in the singular after one and in the plural after any other count. -/
def quantity (p : ℕ × TimeUnit) : Text := Text.ofNat p.1 ++ ' ' :: (p.2.name ++ plural p.1)

/-- Commas between the parts, but a conjunction before the last. -/
def enumeration : List Text → Text
  | [] => []
  | [part] => part
  | [part, last] => part ++ " and " ++ last
  | part :: next :: later :: rest => part ++ ", " ++ enumeration (next :: later :: rest)

theorem part_natCast {p : ℕ × TimeUnit} (hp : 0 < p.1) (hshort : p.1 < Decimal.leastLonger Decimal.mostDigits) :
    part ((p.1 : ℤ), p.2) = .ok (quantity p) := by
  have hplural : (if (p.1 : ℤ) > 1 then ['s'] else []) = plural p.1 := by
    rw [plural]
    split_ifs <;> first | rfl | omega
  rw [part, Decimal.printWhole?_natCast, if_neg (Nat.not_le.mpr hshort), hplural, quantity, ← List.cons_append,
    ← List.append_assoc]

theorem part_of_long {count : ℕ} (h : Decimal.leastLonger Decimal.mostDigits ≤ count) (u : TimeUnit) :
    part ((count : ℤ), u) = .error (.value Decimal.unprintable) := by
  rw [part, Decimal.printWhole?_natCast, if_pos h]

theorem joinParts_concat {parts : List Text} (hparts : parts ≠ []) (last : Text) :
    joinParts (parts ++ [last]) = Text.join ", " parts ++ " and " ++ last := by
  have hlength : ¬ (parts ++ [last]).length ≤ 1 := by
    have := List.length_pos_iff.mpr hparts
    rw [List.length_append, List.length_singleton]
    omega
  rw [joinParts, List.getLast?_concat]
  simp only [if_neg hlength, List.dropLast_concat]

theorem joinParts_eq_enumeration (parts : List Text) : joinParts parts = enumeration parts := by
  induction parts using enumeration.induct with
  | case1 => rfl
  | case2 part => rfl
  | case3 part last => simpa [Text.join, enumeration] using joinParts_concat (List.cons_ne_nil part []) last
  | case4 part next later rest ih =>
    obtain ⟨init, last, hinit⟩ : ∃ init last, later :: rest = init ++ [last] :=
      ⟨_, _, (List.dropLast_append_getLast (List.cons_ne_nil later rest)).symm⟩
    rw [hinit, ← List.cons_append, joinParts_concat (List.cons_ne_nil next init)] at ih
    rw [enumeration, hinit, ← List.cons_append, ← List.cons_append, joinParts_concat (List.cons_ne_nil _ _), Text.join,
      List.intercalate_cons_cons, ← ih]
    simp only [Text.join, List.append_assoc]

/-! ## Telling -/

/-- The first number of seconds that makes up too many days to be told. -/
def tooLong : ℕ := day.seconds * Decimal.leastLonger Decimal.mostDigits

/-- Of the shares only the days can have many digits. -/
theorem short_of_mem_breakdown {n : ℕ} (h : n < tooLong) {p : ℕ × TimeUnit} (hp : p ∈ breakdown n) :
    p.1 < Decimal.leastLonger Decimal.mostDigits := by
  have hmem : p ∈ [(n / 86400, day), (n % 86400 / 3600, hour), (n % 86400 % 3600 / 60, minute),
      (n % 86400 % 3600 % 60 / 1, second)] := (mem_breakdown_iff.mp hp).1
  have hlong : 100 ≤ Decimal.leastLonger Decimal.mostDigits := Decimal.hundred_le_leastLonger (by decide)
  have hday : n < 86400 * Decimal.leastLonger Decimal.mostDigits := h
  simp only [List.mem_cons, List.not_mem_nil, or_false] at hmem
  rcases hmem with rfl | rfl | rfl | rfl <;> dsimp only <;> omega

theorem mapM_eq_ok {α β : Type} {f : α → Except Fault β} {g : α → β} {l : List α} (h : ∀ a ∈ l, f a = .ok (g a)) :
    l.mapM f = .ok (l.map g) := by
  induction l with
  | nil => rfl
  | cons a l ih =>
    obtain ⟨ha, hl⟩ := List.forall_mem_cons.mp h
    rw [List.mapM_cons, ha, ih hl]
    rfl

theorem filter_counts (n : ℕ) :
    (counts units n).filter (fun c => decide (0 < c.1)) = (breakdown n).map fun p => ((p.1 : ℤ), p.2) := by
  rw [counts_natCast, List.filter_map, breakdown]
  congr 1
  exact List.filter_congr fun p _ => by simp

theorem words_of_lt {n : ℕ} (h : n < tooLong) : words n = .ok (enumeration ((breakdown n).map quantity)) := by
  have hparts : ((breakdown n).map fun p => ((p.1 : ℤ), p.2)).mapM part = .ok ((breakdown n).map quantity) := by
    rw [List.mapM_map]
    exact mapM_eq_ok fun p hp => part_natCast ((breaksDown_breakdown n).positive p hp) (short_of_mem_breakdown h hp)
  rw [words, filter_counts, hparts, ← joinParts_eq_enumeration]
  rfl

/-- The days come first, and so the first part already is not printed. -/
theorem words_of_le {n : ℕ} (h : tooLong ≤ n) : words n = .error (.value Decimal.unprintable) := by
  have hdays : Decimal.leastLonger Decimal.mostDigits ≤ n / 86400 :=
    (Nat.le_div_iff_mul_le (by decide)).mpr (Nat.mul_comm .. ▸ h)
  have hlong : 100 ≤ Decimal.leastLonger Decimal.mostDigits := Decimal.hundred_le_leastLonger (by decide)
  have hpositive : 0 < n / 86400 := by omega
  obtain ⟨rest, hrest⟩ : ∃ rest, breakdown n = (n / 86400, day) :: rest :=
    ⟨_, List.filter_cons_of_pos (decide_eq_true hpositive)⟩
  rw [words, filter_counts, hrest, List.map_cons, List.mapM_cons, part_of_long hdays]
  rfl

/-! ## Reading -/

/-- The seconds in the unit whose name a piece of text begins with. -/
def lengthNamed (piece : Text) : ℕ := ((units.find? fun u => Text.startsWith u.name piece).map TimeUnit.seconds).getD 0

/-- The seconds that pieces tell of, which are counts and units in turn. -/
def tally : List Text → ℕ
  | count :: unit :: rest => Decimal.valueOf count * lengthNamed unit + tally rest
  | _ => 0

/-- Whether a piece tells of anything; a conjunction does not. -/
def isTelling (piece : Text) : Bool := decide (piece ≠ ("and" : Text))

/-- The seconds that words tell of. -/
def read (t : Text) : ℕ := tally ((Text.splitOn ' ' t).filter isTelling)

theorem isTelling_ofNat (n : ℕ) : isTelling (Text.ofNat n) = true := by
  rw [isTelling, decide_eq_true_iff]
  intro h
  have hletter : 'a' ∉ Text.ofNat n := Text.not_mem_ofNat rfl n
  rw [h] at hletter
  exact hletter List.mem_cons_self

theorem not_mem_plural (count : ℕ) : ' ' ∉ plural count := by
  rw [plural]
  split_ifs <;> decide

theorem read_and (rest : Text) : read ("and " ++ rest) = read rest := by
  have hand : ' ' ∉ ("and" : Text) := by decide
  have hsplit : Text.splitOn ' ' ("and " ++ rest) = ("and" : Text) :: Text.splitOn ' ' rest :=
    Text.splitOn_append_cons hand rest
  rw [read, hsplit, List.filter_cons_of_neg (by decide), read]

section
variable {p : ℕ × TimeUnit} (hp : p.2 ∈ units)
include hp

theorem not_mem_name : ' ' ∉ p.2.name := by
  have hall : ∀ u ∈ units, ' ' ∉ u.name := by decide
  exact hall p.2 hp

theorem isTelling_name_append (tail : Text) : isTelling (p.2.name ++ tail) = true := by
  have hall : ∀ u ∈ units, u.name ≠ [] ∧ u.name.head? ≠ some 'a' := by decide
  obtain ⟨hname, hhead⟩ := hall p.2 hp
  rw [isTelling, decide_eq_true_iff]
  intro h
  rw [← List.head?_append_of_ne_nil p.2.name hname, h] at hhead
  exact hhead rfl

theorem lengthNamed_append (tail : Text) : lengthNamed (p.2.name ++ tail) = p.2.seconds := by
  have hall : ∀ u ∈ units, lengthNamed (u.name ++ tail) = u.seconds := by
    simp only [units, List.forall_mem_cons]
    exact ⟨rfl, rfl, rfl, rfl, by simp⟩
  exact hall p.2 hp

theorem tally_filter_cons (tail : Text) (pieces : List Text) :
    tally ((Text.ofNat p.1 :: (p.2.name ++ tail) :: pieces).filter isTelling) =
      p.1 * p.2.seconds + tally (pieces.filter isTelling) := by
  rw [List.filter_cons_of_pos (isTelling_ofNat p.1), List.filter_cons_of_pos (isTelling_name_append hp tail), tally,
    Decimal.valueOf_ofNat, lengthNamed_append hp]

/-- A count and its unit are read off together, whatever is written right behind the unit. -/
theorem read_append {tail : Text} (htail : ' ' ∉ tail) (rest : Text) :
    read (Text.ofNat p.1 ++ ' ' :: (p.2.name ++ tail ++ ' ' :: rest)) = p.1 * p.2.seconds + read rest := by
  have hblank : ' ' ∉ p.2.name ++ tail := List.not_mem_append (not_mem_name hp) htail
  rw [read, Text.splitOn_append_cons (Text.not_mem_ofNat rfl p.1), Text.splitOn_append_cons hblank, tally_filter_cons hp, read]

theorem read_quantity_append (ending : Text) (hending : ' ' ∉ ending) (rest : Text) :
    read (quantity p ++ (ending ++ ' ' :: rest)) = p.1 * p.2.seconds + read rest := by
  have happend := read_append hp (List.not_mem_append (not_mem_plural p.1) hending) rest
  simpa only [quantity, List.append_assoc, List.cons_append] using happend

theorem read_quantity : read (quantity p) = p.1 * p.2.seconds := by
  have hblank : ' ' ∉ p.2.name ++ plural p.1 := List.not_mem_append (not_mem_name hp) (not_mem_plural p.1)
  rw [read, quantity, Text.splitOn_append_cons (Text.not_mem_ofNat rfl p.1), Text.splitOn_of_not_mem hblank, tally_filter_cons hp]
  rfl

end

theorem read_enumeration (parts : List (ℕ × TimeUnit)) (h : ∀ p ∈ parts, p.2 ∈ units) :
    read (enumeration (parts.map quantity)) = total parts := by
  induction parts with
  | nil => rfl
  | cons p parts ih =>
    obtain ⟨hp, hparts⟩ := List.forall_mem_cons.mp h
    have hrest := ih hparts
    rw [total]
    cases parts with
    | nil => exact read_quantity hp
    | cons next parts =>
      cases parts with
      | nil =>
        have hlast : read (quantity p ++ " and " ++ quantity next) = p.1 * p.2.seconds + read (quantity next) := by
          rw [← read_and (quantity next), List.append_assoc]
          exact read_quantity_append hp [] List.not_mem_nil ("and " ++ quantity next)
        rw [← hrest]
        exact hlast
      | cons later parts =>
        rw [← hrest, List.map_cons, List.map_cons, List.map_cons, enumeration, List.append_assoc]
        exact read_quantity_append hp [','] (by decide) _

theorem read_of_words {n : ℕ} {text : Text} (h : words n = .ok text) : read text = n := by
  rcases Nat.lt_or_ge n tooLong with hn | hn
  · have hbreaks := breaksDown_breakdown n
    have hunits : ∀ p ∈ breakdown n, p.2 ∈ units := fun p hp => hbreaks.in_order.subset (List.mem_map_of_mem hp)
    rw [words_of_lt hn] at h
    obtain rfl := Except.ok.inj h
    rw [read_enumeration _ hunits, hbreaks.total_eq]
  · rw [words_of_le hn] at h
    cases h

theorem eq_of_words {m n : ℕ} {text : Text} (hm : words m = .ok text) (hn : words n = .ok text) : m = n :=
  calc m = read text := (read_of_words hm).symm
    _ = n := read_of_words hn

/-- A number of seconds with days that can be printed is told by its breakdown, and no other number is told in the same words. A
number with more days than that is not told at all. -/
theorem words_lose_nothing (n : ℕ) :
    (n < tooLong → ∃ text, wordsOf (.int n) = .ok text ∧ (text = [] ↔ n = 0) ∧
      (∃ parts, BreaksDown n parts ∧ text = enumeration (parts.map quantity)) ∧
      ∀ m : ℕ, wordsOf (.int m) = .ok text → m = n) ∧
    (tooLong ≤ n → wordsOf (.int n) = .error (.value Decimal.unprintable)) := by
  refine ⟨fun hn => ?_, words_of_le⟩
  have htext := words_of_lt hn
  refine ⟨_, htext, ⟨fun hempty => ?_, ?_⟩, ⟨breakdown n, breaksDown_breakdown n, rfl⟩, fun m hm => eq_of_words hm htext⟩
  · rw [hempty] at htext
    have hzero : words (0 : ℕ) = .ok [] := rfl
    exact eq_of_words htext hzero
  · rintro rfl
    rfl

/-- One number is told, and the first that is too long is not. -/
theorem words_lose_nothing_around_the_limit :
    93785 < tooLong ∧ wordsOf (.int tooLong) = .error (.value Decimal.unprintable) ∧
      ∃ text, wordsOf (.int 93785) = .ok text ∧ ∀ m : ℕ, wordsOf (.int m) = .ok text → m = 93785 := by
  have hshort : 93785 < tooLong := by
    have hlong : 100 ≤ Decimal.leastLonger Decimal.mostDigits := Decimal.hundred_le_leastLonger (by decide)
    have hlimit : tooLong = 86400 * Decimal.leastLonger Decimal.mostDigits := rfl
    omega
  obtain ⟨text, htext, -, -, hinjective⟩ := (words_lose_nothing 93785).1 hshort
  exact ⟨hshort, (words_lose_nothing tooLong).2 (Nat.le_refl tooLong), text, htext, hinjective⟩

/-- So many days have a digit too many. -/
theorem too_many_days_are_not_told : ¬ ∃ text, wordsOf (.int (86400 * 10 ^ 4300 : ℕ)) = .ok text := by
  have hlimit : tooLong = 86400 * Decimal.leastLonger 4300 := rfl
  rw [← Decimal.leastLonger_eq 4300, ← hlimit]
  rintro ⟨text, htext⟩
  have hfault : wordsOf (.int tooLong) = .error (.value Decimal.unprintable) := words_of_le (Nat.le_refl tooLong)
  rw [hfault] at htext
  cases htext

example : wordsOf (.int 93785) = .ok ("1 day, 2 hours, 3 minutes and 5 seconds" : Text) := by decide

end Duration
end ChatBot
