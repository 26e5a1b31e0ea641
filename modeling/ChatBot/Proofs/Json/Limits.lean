import Mathlib.Data.List.TakeWhile
import ChatBot.Json.Reader
import ChatBot.Proofs.Text.Pieces

/-!
Documents that are beyond a limit. Reading stops at a limit only for what the text itself holds: more opening brackets and
braces than arrays and objects may stand around a value, or a longer row of digits than a whole number may have.
-/
set_option autoImplicit false

namespace ChatBot.Json

def opens (c : Char) : Bool := c = '[' || c = '\x7b'

/-- How many brackets and braces open in a text, wherever they stand. -/
def openings (t : Text) : ℕ := t.countP opens

/-- Whether a text holds a row of that many digits. -/
def HasDigits (t : Text) (n : ℕ) : Prop := ∃ digits, digits <:+: t ∧ (∀ d ∈ digits, d.isDigit = true) ∧ digits.length = n

/-- Whether a text gives cause for a violation where so many arrays and objects may still be opened. Only limits need a cause. -/
def Warrants (levels : ℕ) (t : Text) : Violation → Prop
  | .deepNesting => levels < openings t
  | .longNumber n => Decimal.mostDigits < n ∧ HasDigits t n
  | _ => True

/-- What is left after a reading is the end of the text, and a failed one has its cause in it. -/
def StaysWithin (levels : ℕ) (t : Text) {α : Type} : Reading α → Prop
  | .ok (_, rest) => rest <:+ t
  | .error e => Warrants levels t e.violation

section
variable {levels start : ℕ} {s t r rest : Text} {violation : Violation} {α : Type} {reading : Reading α}

theorem openings_le_of_suffix (h : s <:+ t) : openings s ≤ openings t := h.sublist.countP_le

theorem Warrants.of_suffix (h : Warrants levels s violation) (hs : s <:+ t) : Warrants levels t violation := by
  cases violation with
  | deepNesting => exact Nat.lt_of_lt_of_le h (openings_le_of_suffix hs)
  | longNumber n =>
    obtain ⟨hn, digits, hdigits, hall, hlength⟩ := h
    exact ⟨hn, digits, hdigits.trans hs.isInfix, hall, hlength⟩
  | _ => trivial

theorem openings_cons {c : Char} (r : Text) (hc : opens c = true) : openings (c :: r) = openings r + 1 :=
  List.countP_cons_of_pos hc

theorem warrants_deepNesting {c : Char} (r : Text) (hc : opens c = true) : Warrants 0 (c :: r) .deepNesting := by
  change 0 < openings (c :: r)
  rw [openings_cons r hc]
  exact Nat.succ_pos _

/-- Behind an opening there is one array or object fewer to open, and one opening fewer in the text. -/
theorem Warrants.of_opening {c : Char} (h : Warrants levels r violation) (hc : opens c = true) :
    Warrants (levels + 1) (c :: r) violation := by
  cases violation with
  | deepNesting =>
    have hr : levels < openings r := h
    change levels + 1 < openings (c :: r)
    rw [openings_cons r hc]
    exact Nat.succ_lt_succ hr
  | longNumber n =>
    have hr : Warrants (levels + 1) r (.longNumber n) := h
    exact hr.of_suffix (List.suffix_cons c r)
  | _ => trivial

theorem StaysWithin.of_suffix (h : StaysWithin levels s reading) (hs : s <:+ t) : StaysWithin levels t reading := by
  cases reading with
  | ok found => exact List.IsSuffix.trans h hs
  | error e => exact Warrants.of_suffix h hs

theorem StaysWithin.suffix {a : α} (h : StaysWithin levels t reading) (hread : reading = .ok (a, rest)) : rest <:+ t := by
  rw [hread] at h
  exact h

theorem StaysWithin.cause {e : Failure} (h : StaysWithin levels t reading) (hread : reading = .error e) :
    Warrants levels t e.violation := by
  rw [hread] at h
  exact h

theorem skipSpace_suffix (t : Text) : skipSpace t <:+ t := List.dropWhile_suffix _

theorem suffix_of_skipSpace {c : Char} (h : skipSpace t = c :: r) : r <:+ t :=
  (List.suffix_cons c r).trans (h ▸ skipSpace_suffix t)

/-! ## Text -/

theorem StaysWithin.consUnit {unit : ℕ} {reading : Reading (List ℕ)} (h : StaysWithin levels t reading) :
    StaysWithin levels t (consUnit unit reading) := by
  cases reading with
  | ok found => exact h
  | error e => exact h

theorem readUnits_staysWithin (levels start : ℕ) (t : Text) : StaysWithin levels t (readUnits start t) := by
  fun_induction readUnits start t with
  | case1 => trivial
  | case2 t => exact List.suffix_cons _ t
  | case3 => trivial
  | case4 => trivial
  | case5 a b c d t _ unit _ ih => exact ih.consUnit.of_suffix ⟨['\\', 'u', a, b, c, d], rfl⟩
  | case6 => trivial
  | case7 c t _ _ c' _ ih => exact ih.consUnit.of_suffix ⟨['\\', c], rfl⟩
  | case8 c t =>
    change Warrants _ _ (Failure.violation (if c = 'u' then _ else _))
    split
    · trivial
    · trivial
  | case9 => trivial
  | case10 c t =>
    rename_i ih
    exact ih.consUnit.of_suffix (List.suffix_cons c t)

theorem readText_staysWithin (runtime : Runtime) (levels : ℕ) (t : Text) : StaysWithin levels t (readText runtime t) := by
  have hunits := readUnits_staysWithin levels (t.length + 1) t
  unfold readText
  split
  · rename_i hread
    exact hunits.suffix hread
  · rename_i hread
    exact hunits.cause hread

/-! ## Numbers -/

theorem splitWhole_eq_some {whole : Text} (h : splitWhole t = some (whole, rest)) :
    t = whole ++ rest ∧ ∀ d ∈ whole, d.isDigit = true := by
  unfold splitWhole at h
  split at h
  · obtain ⟨rfl, rfl⟩ := Prod.mk.inj (Option.some.inj h)
    exact ⟨rfl, List.forall_mem_singleton.mpr rfl⟩
  · split at h
    · cases h
    · obtain ⟨rfl, rfl⟩ := Prod.mk.inj (Option.some.inj h)
      exact ⟨(List.takeWhile_append_dropWhile).symm, fun d hd => List.mem_takeWhile_imp hd⟩

theorem splitFraction_suffix (t : Text) : (splitFraction t).2 <:+ t := by
  unfold splitFraction
  split
  · rename_i r
    split
    · exact List.suffix_rfl
    · have hdigits : (splitDigits r).2 <:+ r := List.dropWhile_suffix _
      exact hdigits.trans (List.suffix_cons '.' r)
  · exact List.suffix_rfl

theorem splitSign_suffix (t : Text) : (Decimal.splitSign t).2 <:+ t := by
  unfold Decimal.splitSign
  split
  · exact List.suffix_cons _ _
  · exact List.suffix_cons _ _
  · exact List.suffix_rfl

theorem splitExponent_suffix (t : Text) : (splitExponent t).2 <:+ t := by
  unfold splitExponent
  split
  · rename_i c r
    split
    · have hsign := splitSign_suffix r
      split
      rename_i signed hsigned
      rw [hsigned] at hsign
      split
      · exact List.suffix_rfl
      · rename_i digits after _ hfound
        have hafter : after <:+ signed := by
          have hdigits : (splitDigits signed).2 <:+ signed := List.dropWhile_suffix _
          rw [hfound] at hdigits
          exact hdigits
        exact (hafter.trans hsign).trans (List.suffix_cons c r)
    · exact List.suffix_rfl
  · exact List.suffix_rfl

theorem ofDigits_staysWithin (levels : ℕ) (negative : Bool) {digits : Text} (h : ∀ d ∈ digits, d.isDigit = true)
    (hdigits : digits <:+: t) (hrest : rest <:+ t) : StaysWithin levels t (ofDigits negative digits rest) := by
  unfold ofDigits
  split
  · rename_i hlong
    exact ⟨hlong, digits, hdigits, h, rfl⟩
  · exact hrest

theorem readNumber_staysWithin (levels : ℕ) (t : Text) : StaysWithin levels t (readNumber t) := by
  unfold readNumber
  split
  rename_i negative digits hsign
  have hdigits : digits <:+ t := by
    split at hsign
    · obtain ⟨-, rfl⟩ := Prod.mk.inj hsign
      exact List.suffix_cons _ _
    · obtain ⟨-, rfl⟩ := Prod.mk.inj hsign
      exact List.suffix_rfl
  split
  · trivial
  · rename_i whole after hwhole
    obtain ⟨hsplit, hall⟩ := splitWhole_eq_some hwhole
    have hafter : after <:+ t := (hsplit ▸ List.suffix_append whole after).trans hdigits
    have hinfix : whole <:+: t := (hsplit ▸ List.prefix_append whole after).isInfix.trans hdigits.isInfix
    split
    rename_i fraction unscaled hfraction
    have hunscaled : unscaled <:+ after := by
      have := splitFraction_suffix after
      rw [hfraction] at this
      exact this
    split
    rename_i exponent last hexponent
    have hlast : last <:+ unscaled := by
      have := splitExponent_suffix unscaled
      rw [hexponent] at this
      exact this
    have hrest : last <:+ t := (hlast.trans hunscaled).trans hafter
    split
    · exact ofDigits_staysWithin levels negative hall hinfix hrest
    · exact hrest

theorem suffix_of_readLiteral? {v : Json} (h : readLiteral? t = some (v, rest)) : rest <:+ t := by
  obtain ⟨⟨word, w⟩, -, hfound⟩ := List.exists_of_findSome?_eq_some h
  obtain ⟨after, hafter, heq⟩ := Option.map_eq_some_iff.mp hfound
  obtain rfl := (Prod.mk.inj heq).2
  rw [Text.after?_eq_some_iff.mp hafter]
  exact List.suffix_append word after

end

/-! ## Values -/

/-- What all readings of one depth give. -/
structure ReadsWithin (runtime : Runtime) (depth : ℕ) : Prop where
  value : ∀ levels t, StaysWithin levels t (readValue runtime depth levels t)
  items : ∀ levels t, StaysWithin levels t (readItems runtime depth levels t)
  members : ∀ levels t, StaysWithin levels t (readMembers runtime depth levels t)

namespace ReadsWithin
variable {runtime : Runtime} {depth : ℕ}

theorem value_succ (ih : ReadsWithin runtime depth) (levels : ℕ) (t : Text) :
    StaysWithin levels t (readValue runtime (depth + 1) levels t) := by
  unfold readValue
  split
  · -- a text
    rename_i r
    have htext := (readText_staysWithin runtime levels r).of_suffix (List.suffix_cons '"' r)
    split
    · rename_i hread
      exact htext.suffix hread
    · rename_i hread
      exact htext.cause hread
  · -- an array, whose opening is the one more that its items need
    rename_i r
    split
    · exact warrants_deepNesting r rfl
    · rename_i levels
      have hitems := (ih.items levels (skipSpace r)).of_suffix (skipSpace_suffix r)
      split
      · rename_i hskip
        exact (suffix_of_skipSpace hskip).trans (List.suffix_cons '[' r)
      · split
        · rename_i hread
          exact (hitems.suffix hread).trans (List.suffix_cons '[' r)
        · rename_i hread
          exact (hitems.cause hread).of_opening rfl
  · -- an object
    rename_i r
    split
    · exact warrants_deepNesting r rfl
    · rename_i levels
      have hmembers := (ih.members levels (skipSpace r)).of_suffix (skipSpace_suffix r)
      split
      · rename_i hskip
        exact (suffix_of_skipSpace hskip).trans (List.suffix_cons '\x7b' r)
      · split
        · rename_i hread
          exact (hmembers.suffix hread).trans (List.suffix_cons '\x7b' r)
        · rename_i hread
          exact (hmembers.cause hread).of_opening rfl
  · -- a word or a number
    split
    · rename_i hliteral
      exact suffix_of_readLiteral? hliteral
    · exact readNumber_staysWithin levels t

theorem items_succ (ih : ReadsWithin runtime depth) (levels : ℕ) (t : Text) :
    StaysWithin levels t (readItems runtime (depth + 1) levels t) := by
  have hvalue := ih.value levels t
  unfold readItems
  split
  · rename_i hread
    exact hvalue.cause hread
  · rename_i hread
    have hafter := hvalue.suffix hread
    split
    · rename_i hskip
      exact (suffix_of_skipSpace hskip).trans hafter
    · rename_i rest hskip
      have hrest : skipSpace rest <:+ t := ((skipSpace_suffix rest).trans (suffix_of_skipSpace hskip)).trans hafter
      have hitems := (ih.items levels (skipSpace rest)).of_suffix hrest
      split
      · rename_i hread
        exact hitems.suffix hread
      · rename_i hread
        exact hitems.cause hread
    · trivial

theorem members_succ (ih : ReadsWithin runtime depth) (levels : ℕ) (t : Text) :
    StaysWithin levels t (readMembers runtime (depth + 1) levels t) := by
  unfold readMembers
  split
  · rename_i r
    have hname := (readText_staysWithin runtime levels r).of_suffix (List.suffix_cons '"' r)
    split
    · rename_i hread
      exact hname.cause hread
    · rename_i hread
      have hafter := hname.suffix hread
      split
      · rename_i colon hskip
        have hcolon : skipSpace colon <:+ '"' :: r :=
          ((skipSpace_suffix colon).trans (suffix_of_skipSpace hskip)).trans hafter
        have hvalue := (ih.value levels (skipSpace colon)).of_suffix hcolon
        split
        · rename_i hread
          exact hvalue.cause hread
        · rename_i hread
          have hend := hvalue.suffix hread
          split
          · rename_i hskip
            exact (suffix_of_skipSpace hskip).trans hend
          · rename_i comma hskip
            have hcomma : skipSpace comma <:+ '"' :: r :=
              ((skipSpace_suffix comma).trans (suffix_of_skipSpace hskip)).trans hend
            have hmembers := (ih.members levels (skipSpace comma)).of_suffix hcomma
            split
            · rename_i hread
              exact hmembers.suffix hread
            · rename_i hread
              exact hmembers.cause hread
          · trivial
      · trivial
  · trivial

end ReadsWithin

theorem readsWithin (runtime : Runtime) (depth : ℕ) : ReadsWithin runtime depth := by
  induction depth with
  | zero =>
    refine ⟨fun levels t => ?_, fun levels t => ?_, fun levels t => ?_⟩
    · rw [readValue]
      trivial
    · rw [readItems]
      trivial
    · rw [readMembers]
      trivial
  | succ depth ih => exact ⟨ih.value_succ, ih.items_succ, ih.members_succ⟩

/-- A document is beyond a limit only for what its text holds. -/
theorem warrants_of_read {runtime : Runtime} {document : Text} {failure : Failure} (h : read runtime document = .error failure) :
    Warrants runtime.deepestNesting document failure.violation := by
  unfold read at h
  split at h
  · obtain rfl := Except.error.inj h
    trivial
  · have hinside := (readsWithin runtime (2 * document.length + 2)).value runtime.deepestNesting (skipSpace document)
    have hvalue := hinside.of_suffix (skipSpace_suffix document)
    split at h
    · rename_i hread
      obtain rfl := Except.error.inj h
      exact hvalue.cause hread
    · split at h
      · cases h
      · obtain rfl := Except.error.inj h
        trivial

end ChatBot.Json
