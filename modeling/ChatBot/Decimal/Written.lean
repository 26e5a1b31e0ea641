import ChatBot.Decimal.Shortest
import ChatBot.Text.Basic

/-!
The written form of floating-point numbers, and whole numbers cut from them. A number from a ten-thousandth up to below
ten to the sixteenth is written positionally, with at least one digit after the point; any other has an exponent of at
least two digits.
-/
set_option autoImplicit false

namespace ChatBot.Decimal

/-- Where positional writing ends, and how an exponent is spelled. -/
structure Form where
  firstPoint : Int
  lastPoint : Int
  exponentDigits : Nat
  notANumber : Text
  infinity : Text

/-- The form in which numbers stand in chat and in records. -/
def Form.plain : Form := ⟨-3, 16, 2, "nan", "inf"⟩

/-- Digits with the point after the first `point` of them. -/
def positional (digits : Text) (point : Int) : Text :=
  if point ≤ 0 then '0' :: '.' :: List.replicate (-point).toNat '0' ++ digits
  else
    let before := point.toNat
    if digits.length ≤ before then digits ++ List.replicate (before - digits.length) '0' ++ ".0"
    else digits.take before ++ '.' :: digits.drop before

/-- Digits with a point after the first, and the exponent that puts the point in its place. -/
def scientific (form : Form) (digits : Text) (point : Int) : Text :=
  let e := point - 1
  let size := Text.ofNat e.natAbs
  digits.take 1 ++ (if digits.length ≤ 1 then [] else '.' :: digits.drop 1) ++ 'e' ::
    (if e < 0 then '-' else '+') :: List.replicate (form.exponentDigits - size.length) '0' ++ size

def Form.writeScaled (form : Form) (s : Scaled) : Text :=
  let all := Text.ofNat s.digits
  let point := s.exponent + all.length
  let digits := Text.dropWhileEnd (· == '0') all
  if form.firstPoint ≤ point && point ≤ form.lastPoint then positional digits point
  else scientific form digits point

/-- The text of a number in the given form. -/
def Form.write (form : Form) (x : Float) : Text :=
  let bits := x.toBits.toNat
  let sign : Text := if bits / twoTo 63 = 1 then ['-'] else []
  if bits / twoTo 52 % twoTo 11 = 2047 then
    if bits % twoTo 52 = 0 then sign ++ form.infinity else form.notANumber
  else if bits % twoTo 63 = 0 then sign ++ "0.0"
  else sign ++ form.writeScaled (Binary.ofBits bits).shortest

def write (x : Float) : Text := Form.plain.write x

/-! ## Whole numbers -/

/-- Why a number has no whole part. -/
inductive NotFinite where
  | notANumber
  | infinite
  deriving DecidableEq, Repr

def NotFinite.message : NotFinite → Text
  | notANumber => "cannot convert float NaN to integer"
  | infinite => "cannot convert float infinity to integer"

/-- The whole part of a number, cut toward zero. -/
def truncate (x : Float) : Except NotFinite Int :=
  let bits := x.toBits.toNat
  if bits / twoTo 52 % twoTo 11 = 2047 then
    if bits % twoTo 52 = 0 then .error .infinite else .error .notANumber
  else
    let b := Binary.ofBits bits
    let size := b.mantissa * twoTo b.exponent.toNat / twoTo (-b.exponent).toNat
    .ok (if bits / twoTo 63 = 1 then -(size : Int) else size)

/-! ## From whole numbers -/

/-- The number nearest to `m * 10 ^ e`; far outside the range of numbers no power is computed. -/
def scaled (m : Nat) (e : Int) : Float :=
  let size := (Text.ofNat m).length + e
  if m = 0 then 0.0
  else if 400 < size then 1.0 / 0.0
  else if size < -400 then 0.0
  else if e < 0 then Float.ofScientific m true (-e).toNat
  else Float.ofScientific m false e.toNat

/-- The number nearest to `n / 10 ^ places`. -/
def ofInt (n : Int) (places : Nat) : Float :=
  if n < 0 then -(scaled n.natAbs (-(places : Int))) else scaled n.natAbs (-(places : Int))

end ChatBot.Decimal
