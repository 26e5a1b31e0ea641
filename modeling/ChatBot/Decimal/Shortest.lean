/-!
The shortest decimal that reads back as a given binary number. A finite number other than zero is `mantissa * 2 ^
exponent`, and the decimals that round to it fill an interval around it, whose ends belong to it when the mantissa is
even. `Binary.shortest` looks for a decimal of one digit in that interval, then of two, and so on; of two with the same
number of digits it takes the nearer one, and the even one when both are equally near.
-/
set_option autoImplicit false

namespace ChatBot.Decimal

/-- A number `mantissa * 2 ^ exponent`. The gap to the number below it is half the gap above when `narrow` holds. -/
structure Binary where
  mantissa : Nat
  exponent : Int
  narrow : Bool
  deriving DecidableEq, Repr

/-- A number `digits * 10 ^ exponent`. -/
structure Scaled where
  digits : Nat
  exponent : Int
  deriving DecidableEq, Repr

/-- Two to the power `n`. -/
def twoTo (n : Nat) : Nat := Nat.pow 2 n

/-- Ten to the power `n`. -/
def tenTo (n : Nat) : Nat := Nat.pow 10 n

namespace Binary

/-- The magnitude of a finite number, from the bits of its double-precision form. -/
def ofBits (bits : Nat) : Binary :=
  let fraction := bits % twoTo 52
  let biased : Nat := bits / twoTo 52 % twoTo 11
  if biased = 0 then ⟨fraction, -1074, false⟩
  else ⟨twoTo 52 + fraction, (biased : Int) - 1075, fraction == 0 && decide (1 < biased)⟩

/-- Four times the mantissa: the interval's ends are whole numbers in this measure. -/
def centre (b : Binary) : Nat := 4 * b.mantissa

def low (b : Binary) : Nat := b.centre - (if b.narrow then 1 else 2)

def high (b : Binary) : Nat := b.centre + 2

/-- Factors `(p, q)` such that `n` quarter-units of `b` equal `d * 10 ^ e` exactly when `n * p = d * q`. -/
def factors (b : Binary) (e : Int) : Nat × Nat :=
  (twoTo (b.exponent - 2).toNat * tenTo (-e).toNat, twoTo (2 - b.exponent).toNat * tenTo e.toNat)

/-- The number of digits before the decimal point, negative or zero for a number below one tenth or below one. -/
def pointPosition (b : Binary) : Int :=
  let (p, q) := b.factors 0
  let n := b.centre * p
  if q ≤ n then (Nat.toDigits 10 (n / q)).length
  else
    let places := (Nat.toDigits 10 (q / n)).length
    if q ≤ n * tenTo (places - 1) then 2 - (places : Int) else 1 - (places : Int)

/-- Whether `d` units of `10 ^ e` read back as the number. -/
def holds (b : Binary) (e : Int) (d : Nat) : Bool :=
  let (p, q) := b.factors e
  if b.mantissa % 2 = 0 then b.low * p ≤ d * q && d * q ≤ b.high * p
  else b.low * p < d * q && d * q < b.high * p

/-- Of the two multiples of `10 ^ e` around the number, the one to write, if either reads back. -/
def onGrid? (b : Binary) (e : Int) : Option Scaled :=
  let (p, q) := b.factors e
  let below := b.centre * p / q
  match b.holds e below, b.holds e (below + 1) with
  | false, false => none
  | true, false => some ⟨below, e⟩
  | false, true => some ⟨below + 1, e⟩
  | true, true =>
    let short := b.centre * p - below * q
    let excess := (below + 1) * q - b.centre * p
    if short < excess || (short == excess && below % 2 == 0) then some ⟨below, e⟩ else some ⟨below + 1, e⟩

/-- The shortest decimal that reads back; seventeen digits are always enough. -/
def shortest (b : Binary) : Scaled :=
  let position := b.pointPosition
  ((List.range 17).findSome? fun n => b.onGrid? (position - ((n : Nat) + 1 : Nat))).getD ⟨0, 0⟩

end Binary
end ChatBot.Decimal
