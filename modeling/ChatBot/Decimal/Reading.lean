import ChatBot.Decimal.Written
import ChatBot.Text.Blank
import ChatBot.Text.Digit
import ChatBot.Text.Quoted

/-!
Reading numbers from text. The digits may be those of any script; blanks may stand around a number, a sign before it, and single
underscores between its digits. A whole number may have so many digits and no more, be it read or printed.
-/
set_option autoImplicit false

namespace ChatBot.Decimal

/-- The value of decimal digits. -/
def valueOf (digits : Text) : Nat := digits.foldl (fun n c => 10 * n + (c.toNat - 48)) 0

/-- Splits a sign off. -/
def splitSign : Text → Bool × Text
  | '-' :: t => (true, t)
  | '+' :: t => (false, t)
  | t => (false, t)

/-! ## Underscores -/

/-- Removes single underscores that stand between two digits; any other underscore stays and spoils the number.
`afterDigit` tells whether a digit was just passed. -/
def dropUnderscoresFrom (afterDigit : Bool) : Text → Text
  | [] => []
  | c :: t =>
    if c = '_' && afterDigit && (t.head?.map Char.isDigit).getD false then dropUnderscoresFrom false t
    else c :: dropUnderscoresFrom c.isDigit t

def dropUnderscores (t : Text) : Text := dropUnderscoresFrom false t

/-- Whether underscores stand only between other characters, never two in a row. `apart` tells whether one may stand here. -/
def areApart (apart : Bool) : Text → Bool
  | [] => apart
  | c :: t => if c = '_' then apart && areApart false t else areApart true t

/-- The text without its underscores, unless one of them is out of place. -/
def withoutUnderscores? (t : Text) : Option Text := if areApart false t then some (t.filter (· != '_')) else none

/-! ## Whole numbers -/

/-- Why a text is no whole number. -/
inductive NotWhole where
  | spelling (text : Text)
  | tooLong (digits : Nat)
  deriving DecidableEq, Repr

/-- The greatest number of digits of a whole number. -/
def mostDigits : Nat := 4300

/-- How much of a text is quoted when it is refused. -/
def longestQuote : Nat := 200

def NotWhole.message : NotWhole → Text
  | spelling text => "invalid literal for int() with base 10: " ++ (Text.quote text).take longestQuote
  | tooLong digits =>
    "Exceeds the limit (" ++ Text.ofNat mostDigits ++ " digits) for integer string conversion: value has " ++
      Text.ofNat digits ++ " digits; use sys.set_int_max_str_digits() to increase the limit"

/-- Whether a character can stand among the digits of a whole number. -/
def isWholePart (c : Char) : Bool := c.isDigit || c = '_'

/-- Reads a whole number. Too many digits are reported before what follows them. -/
def readWhole (text : Text) : Except NotWhole Int :=
  let (negative, t) := splitSign ((Text.trimPadding text).map Text.plainDigit)
  let digits := dropUnderscores (t.takeWhile isWholePart)
  if digits.isEmpty || digits.contains '_' then .error (.spelling text)
  else if mostDigits < digits.length then .error (.tooLong digits.length)
  else if !(t.dropWhile isWholePart).isEmpty then .error (.spelling text)
  else .ok (if negative then -(valueOf digits : Int) else valueOf digits)

/-- The decimal spelling of a whole number, if it has not too many digits. -/
def printWhole? (n : Int) : Option Text :=
  if mostDigits < (Text.ofNat n.natAbs).length then none else some (Text.ofInt n)

/-- Why a whole number is not printed. -/
def unprintable : Text :=
  "Exceeds the limit (" ++ Text.ofNat mostDigits ++ " digits) for integer string conversion" ++
    "; use sys.set_int_max_str_digits() to increase the limit"

/-! ## Floating-point numbers -/

/-- An optional exponent at the end of a number. -/
def readExponent? : Text → Option Int
  | [] => some 0
  | c :: t =>
    if c = 'e' || c = 'E' then
      let (negative, t) := splitSign t
      if t.isEmpty || !t.all Char.isDigit then none
      else some (if negative then -(valueOf t : Int) else valueOf t)
    else none

/-- A magnitude in positional or exponent form; digits must stand before or after the point. -/
def readMagnitude? (t : Text) : Option Float :=
  let whole := t.takeWhile Char.isDigit
  let rest := t.dropWhile Char.isDigit
  let (fraction, rest) := match rest with
    | '.' :: r => (r.takeWhile Char.isDigit, r.dropWhile Char.isDigit)
    | r => ([], r)
  if whole.isEmpty && fraction.isEmpty then none
  else (readExponent? rest).map fun e => scaled (valueOf (whole ++ fraction)) (e - fraction.length)

/-- The words for the number that is none and for an infinity. -/
def readWord? (t : Text) : Option Float :=
  if t = ("inf" : Text) || t = ("infinity" : Text) then some (1.0 / 0.0)
  else if t = ("nan" : Text) then some (0.0 / 0.0)
  else none

/-- A number of usual digits without blanks or underscores: a sign, and a magnitude or a word in either case. -/
def readPlain? (t : Text) : Option Float :=
  let (negative, t) := splitSign (t.map Char.toLower)
  (readWord? t <|> readMagnitude? t).map fun x => if negative then -x else x

/-- A floating-point number. -/
def readFloat? (t : Text) : Option Float := readPlain? (dropUnderscores ((Text.trimPadding t).map Text.plainDigit))

end ChatBot.Decimal
