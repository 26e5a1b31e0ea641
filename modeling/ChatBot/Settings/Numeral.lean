import ChatBot.Decimal.Reading

/-!
Numbers as settings spell them. Only the usual digits count, and blanks may stand around a number. A whole number may have a plus
sign, leading zeros, a fraction of zeros, and underscores between its parts; where the leading zeros end a minus sign may
stand. A floating-point number is read as it is first, and without its underscores after that.
-/
set_option autoImplicit false

namespace ChatBot.Setting

/-! ## Whole numbers -/

/-- Whether a number without leading zeros may begin with the character. -/
def isWholeStart (c : Char) : Bool := c = '-' || ('1' ≤ c && c ≤ '9')

/-- The text after leading zeros and the underscores among them; the one before the end or before a point stays. `last` is the
character just passed. -/
def afterZeros? (last : Char) : Text → Option Text
  | [] => some [last]
  | c :: t =>
    if c = '0' || c = '_' then afterZeros? c t
    else if isWholeStart c then some (c :: t)
    else if c = '.' then some (last :: c :: t)
    else none

def dropZeros? : Text → Option Text
  | [] => none
  | c :: t => if c = '0' then afterZeros? c t else if isWholeStart c then some (c :: t) else none

/-- The text without a fraction of zeros. -/
def dropZeroFraction (t : Text) : Text :=
  match t.dropWhile (· != '.') with
  | '.' :: '0' :: zeros => if zeros.all (· == '0') then t.takeWhile (· != '.') else t
  | _ => t

/-- A whole number without anything that may be left out. -/
def readDigits (t : Text) : Except Decimal.NotWhole Int :=
  let (negative, digits) := match t with
    | '-' :: t => (true, t)
    | t => (false, t)
  let run := digits.takeWhile Char.isDigit
  if Decimal.mostDigits < run.length && run.head? != some '0' then .error (.tooLong run.length)
  else if run.isEmpty || run.length ≠ digits.length || (run.head? = some '0' && run.length ≠ 1) then .error (.spelling t)
  else .ok (if negative then -(Decimal.valueOf run : Int) else Decimal.valueOf run)

/-- Reads a whole number. -/
def readWhole (text : Text) : Except Decimal.NotWhole Int :=
  let trimmed := Text.trimPadding text
  let unsigned := match trimmed with
    | '+' :: '-' :: _ => none
    | '+' :: t => some t
    | t => some t
  match unsigned.bind dropZeros? with
  | none => .error (.spelling text)
  | some t =>
    let t := dropZeroFraction t
    readDigits ((Decimal.withoutUnderscores? t).getD t)

/-! ## Floating-point numbers -/

/-- Reads a floating-point number. -/
def readFloat? (text : Text) : Option Float :=
  match Decimal.readPlain? (Text.trimPadding text) with
  | some x => some x
  | none => (Decimal.withoutUnderscores? text).bind Decimal.readPlain?

end ChatBot.Setting
