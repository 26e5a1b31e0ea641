import ChatBot.Decimal.Reading
import ChatBot.Json.Basic
import ChatBot.Runtime

/-!
Reading JSON documents. A document is one value with blanks around it; numbers may also be an infinity or not a number,
and of two members with one name the later value stands in the place of the earlier. A document may break the rules of
JSON, or a limit: whole numbers have so many digits at most, and values nest so deep. An escape may write half a character; two
halves that fit are one character, any other is kept as what the runtime makes of it. A failure remembers how much text was
left, from which its line and column follow.
-/
set_option autoImplicit false

namespace ChatBot.Json

/-- What a document breaks. -/
inductive Violation where
  | value
  | byteOrderMark
  | memberName
  | colon
  | comma
  | unterminatedText
  | controlCharacter
  | escape
  | hexadecimal
  | extraText
  | longNumber (digits : Nat)
  | deepNesting
  deriving DecidableEq, Repr

def Violation.message : Violation → Text
  | value => "Expecting value"
  | byteOrderMark => "Unexpected UTF-8 BOM (decode using utf-8-sig)"
  | memberName => "Expecting property name enclosed in double quotes"
  | colon => "Expecting ':' delimiter"
  | comma => "Expecting ',' delimiter"
  | unterminatedText => "Unterminated string starting at"
  | controlCharacter => "Invalid control character at"
  | escape => "Invalid \\escape"
  | hexadecimal => "Invalid \\uXXXX escape"
  | extraText => "Extra data"
  | longNumber digits => (Decimal.NotWhole.tooLong digits).message
  | deepNesting => "values nest too deep"

/-- A violation with the number of characters from it to the end of the document. -/
structure Failure where
  violation : Violation
  left : Nat
  deriving DecidableEq, Repr

/-- A reading step: what was read and the text after it. -/
abbrev Reading (α : Type) := Except Failure (α × Text)

def isSpace (c : Char) : Bool := c = ' ' || c = '\t' || c = '\n' || c = '\r'

def skipSpace (t : Text) : Text := t.dropWhile isSpace

/-! ## Text -/

/-- Four hexadecimal digits. -/
def hexCode? (a b c d : Char) : Option Nat := do
  return ((← Text.hexDigit? a) * 16 + (← Text.hexDigit? b)) * 256 + (← Text.hexDigit? c) * 16 + (← Text.hexDigit? d)

/-- The character of a one-letter escape. -/
def escaped? : Char → Option Char
  | '"' => some '"'
  | '\\' => some '\\'
  | '/' => some '/'
  | 'b' => some (Char.ofNat 8)
  | 'f' => some (Char.ofNat 12)
  | 'n' => some '\n'
  | 'r' => some '\r'
  | 't' => some '\t'
  | _ => none

def consUnit (unit : Nat) : Reading (List Nat) → Reading (List Nat)
  | .ok (units, rest) => .ok (unit :: units, rest)
  | .error e => .error e

/-- The code units up to the closing quote. `start` is what was left at the opening quote. Nothing may end the text within a
hexadecimal escape or right after it. -/
def readUnits (start : Nat) : Text → Reading (List Nat)
  | [] => .error ⟨.unterminatedText, start⟩
  | '"' :: t => .ok ([], t)
  | ['\\'] => .error ⟨.unterminatedText, start⟩
  | ['\\', 'u', _, _, _, _] => .error ⟨.hexadecimal, 5⟩
  | '\\' :: 'u' :: a :: b :: c :: d :: t =>
    match hexCode? a b c d with
    | some unit => consUnit unit (readUnits start t)
    | none => .error ⟨.hexadecimal, t.length + 5⟩
  | '\\' :: c :: t =>
    match escaped? c with
    | some c' => consUnit c'.toNat (readUnits start t)
    | none => .error (if c = 'u' then ⟨.hexadecimal, t.length + 1⟩ else ⟨.escape, t.length + 2⟩)
  | c :: t => if c.toNat < 32 then .error ⟨.controlCharacter, t.length + 1⟩ else consUnit c.toNat (readUnits start t)

/-- Joins a unit to those after it: two halves of one character make that character. -/
def joinUnit (unit : Nat) : List Nat → List Nat
  | [] => [unit]
  | next :: units =>
    if 0xD800 ≤ unit && unit < 0xDC00 && 0xDC00 ≤ next && next < 0xE000 then
      (0x10000 + (unit - 0xD800) * 0x400 + (next - 0xDC00)) :: units
    else unit :: next :: units

def ofUnits (runtime : Runtime) (units : List Nat) : Text := (units.foldr joinUnit []).map runtime.character

/-- Reads on to the closing quote. -/
def readText (runtime : Runtime) (t : Text) : Reading Text :=
  match readUnits (t.length + 1) t with
  | .ok (units, rest) => .ok (ofUnits runtime units, rest)
  | .error e => .error e

/-! ## Numbers -/

/-- Decimal digits and the text after them. -/
def splitDigits (t : Text) : Text × Text := (t.takeWhile Char.isDigit, t.dropWhile Char.isDigit)

/-- The whole part of a number: a zero, or digits that do not begin with one. -/
def splitWhole : Text → Option (Text × Text)
  | '0' :: t => some (['0'], t)
  | t => match splitDigits t with
    | ([], _) => none
    | found => some found

/-- A point and the digits after it. -/
def splitFraction : Text → Text × Text
  | '.' :: t => match splitDigits t with
    | ([], _) => ([], '.' :: t)
    | found => found
  | t => ([], t)

/-- An exponent; without digits it is not part of the number. -/
def splitExponent (t : Text) : Option Int × Text :=
  match t with
  | c :: r =>
    if c = 'e' || c = 'E' then
      let (negative, r) := Decimal.splitSign r
      match splitDigits r with
      | ([], _) => (none, t)
      | (digits, rest) => (some (if negative then -(Decimal.valueOf digits : Int) else Decimal.valueOf digits), rest)
    else (none, t)
  | [] => (none, t)

/-- The whole number of given digits. -/
def ofDigits (negative : Bool) (digits rest : Text) : Reading Json :=
  let n : Int := Decimal.valueOf digits
  if Decimal.mostDigits < digits.length then .error ⟨.longNumber digits.length, rest.length⟩
  else .ok (.int (if negative then -n else n), rest)

/-- A number: whole unless it has a fraction or an exponent. -/
def readNumber (t : Text) : Reading Json :=
  let (negative, digits) := match t with
    | '-' :: r => (true, r)
    | r => (false, r)
  match splitWhole digits with
  | none => .error ⟨.value, t.length⟩
  | some (whole, rest) =>
    let (fraction, rest) := splitFraction rest
    let (exponent, rest) := splitExponent rest
    if fraction.isEmpty && exponent.isNone then ofDigits negative whole rest
    else
      let x := Decimal.scaled (Decimal.valueOf (whole ++ fraction)) (exponent.getD 0 - fraction.length)
      .ok (.float (if negative then -x else x), rest)

/-- The words that stand for values, longest text first where two begin alike. -/
def literals : List (Text × Json) :=
  [("null", .null), ("true", .bool true), ("false", .bool false), ("NaN", .float (0.0 / 0.0)),
   ("Infinity", .float (1.0 / 0.0)), ("-Infinity", .float (-(1.0 / 0.0)))]

def readLiteral? (t : Text) : Option (Json × Text) :=
  literals.findSome? fun (word, v) => (Text.after? word t).map fun rest => (v, rest)

/-! ## Values -/

section
variable (runtime : Runtime)

mutual

/-- A value at the head of the text. `depth` bounds how many nested readings may follow, `levels` how many arrays and objects
may still be opened. -/
def readValue (depth levels : Nat) (t : Text) : Reading Json :=
  match depth with
  | 0 => .error ⟨.value, t.length⟩
  | depth + 1 =>
    match t with
    | '"' :: r =>
      match readText runtime r with
      | .ok (text, rest) => .ok (.string text, rest)
      | .error e => .error e
    | '[' :: r =>
      match levels with
      | 0 => .error ⟨.deepNesting, t.length⟩
      | levels + 1 =>
        match skipSpace r with
        | ']' :: rest => .ok (.array [], rest)
        | r =>
          match readItems depth levels r with
          | .ok (items, rest) => .ok (.array items, rest)
          | .error e => .error e
    | '\x7b' :: r =>
      match levels with
      | 0 => .error ⟨.deepNesting, t.length⟩
      | levels + 1 =>
        match skipSpace r with
        | '\x7d' :: rest => .ok (.object [], rest)
        | r =>
          match readMembers depth levels r with
          | .ok (members, rest) => .ok (.object (Assoc.ofList members), rest)
          | .error e => .error e
    | t =>
      match readLiteral? t with
      | some found => .ok found
      | none => readNumber t

/-- Items up to the closing bracket. -/
def readItems (depth levels : Nat) (t : Text) : Reading (List Json) :=
  match depth with
  | 0 => .error ⟨.value, t.length⟩
  | depth + 1 =>
    match readValue depth levels t with
    | .error e => .error e
    | .ok (v, rest) =>
      match skipSpace rest with
      | ']' :: rest => .ok ([v], rest)
      | ',' :: rest =>
        match readItems depth levels (skipSpace rest) with
        | .ok (vs, rest) => .ok (v :: vs, rest)
        | .error e => .error e
      | rest => .error ⟨.comma, rest.length⟩

/-- Members up to the closing brace. -/
def readMembers (depth levels : Nat) (t : Text) : Reading (List (Text × Json)) :=
  match depth with
  | 0 => .error ⟨.value, t.length⟩
  | depth + 1 =>
    match t with
    | '"' :: r =>
      match readText runtime r with
      | .error e => .error e
      | .ok (name, rest) =>
        match skipSpace rest with
        | ':' :: rest =>
          match readValue depth levels (skipSpace rest) with
          | .error e => .error e
          | .ok (v, rest) =>
            match skipSpace rest with
            | '\x7d' :: rest => .ok ([(name, v)], rest)
            | ',' :: rest =>
              match readMembers depth levels (skipSpace rest) with
              | .ok (ms, rest) => .ok ((name, v) :: ms, rest)
              | .error e => .error e
            | rest => .error ⟨.comma, rest.length⟩
        | rest => .error ⟨.colon, rest.length⟩
    | t => .error ⟨.memberName, t.length⟩

end

/-- The value of a whole document. Of two nested readings at least one consumes a character, so twice the length bounds
their number. -/
def read (document : Text) : Except Failure Json :=
  if document.head?.any (·.toNat = 0xFEFF) then .error ⟨.byteOrderMark, document.length⟩
  else match readValue runtime (2 * document.length + 2) runtime.deepestNesting (skipSpace document) with
    | .error e => .error e
    | .ok (v, rest) => if (skipSpace rest).isEmpty then .ok v else .error ⟨.extraText, (skipSpace rest).length⟩

end

/-! ## Places -/

/-- The text of a failure: the violation and its line, column and offset in the document. -/
def Failure.message (document : Text) (f : Failure) : Text :=
  let before := document.take (document.length - f.left)
  let column := (before.reverse.takeWhile (· ≠ '\n')).length + 1
  f.violation.message ++ ": line " ++ Text.ofNat (before.count '\n' + 1) ++ " column " ++ Text.ofNat column ++
    " (char " ++ Text.ofNat before.length ++ ")"

end ChatBot.Json
