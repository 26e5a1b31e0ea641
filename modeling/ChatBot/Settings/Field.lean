import ChatBot.Json.Basic
import ChatBot.Settings.Numeral
import ChatBot.Storage.FilePath

/-!
Reading single settings from what was given for them: a text, from the environment or a file, or a JSON value. A text may
stand for a number, and a truth value counts as a number too.
-/
set_option autoImplicit false

namespace ChatBot.Setting

/-- Why a value is refused. -/
inductive Refusal where
  | notList
  | notText
  | notInteger
  | unreadableInteger
  | oversizedInteger
  | fractionalInteger
  | infiniteInteger
  | notNumber
  | unreadableNumber
  | notPath
  | belowZero
  | aboveOne
  | notAboveZero
  | leaderLength
  deriving DecidableEq, Repr

namespace Refusal

/-- The name of a refusal in reports. -/
def name : Refusal → Text
  | notList => "list_type"
  | notText => "string_type"
  | notInteger => "int_type"
  | unreadableInteger => "int_parsing"
  | oversizedInteger => "int_parsing_size"
  | fractionalInteger => "int_from_float"
  | infiniteInteger => "finite_number"
  | notNumber => "float_type"
  | unreadableNumber => "float_parsing"
  | notPath => "path_type"
  | belowZero => "greater_than_equal"
  | aboveOne => "less_than_equal"
  | notAboveZero => "greater_than"
  | leaderLength => "value_error"

def message : Refusal → Text
  | notList => "Input should be a valid list"
  | notText => "Input should be a valid string"
  | notInteger => "Input should be a valid integer"
  | unreadableInteger => "Input should be a valid integer, unable to parse string as an integer"
  | oversizedInteger => "Unable to parse input string as an integer, exceeded maximum size"
  | fractionalInteger => "Input should be a valid integer, got a number with a fractional part"
  | infiniteInteger => "Input should be a finite number"
  | notNumber => "Input should be a valid number"
  | unreadableNumber => "Input should be a valid number, unable to parse string as a number"
  | notPath => "Input is not a valid path for <class 'pathlib.Path'>"
  | belowZero => "Input should be greater than or equal to 0"
  | aboveOne => "Input should be less than or equal to 1"
  | notAboveZero => "Input should be greater than 0"
  | leaderLength => "Value error, leader must be a single character"

end Refusal

/-- A refusal and the place of the refused item within a list, if it is one. -/
structure Problem where
  item : Option Nat
  refusal : Refusal
  deriving DecidableEq, Repr

/-- A value, or everything that is wrong with it. -/
abbrev Checked (α : Type) := Except (List Problem) α

def refuse {α : Type} (r : Refusal) : Checked α := .error [⟨none, r⟩]

/-! ## Texts and paths -/

def readText : Json → Checked Text
  | .string t => .ok t
  | _ => refuse .notText

/-- The items that are texts, or the places of those that are none. -/
def readTexts (place : Nat) : List Json → Checked (List Text)
  | [] => .ok []
  | v :: vs =>
    match readText v, readTexts (place + 1) vs with
    | .ok t, .ok ts => .ok (t :: ts)
    | .ok _, .error ps => .error ps
    | .error _, .ok _ => .error [⟨some place, .notText⟩]
    | .error _, .error ps => .error (⟨some place, .notText⟩ :: ps)

def readTextList : Json → Checked (List Text)
  | .array items => readTexts 0 items
  | _ => refuse .notList

def readLeader (v : Json) : Checked Char := do
  match ← readText v with
  | [c] => .ok c
  | _ => refuse .leaderLength

def readPath : Json → Checked Storage.FilePath
  | .string t => .ok (Storage.FilePath.ofText t)
  | _ => refuse .notPath

/-! ## Numbers -/

/-- Whole numbers given as floating-point numbers are smaller than this. -/
def floatLimit : Nat := Decimal.twoTo 63

/-- A whole number given as a floating-point number. -/
def readIntegerOfFloat (x : Float) : Checked Int :=
  match Decimal.truncate x with
  | .error _ => refuse .infiniteInteger
  | .ok n =>
    if !(x == Decimal.ofInt n 0) then refuse .fractionalInteger
    else if n.natAbs < floatLimit then .ok n
    else refuse .oversizedInteger

def readInteger : Json → Checked Int
  | .int n => .ok n
  | .bool b => .ok (if b then 1 else 0)
  | .float x => readIntegerOfFloat x
  | .string t =>
    match readWhole t with
    | .ok n => .ok n
    | .error (.spelling _) => refuse .unreadableInteger
    | .error (.tooLong _) => refuse .oversizedInteger
  | _ => refuse .notInteger

/-- Any number; a whole number must not be too large for a floating-point number. -/
def readNumber : Json → Checked Float
  | .float x => .ok x
  | .int n =>
    let x := Decimal.ofInt n 0
    if x.isInf then refuse .notNumber else .ok x
  | .bool b => .ok (if b then 1.0 else 0.0)
  | .string t =>
    match readFloat? t with
    | some x => .ok x
    | none => refuse .unreadableNumber
  | _ => refuse .notNumber

/-- A whole number that is not negative. -/
def readNatural (v : Json) : Checked Nat := do
  let n ← readInteger v
  if 0 ≤ n then .ok n.toNat else refuse .belowZero

/-- A number from zero to one; what is no number is refused as too large. -/
def readFraction (v : Json) : Checked Float := do
  let x ← readNumber v
  if !(x ≤ 1.0) then refuse .aboveOne
  else if !(0.0 ≤ x) then refuse .belowZero
  else .ok x

/-- A number above zero. -/
def readPositive (v : Json) : Checked Float := do
  let x ← readNumber v
  if 0.0 < x then .ok x else refuse .notAboveZero

end ChatBot.Setting
