import ChatBot.Json.Basic

/-!
The written forms of a JSON document. `print` gives two blanks of indentation to each level, one member or item to a line, and
closes an empty object or array at once; in text only quotes, backslashes and control characters are escaped. `compact` writes
everything on one line and escapes whatever lies outside ASCII.
-/
set_option autoImplicit false

namespace ChatBot.Json

/-- One character of a text; the control characters without a short escape are written as four hexadecimal digits. -/
def printChar (c : Char) : Text :=
  if c = '"' then ['\\', '"']
  else if c = '\\' then ['\\', '\\']
  else if c = '\n' then ['\\', 'n']
  else if c = '\r' then ['\\', 'r']
  else if c = '\t' then ['\\', 't']
  else if c.toNat = 8 then ['\\', 'b']
  else if c.toNat = 12 then ['\\', 'f']
  else if c.toNat < 32 then '\\' :: 'u' :: Text.hexadecimal 4 c.toNat
  else [c]

def printText (t : Text) : Text := '"' :: t.flatMap printChar ++ ['"']

/-- A line end and the indentation of the given level. -/
def newLine (level : Nat) : Text := '\n' :: List.replicate (2 * level) ' '

def printFloat (x : Float) : Text :=
  if x.isNaN then "NaN" else if x.isInf then (if x < 0.0 then "-Infinity" else "Infinity") else Decimal.write x

mutual

/-- A value that stands at the given level. -/
def printAt (level : Nat) : Json → Text
  | null => "null"
  | bool b => if b then "true" else "false"
  | int n => Text.ofInt n
  | float x => printFloat x
  | string t => printText t
  | array [] => "[]"
  | array (v :: vs) => '[' :: newLine (level + 1) ++ printAt (level + 1) v ++ printItems (level + 1) vs ++
      newLine level ++ [']']
  | object [] => ['\x7b', '\x7d']
  | object ((name, v) :: ms) => '\x7b' :: newLine (level + 1) ++ printText name ++ ": " ++ printAt (level + 1) v ++
      printMembers (level + 1) ms ++ newLine level ++ ['\x7d']

/-- The items after the first. -/
def printItems (level : Nat) : List Json → Text
  | [] => []
  | v :: vs => ',' :: newLine level ++ printAt level v ++ printItems level vs

/-- The members after the first. -/
def printMembers (level : Nat) : List (Text × Json) → Text
  | [] => []
  | (name, v) :: ms => ',' :: newLine level ++ printText name ++ ": " ++ printAt level v ++ printMembers level ms

end

def print (v : Json) : Text := printAt 0 v

/-! ## One line of ASCII -/

/-- A code unit as an escape. -/
def escapedUnit (n : Nat) : Text := '\\' :: 'u' :: Text.hexadecimal 4 n

/-- One character of a text in ASCII; a character beyond the first plane takes two escapes. -/
def compactChar (c : Char) : Text :=
  if c.toNat < 127 then printChar c
  else if c.toNat < 0x10000 then escapedUnit c.toNat
  else escapedUnit (0xD800 + (c.toNat - 0x10000) / 0x400) ++ escapedUnit (0xDC00 + (c.toNat - 0x10000) % 0x400)

def compactText (t : Text) : Text := '"' :: t.flatMap compactChar ++ ['"']

mutual

def compact : Json → Text
  | null => "null"
  | bool b => if b then "true" else "false"
  | int n => Text.ofInt n
  | float x => printFloat x
  | string t => compactText t
  | array [] => "[]"
  | array (v :: vs) => '[' :: compact v ++ compactItems vs
  | object [] => ['\x7b', '\x7d']
  | object ((name, v) :: ms) => '\x7b' :: compactText name ++ ':' :: compact v ++ compactMembers ms

/-- The items after the first, and the end of the array. -/
def compactItems : List Json → Text
  | [] => [']']
  | v :: vs => ',' :: compact v ++ compactItems vs

/-- The members after the first, and the end of the object. -/
def compactMembers : List (Text × Json) → Text
  | [] => ['\x7d']
  | (name, v) :: ms => ',' :: compactText name ++ ':' :: compact v ++ compactMembers ms

end

end ChatBot.Json
