import ChatBot.Assoc
import ChatBot.Text.Blank

/-!
Files that assign values to names, one assignment a line:

    # a comment
    export NAME = value
    QUOTED="may hold # and run over lines"
    JOINED=${NAME}/${OTHER:-default}

A value without quotes ends at a blank followed by a number sign, and is empty if that is all of it; in quotes a backslash
escapes. A line that is no assignment is passed over. References to names are replaced by what the file assigned to them
before, or by the environment's value.
-/
set_option autoImplicit false

namespace ChatBot.EnvFile

/-- Blanks within a line. -/
def isInnerBlank (c : Char) : Bool := Text.isBlank c && c != '\n' && c != '\r'

def skipInnerBlanks (t : Text) : Text := t.dropWhile isInnerBlank

/-- What follows the end of the line, which must come next, blanks and a comment apart. -/
def afterLine? (t : Text) : Option Text :=
  let t := skipInnerBlanks t
  let t := match t with
    | '#' :: _ => t.dropWhile (· != '\n')
    | _ => t
  match t with
  | [] => some []
  | '\n' :: t => some t
  | _ => none

/-- What follows the rest of the line, whatever it holds. -/
def afterRest (t : Text) : Text := (t.dropWhile (· != '\n')).drop 1

/-! ## Values -/

/-- The text up to the closing mark and what follows it. A backslash escapes the character after it, another backslash too; an
escaped mark closes only if no other one does. -/
def splitQuoted? (mark : Char) (escaped : Bool) : Text → Option (Text × Text)
  | [] => none
  | c :: t =>
    if c = mark then
      if escaped then
        match splitQuoted? mark false t with
        | some (value, rest) => some (c :: value, rest)
        | none => some ([], t)
      else some ([], t)
    else (splitQuoted? mark (c = '\\' && !escaped) t).map fun (value, rest) => (c :: value, rest)

/-- What an escape stands for between marks `mark`. -/
def unescape? (mark c : Char) : Option Char :=
  if c = '\\' || c = '\'' then some c
  else if mark = '\'' then none
  else match c with
    | '"' => some '"'
    | 'a' => some (Char.ofNat 7)
    | 'b' => some (Char.ofNat 8)
    | 'f' => some (Char.ofNat 12)
    | 'n' => some '\n'
    | 'r' => some '\r'
    | 't' => some '\t'
    | 'v' => some (Char.ofNat 11)
    | _ => none

/-- Replaces the escapes between marks `mark`; a backslash before any other character stays. `taken` tells whether the next
character belongs to an escape already replaced. -/
def unescapeFrom (mark : Char) : Bool → Text → Text
  | _, [] => []
  | true, _ :: t => unescapeFrom mark false t
  | false, c :: t =>
    match if c = '\\' then t.head?.bind (unescape? mark) else none with
    | some c' => c' :: unescapeFrom mark true t
    | none => c :: unescapeFrom mark false t

def unescape (mark : Char) (t : Text) : Text := unescapeFrom mark false t

/-- The text before the first blanks that a number sign follows. -/
def beforeComment : Text → Text
  | [] => []
  | c :: t =>
    if Text.isBlank c && ((Text.trimLeft (c :: t)).head? == some '#') then [] else c :: beforeComment t

/-- A value without quotes, from the blanks before it on. -/
def plainValue (line : Text) : Text := Text.trimRight (skipInnerBlanks (beforeComment line))

/-- A value and what follows it, from the blanks before it on; a mark that is never closed spoils the line. -/
def splitValue? (t : Text) : Option (Text × Text) :=
  match skipInnerBlanks t with
  | '\'' :: t => (splitQuoted? '\'' false t).map fun (value, rest) => (unescape '\'' value, rest)
  | '"' :: t => (splitQuoted? '"' false t).map fun (value, rest) => (unescape '"' value, rest)
  | _ => some (plainValue (t.takeWhile (· != '\n')), t.dropWhile (· != '\n'))

/-! ## Assignments -/

/-- A name with the value assigned to it; a name alone has none. -/
abbrev Assignment := Text × Option Text

/-- A name without quotes. -/
def isNameChar (c : Char) : Bool := c != '=' && c != '#' && !Text.isBlank c

/-- What follows the word that may stand before an assignment. -/
def skipExport (t : Text) : Text :=
  match Text.after? "export" t with
  | some rest => if (skipInnerBlanks rest).length < rest.length then skipInnerBlanks rest else t
  | none => t

/-- A name and what follows it. -/
def splitName? : Text → Option (Text × Text)
  | '\'' :: t =>
    let name := t.takeWhile (· != '\'')
    match t.dropWhile (· != '\'') with
    | '\'' :: rest => if name.isEmpty then none else some (name, rest)
    | _ => none
  | t =>
    let name := t.takeWhile isNameChar
    if name.isEmpty then none else some (name, t.dropWhile isNameChar)

/-- How far a line could be read: an assignment or a comment and what follows its line, or the place where it is spoiled. -/
inductive Line where
  | assignment (a : Assignment) (rest : Text)
  | comment (rest : Text)
  | spoiled (place : Text)

/-- Reads the line that begins here. -/
def readLine (t : Text) : Line :=
  let t := skipExport t
  match t with
  | '#' :: _ => .comment (afterRest t)
  | _ =>
    match splitName? t with
    | none => .spoiled t
    | some (name, rest) =>
      match skipInnerBlanks rest with
      | '=' :: rest =>
        match splitValue? rest with
        | none => .spoiled rest
        | some (value, rest) =>
          match afterLine? rest with
          | some rest' => .assignment (name, some value) rest'
          | none => .spoiled rest
      | rest =>
        match afterLine? rest with
        | some rest' => .assignment (name, none) rest'
        | none => .spoiled rest

/-- The assignments from here on; each line takes at least one character. -/
def assignmentsWithin : Nat → Text → List Assignment
  | 0, _ => []
  | lines + 1, t =>
    match Text.trimLeft t with
    | [] => []
    | t =>
      match readLine t with
      | .assignment a rest => a :: assignmentsWithin lines rest
      | .comment rest => assignmentsWithin lines rest
      | .spoiled place => assignmentsWithin lines (afterRest place)

/-- The assignments of a file, in order. -/
def assignments (t : Text) : List Assignment := assignmentsWithin (t.length + 1) t

/-! ## References -/

/-- A reference at the head of a text, with its default, and what follows it. -/
def splitReference? : Text → Option (Text × Text × Text)
  | '$' :: '\x7b' :: t =>
    let isNamePart := fun (c : Char) => c != '\x7d' && c != ':'
    let name := t.takeWhile isNamePart
    match t.dropWhile isNamePart with
    | '\x7d' :: rest => some (name, [], rest)
    | ':' :: '-' :: t =>
      match t.dropWhile (· != '\x7d') with
      | '\x7d' :: rest => some (name, t.takeWhile (· != '\x7d'), rest)
      | _ => none
    | _ => none
  | _ => none

/-- Replaces references, passing over the next `skip` characters, which belong to one already replaced. -/
def expandFrom (valueOf : Text → Option (Option Text)) : Nat → Text → Text
  | _, [] => []
  | skip + 1, _ :: t => expandFrom valueOf skip t
  | 0, c :: t =>
    match splitReference? (c :: t) with
    | some (name, fallback, rest) =>
      ((valueOf name).getD (some fallback)).getD [] ++ expandFrom valueOf (t.length - rest.length) t
    | none => c :: expandFrom valueOf 0 t

/-- Replaces the references in each value. `known` holds what the file has assigned so far. -/
def resolveFrom (environment : Assoc Text Text) : Assoc Text (Option Text) → List Assignment → Assoc Text (Option Text)
  | known, [] => known
  | known, (name, value) :: rest =>
    let lookup := fun wanted => match known.find? wanted with
      | some value => some value
      | none => (environment.find? wanted).map some
    resolveFrom environment (known.insert name (value.map (expandFrom lookup 0))) rest

/-- What a file assigns to each name. -/
def values (environment : Assoc Text Text) (t : Text) : Assoc Text (Option Text) :=
  resolveFrom environment [] (assignments t)

end ChatBot.EnvFile
