import ChatBot.Decimal.Reading
import ChatBot.Text.Alphanumeric

/-!
Literals: numbers, texts, bytes, truth values, and tuples, sets and maps of literals, as the parameters of an action in markup
write them. `isLiteral` tells whether a text is one; what the literal stands for does not matter here, but for two things. A
number may have one sign, and an imaginary number may follow a real one after a sign. And the items of a set and the keys of a
map must not hold sets or maps.
-/
set_option autoImplicit false

namespace ChatBot.Terminal.Literal

/-- What a literal is, as far as it decides where the literal may stand. -/
inductive Kind where
  | number (imaginary signed : Bool)
  | value (fixed : Bool)
  /-- The name of the function that makes an empty set. -/
  | setName
  deriving DecidableEq, Repr

/-- Whether a literal may be an item of a set. -/
def Kind.isFixed : Kind → Bool
  | number _ _ => true
  | value fixed => fixed
  | setName => false

/-! ## Gaps -/

def isNewLine (c : Char) : Bool := c = '\n' || c = '\r'

/-- Passes over blanks and comments; within brackets (`inner`) new lines are blanks too. -/
def skipGap (inner comment : Bool) : Text → Text
  | [] => []
  | '\\' :: '\n' :: t => if comment then (if inner then skipGap inner false t else '\n' :: t) else skipGap inner false t
  | c :: t =>
    if isNewLine c then (if inner then skipGap inner false t else c :: t)
    else if comment then skipGap inner true t
    else if c = '#' then skipGap inner true t
    else if c = ' ' || c = '\t' || c.toNat = 12 then skipGap inner false t
    else c :: t

/-! ## Numbers -/

/-- Whether a name may hold the character. -/
def isNamePart (c : Char) : Bool := Text.isAlphanumeric c || c = '_'

/-- A run of digits with underscores among them, and what follows it. -/
def splitRun (t : Text) : Text × Text := (t.takeWhile Decimal.isWholePart, t.dropWhile Decimal.isWholePart)

def isRun (t : Text) : Bool := Decimal.areApart false t

/-- Whether digits make a whole number: no zero leads but those of zero itself, and there are not too many. -/
def isWhole (run : Text) : Bool :=
  let digits := run.filter (· != '_')
  (digits.head? != some '0' || digits.all (· == '0')) && decide (digits.length ≤ Decimal.mostDigits)

/-- The digits of the bases that a letter after a zero names. -/
def isBaseDigit (letter c : Char) : Bool :=
  match Text.hexDigit? c with
  | some n => decide (n < (if letter = 'x' then 16 else if letter = 'o' then 8 else 2))
  | none => c = '_'

def isBaseLetter (letter : Char) : Bool := letter = 'x' || letter = 'o' || letter = 'b'

/-- What follows an exponent at the head of a text, if one stands there. -/
def afterExponent? : Text → Option Text
  | c :: t =>
    if c = 'e' || c = 'E' then
      let (run, rest) := splitRun (Decimal.splitSign t).2
      if isRun run then some rest else none
    else none
  | [] => none

/-- A number at the head of a text, and what follows it. -/
def readDecimal? (t : Text) : Option (Kind × Text) :=
  let (whole, rest) := splitRun t
  let (point, fraction, rest) := match rest with
    | '.' :: t => (true, splitRun t)
    | t => (false, [], t)
  let (exponent, rest) := match afterExponent? rest with
    | some t => (true, t)
    | none => (false, rest)
  let (imaginary, rest) := match rest with
    | c :: t => if c = 'j' || c = 'J' then (true, t) else (false, rest)
    | [] => (false, rest)
  let spelled := (isRun whole || (whole.isEmpty && isRun fraction)) && (fraction.isEmpty || isRun fraction)
  if spelled && (point || exponent || imaginary || isWhole whole) then some (.number imaginary false, rest) else none

/-- A number in any form; a name must not follow it at once. -/
def readNumber? (t : Text) : Option (Kind × Text) :=
  let found := match t with
    | '0' :: letter :: t =>
      if isBaseLetter letter.toLower then
        let digits := t.takeWhile (isBaseDigit letter.toLower)
        if isRun (if digits.head? = some '_' then digits.drop 1 else digits) then
          some (Kind.number false false, t.dropWhile (isBaseDigit letter.toLower))
        else none
      else readDecimal? ('0' :: letter :: t)
    | t => readDecimal? t
  match found with
  | some (kind, rest) => if (rest.head?.map isNamePart).getD false then none else some (kind, rest)
  | none => none

/-! ## Texts -/

/-- How a text is written: its mark, whether three of them stand around it, whether backslashes stand for themselves, and whether
it is made of bytes. -/
structure Quotation where
  mark : Char
  triple : Bool
  raw : Bool
  binary : Bool
  deriving DecidableEq, Repr

def isMark (c : Char) : Bool := c = '\'' || c = '"'

/-- The letters that may stand before a mark: whether backslashes stand for themselves, and whether bytes follow. -/
def letterForms : List (Text × Bool × Bool) :=
  [("", false, false), ("u", false, false), ("r", true, false), ("b", false, true), ("br", true, true), ("rb", true, true)]

/-- The start of a text, after letters that have been read. -/
def quotation? (letters : Text) : Text → Option (Quotation × Text)
  | mark :: t =>
    if isMark mark then
      match letterForms.find? fun form => form.1 = letters.map Char.toLower with
      | none => none
      | some (_, raw, binary) =>
        match Text.after? [mark, mark] t with
        | some t => some (⟨mark, true, raw, binary⟩, t)
        | none => some (⟨mark, false, raw, binary⟩, t)
    else none
  | [] => none

/-- Whether so many hexadecimal digits stand at the head of a text, for a code point. -/
def isCode (size : Nat) (t : Text) : Bool :=
  let digits := t.take size
  digits.length = size && digits.all (fun c => (Text.hexDigit? c).isSome) && decide (Text.ofHexadecimal digits < 0x110000)

/-- Whether the character after a backslash makes an escape with what follows it. -/
def isEscape (q : Quotation) (c : Char) (t : Text) : Bool :=
  if q.raw then true
  else if c = 'x' then isCode 2 t
  else if q.binary then true
  else if c = 'u' then isCode 4 t
  else if c = 'U' then isCode 8 t
  else c != 'N'

/-- Whether a text may hold the character: no zero, and in bytes only ASCII. -/
def mayHold (q : Quotation) (c : Char) : Bool := c.toNat != 0 && (!q.binary || decide (c.toNat < 128))

/-- What follows the closing mark. -/
def afterQuoted? (q : Quotation) : Text → Option Text
  | [] => none
  | ['\\'] => none
  | '\\' :: c :: t => if mayHold q c && isEscape q c t then afterQuoted? q t else none
  | c :: t =>
    if c = q.mark then
      if q.triple then
        match Text.after? [q.mark, q.mark] t with
        | some rest => some rest
        | none => afterQuoted? q t
      else some t
    else if isNewLine c && !q.triple then none
    else if mayHold q c then afterQuoted? q t
    else none

/-- What follows the texts that are written one after the other from here on; all are made of bytes or none is. -/
def afterTexts? (inner : Bool) (binary : Bool) : Nat → Text → Option Text
  | 0, _ => none
  | texts + 1, t =>
    let t := skipGap inner false t
    let letters := t.takeWhile isNamePart
    match quotation? letters (t.drop letters.length) with
    | none => some t
    | some (q, body) =>
      if q.binary = binary then (afterQuoted? q body).bind (afterTexts? inner binary texts) else none

/-! ## Words -/

/-- The names of values. -/
def valueWords : List Text := ["True", "False", "None"]

/-- A word, or a text with letters before its mark. -/
def readWord? (inner : Bool) (t : Text) : Option (Kind × Text) :=
  let word := t.takeWhile isNamePart
  let rest := t.drop word.length
  match quotation? word rest with
  | some (q, _) => (afterTexts? inner q.binary (t.length + 1) t).map fun rest => (.value true, rest)
  | none =>
    if valueWords.contains word then some (.value true, rest)
    else if word = ("set" : Text) then some (.setName, rest)
    else none

/-! ## Expressions -/

/-- The nesting of brackets that is too deep. -/
def bracketLimit : Nat := 200

/-- Literals that stand in a row, for each whether a value is mapped to it, whether a comma follows one of them, and what follows
them all. -/
structure Row where
  kinds : List Kind
  mapped : List Bool
  comma : Bool
  rest : Text

/-- Whether nothing more can stand in a row. -/
def endsRow (t : Text) : Bool :=
  match t with
  | [] => true
  | c :: _ => c = ')' || c = '\x7d'

/-- What a row in round brackets is: a single literal without a comma is itself. -/
def Row.kind (row : Row) : Kind :=
  match row.comma, row.kinds with
  | false, [kind] => kind
  | _, kinds => .value (kinds.all Kind.isFixed)

/-- Whether a row in curly brackets makes a set or a map. -/
def Row.isCollection (row : Row) : Bool :=
  row.kinds.all Kind.isFixed && (row.mapped.all id || row.mapped.all not)

/-- What a sign makes of a literal. -/
def signed? : Kind → Option Kind
  | .number imaginary false => some (.number imaginary true)
  | _ => none

/-- What two literals with a sign between them are. -/
def sum? : Kind → Kind → Option Kind
  | .number false _, .number true false => some (.value true)
  | _, _ => none

def isSign (c : Char) : Bool := c = '+' || c = '-'

mutual

/-- A literal without a sign. `depth` bounds how many nested readings may follow, `levels` how many brackets may be opened. -/
def readAtom? (depth levels : Nat) (inner : Bool) (t : Text) : Option (Kind × Text) :=
  match depth with
  | 0 => none
  | depth + 1 =>
    match t with
    | '(' :: r =>
      match levels with
      | 0 => none
      | levels + 1 =>
        match readRow? depth levels true false (skipGap true false r) with
        | none => none
        | some row =>
          match row.rest with
          | ')' :: rest => some (row.kind, rest)
          | _ => none
    | '\x7b' :: r =>
      match levels with
      | 0 => none
      | levels + 1 =>
        match readRow? depth levels true true (skipGap true false r) with
        | none => none
        | some row =>
          match row.rest with
          | '\x7d' :: rest => if row.isCollection then some (.value false, rest) else none
          | _ => none
    | '.' :: '.' :: '.' :: rest => some (.value true, rest)
    | c :: _ => if c.isDigit || c = '.' then readNumber? t else readWord? inner t
    | [] => none

/-- A literal that a call may follow: the name that makes an empty set can be called, and nothing else. -/
def readCalled? (depth levels : Nat) (inner : Bool) (t : Text) : Option (Kind × Text) :=
  match depth with
  | 0 => none
  | depth + 1 =>
    match readAtom? depth levels inner t with
    | none => none
    | some (kind, rest) =>
      match skipGap inner false rest with
      | '(' :: rest =>
        match kind, skipGap true false rest with
        | .setName, ')' :: rest => some (.value false, skipGap inner false rest)
        | _, _ => none
      | rest => some (kind, rest)

/-- A literal that may have a sign before it. -/
def readSigned? (depth levels : Nat) (inner : Bool) (t : Text) : Option (Kind × Text) :=
  match depth with
  | 0 => none
  | depth + 1 =>
    match t with
    | [] => none
    | c :: r =>
      if isSign c then
        match readCalled? depth levels inner (skipGap inner false r) with
        | some (kind, rest) => (signed? kind).map fun kind => (kind, rest)
        | none => none
      else readCalled? depth levels inner t

/-- A literal, or two with a sign between them. -/
def readSum? (depth levels : Nat) (inner : Bool) (t : Text) : Option (Kind × Text) :=
  match depth with
  | 0 => none
  | depth + 1 =>
    match readSigned? depth levels inner t with
    | none => none
    | some (first, []) => some (first, [])
    | some (first, c :: r) =>
      if isSign c then
        match readCalled? depth levels inner (skipGap inner false r) with
        | some (second, rest) => (sum? first second).map fun kind => (kind, rest)
        | none => none
      else some (first, c :: r)

/-- Literals with commas between them, perhaps also after the last; with `mapping` a value may follow each after a colon. -/
def readRow? (depth levels : Nat) (inner mapping : Bool) (t : Text) : Option Row :=
  match depth with
  | 0 => none
  | depth + 1 =>
    if endsRow t then some ⟨[], [], false, t⟩
    else
      match readSum? depth levels inner t with
      | none => none
      | some (kind, rest) =>
        match readMapped? depth levels mapping rest with
        | none => none
        | some (mapped, ',' :: rest) =>
          match readRow? depth levels inner mapping (skipGap inner false rest) with
          | some row =>
            if kind = .setName || row.kinds = [.setName] then none
            else some ⟨kind :: row.kinds, mapped :: row.mapped, true, row.rest⟩
          | none => none
        | some (mapped, rest) => some ⟨[kind], [mapped], false, rest⟩

/-- Whether a value after a colon stands at the head of a text, where it may, and what follows it. -/
def readMapped? (depth levels : Nat) (mapping : Bool) (t : Text) : Option (Bool × Text) :=
  match depth with
  | 0 => none
  | depth + 1 =>
    match mapping, t with
    | true, ':' :: t =>
      match readSum? depth levels true (skipGap true false t) with
      | some (kind, rest) => if kind = .setName then none else some (true, rest)
      | none => none
    | _, t => some (false, t)

end

/-- Whether a text is a literal; a row without brackets is one, but not an empty one. -/
def isLiteral (t : Text) : Bool :=
  match readRow? (8 * t.length + 8) bracketLimit false false (skipGap true false t) with
  | some row => !row.kinds.isEmpty && row.kinds != [.setName] && (skipGap true false row.rest).isEmpty
  | none => false

end ChatBot.Terminal.Literal
