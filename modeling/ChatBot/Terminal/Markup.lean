import ChatBot.Terminal.Layout
import ChatBot.Terminal.Literal
import ChatBot.Terminal.Style

/-!
Text with markup. A word in brackets that begins with a small letter opens a style, one that begins with a slash closes it,
and a slash alone closes the style opened last. Parameters may follow the word after an equals sign; a word that begins with an
at sign is an action, whose parameters are a literal. Styles do not show; a bracket after a backslash is no markup.
-/
set_option autoImplicit false

namespace ChatBot.Terminal

/-- Why markup cannot be shown: a tag closes nothing, the parameters of an action are no literal, or a part of a colour is no
number. -/
inductive MarkupError where
  | unopened (name : Text)
  | parameters (text : Text)
  | component (error : Decimal.NotWhole)
  deriving DecidableEq, Repr

def MarkupError.message : MarkupError → Text
  | unopened name => "the closing tag [/" ++ name ++ "] closes nothing"
  | parameters text => "the parameters are no literal: " ++ text
  | component error => error.message

/-- Plain text or a tag. -/
inductive Piece where
  | plain (t : Text)
  | tag (text : Text)
  deriving DecidableEq, Repr

/-! ## Pieces -/

/-- Whether a tag may begin with the character. -/
def isTagStart (c : Char) : Bool := ('a' ≤ c && c ≤ 'z') || c = '#' || c = '/' || c = '@'

/-- The text of a tag whose opening bracket has just been read. -/
def tagText? : Text → Option Text
  | [] => none
  | c :: t =>
    if isTagStart c then
      let body := t.takeWhile fun c => c != '[' && c != ']'
      if (t.drop body.length).head? = some ']' then some (c :: body) else none
    else none

/-- The number of backslashes before a tag at the head of a text, and the tag. -/
def tagAt? (t : Text) : Option (Nat × Text) :=
  let escapes := (t.takeWhile (· == '\\')).length
  match t.drop escapes with
  | '[' :: t => (tagText? t).map fun tag => (escapes, tag)
  | _ => none

/-- The pieces that a tag after backslashes makes: of two backslashes one stays, and an odd one makes the tag plain. -/
def tagPieces (escapes : Nat) (tag : Text) : List Piece :=
  (if escapes < 2 then [] else [.plain (List.replicate (escapes / 2) '\\')]) ++
    [if escapes % 2 = 1 then .plain ('[' :: tag ++ [']']) else .tag tag]

/-- Puts a character before pieces. -/
def consPlain (c : Char) : List Piece → List Piece
  | .plain t :: pieces => .plain (c :: t) :: pieces
  | pieces => .plain [c] :: pieces

/-- The pieces from here on, without the next `skip` characters, which are dealt with. `fresh` tells that a tag went just
before, whose pieces stay apart from the text after it. -/
def piecesFrom : Nat → Text → List (List Piece)
  | _, [] => [[]]
  | skip + 1, _ :: t => piecesFrom skip t
  | 0, c :: t =>
    match tagAt? (c :: t) with
    | some (escapes, tag) => [] :: tagPieces escapes tag :: piecesFrom (escapes + tag.length + 1) t
    | none =>
      match piecesFrom 0 t with
      | [] => [[.plain [c]]]
      | run :: runs => consPlain c run :: runs

/-- The pieces of a text; plain text between two tags is one piece. -/
def pieces (t : Text) : List Piece := (piecesFrom 0 t).flatten

/-! ## Tags -/

/-- A tag that opens a style: the style's normal form, and the parameters. -/
structure OpenTag where
  name : Text
  parameters : Option Text
  deriving DecidableEq, Repr

namespace OpenTag

/-- What a tag asks for: its style, and its parameters as further words. -/
def definition (tag : OpenTag) : Text :=
  match tag.parameters with
  | none => tag.name
  | some parameters => tag.name ++ ' ' :: parameters

def isAction (tag : OpenTag) : Bool := Text.startsWith ['@'] tag.name

end OpenTag

/-- What stands before the equals sign of a tag, and what follows it. -/
def splitTag (tag : Text) : Text × Option Text :=
  let name := tag.takeWhile (· != '=')
  match tag.drop name.length with
  | [] => (name, none)
  | _ :: parameters => (name, some parameters)

/-- The normal form of the style that a word names. -/
def styleName (t : Text) : Except MarkupError Text := (Style.normalForm t).mapError .component

/-- The opening tag that a tag's text makes, unless it is a closing one. -/
def OpenTag.ofText (tag : Text) : Except MarkupError OpenTag := do
  let (name, parameters) := splitTag tag
  return ⟨← styleName name, parameters⟩

/-- What a closing tag closes: the style it names, or nothing in particular. -/
def closedBy? (tag : Text) : Option Text :=
  match (splitTag tag).1 with
  | '/' :: name => some (Text.trim name)
  | _ => none

/-! ## Actions -/

/-- The parameters that stand in brackets after the name of an action; nothing does if the text is no name at all. -/
def calledWith? (t : Text) : Option Text :=
  match t.dropWhile fun c => Literal.isNamePart c || c = '.' with
  | [] => some ['(', ')']
  | '(' :: rest => if rest.getLast? = some ')' && !rest.contains '\n' then some ('(' :: rest) else none
  | _ => none

/-- Checks a tag that is closed: the parameters of an action are a literal. -/
def checkAction (tag : OpenTag) : Except MarkupError Unit :=
  match tag.isAction, tag.parameters with
  | true, some (c :: t) =>
    let parameters := Text.trim (c :: t)
    if Literal.isLiteral ((calledWith? parameters).getD parameters) then .ok () else .error (.parameters parameters)
  | _, _ => .ok ()

/-! ## Opening and closing -/

/-- Takes the tag that opened the style of the given name last from the open ones, newest first, and checks it. -/
def closeStyle (name : Text) : List OpenTag → Except MarkupError (List OpenTag)
  | [] => .error (.unopened name)
  | tag :: opened =>
    if tag.name = name then do
      checkAction tag
      return opened
    else do return tag :: (← closeStyle name opened)

/-- Takes the tag that was opened last, and checks it. -/
def closeLast : List OpenTag → Except MarkupError (List OpenTag)
  | [] => .error (.unopened [])
  | tag :: opened => do
    checkAction tag
    return opened

/-- The tags that are open after a tag. -/
def applyTag (tag : Text) (opened : List OpenTag) : Except MarkupError (List OpenTag) :=
  match closedBy? tag with
  | none => do return (← OpenTag.ofText tag) :: opened
  | some [] => closeLast opened
  | some (c :: t) => do closeStyle (← styleName (c :: t)) opened

/-! ## Printing -/

/-- The text that is shown of pieces, with the tags that are open before them. -/
def shownText : List OpenTag → List Piece → Except MarkupError Text
  | _, [] => .ok []
  | opened, .plain t :: rest =>
    (shownText opened rest).map (replaceEmoji (Text.replaceAll ['\\', '['] ['['] t) ++ ·)
  | opened, .tag tag :: rest =>
    match applyTag tag opened with
    | .error e => .error e
    | .ok opened => shownText opened rest

/-- Checks that the style of an opening tag can be shown: with its parameters it may name colours too. -/
def checkStyle : Piece → Except MarkupError Unit
  | .plain _ => .ok ()
  | .tag tag =>
    match closedBy? tag with
    | some _ => .ok ()
    | none => do
      let _ ← styleName (← OpenTag.ofText tag).definition
      return ()

/-- The lines that printing a text with markup shows. -/
def printMarkup (t : Text) : Except MarkupError Text := do
  let shown ← shownText [] (pieces t)
  (pieces t).forM checkStyle
  return layOut shown ++ ['\n']

end ChatBot.Terminal
