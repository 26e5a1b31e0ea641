import ChatBot.Terminal.CellWidth
import ChatBot.Terminal.Emoji

/-!
Text as a terminal shows it. Control characters that would move the cursor back or ring the bell are dropped, and tabs are
filled up to the next multiple of eight cells. Lines are as long as they need to be.
-/
set_option autoImplicit false

namespace ChatBot.Terminal

def tabWidth : Nat := 8

/-- The bell, the backspace, the vertical tab, the form feed and the carriage return. -/
def isDropped (c : Char) : Bool := [7, 8, 11, 12, 13].contains c.toNat

/-- Fills up the tabs between the pieces of a line, the first of which begins at `column`. A tab is a blank and as many more as
the next stop needs. -/
def fillTabs (column : Nat) : List Text → Text
  | [] => []
  | [piece] => piece
  | piece :: pieces =>
    let shown := piece ++ [' ']
    let column := column + cells shown
    let blanks := (tabWidth - column % tabWidth) % tabWidth
    shown ++ List.replicate blanks ' ' ++ fillTabs (column + blanks) pieces

def expandTabs (t : Text) : Text :=
  Text.join ['\n'] ((Text.splitOn '\n' t).map fun line => fillTabs 0 (Text.splitOn '\t' line))

/-- The text as it is shown. -/
def layOut (t : Text) : Text := expandTabs (t.filter (!isDropped ·))

/-- The lines that printing a text shows, ends included. -/
def print (t : Text) : Text := layOut (replaceEmoji t) ++ ['\n']

/-- The lines that printing several texts with blanks between them shows. -/
def printAll (ts : List Text) : Text := layOut (Text.join [' '] (ts.map replaceEmoji)) ++ ['\n']

/-- A text in a column of its own, after a first line of `margin` cells that holds `label`. -/
def printBeside (label : Text) (margin : Nat) (t : Text) : Text :=
  let indent := List.replicate margin ' '
  Text.padRight margin label ++ (layOut t).flatMap (fun c => if c = '\n' then c :: indent else [c]) ++ ['\n']

end ChatBot.Terminal
