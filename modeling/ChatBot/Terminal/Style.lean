import ChatBot.Assoc
import ChatBot.Decimal.Reading
import ChatBot.Text.Casing

/-!
Styles of text on a terminal, as words: attributes such as `bold` and `not dim`, a colour, `on` and a background, `link` and an
address. Styles that look alike have one normal form; a text that is no style is its own, in small letters.
-/
set_option autoImplicit false

namespace ChatBot.Terminal

/-! ## Words -/

/-- The attributes, in the order in which a normal form lists them. -/
def attributeNames : List Text :=
  ["bold", "dim", "italic", "underline", "blink", "blink2", "reverse", "conceal", "strike", "underline2", "frame", "encircle",
   "overline"]

/-- Short names of attributes. -/
def attributeAliases : List (Text × Text) :=
  [("b", "bold"), ("d", "dim"), ("i", "italic"), ("u", "underline"), ("uu", "underline2"), ("r", "reverse"),
   ("c", "conceal"), ("s", "strike"), ("o", "overline")]

/-- The attribute that a word names. -/
def attribute? (word : Text) : Option Text :=
  match attributeAliases.find? fun a => a.1 = word with
  | some (_, name) => some name
  | none => attributeNames.find? (· = word)

/-- The names of colours, several to a line. -/
def colourLines : List String := [
  "black red green yellow blue magenta cyan white bright_black bright_red bright_green bright_yellow bright_blue",
  "bright_magenta bright_cyan bright_white grey0 gray0 navy_blue dark_blue blue3 blue1 dark_green deep_sky_blue4",
  "dodger_blue3 dodger_blue2 green4 spring_green4 turquoise4 deep_sky_blue3 dodger_blue1 green3 spring_green3 dark_cyan",
  "light_sea_green deep_sky_blue2 deep_sky_blue1 spring_green2 cyan3 dark_turquoise turquoise2 green1 spring_green1",
  "medium_spring_green cyan2 cyan1 dark_red deep_pink4 purple4 purple3 blue_violet orange4 grey37 gray37 medium_purple4",
  "slate_blue3 royal_blue1 chartreuse4 dark_sea_green4 pale_turquoise4 steel_blue steel_blue3 cornflower_blue chartreuse3",
  "cadet_blue sky_blue3 steel_blue1 pale_green3 sea_green3 aquamarine3 medium_turquoise chartreuse2 sea_green2 sea_green1",
  "aquamarine1 dark_slate_gray2 dark_magenta dark_violet purple light_pink4 plum4 medium_purple3 slate_blue1 yellow4",
  "wheat4 grey53 gray53 light_slate_grey light_slate_gray medium_purple light_slate_blue dark_olive_green3 dark_sea_green",
  "light_sky_blue3 sky_blue2 dark_sea_green3 dark_slate_gray3 sky_blue1 chartreuse1 light_green pale_green1",
  "dark_slate_gray1 red3 medium_violet_red magenta3 dark_orange3 indian_red hot_pink3 medium_orchid3 medium_orchid",
  "medium_purple2 dark_goldenrod light_salmon3 rosy_brown grey63 gray63 medium_purple1 gold3 dark_khaki navajo_white3",
  "grey69 gray69 light_steel_blue3 light_steel_blue yellow3 dark_sea_green2 light_cyan3 light_sky_blue1 green_yellow",
  "dark_olive_green2 dark_sea_green1 pale_turquoise1 deep_pink3 magenta2 hot_pink2 orchid medium_orchid1 orange3",
  "light_pink3 pink3 plum3 violet light_goldenrod3 tan misty_rose3 thistle3 plum2 khaki3 light_goldenrod2 light_yellow3",
  "grey84 gray84 light_steel_blue1 yellow2 dark_olive_green1 honeydew2 light_cyan1 red1 deep_pink2 deep_pink1 magenta1",
  "orange_red1 indian_red1 hot_pink dark_orange salmon1 light_coral pale_violet_red1 orchid2 orchid1 orange1 sandy_brown",
  "light_salmon1 light_pink1 pink1 plum1 gold1 navajo_white1 misty_rose1 thistle1 yellow1 light_goldenrod1 khaki1 wheat1",
  "cornsilk1 grey100 gray100 grey3 gray3 grey7 gray7 grey11 gray11 grey15 gray15 grey19 gray19 grey23 gray23 grey27",
  "gray27 grey30 gray30 grey35 gray35 grey39 gray39 grey42 gray42 grey46 gray46 grey50 gray50 grey54 gray54 grey58 gray58",
  "grey62 gray62 grey66 gray66 grey70 gray70 grey74 gray74 grey78 gray78 grey82 gray82 grey85 gray85 grey89 gray89 grey93",
  "gray93"]

def colourNames : List Text := colourLines.flatMap fun line => Text.splitOn ' ' line.toList

/-! ## Colours -/

/-- Why a text is no style: its words make none, or a part of a colour is no number. -/
inductive StyleError where
  | malformed
  | component (error : Decimal.NotWhole)
  deriving DecidableEq, Repr

/-- The greatest part of a colour, which is also the greatest number of one. -/
def mostColour : Nat := 255

/-- What stands between a word and the closing bracket at the end. -/
def bracketed? (word t : Text) : Option Text :=
  match Text.after? (word ++ ['(']) t with
  | some rest => if rest.getLast? = some ')' then some rest.dropLast else none
  | none => none

/-- Whether six hexadecimal digits stand after a number sign; the text is in small letters. -/
def isHexColour : Text → Bool
  | '#' :: digits => digits.length = 6 && digits.all fun c => (Text.hexDigit? c).isSome
  | _ => false

/-- Whether a text is the number of a colour. -/
def isColourNumber (t : Text) : Bool :=
  1 ≤ t.length && t.length ≤ 3 && t.all Char.isDigit && decide (Decimal.valueOf t ≤ mostColour)

/-- Whether a character can stand among the parts of a colour. -/
def isMixPart (c : Char) : Bool := c = ',' || Text.isBlank c || (Text.digitValue? c).isSome

/-- Checks the parts of a colour: there are three, none too great. -/
def checkMix (t : Text) : Except StyleError Unit := do
  let parts := Text.splitOn ',' t
  if t.isEmpty || !t.all isMixPart || parts.length ≠ 3 then throw .malformed
  let values ← parts.mapM fun part => (Decimal.readWhole part).mapError .component
  if values.any fun n => decide (mostColour < n) then throw .malformed

/-- The normal form of a colour. -/
def readColour (word : Text) : Except StyleError Text := do
  let t := Text.trim (Text.lower word)
  if t = ("default" : Text) || colourNames.contains t || isHexColour t then return t
  else if ((bracketed? "color" t).map isColourNumber).getD false then return t
  else match bracketed? "rgb" t with
    | some parts =>
      checkMix parts
      return t
    | none => throw .malformed

/-! ## Styles -/

structure Style where
  attributes : Assoc Text Bool
  colour : Option Text
  background : Option Text
  link : Option Text
  deriving DecidableEq, Repr

namespace Style

def plain : Style := ⟨[], none, none, none⟩

/-- The style that further words make of a style. -/
def addWords (style : Style) : List Text → Except StyleError Style
  | [] => .ok style
  | word :: words =>
    let name := Text.lower word
    if name = ("on" : Text) then
      match words with
      | [] => .error .malformed
      | word :: words => do
        let background ← readColour word
        addWords { style with background := some background } words
    else if name = ("not" : Text) then
      match words with
      | [] => .error .malformed
      | word :: words =>
        match attribute? word with
        | none => .error .malformed
        | some found => addWords { style with attributes := style.attributes.insert found false } words
    else if name = ("link" : Text) then
      match words with
      | [] => .error .malformed
      | word :: words => addWords { style with link := some word } words
    else
      match attribute? name with
      | some found => addWords { style with attributes := style.attributes.insert found true } words
      | none => do
        let colour ← readColour name
        addWords { style with colour := some colour } words

/-- The word for a style without anything. -/
def noneWord : Text := "none"

def ofText (t : Text) : Except StyleError Style :=
  if Text.trim t = noneWord then .ok plain else addWords plain (Text.words t)

/-- The words for an attribute that a style sets or takes back. -/
def attributeWords (style : Style) (name : Text) : List Text :=
  match style.attributes.find? name with
  | some true => [name]
  | some false => ["not", name]
  | none => []

/-- A word before the one that an option holds. -/
def pairWords (word : Text) : Option Text → List Text
  | some t => [word, t]
  | none => []

def words (style : Style) : List Text :=
  attributeNames.flatMap style.attributeWords ++ style.colour.toList ++ pairWords "on" style.background ++
    pairWords "link" style.link

def toText (style : Style) : Text := if style.words.isEmpty then noneWord else Text.join [' '] style.words

/-- The normal form of a text that may be a style. -/
def normalForm (t : Text) : Except Decimal.NotWhole Text :=
  match ofText t with
  | .ok style => .ok style.toText
  | .error .malformed => .ok (Text.lower (Text.trim t))
  | .error (.component e) => .error e

end Style
end ChatBot.Terminal
