import ChatBot.Terminal.EmojiTable
import ChatBot.Text.Blank
import ChatBot.Text.Casing

/-!
Emoji by name: a name between colons, as in `:smile:`, stands for what it names. After the name, `-text` and
`-emoji` choose how it is drawn. A name that is not known stays as it is, with both its colons.
-/
set_option autoImplicit false

namespace ChatBot.Terminal

/-- A name and the variant chosen after it. -/
def splitVariant (code : Text) : Text × Text :=
  if Text.endsWith "-text" code then (code.take (code.length - 5), [Char.ofNat 0xFE0E])
  else if Text.endsWith "-emoji" code then (code.take (code.length - 6), [Char.ofNat 0xFE0F])
  else (code, [])

/-- What the text between two colons stands for. -/
def emoji? (code : Text) : Option Text :=
  let (name, variant) := splitVariant code
  (emojiNames.find? fun e => e.1 = Text.lower name).map fun e => e.2 ++ variant

/-- The text between a colon and the next one, if no blank stands between them. -/
def emojiCode? (afterColon : Text) : Option Text :=
  let code := afterColon.takeWhile fun c => c != ':' && !Text.isBlank c
  if (afterColon.drop code.length).head? = some ':' then some code else none

/-- Replaces names from left to right, passing over the next `skip` characters, which are dealt with. -/
def replaceEmojiFrom : Nat → Text → Text
  | _, [] => []
  | skip + 1, _ :: t => replaceEmojiFrom skip t
  | 0, c :: t =>
    match if c = ':' then emojiCode? t else none with
    | none => c :: replaceEmojiFrom 0 t
    | some code => (emoji? code).getD (':' :: code ++ [':']) ++ replaceEmojiFrom (code.length + 1) t

def replaceEmoji (t : Text) : Text := replaceEmojiFrom 0 t

end ChatBot.Terminal
