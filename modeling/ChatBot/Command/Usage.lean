import ChatBot.Command.Schema
import ChatBot.ErrorFamily
import ChatBot.Text.Quoted

/-!
Usage lines such as `!set <command> <body...>`. The first word after the leader names the command; every later word in
angle brackets declares a slot, a question mark at its end makes the slot optional and three dots make it flexible; all
other words are commentary. `Schema.ofUsage` reads such a line and reports the first rule that a slot breaks.
-/
set_option autoImplicit false

namespace ChatBot.Command

/-- Why a usage line declares no command. -/
inductive UsageError where
  | leader (given : Text)
  | missingName
  | badKey
  | duplicateKey (key : Text)
  | requiredTooLate
  | optionalTooLate
  | secondFlexible
  deriving DecidableEq, Repr

namespace UsageError

def family : UsageError → ErrorFamily
  | leader _ => .value
  | missingName => .missingName
  | badKey => .badKey
  | duplicateKey _ => .duplicateKey
  | requiredTooLate => .requiredTooLate
  | optionalTooLate => .optionalTooLate
  | secondFlexible => .secondFlexible

def message : UsageError → Text
  | leader given => "leader must be a single character, got " ++ Text.quote given
  | duplicateKey key => ErrorFamily.duplicateKey.describe key
  | e => e.family.standingText

end UsageError

/-! ## One declaration -/

/-- The text between the brackets of a slot declaration; all brackets around it belong to the declaration. -/
def unwrapSlot? (word : Text) : Option Text :=
  if Text.startsWith ['<'] word && Text.endsWith ['>'] word then
    some (Text.dropWhileEnd (· == '>') (word.dropWhile (· == '<')))
  else none

/-- Removes groups of three dots from the front of a text that is written backwards. -/
def dropDots : Text → Text
  | '.' :: '.' :: '.' :: t => dropDots t
  | t => t

/-- The slot that the text between the brackets declares. -/
def Slot.ofDeclaration (text : Text) : Slot :=
  if Text.endsWith ['?'] text then ⟨Text.dropWhileEnd (· == '?') text, .optional⟩
  else if Text.endsWith ['.', '.', '.'] text then ⟨(dropDots text.reverse).reverse, .flexible⟩
  else ⟨text, .required⟩

/-! ## The slots of a line -/

/-- Whether a slot of this kind may stand after the given ones. -/
def checkOrder (slots : List Slot) : SlotKind → Except UsageError Unit
  | .required =>
    if slots.any fun s => s.kind = .optional || s.kind = .flexible then .error .requiredTooLate else .ok ()
  | .optional => if slots.any (·.kind = .flexible) then .error .optionalTooLate else .ok ()
  | .flexible => if slots.any (·.kind = .flexible) then .error .secondFlexible else .ok ()

/-- Adds one slot to those declared before it. -/
def addSlot (slots : List Slot) (slot : Slot) : Except UsageError (List Slot) :=
  if !Text.isAlphanumericText slot.key then .error .badKey
  else if slots.any (·.key = slot.key) then .error (.duplicateKey slot.key)
  else match checkOrder slots slot.kind with
    | .error e => .error e
    | .ok () => .ok (slots ++ [slot])

/-- Adds the slots that the words declare to those declared before them. -/
def addSlots : List Slot → List Text → Except UsageError (List Slot)
  | slots, [] => .ok slots
  | slots, word :: words =>
    match unwrapSlot? word with
    | none => addSlots slots words
    | some text =>
      match addSlot slots (Slot.ofDeclaration text) with
      | .error e => .error e
      | .ok slots' => addSlots slots' words

/-! ## The whole line -/

/-- The pieces between the spaces, without an empty one at the end. -/
def usageWords (t : Text) : List Text :=
  let pieces := Text.splitOn ' ' t
  if pieces.getLast? = some [] then pieces.dropLast else pieces

/-- The command that a usage line declares. -/
def Schema.ofUsage (leader usage : Text) (elevated : Bool) : Except UsageError Schema :=
  if leader.length ≠ 1 then .error (.leader leader)
  else match usageWords (Text.dropLeading leader usage) with
    | [] | [] :: _ => .error .missingName
    | name :: words =>
      match addSlots [] words with
      | .error e => .error e
      | .ok slots => .ok { name, usage, slots, elevated, leader }

end ChatBot.Command
