import ChatBot.Command.Schema
import ChatBot.Text.Blank

/-!
Reading the arguments of a command off a line. The name is matched as leading text, so a command named `set` also reads
`settle`; what follows it fills the slots from left to right.
-/
set_option autoImplicit false

namespace ChatBot.Command

/-- What a line means to one command. -/
inductive Extraction where
  | matched (bindings : Bindings)
  | missingRequired
  | noMatch
  deriving DecidableEq, Repr

/-- The text before the first space and the text after it. -/
def cutAtSpace? : Text → Option (Text × Text)
  | [] => none
  | c :: t => if c = ' ' then some ([], t) else (cutAtSpace? t).map fun (token, rest) => (c :: token, rest)

/-- Binds a slot to its text; an empty text leaves the slot unbound. -/
def bindSlot (bindings : Bindings) (key text : Text) : Bindings :=
  if text.isEmpty then bindings else bindings.insert key text

/-- Fills the slots in order. Each takes the text up to the next space; a flexible slot, and one with no space ahead of
it, takes all that remains and ends the walk. -/
def bindSlots : List Slot → Text → Bindings → Bindings
  | [], _, bindings => bindings
  | slot :: slots, rest, bindings =>
    if slot.kind = .flexible then bindSlot bindings slot.key rest
    else match cutAtSpace? rest with
      | none => bindSlot bindings slot.key rest
      | some (token, rest') => bindSlots slots rest' (bindSlot bindings slot.key token)

/-- What the line means when commands are led by `leader`. -/
def Schema.extractLedBy (s : Schema) (leader line : Text) : Extraction :=
  match Text.after? s.name (Text.dropLeading leader line) with
  | none => .noMatch
  | some rest =>
    let rest := Text.trimLeft rest
    if rest.isEmpty && s.hasKind [.required] then .missingRequired
    else .matched (bindSlots s.slots rest [])

/-- What the line means under the leader that the schema was declared with. -/
def Schema.extract (s : Schema) (line : Text) : Extraction := s.extractLedBy s.leader line

end ChatBot.Command
