import ChatBot.Assoc
import ChatBot.Text.Basic

/-!
The definition of one command: its name, the usage line it was declared with, and the slots its arguments fill.
-/
set_option autoImplicit false

namespace ChatBot.Command

/-- How much of a line a slot takes and whether it must be filled. -/
inductive SlotKind where
  | required
  | optional
  | flexible
  deriving DecidableEq, Repr

/-- One declared argument position. -/
structure Slot where
  key : Text
  kind : SlotKind
  deriving DecidableEq, Repr

structure Schema where
  name : Text
  usage : Text
  slots : List Slot
  elevated : Bool
  leader : Text
  deriving DecidableEq, Repr

namespace Schema

def keys (s : Schema) : List Text := s.slots.map Slot.key

/-- Whether some slot has one of the kinds. -/
def hasKind (s : Schema) (kinds : List SlotKind) : Bool := s.slots.any fun slot => kinds.contains slot.kind

/-- Two schemas with one usage line stand for the same command. -/
def sameUsage (s t : Schema) : Bool := s.usage == t.usage

/-- Schemas are filed under their names, so only those with one name can be found equal in a set. -/
def sameName (s t : Schema) : Bool := s.name == t.name

/-- The schemas that a set of them keeps: of those that agree in name and usage, the first. -/
def distinct (schemas : List Schema) : List Schema :=
  schemas.foldl (fun kept s => if kept.any fun k => k.sameName s && k.sameUsage s then kept else kept ++ [s]) []

end Schema

/-- Arguments bound to the slots of a command, in the order of the slots. -/
abbrev Bindings := Assoc Text Text

end ChatBot.Command
