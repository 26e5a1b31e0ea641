import ChatBot.Command.Extraction
import ChatBot.Command.Usage
import ChatBot.Message
import ChatBot.Program.Basic

/-!
The commands of a bot. Names are distinct, and a message runs the command with the longest name that its text begins with.
`route` tells what a message leads to; `dispatch` does it.
-/
set_option autoImplicit false

namespace ChatBot.Command

/-- A registered command: its schema and what handles it. -/
structure Registration (η : Type) where
  schema : Schema
  handler : η

structure Registry (η : Type) where
  leader : Text
  registrations : List (Registration η)

/-- Why a command cannot be registered. -/
inductive RegistrationError where
  | usage (error : UsageError)
  | duplicate (name : Text)
  deriving DecidableEq, Repr

def RegistrationError.message : RegistrationError → Text
  | usage error => error.message
  | duplicate name => "command already registered: " ++ name

/-- What a message leads to. -/
inductive Route (η : Type) where
  | unhandled
  | usage (schema : Schema)
  | denied (schema : Schema)
  | call (schema : Schema) (bindings : Bindings) (handler : η)

namespace Registry
variable {η : Type}

def empty (leader : Text) : Registry η := ⟨leader, []⟩

/-- The schemas in the order of their registration. -/
def schemas (r : Registry η) : List Schema := r.registrations.map Registration.schema

/-! ## Registration -/

/-- Files a command under its schema, behind those that are there. One that is found under an equal schema keeps its schema and its
place, and only its handler is replaced. -/
def file (schema : Schema) (handler : η) : List (Registration η) → List (Registration η)
  | [] => [⟨schema, handler⟩]
  | c :: cs =>
    if c.schema.sameName schema && c.schema.sameUsage schema then ⟨c.schema, handler⟩ :: cs
    else c :: file schema handler cs

/-- Registers a command; its name must be new. -/
def add (r : Registry η) (schema : Schema) (handler : η) : Except RegistrationError (Registry η) :=
  if r.schemas.any (·.name = schema.name) then .error (.duplicate schema.name)
  else .ok { r with registrations := file schema handler r.registrations }

/-- Registers the command that a usage line declares. -/
def declare (r : Registry η) (usage : Text) (elevated : Bool) (handler : η) :
    Except RegistrationError (Registry η × Schema) :=
  match Schema.ofUsage r.leader usage elevated with
  | .error e => .error (.usage e)
  | .ok schema => (r.add schema handler).map fun r => (r, schema)

/-- The record of a registration. -/
def registeredNote (schema : Schema) : Note :=
  .debug ("dispatch.register name=" ++ schema.name ++ " elevated=" ++ Scalar.boolText schema.elevated)

/-! ## Routing -/

/-- Puts a registration before the first one with a shorter name. -/
def insertByLength (a : Registration η) : List (Registration η) → List (Registration η)
  | [] => [a]
  | b :: bs => if b.schema.name.length < a.schema.name.length then a :: b :: bs else b :: insertByLength a bs

/-- The registrations with the longest names first, those of one length in the order of registration. -/
def candidates (r : Registry η) : List (Registration η) :=
  r.registrations.foldl (fun sorted a => insertByLength a sorted) []

/-- What the first command that reads the line makes of it. -/
def routeAmong (m : Message) : List (Registration η) → Route η
  | [] => .unhandled
  | c :: cs =>
    match c.schema.extract m.content with
    | .noMatch => routeAmong m cs
    | .missingRequired => .usage c.schema
    | .matched bindings =>
      if c.schema.elevated && !m.isElevated then .denied c.schema else .call c.schema bindings c.handler

/-- What a message leads to. -/
def route (r : Registry η) (m : Message) : Route η :=
  if Text.startsWith r.leader m.content then routeAmong m r.candidates else .unhandled

end Registry

/-! ## Handling -/

/-- What a handler is given besides the message. -/
structure Arguments where
  schema : Schema
  bindings : Bindings

namespace Arguments

def get? (args : Arguments) (key : Text) : Option Text := args.bindings.find? key

/-- The text bound to a key; a key without one is a failure. -/
def get {σ : Type} (args : Arguments) (key : Text) : Program σ Text :=
  Program.ofExcept (match args.get? key with
    | some text => .ok text
    | none => .error (.missingKey key))

/-- The text bound to a key, unless it is empty. -/
def getNonEmpty? (args : Arguments) (key : Text) : Option Text := (args.get? key).filter (! ·.isEmpty)

end Arguments

/-- A handler works on a state `σ`. -/
abbrev Handler (σ : Type) := Arguments → Message → Program σ Unit

/-- What is replied to those who may not run a command. -/
def notAllowed : Text := "you cannot do that"

/-- The name of a command and the sender of a message, as records give them. -/
def invocation (schema : Schema) (m : Message) : Text := " name=" ++ schema.name ++ " sender=" ++ m.sender

/-- Does what a message leads to; tells whether a command handled it. -/
def Registry.dispatch {σ : Type} (r : Registry (Handler σ)) (m : Message) : Program σ Bool :=
  match r.route m with
  | .unhandled => return false
  | .usage schema => do
    Program.reply schema.usage
    return true
  | .denied schema => do
    Program.record (.info ("dispatch.denied" ++ invocation schema m))
    Program.reply notAllowed
    return true
  | .call schema bindings handler => do
    Program.record (.info ("dispatch.command" ++ invocation schema m))
    match ← ((handler ⟨schema, bindings⟩ m).during .command).attempt with
    | .ok _ => return true
    | .error fault => do
      Program.record (.error ("dispatch.handler.error name=" ++ schema.name) (some fault))
      return true

end ChatBot.Command
