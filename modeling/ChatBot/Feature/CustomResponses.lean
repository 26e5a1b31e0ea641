import ChatBot.Feature.Basic
import ChatBot.Settings.Basic
import ChatBot.Storage.Shelf
import ChatBot.Template.Environment

/-!
Custom responses, set, added, edited and removed in chat by those with privileges. A message that begins with the leader and
the name of a custom response of its channel is answered with its body, in which `${name}` stands for the sender and
`${channel}` for the channel.
-/
set_option autoImplicit false

namespace ChatBot.Feature.CustomResponses
variable {τ : Type}

/-- A text between single quotes, whatever it holds. -/
def marked (t : Text) : Text := '\'' :: t ++ ['\'']

def alreadyExists (name : Text) : Text := marked name ++ " already exists"
def doesNotExist (name : Text) : Text := marked name ++ " does not exist"
def updated (name body : Text) : Text := "updated " ++ marked name ++ " -> " ++ marked body
def removed (name : Text) : Text := "removed " ++ marked name
def emptyBody : Text := "try again. you provided an empty command body"
def refused : Text := "lol"

/-- Whether the chat would take the text for a command to itself. -/
def isChatCommand : Text → Bool
  | c :: _ => c = '.' || c = '/'
  | [] => false

/-! ## Commands -/

/-- Stores a body under a name, unless it is missing, refused or not well formed. -/
def update (channel name : Text) (body : Option Text) : Program (World τ) Unit :=
  match body with
  | none => Program.reply emptyBody
  | some body =>
    if isChatCommand body then Program.reply refused
    else do
      match ← (Storage.Shelf.set channel name body).attempt with
      | .ok () =>
        Program.record (.info ("responses.update channel=" ++ channel ++ " name=" ++ Text.quote name ++ " body=" ++
          Text.quote body))
        Program.reply (updated name body)
      | .error (.template e) => Program.reply ("invalid body: " ++ e.message)
      | .error fault => Program.fail fault

def setHandler : Command.Handler (World τ) := fun args m => do
  let name ← args.get "command"
  update m.channel name (args.getNonEmpty? "body")

def addHandler : Command.Handler (World τ) := fun args m => do
  let name ← args.get "command"
  if ← Storage.Shelf.contains m.channel name then Program.reply (alreadyExists name)
  else update m.channel name (args.getNonEmpty? "body")

def editHandler : Command.Handler (World τ) := fun args m => do
  let name ← args.get "command"
  if ← Storage.Shelf.contains m.channel name then update m.channel name (args.getNonEmpty? "body")
  else Program.reply (doesNotExist name)

def removeHandler : Command.Handler (World τ) := fun args m => do
  let name ← args.get "command"
  if ← Storage.Shelf.remove m.channel name then
    Program.record (.info ("responses.remove channel=" ++ m.channel ++ " name=" ++ name))
    Program.reply (removed name)
  else Program.reply (doesNotExist name)

def commands (settings : Settings) : List (Declaration (World τ)) :=
  [⟨settings.usage "set <command> <body...>", true, setHandler⟩,
   ⟨settings.usage "add <command> <body...>", true, addHandler⟩,
   ⟨settings.usage "edit <command> <body...>", true, editHandler⟩,
   ⟨settings.usage "remove <command>", true, removeHandler⟩]

/-! ## Answers -/

/-- What placeholders stand for in the answer to a message. -/
def environment (m : Message) : Template.Environment Id :=
  Assoc.insert (Assoc.insert [] "name" (.known (.text m.sender))) "channel" (.known (.text m.channel))

/-- The name a message asks for: the first word after the leader. -/
def requestedName? (leader : Char) (m : Message) : Option Text :=
  (Text.after? [leader] m.content).bind fun rest => (Text.words rest).head?

/-- Answers a message that asks for a custom response of its channel. -/
def answer (leader : Char) (m : Message) : Program (World τ) Unit :=
  match requestedName? leader m with
  | none => return ()
  | some name => do
    match ← Storage.Shelf.get? m.channel name with
    | none => return ()
    | some template =>
      let filled : Text ← Program.ofExcept ((template.apply (environment m)).mapError Fault.template)
      Program.say filled

def passives (settings : Settings) : List (PassiveHandler (World τ)) :=
  [⟨"Responses.handle", answer settings.leader⟩]

end ChatBot.Feature.CustomResponses
