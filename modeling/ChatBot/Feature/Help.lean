import ChatBot.Feature.Basic
import ChatBot.Settings.Basic
import ChatBot.Storage.Shelf

/-!
Help lists the commands, or shows the usage of one. It knows the commands that were registered before it, itself in front of
them, and the custom responses of the channel it is asked on.
-/
set_option autoImplicit false

namespace ChatBot.Feature.Help
variable {τ : Type}

def usage : Text := "help <command?>"

/-- The names of the known commands and of the channel's custom responses, each after the leader. -/
def listing (leader : Char) (schemas : List Command.Schema) (custom : List (Text × Text)) : List Text :=
  (schemas.map Command.Schema.name ++ custom.map Prod.fst).map (leader :: ·)

/-- What help finds for a name: the usage line of a command, else the body of a custom response. -/
def find? (schemas : List Command.Schema) (custom : Text → Option Template) (name : Text) : Option Text :=
  match schemas.find? fun s => s.name = name with
  | some schema => some schema.usage
  | none => (custom name).map Template.body

/-- What is replied to a query, with or without the leader. -/
def answer (leader : Char) (schemas : List Command.Schema) (custom : Text → Option Template) (query : Text) : Text :=
  (find? schemas custom (Text.dropLeading [leader] query)).getD ("I don't know what '" ++ query ++ "' is")

def handle (leader : Char) (schemas : List Command.Schema) : Command.Handler (World τ) := fun args m => do
  let entries := (← Program.get).shelf.entries
  match args.get? "command" with
  | none => Program.say (Text.join ", " (listing leader schemas (entries.commands m.channel)))
  | some query => Program.reply (answer leader schemas (entries.get? m.channel) query)

end ChatBot.Feature.Help
