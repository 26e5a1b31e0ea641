import ChatBot.Feature.Chatter
import ChatBot.Feature.Crates
import ChatBot.Feature.CustomResponses
import ChatBot.Feature.Help
import ChatBot.Feature.Uptime
import ChatBot.Program.Errand

/-!
The bot: the registered commands and the passive handlers. A message starts an errand, in which its command runs beside every
passive handler.
-/
set_option autoImplicit false

namespace ChatBot

structure Bot (τ : Type) where
  settings : Settings
  registry : Command.Registry (Command.Handler (World τ))
  passives : List (Feature.PassiveHandler (World τ))

namespace Bot
variable {τ : Type}

/-! ## Building -/

/-- Declares the commands of a feature one after the other. -/
def declareAll (r : Command.Registry (Command.Handler (World τ))) :
    List (Feature.Declaration (World τ)) → Except Command.RegistrationError (Command.Registry (Command.Handler (World τ)))
  | [] => .ok r
  | d :: ds => do
    let (r, _) ← r.declare d.usage d.elevated d.handler
    declareAll r ds

/-- Declares the help command, which knows the commands declared before it and itself. -/
def declareHelp (settings : Settings) (r : Command.Registry (Command.Handler (World τ))) :
    Except Command.RegistrationError (Command.Registry (Command.Handler (World τ))) := do
  let usage := settings.usage Feature.Help.usage
  match Command.Schema.ofUsage r.leader usage false with
  | .error e => .error (.usage e)
  | .ok schema => r.add schema (Feature.Help.handle settings.leader (schema :: r.schemas))

/-- A bot without features. -/
def bare (settings : Settings) : Bot τ := ⟨settings, Command.Registry.empty [settings.leader], []⟩

variable [Instant τ]

/-- The commands of all features but help, in the order in which they are declared. -/
def declarations (settings : Settings) (started : τ) : List (Feature.Declaration (World τ)) :=
  Feature.Crates.commands settings ++ Feature.CustomResponses.commands settings ++ Feature.Chatter.commands settings ++
    Feature.Uptime.commands settings started

/-- A bot with all features, started at the given time. -/
def full (settings : Settings) (started : τ) : Except Command.RegistrationError (Bot τ) := do
  let r ← declareAll (Command.Registry.empty [settings.leader]) (declarations settings started)
  let r ← declareHelp settings r
  return ⟨settings, r, Feature.CustomResponses.passives settings ++ Feature.Chatter.passives settings⟩

omit [Instant τ] in
/-- The records of building a bot. -/
def readyNotes (bot : Bot τ) : List Note :=
  bot.registry.schemas.map Command.Registry.registeredNote ++
    [.info ("bot.ready identity=" ++ bot.settings.identity ++ " commands=" ++
      Text.ofNat bot.registry.schemas.length ++ " passives=" ++ Text.ofNat bot.passives.length)]

/-- Why a bot cannot start. -/
inductive StartError where
  | storage (fault : Fault)
  | clock (fault : Fault)
  | registration (error : Command.RegistrationError)
  deriving DecidableEq, Repr

/-- Starts a bot with its custom responses loaded: the bot, the world it works in, and the records of its start. -/
def start (settings : Settings) (features : Bool) (runtime : Runtime) (files : Storage.FileSystem) (clock : τ)
    (replies : List Reply) (draws : List Nat) : Except StartError (Bot τ × World τ × List Record) := do
  let (entries, notes) ← (Storage.Entries.load runtime files settings.commandsFile).mapError .storage
  let bot ← if features then do
      (Instant.check clock).mapError .clock
      (full settings clock).mapError .registration
    else .ok (bare settings)
  let shelf := { path := settings.commandsFile, entries, writing := false }
  return (bot, { files, clock, replies, draws, shelf, lastChatter := none, runtime },
    (notes ++ bot.readyNotes).map (·.on noChannel))

/-! ## Handling messages -/

omit [Instant τ]

/-- The errand that handles a message; its records carry the message's channel. -/
def errand (bot : Bot τ) (m : Message) : Errand (World τ) where
  message := m
  channel := m.channel
  command := bot.registry.dispatch m
  passives := bot.passives.map fun p => ⟨p.name, p.handle m⟩
  responses := []
  reported := false

/-- In a quiet world only the writing of files lets others run: services answer at once and delays take no time. -/
def quiet : Pause → Bool
  | .write => true
  | .request | .delay => false

/-- Handles messages that arrive together: the responses to each, the world after them, and the records made. -/
def handleAll (bot : Bot τ) (messages : List Message) (w : World τ) : List (List Response) × World τ × List Record :=
  let (errands, w, records) := Errand.runAll quiet (messages.map bot.errand) w
  (errands.map Errand.responses, w, records)

/-- Handles one message. -/
def handle (bot : Bot τ) (m : Message) (w : World τ) : List Response × World τ × List Record :=
  let (errands, w, records) := Errand.runAll quiet [bot.errand m] w
  (errands.flatMap Errand.responses, w, records)

/-- A bot always answers; it never fails. -/
def answering (bot : Bot τ) (m : Message) (w : World τ) : Except Fault (List Response) × World τ × List Record :=
  let (responses, w, records) := bot.handle m w
  (.ok responses, w, records)

end Bot
end ChatBot
