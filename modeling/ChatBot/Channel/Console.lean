import ChatBot.Bot
import ChatBot.Channel.Manager

/-!
The console: every line that is typed is a message, and responses are printed. Blank lines are passed over, and a line that
says to quit ends the session. One task reads the lines and handles them, so it stays bound to the channel of the last
message.
-/
set_option autoImplicit false

namespace ChatBot.Channel

/-- Where typed messages go, and whose they are. -/
structure ConsoleConfig where
  channel : Text
  sender : Text
  badges : List Text
  deriving DecidableEq, Repr

namespace Console

def adapterName : Text := "console"

/-- The words that end a session. -/
def quitWords : List Text := ["quit", "exit"]

/-- What a line means. -/
inductive Line where
  | quit
  | blank
  | message (content : Text)
  deriving DecidableEq, Repr

def isLineEnd (c : Char) : Bool := c = '\r' || c = '\n'

def Line.ofText (line : Text) : Line :=
  let content := Text.dropWhileEnd isLineEnd line
  if quitWords.contains (Text.lower (Text.trim content)) then .quit
  else if (Text.trim content).isEmpty then .blank
  else .message content

/-- The lines of an input; the last one may lack its end. -/
def inputLines (input : Text) : List Text :=
  let pieces := Text.splitOn '\n' input
  if pieces.getLast? = some [] then pieces.dropLast else pieces

/-- A typed message, under the id that it is given. -/
def message (config : ConsoleConfig) (id content : Text) : Message where
  channel := config.channel
  sender := config.sender
  content := content
  badges := config.badges
  source := adapterName
  id

/-! ## Sessions -/

def startNote (config : ConsoleConfig) : Note :=
  .info ("console.channel.start channel=" ++ config.channel ++ " sender=" ++ config.sender)

def stoppedNote : Note := .info "console.channel.stopped"

/-- The console as the manager knows it; it runs until the session ends. -/
def adapter : Adapter := .make adapterName .blocks none

variable {τ : Type}

/-- A session under way: the ids of the messages to come, in order, and the traffic so far. -/
structure Talk (τ : Type) where
  ids : Nat → Text
  traffic : Traffic τ

/-- A message is typed and arrives. -/
def Talk.arrive (answering : Answering τ) (bus : Bus Receiver) (config : ConsoleConfig) (t : Talk τ) (content : Text) : Talk τ where
  ids n := t.ids (n + 1)
  traffic := (Traffic.arrive answering bus (message config (t.ids 0) content) t.traffic).2

/-- What a line leads to; nothing when it ends the session. -/
def hear (answering : Answering τ) (bus : Bus Receiver) (config : ConsoleConfig) (line : Text) (t : Talk τ) :
    Option (Talk τ) :=
  match Line.ofText line with
  | .quit => none
  | .blank => some t
  | .message content => some (t.arrive answering bus config content)

/-- Lines arrive one after the other, each handled before the next is read. -/
def listen (answering : Answering τ) (bus : Bus Receiver) (config : ConsoleConfig) : List Text → Talk τ → Talk τ
  | [], t => t
  | line :: lines, t =>
    match hear answering bus config line t with
    | none => t
    | some t => listen answering bus config lines t

/-- The manager of a session, started. -/
def manager : Manager := (Manager.empty.register adapter).start

/-- The traffic of a session before its first line. -/
def opening (config : ConsoleConfig) (w : World τ) : Traffic τ :=
  (Traffic.note { world := w, bound := noChannel, events := [] } manager.startNote).note (startNote config)

/-- A session on the given lines: the manager starts, the lines are handled, and the console stops. -/
def session (bot : Bot τ) (config : ConsoleConfig) (ids : Nat → Text) (lines : List Text) (w : World τ) : Traffic τ :=
  (listen bot.answering manager.bus config lines ⟨ids, opening config w⟩).traffic.note stoppedNote

end Console
end ChatBot.Channel
