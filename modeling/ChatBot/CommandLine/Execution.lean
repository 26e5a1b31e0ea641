import ChatBot.Channel.Console
import ChatBot.CommandLine.Invocation
import ChatBot.Logging
import ChatBot.Settings.Sources
import ChatBot.Terminal.Markup

/-!
What an invocation prints and how it ends. The check of a usage line prints the command's name as text with markup, so a name
that closes a style it has not opened ends the program.
-/
set_option autoImplicit false

namespace ChatBot.CommandLine

/-- Why the program breaks off. -/
inductive Crash where
  | usage (error : Command.UsageError)
  | markup (error : Terminal.MarkupError)
  | settings (error : Settings.Error)
  | logging (fault : Fault)
  | start (error : Bot.StartError)
  deriving DecidableEq, Repr

namespace Crash

def message : Crash → Text
  | usage e => e.message
  | markup e => e.message
  | settings e => e.message
  | logging fault => fault.message
  | start (.storage fault) | start (.clock fault) => fault.message
  | start (.registration e) => e.message

end Crash

inductive Ending where
  | exits (code : Nat)
  | misused (error : ArgumentError)
  | crashes (crash : Crash)
  deriving DecidableEq, Repr

/-- What was printed, how it ended, and the files it left. -/
structure Outcome where
  output : Text
  ending : Ending
  files : Storage.FileSystem

/-- What a program finds when it is called. -/
structure Surroundings (τ : Type) where
  environment : Assoc Text Text
  files : Storage.FileSystem
  clock : τ
  replies : List Reply
  draws : List Nat
  input : Text
  /-- What the log tells about a failure. -/
  explain : Fault → Text := Fault.account
  /-- The ids of the messages that are typed. -/
  ids : Nat → Text := fun _ => []
  runtime : Runtime := .plain

/-- What is printed, and the exit code or the reason to break off. -/
abbrev Verdict := Except Crash (Text × Nat)

/-! ## Checking -/

/-- What is printed of a usage line that declares no command. A leader that is no single character is the caller's mistake. -/
def refuse (e : Command.UsageError) : Verdict :=
  match e with
  | .leader _ => .error (.usage e)
  | _ => (Terminal.printMarkup ("[red]invalid:[/red] " ++ e.message)).mapError Crash.markup |>.map fun text => (text, 1)

def slotKindName : Command.SlotKind → Text
  | .required => "required"
  | .optional => "optional"
  | .flexible => "flexible"

/-- The line of a slot. -/
def printSlot (slot : Command.Slot) : Text := Terminal.print ("  " ++ slot.key ++ ": " ++ slotKindName slot.kind)

/-- Shows the command that a usage line declares. -/
def check (leader usage : Text) : Verdict :=
  match Command.Schema.ofUsage leader usage false with
  | .error e => refuse e
  | .ok schema =>
    match Terminal.printMarkup ("command: [bold]" ++ schema.name ++ "[/bold]") with
    | .error e => .error (.markup e)
    | .ok title => .ok (title ++ schema.slots.flatMap printSlot, 0)

/-! ## Extracting -/

/-- The line of a bound argument. -/
def printBinding (key value : Text) : Text := Terminal.print ("  " ++ key ++ " = " ++ Text.quote value)

/-- Shows what a line means to the command of a usage line. -/
def extract (leader usage line : Text) : Verdict :=
  match Command.Schema.ofUsage leader usage false with
  | .error e => refuse e
  | .ok schema =>
    match schema.extract line with
    | .matched bindings =>
      .ok (Terminal.print "matched" ++ bindings.flatMap fun (key, value) => printBinding key value, 0)
    | .missingRequired => .ok (Terminal.print ("missing arguments, usage: " ++ schema.usage), 0)
    | .noMatch => .ok (Terminal.print "no match", 2)

/-! ## Conversations -/

/-- The settings for a conversation. -/
def RunOptions.settings (options : RunOptions) (runtime : Runtime) (environment : Assoc Text Text)
    (files : Storage.FileSystem) : Except Settings.Error Settings :=
  Settings.load runtime environment files (options.workspace.map Storage.FilePath.ofText)

/-- Where a conversation is held: the channel asked for, or else the first one that is set. -/
def RunOptions.console (options : RunOptions) (settings : Settings) : Channel.ConsoleConfig where
  channel :=
    match options.channel with
    | some (c :: t) => c :: t
    | _ => settings.channels.head?.getD "#console"
  sender := options.sender
  badges := if options.elevated then ["broadcaster"] else []

/-- A conversation that is ready to begin, and what has happened before its first line. -/
structure Conversation (τ : Type) where
  bot : Bot τ
  sink : Option LogSink
  console : Channel.ConsoleConfig
  explain : Fault → Text
  started : List Record
  world : World τ

variable {τ : Type}

/-- Sets a conversation up. -/
def prepare [Instant τ] (options : RunOptions) (s : Surroundings τ) : Except Crash (Conversation τ) := do
  let settings ← (options.settings s.runtime s.environment s.files).mapError .settings
  let (configured, logging) := Logging.unconfigured.configure s.environment LogProfile.chat.name (some settings.logLevel)
  configured.mapError .logging
  let (bot, world, started) ← (Bot.start settings true s.runtime s.files s.clock s.replies s.draws).mapError .start
  return { bot, sink := logging.sink, console := options.console settings, explain := s.explain, started, world }

/-- What is printed of a record. -/
def printRecord (c : Conversation τ) (r : Record) : Text :=
  match c.sink with
  | none => []
  | some sink => (sink.linesOf c.explain r).flatMap LogLine.output

/-- A response is printed with its channel. -/
def printResponse (r : Response) : Text := Terminal.printAll [r.channel, r.render]

/-- What is printed of an event: a record for the log, or a response. -/
def printEvent (c : Conversation τ) : Channel.Event → Text
  | .recorded r => printRecord c r
  | .sent _ r => printResponse r

/-- Holds a conversation over the whole input. -/
def run [Instant τ] (options : RunOptions) (s : Surroundings τ) : Outcome :=
  match prepare options s with
  | .error crash => ⟨[], .crashes crash, s.files⟩
  | .ok c =>
    let t := Channel.Console.session c.bot c.console s.ids (Channel.Console.inputLines s.input) c.world
    ⟨c.started.flatMap (printRecord c) ++ t.events.flatMap (printEvent c), .exits 0, t.world.files⟩

/-! ## Invocations -/

/-- How to call the program. -/
def helpText : Text :=
  "run [--workspace DIRECTORY] [--sender NAME] [--channel NAME] [--elevated]\ncheck USAGE [--leader CHARACTER]\n" ++
    "extract USAGE LINE [--leader CHARACTER]\n"

/-- The outcome of an invocation that leaves the files alone. -/
def Outcome.ofVerdict (files : Storage.FileSystem) : Verdict → Outcome
  | .error crash => ⟨[], .crashes crash, files⟩
  | .ok (output, code) => ⟨output, .exits code, files⟩

def execute [Instant τ] (arguments : List Text) (s : Surroundings τ) : Outcome :=
  match Invocation.ofTexts arguments with
  | .error e => ⟨[], .misused e, s.files⟩
  | .ok .help => ⟨helpText, .exits 0, s.files⟩
  | .ok (.run options) => run options s
  | .ok (.check leader usage) => .ofVerdict s.files (check leader usage)
  | .ok (.extract leader usage line) => .ofVerdict s.files (extract leader usage line)

end ChatBot.CommandLine
