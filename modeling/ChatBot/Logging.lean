import ChatBot.Assoc
import ChatBot.Note
import ChatBot.Terminal.Layout
import ChatBot.Text.Capitals

/-!
Where log records are shown. There is at most one sink; it shows the records from its threshold upwards, in the manner of its
profile. A profile is configured once: configuring it again changes nothing, and a failed attempt leaves no sink behind.
-/
set_option autoImplicit false

namespace ChatBot

/-- How records are shown: on standard error, in columns, or on standard output among the chat. -/
inductive LogProfile where
  | standard
  | chat
  deriving DecidableEq, Repr

namespace LogProfile

def name : LogProfile → Text
  | standard => "default"
  | chat => "chat"

/-- The profile with the given name. -/
def named? (wanted : Text) : Option LogProfile := [standard, chat].find? fun p => p.name = wanted

end LogProfile

/-! ## Sinks -/

/-- What is shown of a record. -/
inductive LogLine where
  | columns (texts : List Text)
  | printed (text : Text)
  deriving DecidableEq, Repr

def LogLine.columns? : LogLine → Option (List Text)
  | columns texts => some texts
  | printed _ => none

/-- What a line adds to standard output. -/
def LogLine.output : LogLine → Text
  | columns _ => []
  | printed text => text

structure LogSink where
  profile : LogProfile
  threshold : Level
  deriving DecidableEq, Repr

namespace LogSink

/-- The widths of the level's column. -/
def standardMargin : Nat := 6
def chatMargin : Nat := 9

def line (s : LogSink) (level : Level) (channel text : Text) : LogLine :=
  match s.profile with
  | .standard => .columns [Text.padRight standardMargin level.name, channel, text]
  | .chat => .printed (Terminal.printBeside level.name chatMargin (channel ++ " | " ++ text))

/-- The line of a record that reaches the threshold. -/
def lines (s : LogSink) (level : Level) (channel text : Text) : List LogLine :=
  if s.threshold.severity ≤ level.severity then [s.line level channel text] else []

/-- The lines of a record made while the bot works; below the record of a failure stands what `explain` tells about it. -/
def linesOf (s : LogSink) (explain : Fault → Text) (r : Record) : List LogLine :=
  match r.note with
  | .log level text none => s.lines level r.channel text
  | .log level text (some fault) => s.lines level r.channel (text ++ '\n' :: explain fault)
  | .request _ _ _ _ | .draw _ | .delay _ => []

end LogSink

/-! ## Configuring -/

structure Logging where
  sink : Option LogSink
  configured : Option LogProfile
  deriving DecidableEq, Repr

namespace Logging

def unconfigured : Logging := ⟨none, none⟩

def unknownLevel (name : Text) : Fault := .value ("Level '" ++ name ++ "' does not exist")

/-- The variable that names the level when none is given. -/
def levelVariable : Text := "SHAKEN_LOG_LEVEL"

/-- The name of the level that is wanted: the one given, or else the environment's, or else the usual one. -/
def wantedLevel (environment : Assoc Text Text) (given : Option Text) : Text :=
  match given with
  | some (c :: t) => Text.upper (c :: t)
  | _ => Text.upper ((environment.find? levelVariable).getD Level.info.name)

/-- Configures a profile at a level. -/
def configure (l : Logging) (environment : Assoc Text Text) (profile : Text) (level : Option Text) :
    Except Fault Unit × Logging :=
  match LogProfile.named? profile with
  | none => (.error (.missingKey profile), { l with sink := none })
  | some p =>
    if l.configured = some p then (.ok (), l)
    else match Level.named? (wantedLevel environment level) with
      | none => (.error (unknownLevel (wantedLevel environment level)), { l with sink := none })
      | some threshold => (.ok (), ⟨some ⟨p, threshold⟩, some p⟩)

/-- Logs a text at the level with the given name. Without a sink no level is looked up. -/
def log (l : Logging) (level channel text : Text) : Except Fault (List LogLine) :=
  match l.sink with
  | none => .ok []
  | some s =>
    match Level.named? level with
    | none => .error (unknownLevel level)
    | some level => .ok (s.lines level channel text)

end Logging
end ChatBot
