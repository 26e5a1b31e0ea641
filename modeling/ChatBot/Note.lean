import ChatBot.Fault
import ChatBot.Json.Basic
import ChatBot.Scalar

/-!
Notes are what a running bot leaves behind besides its responses: log records, requests, random draws and delays. A
record is a note under the channel that was bound when it was made.
-/
set_option autoImplicit false

namespace ChatBot

inductive Level where
  | trace
  | debug
  | info
  | success
  | warning
  | error
  | critical
  deriving DecidableEq, Repr

namespace Level

def all : List Level := [trace, debug, info, success, warning, error, critical]

def name : Level → Text
  | trace => "TRACE"
  | debug => "DEBUG"
  | info => "INFO"
  | success => "SUCCESS"
  | warning => "WARNING"
  | error => "ERROR"
  | critical => "CRITICAL"

def severity : Level → Nat
  | trace => 5
  | debug => 10
  | info => 20
  | success => 25
  | warning => 30
  | error => 40
  | critical => 50

/-- The level with the given name. -/
def named? (wanted : Text) : Option Level := all.find? fun l => l.name = wanted

end Level

/-- A random draw: a number of thousandths, a number within bounds, or the place of a choice. -/
inductive Draw where
  | thousandths (n : Nat)
  | within (low high result : Int)
  | choice (items : List Text) (place : Nat)
  deriving DecidableEq, Repr

inductive Note where
  | log (level : Level) (text : Text) (fault : Option Fault)
  | request (url : Text) (body : Json) (timeout : Scalar) (headers : List (Text × Text))
  | draw (d : Draw)
  | delay (milliseconds : Int)

/-- A note and the channel bound when it was made. -/
structure Record where
  channel : Text
  note : Note

/-- The channel of records made outside of any message. -/
def noChannel : Text := ['-']

namespace Note

def debug (text : Text) : Note := .log .debug text none
def info (text : Text) : Note := .log .info text none
def warning (text : Text) : Note := .log .warning text none
def error (text : Text) (fault : Option Fault) : Note := .log .error text fault

/-- The note as a record of the given channel. -/
def on (note : Note) (channel : Text) : Record := ⟨channel, note⟩

end Note
end ChatBot
