import ChatBot.Program.Basic
import ChatBot.Storage.Document

/-!
The world a bot works in: files, a clock, the replies of the services it asks, its random draws and the writes that fail for no
fault of the bot, which are all scripted, the runtime, and what the bot itself remembers from one message to the next. The clock
may go on between two readings, even while a program has its turn.
-/
set_option autoImplicit false

namespace ChatBot

/-! ## Clocks -/

/-- Readings of a clock, as far as the bot compares them. -/
class Instant (τ : Type) where
  /-- Why the clock cannot be read at an instant, if it cannot. -/
  check : τ → Except Fault Unit
  /-- Whole seconds from the first reading to the second. -/
  secondsBetween : τ → τ → Except Fault Int
  /-- Whether fewer than so many milliseconds lie between the two readings. -/
  isWithin : τ → τ → Nat → Bool

/-- Whether so many milliseconds are a number of seconds that a floating-point number can hold. -/
def checkSeconds (milliseconds : Int) : Except Fault Unit :=
  if (Decimal.ofInt milliseconds 3).isInf then .error (.overflow "integer division result too large for a float") else .ok ()

/-- A clock that counts milliseconds and is read in seconds, as a floating-point number. -/
structure Milliseconds where
  count : Int
  deriving DecidableEq, Repr

namespace Milliseconds

def seconds (t : Milliseconds) : Float := Decimal.ofInt t.count 3

def after (t : Milliseconds) (ms : Int) : Milliseconds := ⟨t.count + ms⟩

end Milliseconds

/-- Whether a number is below a natural number, compared exactly. -/
def isBelow (x : Float) (n : Nat) : Bool :=
  if x < 0.0 then true
  else match Decimal.truncate x with
    | .ok whole => decide (whole < n)
    | .error _ => false

instance : Instant Milliseconds where
  check t := checkSeconds t.count
  secondsBetween start now := (Decimal.truncate (now.seconds - start.seconds)).mapError Fault.ofNotFinite
  isWithin start now ms := isBelow ((now.seconds - start.seconds) * 1000.0) ms

/-! ## The world -/

/-- The reply of a service: an answer with a status and a body, or a failure. -/
inductive Reply where
  | answer (status : Int) (reason : Option Text) (body : Text)
  | failure (fault : Fault)
  deriving DecidableEq, Repr

/-- The custom responses in memory, where they are kept, and whether a write to the file is under way. -/
structure Shelf where
  path : Storage.FilePath
  entries : Storage.Entries
  writing : Bool

structure World (τ : Type) where
  files : Storage.FileSystem
  clock : τ
  replies : List Reply
  draws : List Nat
  shelf : Shelf
  lastChatter : Option τ
  /-- How each of the coming writes to files fails, if it does. -/
  refusals : List (Option Storage.FileSystem.Refusal) := []
  /-- What the coming readings of the clock find; after the last of them the clock stands still. -/
  readings : List τ := []
  runtime : Runtime := .plain

namespace World
variable {τ : Type}

/-- The world with other custom responses in memory. -/
def withEntries (w : World τ) (entries : Storage.Entries) : World τ := { w with shelf := { w.shelf with entries } }

/-- The world with or without a write to the file under way. -/
def withWriting (w : World τ) (writing : Bool) : World τ := { w with shelf := { w.shelf with writing } }

/-- Notices the time of the last chatter. -/
def noticeChatter (w : World τ) : World τ := { w with lastChatter := some w.clock }

/-- The next reading of the clock; an empty script finds the clock where it was. -/
def nextReading (w : World τ) : τ × World τ :=
  match w.readings with
  | [] => (w.clock, w)
  | now :: readings => (now, { w with clock := now, readings })

/-- The next reply of the script; an empty script fails. -/
def nextReply (w : World τ) : Reply × World τ :=
  match w.replies with
  | [] => (.failure (.request .connection "no more responses"), w)
  | reply :: replies => (reply, { w with replies })

/-- The next draw of the script; an empty script goes on with zeros. -/
def nextDraw (w : World τ) : Nat × World τ :=
  match w.draws with
  | [] => (0, w)
  | draw :: draws => (draw, { w with draws })

/-- How the next write fails, if it does; an empty script refuses none. -/
def nextRefusal (w : World τ) : Option Storage.FileSystem.Refusal × World τ :=
  match w.refusals with
  | [] => (none, w)
  | refusal :: refusals => (refusal, { w with refusals })

end World
end ChatBot
