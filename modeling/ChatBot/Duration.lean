import ChatBot.Fault
import ChatBot.Scalar

/-!
Durations in words, such as `1 hour, 2 minutes and 1 second`. Units that do not occur are left out. A count with too many digits
cannot be told.
-/
set_option autoImplicit false

namespace ChatBot.Duration

/-- A unit by the name of one of it, with its length in seconds. -/
structure TimeUnit where
  name : Text
  seconds : Nat
  deriving DecidableEq, Repr

def day : TimeUnit := ⟨"day", 86400⟩
def hour : TimeUnit := ⟨"hour", 3600⟩
def minute : TimeUnit := ⟨"minute", 60⟩
def second : TimeUnit := ⟨"second", 1⟩

/-- All units, longest first. -/
def units : List TimeUnit := [day, hour, minute, second]

/-- How often each unit goes into the seconds that the units before it leave over. -/
def counts : List TimeUnit → Int → List (Int × TimeUnit)
  | [], _ => []
  | u :: us, seconds => (seconds.fdiv u.seconds, u) :: counts us (seconds.fmod u.seconds)

/-- One count with its unit. -/
def part : Int × TimeUnit → Except Fault Text
  | (count, u) =>
    match Decimal.printWhole? count with
    | some digits => .ok (digits ++ ' ' :: u.name ++ (if count > 1 then ['s'] else []))
    | none => .error (.value Decimal.unprintable)

/-- Parts joined by commas, the last one by a conjunction. -/
def joinParts (parts : List Text) : Text :=
  match parts.getLast? with
  | none => []
  | some last => if parts.length ≤ 1 then last else Text.join ", " parts.dropLast ++ " and " ++ last

/-- A number of seconds in words; nothing for zero. -/
def words (seconds : Int) : Except Fault Text := do
  let parts ← ((counts units seconds).filter fun c => decide (0 < c.1)).mapM part
  return joinParts parts

/-! ## Durations of any kind -/

/-- The whole seconds that a value stands for: a measured number is cut, a truth value counts as one or none, and a text is
read. -/
def secondsOf : Scalar → Except Fault Int
  | .int n => .ok n
  | .bool b => .ok (if b then 1 else 0)
  | .float x => (Decimal.truncate x).mapError Fault.ofNotFinite
  | .text t => (Decimal.readWhole t).mapError fun e => .value e.message
  | .none => .error (.wrongKind "NoneType")

/-- A duration in words. -/
def wordsOf (seconds : Scalar) : Except Fault Text := do words (← secondsOf seconds)

end ChatBot.Duration
