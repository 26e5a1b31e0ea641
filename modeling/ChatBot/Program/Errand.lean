import ChatBot.Program.Basic

/-!
An errand handles one message: the program of the command that the message runs, beside one program for each passive handler.
The programs of an errand, and several errands on one state, take turns. Responses are trimmed, and blank ones are dropped. Once
all passive handlers of an errand have ended, a last turn records those that failed.
-/
set_option autoImplicit false

namespace ChatBot

/-- A passive handler's name and what is left of its program. -/
structure Passive (σ : Type) where
  name : Text
  program : Program σ Unit

structure Errand (σ : Type) where
  message : Message
  channel : Text
  command : Program σ Bool
  passives : List (Passive σ)
  responses : List Response
  reported : Bool

/-- What an errand does next: a turn of one of its programs, or the report on its passive handlers. -/
inductive Turn where
  | command
  | passive (place : Nat)
  | report
  deriving DecidableEq, Repr

namespace Errand
variable {σ α : Type}

/-! ## Responses and records -/

/-- The name of a kind of response in records. -/
def kindName : ResponseKind → Text
  | .say => "say"
  | .reply => "reply"

/-- The trimmed text of a response, unless it is blank. -/
def deliverable? (text : Text) : Option Text :=
  let content := Text.trim text
  if content.isEmpty then none else some content

/-- The records of an output under a channel. -/
def recordsOf (message : Message) (channel : Text) : Program.Output → List Record
  | .note n => [n.on channel]
  | .response kind text =>
    match deliverable? text with
    | none => []
    | some content =>
      [(Note.debug ("respond." ++ kindName kind ++ " channel=" ++ message.channel ++ " content=" ++
        Text.quote content)).on channel]

/-- The response of an output to the message. -/
def responseOf? (message : Message) : Program.Output → Option Response
  | .note _ => none
  | .response kind text => (deliverable? text).map (Response.toMessage message kind)

/-- Takes in what a program of the errand did. -/
def absorb (t : Errand σ) (outputs : List Program.Output) : Errand σ × List Record :=
  ({ t with responses := t.responses ++ outputs.filterMap (responseOf? t.message) },
    outputs.flatMap (recordsOf t.message t.channel))

/-! ## Turns -/

/-- The records of the passive handlers that failed. -/
def failureRecords (t : Errand σ) : List Record :=
  t.passives.filterMap fun p =>
    match p.program.ending? with
    | some (.error fault) => some ((Note.error ("passive.error handler=" ++ p.name) (some fault)).on t.channel)
    | _ => none

/-- Whether every passive handler has ended. -/
def passivesEnded (t : Errand σ) : Bool := t.passives.all (·.program.hasEnded)

/-- One turn of the errand. -/
def take (stops : Pause → Bool) (t : Errand σ) (turn : Turn) (s : σ) : Errand σ × σ × List Record :=
  match turn with
  | .command =>
    let done := t.command.slice stops s
    let (t, records) := { t with command := done.rest }.absorb done.outputs
    (t, done.state, records)
  | .passive place =>
    match t.passives[place]? with
    | none => (t, s, [])
    | some p =>
      let done := p.program.slice stops s
      let (t, records) := { t with passives := t.passives.set place ⟨p.name, done.rest⟩ }.absorb done.outputs
      (t, done.state, records)
  | .report =>
    if t.passivesEnded && !t.reported then ({ t with reported := true }, s, t.failureRecords) else (t, s, [])

/-- Several turns of the programs of one errand. -/
def takeAll (stops : Pause → Bool) (t : Errand σ) : List Turn → σ → Errand σ × σ × List Record
  | [], s => (t, s, [])
  | turn :: turns, s =>
    let (t, s, records) := t.take stops turn s
    let (t, s, more) := takeAll stops t turns s
    (t, s, records ++ more)

/-- The turns of all passive handlers, in order. -/
def passiveTurns (t : Errand σ) : List Turn := (List.range t.passives.length).map Turn.passive

/-- Whether the errand is over. -/
def hasEnded (t : Errand σ) : Bool := t.command.hasEnded && t.passivesEnded && t.reported

end Errand

/-! ## Several errands -/

namespace Errand
variable {σ : Type}

/-- One turn each of the same kind for every errand. -/
def sweep (stops : Pause → Bool) (turns : Errand σ → List Turn) : List (Errand σ) → σ → List (Errand σ) × σ × List Record
  | [], s => ([], s, [])
  | t :: ts, s =>
    let (t, s, records) := t.takeAll stops (turns t) s
    let (ts, s, more) := sweep stops turns ts s
    (t :: ts, s, records ++ more)

/-- Runs errands that start together: every command up to its first pause, then every passive handler and the reports on
them, then what is left of each errand. -/
def runAll (stops : Pause → Bool) (errands : List (Errand σ)) (s : σ) : List (Errand σ) × σ × List Record :=
  let (errands, s, first) := sweep stops (fun _ => [.command]) errands s
  let (errands, s, second) := sweep stops passiveTurns errands s
  let (errands, s, third) := sweep stops (fun _ => [.report]) errands s
  let (errands, s, fourth) := sweep Program.nowhere (fun t => .command :: t.passiveTurns ++ [.report]) errands s
  (errands, s, first ++ second ++ third ++ fourth)

end Errand
end ChatBot
