import ChatBot.Program.Basic

/-!
Running programs side by side on one state, outside of any message: each to its first pause, then each to its end.
-/
set_option autoImplicit false

namespace ChatBot.Program
variable {σ α : Type}

/-- Every program's next turn, in order. -/
def sliceAll (stops : Pause → Bool) : List (Program σ α) → σ → List (Program σ α) × σ × List Output
  | [], s => ([], s, [])
  | p :: ps, s =>
    let first := p.slice stops s
    let (rest, s, outputs) := sliceAll stops ps first.state
    (first.rest :: rest, s, first.outputs ++ outputs)

/-- How a program ended; one that still waits has been cancelled. -/
def outcome (p : Program σ α) : Except Fault α := p.ending?.getD (.error .cancelled)

/-- Runs the programs side by side: how each ended, the state after all, and what they did. -/
def gather (stops : Pause → Bool) (programs : List (Program σ α)) (s : σ) : List (Except Fault α) × σ × List Output :=
  let (programs, s, first) := sliceAll stops programs s
  let (programs, s, second) := sliceAll nowhere programs s
  (programs.map outcome, s, first ++ second)

/-- Runs one program to its end. -/
def run (p : Program σ α) (s : σ) : Except Fault α × σ × List Output :=
  let done := p.slice nowhere s
  (done.rest.outcome, done.state, done.outputs)

/-- The notes among what programs did. -/
def notesOf (outputs : List Output) : List Note :=
  outputs.filterMap fun o => match o with
    | .note n => some n
    | .response _ _ => none

end ChatBot.Program
