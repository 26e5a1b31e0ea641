import ChatBot.Message
import ChatBot.Note

/-!
Programs are what handlers are made of. A program reads and writes a shared state, makes notes, answers the message it
works for, may fail, and names the points where it lets others run. Running a program to its next such point is
`Program.slice`; what is left of it is a program again, so any order in which several programs take turns can be described
by the turns alone.
-/
set_option autoImplicit false

namespace ChatBot

/-- Where a program may let others run: before a request, during a delay, before a file is written. -/
inductive Pause where
  | request
  | delay
  | write
  deriving DecidableEq, Repr

inductive Program (σ α : Type) where
  | done (result : α)
  | raise (fault : Fault)
  | read (next : σ → Program σ α)
  | write (state : σ) (next : Program σ α)
  | respond (kind : ResponseKind) (text : Text) (next : Program σ α)
  | note (note : Note) (next : Program σ α)
  | pause (pause : Pause) (next : Program σ α)
  | await (ready : σ → Bool) (next : Program σ α)

namespace Program
variable {σ α β : Type}

/-- One program after the other; a failure of the first ends both. -/
def bind : Program σ α → (α → Program σ β) → Program σ β
  | done a, f => f a
  | raise fault, _ => raise fault
  | read next, f => read fun s => bind (next s) f
  | write s next, f => write s (bind next f)
  | respond kind text next, f => respond kind text (bind next f)
  | note n next, f => note n (bind next f)
  | pause p next, f => pause p (bind next f)
  | await ready next, f => await ready (bind next f)

instance : Monad (Program σ) where
  pure := done
  bind := bind

/-- A failure becomes a result. -/
def attempt : Program σ α → Program σ (Except Fault α)
  | done a => done (.ok a)
  | raise fault => done (.error fault)
  | read next => read fun s => attempt (next s)
  | write s next => write s (attempt next)
  | respond kind text next => respond kind text (attempt next)
  | note n next => note n (attempt next)
  | pause p next => pause p (attempt next)
  | await ready next => await ready (attempt next)

/-- A failure learns what the program was busy with. -/
def during (activity : Activity) (p : Program σ α) : Program σ α :=
  bind p.attempt fun result => match result with
    | .ok a => done a
    | .error fault => raise (.during activity fault)

/-! ## Single steps -/

def fail (fault : Fault) : Program σ α := raise fault

def get : Program σ σ := read done

def set (s : σ) : Program σ Unit := write s (done ())

def modify (f : σ → σ) : Program σ Unit := read fun s => write (f s) (done ())

/-- A result computed from the state, and the state after it. -/
def update (f : σ → α × σ) : Program σ α := read fun s => write (f s).2 (done (f s).1)

def say (text : Text) : Program σ Unit := respond .say text (done ())

def reply (text : Text) : Program σ Unit := respond .reply text (done ())

def record (n : Note) : Program σ Unit := note n (done ())

def yield (p : Pause) : Program σ Unit := pause p (done ())

/-- Goes on once the state allows it. -/
def waitUntil (ready : σ → Bool) : Program σ Unit := await ready (done ())

/-- The result of a computation that may fail. -/
def ofExcept : Except Fault α → Program σ α
  | .ok a => done a
  | .error fault => raise fault

/-! ## Running to the next pause -/

/-- What a program does besides changing the state. -/
inductive Output where
  | note (n : Note)
  | response (kind : ResponseKind) (text : Text)

/-- What one turn of a program did, the state after it, and what is left of the program. -/
structure Slice (σ α : Type) where
  outputs : List Output
  state : σ
  rest : Program σ α

def Slice.after (output : Output) (s : Slice σ α) : Slice σ α := { s with outputs := output :: s.outputs }

/-- Runs a program until it ends, until it has to wait, or past the first pause at which it lets others run. -/
def slice (stops : Pause → Bool) : Program σ α → σ → Slice σ α
  | done a, s => ⟨[], s, done a⟩
  | raise fault, s => ⟨[], s, raise fault⟩
  | read next, s => slice stops (next s) s
  | write s' next, _ => slice stops next s'
  | respond kind text next, s => (slice stops next s).after (.response kind text)
  | note n next, s => (slice stops next s).after (.note n)
  | pause p next, s => if stops p then ⟨[], s, next⟩ else slice stops next s
  | await ready next, s => if ready s then slice stops next s else ⟨[], s, await ready next⟩

/-- Every pause lets others run. -/
def everywhere : Pause → Bool := fun _ => true

/-- No pause lets others run. -/
def nowhere : Pause → Bool := fun _ => false

/-- How a program ended, if it has. -/
def ending? : Program σ α → Option (Except Fault α)
  | done a => some (.ok a)
  | raise fault => some (.error fault)
  | _ => none

/-- Whether a program has ended. -/
def hasEnded (p : Program σ α) : Bool := p.ending?.isSome

end Program
end ChatBot
