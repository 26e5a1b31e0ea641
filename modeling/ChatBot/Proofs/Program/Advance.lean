import ChatBot.Program.Basic

/-!
Turns of programs made of others. A turn either brings a program to its end or stops before it; where it stops at a pause that
nothing follows, only the stop tells the two apart. So a turn of one program after another is that of the first alone when it
stops, and goes on with the second when the first has ended.
-/
set_option autoImplicit false

namespace ChatBot.Program
variable {σ α β : Type}

/-- How a turn leaves a program: at its end, or with a rest to go on with. -/
inductive Stand (σ α : Type) where
  | ended (result : Except Fault α)
  | stopped (rest : Program σ α)

def Stand.rest : Stand σ α → Program σ α
  | ended result => ofExcept result
  | stopped rest => rest

/-- What one turn of a program did, the state after it, and how it left the program. -/
structure Advance (σ α : Type) where
  outputs : List Output
  state : σ
  stand : Stand σ α

def Advance.following (x : Advance σ α) (before : List Output) : Advance σ α := { x with outputs := before ++ x.outputs }

/-- One turn, as `slice` makes it. -/
def advance (stops : Pause → Bool) : Program σ α → σ → Advance σ α
  | done a, s => ⟨[], s, .ended (.ok a)⟩
  | raise fault, s => ⟨[], s, .ended (.error fault)⟩
  | read next, s => advance stops (next s) s
  | write s' next, _ => advance stops next s'
  | respond kind text next, s => (advance stops next s).following [.response kind text]
  | note n next, s => (advance stops next s).following [.note n]
  | pause p next, s => if stops p then ⟨[], s, .stopped next⟩ else advance stops next s
  | await ready next, s => if ready s then advance stops next s else ⟨[], s, .stopped (await ready next)⟩

theorem slice_eq_advance (stops : Pause → Bool) (p : Program σ α) (s : σ) :
    p.slice stops s =
      ⟨(p.advance stops s).outputs, (p.advance stops s).state, (p.advance stops s).stand.rest⟩ := by
  induction p generalizing s with
  | done a => rfl
  | raise fault => rfl
  | read next ih => exact ih s s
  | write s' next ih => exact ih s'
  | respond kind text next ih =>
    rw [slice, ih]
    rfl
  | note n next ih =>
    rw [slice, ih]
    rfl
  | pause p next ih =>
    rw [slice, advance]
    split
    · rfl
    · exact ih s
  | await ready next ih =>
    rw [slice, advance]
    split
    · exact ih s
    · rfl

/-! ## One program after the other -/

/-- Goes on with another program where the turn brought the first to its end. -/
def Advance.andThen (x : Advance σ α) (stops : Pause → Bool) (f : α → Program σ β) : Advance σ β :=
  match x.stand with
  | .ended (.ok a) => ((f a).advance stops x.state).following x.outputs
  | .ended (.error fault) => ⟨x.outputs, x.state, .ended (.error fault)⟩
  | .stopped rest => ⟨x.outputs, x.state, .stopped (rest.bind f)⟩

theorem Advance.following_andThen (x : Advance σ α) (before : List Output) (stops : Pause → Bool) (f : α → Program σ β) :
    (x.following before).andThen stops f = (x.andThen stops f).following before := by
  obtain ⟨outputs, state, stand⟩ := x
  cases stand with
  | ended result => cases result <;> simp [andThen, following]
  | stopped rest => rfl

theorem advance_bind (stops : Pause → Bool) (p : Program σ α) (f : α → Program σ β) (s : σ) :
    (p.bind f).advance stops s = (p.advance stops s).andThen stops f := by
  induction p generalizing s with
  | done a => rfl
  | raise fault => rfl
  | read next ih => exact ih s s
  | write s' next ih => exact ih s'
  | respond kind text next ih => rw [bind, advance, advance, ih, Advance.following_andThen]
  | note n next ih => rw [bind, advance, advance, ih, Advance.following_andThen]
  | pause p next ih =>
    rw [bind, advance, advance]
    split
    · rfl
    · exact ih s
  | await ready next ih =>
    rw [bind, advance, advance]
    split
    · exact ih s
    · rfl

section
variable {stops : Pause → Bool} {p : Program σ α} {s s' : σ} {outputs : List Output}

theorem advance_bind_of_ended {a : α} (h : p.advance stops s = ⟨outputs, s', .ended (.ok a)⟩) (f : α → Program σ β) :
    (p >>= f).advance stops s = ((f a).advance stops s').following outputs := by
  change (p.bind f).advance stops s = _
  rw [advance_bind, h]
  rfl

theorem advance_bind_of_failed {fault : Fault} (h : p.advance stops s = ⟨outputs, s', .ended (.error fault)⟩)
    (f : α → Program σ β) : (p >>= f).advance stops s = ⟨outputs, s', .ended (.error fault)⟩ := by
  change (p.bind f).advance stops s = _
  rw [advance_bind, h]
  rfl

theorem advance_bind_of_stopped {rest : Program σ α} (h : p.advance stops s = ⟨outputs, s', .stopped rest⟩)
    (f : α → Program σ β) : (p >>= f).advance stops s = ⟨outputs, s', .stopped (rest >>= f)⟩ := by
  change (p.bind f).advance stops s = _
  rw [advance_bind, h]
  rfl

end

/-! ## Failures caught and named -/

def Stand.attempted : Stand σ α → Stand σ (Except Fault α)
  | ended result => ended (.ok result)
  | stopped rest => stopped rest.attempt

theorem advance_attempt (stops : Pause → Bool) (p : Program σ α) (s : σ) :
    p.attempt.advance stops s =
      ⟨(p.advance stops s).outputs, (p.advance stops s).state, (p.advance stops s).stand.attempted⟩ := by
  induction p generalizing s with
  | done a => rfl
  | raise fault => rfl
  | read next ih => exact ih s s
  | write s' next ih => exact ih s'
  | respond kind text next ih =>
    rw [attempt, advance, ih]
    rfl
  | note n next ih =>
    rw [attempt, advance, ih]
    rfl
  | pause p next ih =>
    rw [attempt, advance, advance]
    split
    · rfl
    · exact ih s
  | await ready next ih =>
    rw [attempt, advance, advance]
    split
    · exact ih s
    · rfl

def Stand.during (activity : Activity) : Stand σ α → Stand σ α
  | ended result => ended (result.mapError (.during activity))
  | stopped rest => stopped (rest.during activity)

theorem advance_during (stops : Pause → Bool) (activity : Activity) (p : Program σ α) (s : σ) :
    (p.during activity).advance stops s =
      ⟨(p.advance stops s).outputs, (p.advance stops s).state, (p.advance stops s).stand.during activity⟩ := by
  rw [during, advance_bind, advance_attempt]
  obtain ⟨outputs, state, stand⟩ := p.advance stops s
  cases stand with
  | ended result =>
    cases result with
    | ok a => exact congrArg (fun outputs => Advance.mk outputs state (.ended (.ok a))) (List.append_nil outputs)
    | error fault =>
      exact congrArg (fun outputs => Advance.mk outputs state (.ended (.error (.during activity fault))))
        (List.append_nil outputs)
  | stopped rest => rfl

/-! ## Single steps -/

@[simp] theorem advance_ofExcept (stops : Pause → Bool) (result : Except Fault α) (s : σ) :
    (ofExcept result : Program σ α).advance stops s = ⟨[], s, .ended result⟩ := by
  cases result <;> rfl

end ChatBot.Program
