import Mathlib.Data.List.Induction
import Mathlib.Logic.Function.Basic
import ChatBot.Program.Basic

/-!
Programs that take turns on one state. A course lists whose turn it is, turn by turn. All that happens in it follows from the
start, so a moment in a course is the course up to then.
-/
set_option autoImplicit false

namespace ChatBot

/-- The state, and what is left of each program. -/
structure Crowd (ι σ α : Type) where
  state : σ
  programs : ι → Program σ α

namespace Crowd
variable {ι σ α : Type} (stops : Pause → Bool)

def next (crowd : Crowd ι σ α) (i : ι) : Program.Slice σ α := (crowd.programs i).slice stops crowd.state

variable [DecidableEq ι]

def turn (crowd : Crowd ι σ α) (i : ι) : Crowd ι σ α :=
  ⟨(crowd.next stops i).state, Function.update crowd.programs i (crowd.next stops i).rest⟩

def run (crowd : Crowd ι σ α) (course : List ι) : Crowd ι σ α := course.foldl (turn stops) crowd

theorem run_concat (crowd : Crowd ι σ α) (course : List ι) (i : ι) :
    crowd.run stops (course ++ [i]) = (crowd.run stops course).turn stops i := List.foldl_append

/-- What one program does in the turns of a course. -/
def outputs (crowd : Crowd ι σ α) (i : ι) : List ι → List Program.Output
  | [] => []
  | j :: course => (if j = i then (crowd.next stops i).outputs else []) ++ outputs (crowd.turn stops j) i course

theorem outputs_concat (crowd : Crowd ι σ α) (i : ι) (course : List ι) (j : ι) :
    crowd.outputs stops i (course ++ [j]) =
      crowd.outputs stops i course ++ if j = i then ((crowd.run stops course).next stops i).outputs else [] := by
  induction course generalizing crowd with
  | nil => simp [outputs, run]
  | cons k course ih =>
    rw [List.cons_append, outputs, outputs, ih, List.append_assoc]
    rfl

theorem programs_turn_self (crowd : Crowd ι σ α) (i : ι) :
    (crowd.turn stops i).programs i = (crowd.next stops i).rest := Function.update_self ..

theorem programs_turn_of_ne (crowd : Crowd ι σ α) {i j : ι} (h : j ≠ i) :
    (crowd.turn stops i).programs j = crowd.programs j := Function.update_of_ne h ..

end Crowd

/-- The moments of a course that has one more turn are those before, and the last one. -/
theorem moment_concat {ι : Type} {course earlier between : List ι} {i j : ι}
    (h : course ++ [j] = earlier ++ i :: between) :
    (earlier = course ∧ i = j) ∨ ∃ shorter, course = earlier ++ i :: shorter := by
  rcases List.eq_nil_or_concat between with rfl | ⟨shorter, k, rfl⟩
  · obtain ⟨hcourse, hlast⟩ := List.append_inj' h rfl
    exact .inl ⟨hcourse.symm, (List.cons.inj hlast).1.symm⟩
  · rw [List.concat_eq_append, ← List.cons_append, ← List.append_assoc] at h
    exact .inr ⟨shorter, (List.append_inj' h rfl).1⟩

/-- What becomes true in a course becomes so in one of its turns. -/
theorem exists_turn_of_change {ι : Type} (holds : List ι → Prop) (moment : List ι) {between : List ι}
    (hbefore : ¬ holds moment) (hafter : holds (moment ++ between)) : ∃ first i rest, between = first ++ i :: rest ∧ ¬ holds (moment ++ first) ∧
      holds (moment ++ first ++ [i]) := by
  induction between using List.reverseRecOn with
  | nil => exact absurd (List.append_nil moment ▸ hafter) hbefore
  | append_singleton between i ih =>
    by_cases hmiddle : holds (moment ++ between)
    · obtain ⟨first, j, rest, rfl, hturn⟩ := ih hmiddle
      exact ⟨first, j, rest ++ [i], by simp, hturn⟩
    · exact ⟨between, i, [], rfl, hmiddle, (List.append_assoc moment between [i]).symm ▸ hafter⟩

end ChatBot
