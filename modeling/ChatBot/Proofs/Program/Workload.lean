import ChatBot.Proofs.Program.Progress

/-!
Errands at work on one state. Their programs take turns in any order, and others may change the state between two turns. What an
errand has answered is what its own turns have told, and all turns of one of its programs make a run of that program.
-/
set_option autoImplicit false

namespace ChatBot
variable {σ : Type}

theorem rel_cases {α β : Type} {R : α → β → Prop} {a : Option α} {b : Option β} (h : Option.Rel R a b) :
    (a = none ∧ b = none) ∨ ∃ x y, a = some x ∧ b = some y ∧ R x y := by
  cases h with
  | none => exact .inl ⟨rfl, rfl⟩
  | some h => exact .inr ⟨_, _, rfl, rfl, h⟩

/-- What is left of a passive handler after it has done something. -/
def Passive.Leaves (p : Passive σ) (outputs : List Program.Output) (rest : Passive σ) : Prop :=
  rest.name = p.name ∧ p.program.Continues outputs rest.program

namespace Errand

/-! ## What turns tell -/

/-- What the programs of an errand do in turns, each output with the turn that it belongs to. -/
abbrev Told := List (Turn × Program.Output)

namespace Told

def only (told : Told) (turn : Turn) : List Program.Output := (told.filter (·.1 = turn)).map Prod.snd

/-- The responses to a message, each with the turn that it belongs to. -/
def answers (told : Told) (m : Message) : List (Turn × Response) :=
  told.filterMap fun output => (responseOf? m output.2).map (output.1, ·)

def ofTurn (turn : Turn) (outputs : List Program.Output) : Told := outputs.map (turn, ·)

theorem only_append (told more : Told) (turn : Turn) : only (told ++ more) turn = told.only turn ++ more.only turn := by
  rw [only, List.filter_append, List.map_append]
  rfl

theorem only_ofTurn_self (turn : Turn) (outputs : List Program.Output) : (ofTurn turn outputs).only turn = outputs := by
  simp [only, ofTurn, List.filter_map, Function.comp_def]

theorem only_ofTurn_of_ne {turn other : Turn} (h : other ≠ turn) (outputs : List Program.Output) :
    (ofTurn other outputs).only turn = [] := by
  simp [only, ofTurn, h]

theorem answers_append (told more : Told) (m : Message) :
    answers (told ++ more) m = told.answers m ++ more.answers m := List.filterMap_append

theorem answers_ofTurn (turn : Turn) (outputs : List Program.Output) (m : Message) :
    (ofTurn turn outputs).answers m = (outputs.filterMap (responseOf? m)).map (turn, ·) := by
  rw [answers, ofTurn, List.filterMap_map, List.map_filterMap]
  rfl

theorem map_snd_answers (told : Told) (m : Message) :
    (told.answers m).map Prod.snd = told.filterMap fun output => responseOf? m output.2 := by
  rw [answers, List.map_filterMap]
  simp only [Option.map_map, Function.comp_def, Option.map_id']

end Told

/-! ## Turns -/

theorem take_report (stops : Pause → Bool) (t : Errand σ) (s : σ) :
    t.take stops .report s = ({ t with reported := t.reported || t.passivesEnded }, s,
      if t.passivesEnded && !t.reported then t.failureRecords else []) := by
  obtain ⟨m, channel, command, passives, responses, reported⟩ := t
  simp only [Errand.take]
  cases reported <;> split <;> simp_all

def telling (t : Errand σ) (stops : Pause → Bool) (turn : Turn) (s : σ) : List Program.Output :=
  match turn with
  | .command => (t.command.slice stops s).outputs
  | .passive place =>
    match t.passives[place]? with
    | none => []
    | some p => (p.program.slice stops s).outputs
  | .report => []

def afterTurn (stops : Pause → Bool) (s : σ) (p : Passive σ) : Passive σ := ⟨p.name, (p.program.slice stops s).rest⟩

section
variable (t : Errand σ) (stops : Pause → Bool) (turn : Turn) (s : σ)

theorem message_take : (t.take stops turn s).1.message = t.message := by
  cases turn with
  | command => rfl
  | report => rw [take_report]
  | passive place =>
    rw [take]
    split <;> rfl

theorem responses_take :
    (t.take stops turn s).1.responses = t.responses ++ (t.telling stops turn s).filterMap (responseOf? t.message) := by
  cases turn with
  | command => rfl
  | report =>
    rw [take_report]
    exact (List.append_nil _).symm
  | passive place =>
    cases hp : t.passives[place]? with
    | none =>
      simp only [take, telling, hp]
      exact (List.append_nil _).symm
    | some p =>
      simp only [take, telling, hp]
      rfl

theorem command_take : (t.take stops turn s).1.command =
    if turn = .command then (t.command.slice stops s).rest else t.command := by
  cases turn with
  | command => rfl
  | report => rw [take_report]; rfl
  | passive place =>
    rw [take]
    split <;> rfl

theorem passives_take (i : ℕ) : (t.take stops turn s).1.passives[i]? =
    if turn = .passive i then t.passives[i]?.map (afterTurn stops s) else t.passives[i]? := by
  cases turn with
  | command => rfl
  | report => rw [take_report]; rfl
  | passive place =>
    cases hp : t.passives[place]? with
    | none =>
      simp only [take, hp, Turn.passive.injEq]
      split
      · rename_i hplace
        rw [← hplace, hp, Option.map_none]
      · rfl
    | some p =>
      simp only [take, hp, absorb, Turn.passive.injEq]
      split
      · rename_i hplace
        rw [← hplace, hp, List.getElem?_set_self (List.getElem?_eq_some_iff.mp hp).1]
        rfl
      · rename_i hplace
        exact List.getElem?_set_ne hplace

end

/-! ## What is left of an errand -/

/-- What is left of an errand after its programs have told something. -/
structure Leaves (t : Errand σ) (told : Told) (rest : Errand σ) : Prop where
  message : rest.message = t.message
  responses : rest.responses = t.responses ++ (told.answers t.message).map Prod.snd
  command : t.command.Continues (told.only .command) rest.command
  passive : ∀ place, Option.Rel (Passive.Leaves · (told.only (.passive place)) ·) t.passives[place]? rest.passives[place]?
  known : ∀ output ∈ told, output.1 = .command ∨ ∃ place, output.1 = .passive place ∧ t.passives[place]? ≠ none

theorem rel_leaves_refl (p : Option (Passive σ)) : Option.Rel (Passive.Leaves · [] ·) p p := by
  cases p with
  | none => exact .none
  | some p => exact .some ⟨rfl, .refl _⟩

theorem Leaves.refl (t : Errand σ) : t.Leaves [] t :=
  ⟨rfl, (List.append_nil _).symm, .refl _, fun place => rel_leaves_refl t.passives[place]?, fun _ h => by cases h⟩

theorem Leaves.trans {t t' t'' : Errand σ} {told more : Told} (h : t.Leaves told t') (h' : t'.Leaves more t'') :
    t.Leaves (told ++ more) t'' := by
  refine ⟨h'.message.trans h.message, ?_, ?_, fun place => ?_, fun output houtput => ?_⟩
  · rw [h'.responses, h.responses, h.message, Told.answers_append, List.map_append, List.append_assoc]
  · rw [Told.only_append]
    exact h.command.trans h'.command
  · rw [Told.only_append]
    rcases rel_cases (h.passive place) with ⟨hp, hp'⟩ | ⟨p, p', hp, hp', hfirst⟩
    · rcases rel_cases (h'.passive place) with ⟨-, hp''⟩ | ⟨_, _, hsome, -, -⟩
      · rw [hp, hp'']
        exact .none
      · cases hp'.symm.trans hsome
    · rcases rel_cases (h'.passive place) with ⟨hnone, -⟩ | ⟨_, p'', hsome, hp'', hsecond⟩
      · cases hp'.symm.trans hnone
      · obtain rfl := Option.some.inj (hp'.symm.trans hsome)
        rw [hp, hp'']
        exact .some ⟨hsecond.1.trans hfirst.1, hfirst.2.trans hsecond.2⟩
  · rcases List.mem_append.mp houtput with hfirst | hsecond
    · exact h.known output hfirst
    · refine (h'.known output hsecond).imp_right fun ⟨place, hturn, hthere⟩ => ⟨place, hturn, ?_⟩
      rcases rel_cases (h.passive place) with ⟨-, hp'⟩ | ⟨p, p', hp, -, -⟩
      · exact absurd hp' hthere
      · rw [hp]
        exact Option.some_ne_none p

theorem map_snd_answers_ofTurn (turn : Turn) (outputs : List Program.Output) (m : Message) :
    ((Told.ofTurn turn outputs).answers m).map Prod.snd = outputs.filterMap (responseOf? m) := by
  rw [Told.answers_ofTurn, List.map_map]
  exact List.map_id _

theorem leaves_take (t : Errand σ) (stops : Pause → Bool) (turn : Turn) (s : σ) :
    t.Leaves (Told.ofTurn turn (t.telling stops turn s)) (t.take stops turn s).1 := by
  refine ⟨t.message_take stops turn s, ?_, ?_, fun i => ?_, fun output houtput => ?_⟩
  · rw [map_snd_answers_ofTurn, responses_take]
  · rw [command_take]
    by_cases hturn : turn = .command
    · subst hturn
      rw [if_pos rfl, Told.only_ofTurn_self]
      exact Program.continues_slice stops t.command s
    · rw [if_neg hturn, Told.only_ofTurn_of_ne hturn]
      exact .refl t.command
  · rw [passives_take]
    by_cases hturn : turn = .passive i
    · subst hturn
      rw [if_pos rfl, Told.only_ofTurn_self, telling]
      cases t.passives[i]? with
      | none => exact .none
      | some p => exact .some ⟨rfl, Program.continues_slice stops p.program s⟩
    · rw [if_neg hturn, Told.only_ofTurn_of_ne hturn]
      exact rel_leaves_refl t.passives[i]?
  · obtain ⟨made, hmade, rfl⟩ := List.mem_map.mp houtput
    cases turn with
    | command => exact .inl rfl
    | report => cases hmade
    | passive place =>
      refine .inr ⟨place, rfl, fun hnone => ?_⟩
      rw [telling, hnone] at hmade
      cases hmade

/-! ## Errands that echo each other -/

/-- Two errands for one message whose programs differ in their notes and in how they end. -/
structure Echoes (t t' : Errand σ) : Prop where
  message : t'.message = t.message
  responses : t'.responses = t.responses
  command : t.command.Echoes t'.command
  passive : ∀ place : ℕ,
    Option.Rel (fun p p' : Passive σ => p.program.Echoes p'.program) t.passives[place]? t'.passives[place]?

theorem Echoes.refl (t : Errand σ) : t.Echoes t := by
  refine ⟨rfl, rfl, .refl t.command, fun place => ?_⟩
  cases t.passives[place]? with
  | none => exact .none
  | some p => exact .some (.refl p.program)

/-- A turn of an errand and the same turn of its echo tell the same responses and change the state in the same way. -/
theorem Echoes.telling {t t' : Errand σ} (h : t.Echoes t') (stops : Pause → Bool) (turn : Turn) (s : σ) :
    (t'.telling stops turn s).filterMap (responseOf? t.message) =
        (t.telling stops turn s).filterMap (responseOf? t.message) ∧
      (t'.take stops turn s).2.1 = (t.take stops turn s).2.1 := by
  cases turn with
  | command =>
    obtain ⟨hstate, htold, -⟩ := h.command.slice t.message stops s
    exact ⟨htold, hstate⟩
  | report =>
    rw [take_report, take_report]
    exact ⟨rfl, rfl⟩
  | passive place =>
    rcases rel_cases (h.passive place) with ⟨hp, hp'⟩ | ⟨p, p', hp, hp', hechoes⟩
    · simp only [Errand.take, Errand.telling, hp, hp', and_self]
    · obtain ⟨hstate, htold, -⟩ := hechoes.slice t.message stops s
      simp only [Errand.take, Errand.telling, hp, hp']
      exact ⟨htold, hstate⟩

theorem Echoes.take {t t' : Errand σ} (h : t.Echoes t') (stops : Pause → Bool) (turn : Turn) (s : σ) :
    (t.take stops turn s).1.Echoes (t'.take stops turn s).1 := by
  refine ⟨?_, ?_, ?_, fun i => ?_⟩
  · rw [message_take, message_take, h.message]
  · rw [responses_take, responses_take, h.responses, h.message, (h.telling stops turn s).1]
  · rw [command_take, command_take]
    split
    · exact (h.command.slice t.message stops s).2.2
    · exact h.command
  · rw [passives_take, passives_take]
    split
    · rcases rel_cases (h.passive i) with ⟨hp, hp'⟩ | ⟨p, p', hp, hp', hechoes⟩
      · rw [hp, hp']
        exact .none
      · rw [hp, hp']
        exact .some (hechoes.slice t.message stops s).2.2
    · exact h.passive i

end Errand

/-! ## Moves -/

/-- The state, and what is left of each errand. -/
structure Workload (σ : Type) where
  state : σ
  errands : List (Errand σ)

/-- What may happen next: a turn of the errand at a place, or a change of the state by others. -/
inductive Move (σ : Type) where
  | turn (place : ℕ) (stops : Pause → Bool) (turn : Turn)
  | change (f : σ → σ)

def Move.isTurn : Move σ → Bool
  | turn .. => true
  | change _ => false

namespace Errand

def moved (t : Errand σ) (place : ℕ) (s : σ) : Move σ → Errand σ
  | .turn place' stops turn => if place' = place then (t.take stops turn s).1 else t
  | .change _ => t

/-- What the errand at a place tells in a move. -/
def toldIn (t : Errand σ) (place : ℕ) (s : σ) : Move σ → Told
  | .turn place' stops turn => if place' = place then Told.ofTurn turn (t.telling stops turn s) else []
  | .change _ => []

theorem leaves_moved (t : Errand σ) (place : ℕ) (s : σ) (move : Move σ) :
    t.Leaves (t.toldIn place s move) (t.moved place s move) := by
  cases move with
  | change f => exact .refl t
  | turn place' stops turn =>
    rw [toldIn, moved]
    split
    · exact t.leaves_take stops turn s
    · exact .refl t

theorem Echoes.moved {t t' : Errand σ} (h : t.Echoes t') (place : ℕ) (s : σ) (move : Move σ) :
    (t.moved place s move).Echoes (t'.moved place s move) ∧
      (t'.toldIn place s move).answers t.message = (t.toldIn place s move).answers t.message := by
  cases move with
  | change f => exact ⟨h, rfl⟩
  | turn place' stops turn =>
    simp only [Errand.moved, toldIn]
    split
    · rw [Told.answers_ofTurn, Told.answers_ofTurn, (h.telling stops turn s).1]
      exact ⟨h.take stops turn s, rfl⟩
    · exact ⟨h, rfl⟩

end Errand

namespace Workload

def move (w : Workload σ) : Move σ → Workload σ
  | .turn place stops turn =>
    match w.errands[place]? with
    | none => w
    | some t => ⟨(t.take stops turn w.state).2.1, w.errands.set place (t.take stops turn w.state).1⟩
  | .change f => ⟨f w.state, w.errands⟩

def run (w : Workload σ) (moves : List (Move σ)) : Workload σ := moves.foldl move w

def told (w : Workload σ) (place : ℕ) : List (Move σ) → Errand.Told
  | [] => []
  | m :: moves => w.errands[place]?.elim [] (·.toldIn place w.state m) ++ (w.move m).told place moves

variable {w w' : Workload σ} {place : ℕ} {t t' : Errand σ}

/-- A move changes an errand only by a turn of its own. -/
theorem errands_move (w : Workload σ) (m : Move σ) (place : ℕ) :
    (w.move m).errands[place]? = w.errands[place]?.map (·.moved place w.state m) := by
  cases m with
  | change f => exact Option.map_id'.symm
  | turn place' stops turn =>
    simp only [move, Errand.moved]
    by_cases hplace : place' = place
    · subst hplace
      cases ht : w.errands[place']? with
      | none => exact ht
      | some t =>
        rw [Option.map_some, if_pos rfl]
        exact List.getElem?_set_self (List.getElem?_eq_some_iff.mp ht).1
    · simp only [if_neg hplace, Option.map_id']
      cases w.errands[place']? with
      | none => rfl
      | some t => exact List.getElem?_set_ne hplace

theorem errands_move_of_some (h : w.errands[place]? = some t) (m : Move σ) :
    (w.move m).errands[place]? = some (t.moved place w.state m) := by
  rw [errands_move, h, Option.map_some]

theorem told_cons (h : w.errands[place]? = some t) (m : Move σ) (moves : List (Move σ)) :
    w.told place (m :: moves) = t.toldIn place w.state m ++ (w.move m).told place moves := by
  rw [told, h, Option.elim_some]

/-- However the moves follow each other, an errand is left as its own turns leave it. -/
theorem leaves_run (h : w.errands[place]? = some t) (moves : List (Move σ)) :
    ∃ rest, (w.run moves).errands[place]? = some rest ∧ t.Leaves (w.told place moves) rest := by
  induction moves generalizing w t with
  | nil => exact ⟨t, h, .refl t⟩
  | cons m moves ih =>
    obtain ⟨rest, hrest, hleaves⟩ := ih (errands_move_of_some h m)
    refine ⟨rest, hrest, ?_⟩
    rw [told_cons h]
    exact (t.leaves_moved place w.state m).trans hleaves

/-! ## Workloads that echo each other -/

/-- Two workloads on one state, each errand of which echoes the other's at its place. -/
structure Echoes (w w' : Workload σ) : Prop where
  state : w'.state = w.state
  errand : ∀ place : ℕ, Option.Rel Errand.Echoes w.errands[place]? w'.errands[place]?

theorem Echoes.move (h : w.Echoes w') (m : Move σ) : (w.move m).Echoes (w'.move m) := by
  constructor
  · cases m with
    | change f => exact congrArg f h.state
    | turn place stops turn =>
      rcases rel_cases (h.errand place) with ⟨ht, ht'⟩ | ⟨t, t', ht, ht', hechoes⟩
      · simp only [Workload.move, ht, ht']
        exact h.state
      · simp only [Workload.move, ht, ht', h.state]
        exact (hechoes.telling stops turn w.state).2
  · intro place
    rw [errands_move, errands_move, h.state]
    rcases rel_cases (h.errand place) with ⟨ht, ht'⟩ | ⟨t, t', ht, ht', hechoes⟩
    · rw [ht, ht']
      exact .none
    · rw [ht, ht']
      exact .some (hechoes.moved place w.state m).1

theorem Echoes.run (h : w.Echoes w') (moves : List (Move σ)) : (w.run moves).Echoes (w'.run moves) := by
  induction moves generalizing w w' with
  | nil => exact h
  | cons m moves ih => exact ih (h.move m)

theorem Echoes.answers_told (h : w.Echoes w') (ht : w.errands[place]? = some t) (moves : List (Move σ)) :
    (w'.told place moves).answers t.message = (w.told place moves).answers t.message := by
  induction moves generalizing w w' t with
  | nil => rfl
  | cons m moves ih =>
    rcases rel_cases (h.errand place) with ⟨hnone, -⟩ | ⟨_, t', hsome, ht', hechoes⟩
    · rw [ht] at hnone
      cases hnone
    · obtain rfl := Option.some.inj (ht.symm.trans hsome)
      have hmessage := (t.leaves_moved place w.state m).message
      have hlater := ih (h.move m) (errands_move_of_some ht m)
      rw [hmessage] at hlater
      rw [told_cons ht, told_cons ht', Errand.Told.answers_append, Errand.Told.answers_append, hlater, h.state,
        (hechoes.moved place w.state m).2]

/-! ## Errands that start together -/

theorem run_append (w : Workload σ) (moves more : List (Move σ)) : w.run (moves ++ more) = (w.run moves).run more :=
  List.foldl_append

theorem move_turn (before later : List (Errand σ)) (t : Errand σ) (s : σ) (stops : Pause → Bool) (turn : Turn) :
    (⟨s, before ++ t :: later⟩ : Workload σ).move (.turn before.length stops turn) =
      ⟨(t.take stops turn s).2.1, before ++ (t.take stops turn s).1 :: later⟩ := by
  have ht : (before ++ t :: later)[before.length]? = some t := by simp
  rw [move, ht]
  simp

theorem run_takeAll (before later : List (Errand σ)) (t : Errand σ) (s : σ) (stops : Pause → Bool) (turns : List Turn) :
    (⟨s, before ++ t :: later⟩ : Workload σ).run (turns.map (.turn before.length stops)) =
      ⟨(t.takeAll stops turns s).2.1, before ++ (t.takeAll stops turns s).1 :: later⟩ := by
  induction turns generalizing t s with
  | nil => rfl
  | cons turn turns ih =>
    have hfirst := move_turn before later t s stops turn
    rw [List.map_cons, run, List.foldl_cons, hfirst]
    exact ih _ _

/-- The turns of a sweep over errands that stand from a place on. -/
def sweepMoves (stops : Pause → Bool) (turns : Errand σ → List Turn) (place : ℕ) : List (Errand σ) → List (Move σ)
  | [] => []
  | t :: ts => (turns t).map (.turn place stops) ++ sweepMoves stops turns (place + 1) ts

theorem isTurn_of_mem_sweepMoves {stops : Pause → Bool} {turns : Errand σ → List Turn} {ts : List (Errand σ)} {m : Move σ}
    (h : m ∈ sweepMoves stops turns place ts) : m.isTurn = true := by
  induction ts generalizing place with
  | nil => cases h
  | cons t ts ih =>
    rcases List.mem_append.mp h with hown | hlater
    · obtain ⟨turn, -, rfl⟩ := List.mem_map.mp hown
      rfl
    · exact ih hlater

theorem run_sweepMoves (stops : Pause → Bool) (turns : Errand σ → List Turn) (before ts : List (Errand σ)) (s : σ) :
    (⟨s, before ++ ts⟩ : Workload σ).run (sweepMoves stops turns before.length ts) =
      ⟨(Errand.sweep stops turns ts s).2.1, before ++ (Errand.sweep stops turns ts s).1⟩ := by
  induction ts generalizing before s with
  | nil => rfl
  | cons t ts ih =>
    have hlater := ih (before ++ [(t.takeAll stops (turns t) s).1]) (t.takeAll stops (turns t) s).2.1
    rw [List.length_append, List.length_singleton, List.append_assoc, List.singleton_append] at hlater
    rw [sweepMoves, run_append, run_takeAll, hlater, List.append_assoc]
    rfl

/-- Errands that start together are led to their ends by turns alone. -/
theorem exists_moves_runAll (stops : Pause → Bool) (ts : List (Errand σ)) (s : σ) :
    ∃ moves : List (Move σ), (∀ m ∈ moves, m.isTurn = true) ∧
      (⟨s, ts⟩ : Workload σ).run moves = ⟨(Errand.runAll stops ts s).2.1, (Errand.runAll stops ts s).1⟩ := by
  have hsweep : ∀ stops turns ts s, (⟨s, ts⟩ : Workload σ).run (sweepMoves stops turns 0 ts) =
      ⟨(Errand.sweep stops turns ts s).2.1, (Errand.sweep stops turns ts s).1⟩ :=
    fun stops turns ts s => run_sweepMoves stops turns [] ts s
  let first := Errand.sweep stops (fun _ => [.command]) ts s
  let second := Errand.sweep stops Errand.passiveTurns first.1 first.2.1
  let third := Errand.sweep stops (fun _ => [.report]) second.1 second.2.1
  refine ⟨sweepMoves stops (fun _ => [.command]) 0 ts ++ (sweepMoves stops Errand.passiveTurns 0 first.1 ++
    (sweepMoves stops (fun _ => [.report]) 0 second.1 ++
      sweepMoves Program.nowhere (fun t => .command :: t.passiveTurns ++ [.report]) 0 third.1)), ?_, ?_⟩
  · intro m hm
    simp only [List.mem_append] at hm
    rcases hm with hm | hm | hm | hm <;> exact isTurn_of_mem_sweepMoves hm
  · rw [run_append, run_append, run_append, hsweep, hsweep, hsweep, hsweep]
    rfl

end Workload
end ChatBot
