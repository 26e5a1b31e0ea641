import ChatBot.Proofs.Command.Call
import ChatBot.Proofs.Program.Progress

/-!
Handlers that fail where they would have ended well. A message is routed by the schemas alone, so it leads to the same command,
whatever its handler does; and a call of the failing handler gives the same responses as a call of the other.
-/
set_option autoImplicit false

namespace ChatBot

namespace Program
variable {σ : Type}

/-- The program, made to fail at its end if there is a fault to fail with. -/
def endingIn (p : Program σ Unit) : Option Fault → Program σ Unit
  | none => p
  | some fault => p.bind fun _ => raise fault

theorem echoes_endingIn (p : Program σ Unit) (fault? : Option Fault) : p.Echoes (p.endingIn fault?) := by
  cases fault? with
  | none => exact .refl p
  | some fault => exact echoes_bind fun _ => .ended rfl rfl

end Program

namespace Command
variable {η θ σ : Type}

/-! ## What a message leads to -/

def Route.map (f : Schema → η → θ) : Route η → Route θ
  | unhandled => unhandled
  | usage schema => usage schema
  | denied schema => denied schema
  | call schema bindings handler => call schema bindings (f schema handler)

def Registration.map (f : Schema → η → θ) (c : Registration η) : Registration θ := ⟨c.schema, f c.schema c.handler⟩

namespace Registry

def map (f : Schema → η → θ) (r : Registry η) : Registry θ := ⟨r.leader, r.registrations.map (Registration.map f)⟩

theorem insertByLength_map (f : Schema → η → θ) (c : Registration η) (cs : List (Registration η)) :
    insertByLength (c.map f) (cs.map (Registration.map f)) = (insertByLength c cs).map (Registration.map f) := by
  induction cs with
  | nil => rfl
  | cons d cs ih =>
    rw [List.map_cons, insertByLength, insertByLength]
    by_cases hlonger : d.schema.name.length < c.schema.name.length
    · have hlonger' : (d.map f).schema.name.length < (c.map f).schema.name.length := hlonger
      rw [if_pos hlonger, if_pos hlonger', List.map_cons, List.map_cons]
    · have hlonger' : ¬ (d.map f).schema.name.length < (c.map f).schema.name.length := hlonger
      rw [if_neg hlonger, if_neg hlonger', ih, List.map_cons]

theorem candidates_map (f : Schema → η → θ) (r : Registry η) :
    (r.map f).candidates = r.candidates.map (Registration.map f) := by
  have hfold : ∀ cs sorted : List (Registration η),
      (cs.map (Registration.map f)).foldl (fun sorted c => insertByLength c sorted) (sorted.map (Registration.map f)) =
        (cs.foldl (fun sorted c => insertByLength c sorted) sorted).map (Registration.map f) := by
    intro cs
    induction cs with
    | nil => exact fun _ => rfl
    | cons c cs ih =>
      intro sorted
      rw [List.map_cons, List.foldl_cons, List.foldl_cons, insertByLength_map, ih]
  exact hfold r.registrations []

theorem routeAmong_map (f : Schema → η → θ) (m : Message) (cs : List (Registration η)) :
    routeAmong m (cs.map (Registration.map f)) = (routeAmong m cs).map f := by
  induction cs with
  | nil => rfl
  | cons c cs ih =>
    rw [List.map_cons, routeAmong, routeAmong, Registration.map]
    cases c.schema.extract m.content with
    | noMatch => exact ih
    | missingRequired => rfl
    | matched bindings =>
      simp only
      cases c.schema.elevated && !m.isElevated <;> rfl

theorem route_map (f : Schema → η → θ) (r : Registry η) (m : Message) : (r.map f).route m = (r.route m).map f := by
  have hleader : (r.map f).leader = r.leader := rfl
  rw [route, route, candidates_map, routeAmong_map, hleader]
  cases Text.startsWith r.leader m.content <;> rfl

end Registry

/-! ## What is done -/

/-- A call adds notes to what its handler does, and ends well, so it echoes a call of any handler that echoes its own. -/
theorem Schema.echoes_conclude (s : Schema) {p q : Program σ Unit} (h : p.Echoes q) : (s.conclude p).Echoes (s.conclude q) := by
  induction h with
  | @ended p q hp hq =>
    have hend : ∀ {p : Program σ Unit}, p.hasEnded = true →
        s.conclude p = .done true ∨ ∃ n, s.conclude p = .note n (.done true) := by
      intro p hp
      cases p with
      | done a => exact .inl rfl
      | raise fault => exact .inr ⟨_, rfl⟩
      | _ => cases hp
    have hdone : (Program.done true : Program σ Bool).Echoes (Program.done true : Program σ Bool) := .ended rfl rfl
    rcases hend hp with hp | ⟨n, hp⟩ <;> rcases hend hq with hq | ⟨n', hq⟩ <;> rw [hp, hq]
    · exact hdone
    · exact .noteRight n' hdone
    · exact .noteLeft n hdone
    · exact .noteLeft n (.noteRight n' hdone)
  | read _ ih => exact .read ih
  | write st _ ih => exact .write st ih
  | respond kind text _ ih => exact .respond kind text ih
  | noteLeft n _ ih => exact .noteLeft n ih
  | noteRight n _ ih => exact .noteRight n ih
  | pause p _ ih => exact .pause p ih
  | await ready _ ih => exact .await ready ih

namespace Registry

/-- The commands, with those made to fail at their ends for which there is a fault. -/
def failing (failure? : Schema → Option Fault) (r : Registry (Handler σ)) : Registry (Handler σ) :=
  r.map fun schema handler args m => (handler args m).endingIn (failure? schema)

theorem echoes_dispatch_failing (r : Registry (Handler σ)) (failure? : Schema → Option Fault) (m : Message) :
    (r.dispatch m).Echoes ((r.failing failure?).dispatch m) := by
  have hroute : (r.failing failure?).route m = (r.route m).map _ := route_map _ r m
  cases h : r.route m with
  | call s bindings handler =>
    rw [h] at hroute
    rw [dispatch_of_call h, dispatch_of_call hroute]
    exact .noteLeft _ (.noteRight _ (s.echoes_conclude (Program.echoes_endingIn _ _)))
  | _ =>
    rw [h] at hroute
    rw [dispatch, dispatch, hroute, h]
    exact .refl _

/-- The dispatch of a message tells whether a command handled it, and it tells so however the command's handler ends. -/
theorem ending_of_yields_dispatch {r : Registry (Handler σ)} {m : Message} {outputs : List Program.Output}
    {ending : Except Fault Bool} (h : (r.dispatch m).Yields outputs ending) :
    (r.route m = .unhandled → ending = .ok false) ∧ (r.route m ≠ .unhandled → ending = .ok true) := by
  cases hroute : r.route m with
  | unhandled =>
    rw [dispatch_of_route_unhandled hroute] at h
    exact ⟨fun _ => (Program.yields_done_iff.mp h).2, fun hne => absurd rfl hne⟩
  | usage s =>
    rw [dispatch, hroute] at h
    exact ⟨fun he => (by cases he), fun _ => (yields_explain_iff.mp h).1⟩
  | denied s =>
    rw [dispatch, hroute] at h
    exact ⟨fun he => (by cases he), fun _ => (yields_refuse_iff.mp h).1⟩
  | call s bindings handler =>
    rw [dispatch, hroute] at h
    exact ⟨fun he => (by cases he), fun _ => (yields_invoke_iff (c := ⟨s, handler⟩) |>.mp h).1⟩

theorem yields_dispatch_of_call {r : Registry (Handler σ)} {m : Message} {s : Schema} {bindings : Bindings}
    {handler : Handler σ} (hroute : r.route m = .call s bindings handler) {outputs : List Program.Output}
    {ending : Except Fault Bool} (h : (r.dispatch m).Yields outputs ending) :
    ∃ said result, (handler ⟨s, bindings⟩ m).Yields said result ∧
      outputs = .note (.info ("dispatch.command" ++ invocation s m)) :: said ++ handlerNotes s result := by
  rw [dispatch, hroute] at h
  let c : Registration (Handler σ) := ⟨s, handler⟩
  have hinvoke : (c.invoke bindings m).Yields outputs ending := h
  exact (yields_invoke_iff.mp hinvoke).2

end Registry
end Command
end ChatBot
