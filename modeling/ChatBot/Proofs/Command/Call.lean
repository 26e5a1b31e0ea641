import ChatBot.Proofs.Command.Dispatch
import ChatBot.Proofs.Program.Frame

/-!
A call of a command's handler, turn by turn. A call takes its turns where the handler does; it only adds notes, and it ends
well however the handler ends.
-/
set_option autoImplicit false

namespace ChatBot.Command
variable {σ ν : Type}

/-- What a call makes of what is left of its handler. -/
def Schema.conclude (s : Schema) (p : Program σ Unit) : Program σ Bool := do
  match ← (p.during .command).attempt with
  | .ok _ => return true
  | .error fault => do
    Program.record (.error ("dispatch.handler.error name=" ++ s.name) (some fault))
    return true

theorem Schema.advance_conclude_of_ended (s : Schema) {p : Program σ Unit} {stops : Pause → Bool} {st st' : σ}
    {outputs : List Program.Output} {result : Except Fault Unit} (h : p.advance stops st = ⟨outputs, st', .ended result⟩) :
    (s.conclude p).advance stops st = ⟨outputs ++ handlerNotes s result, st', .ended (.ok true)⟩ := by
  have hcaught : (p.during .command).attempt.advance stops st =
      ⟨outputs, st', .ended (.ok (result.mapError (.during .command)))⟩ := by
    rw [Program.advance_attempt, Program.advance_during, h]
    rfl
  rw [conclude]
  change (Program.bind _ _).advance stops st = _
  rw [Program.advance_bind, hcaught]
  cases result with
  | ok a => rfl
  | error fault => rfl

theorem Schema.advance_conclude_of_stopped (s : Schema) {p rest : Program σ Unit} {stops : Pause → Bool} {st st' : σ}
    {outputs : List Program.Output} (h : p.advance stops st = ⟨outputs, st', .stopped rest⟩) :
    (s.conclude p).advance stops st = ⟨outputs, st', .stopped (s.conclude rest)⟩ := by
  have hcaught : (p.during .command).attempt.advance stops st =
      ⟨outputs, st', .stopped (rest.during .command).attempt⟩ := by
    rw [Program.advance_attempt, Program.advance_during, h]
    rfl
  rw [conclude]
  change (Program.bind _ _).advance stops st = _
  rw [Program.advance_bind, hcaught]
  rfl

theorem Schema.conclude_keeps {view : σ → ν} (s : Schema) {p : Program σ Unit} (h : p.Keeps view) :
    (s.conclude p).Keeps view := by
  refine (h.during .command).attempt.bind fun result => ?_
  cases result with
  | ok a => exact Program.keeps_pure _
  | error fault => exact (Program.keeps_record _).bind fun _ => Program.keeps_pure _

namespace Registry

/-- What a message does that calls a command. -/
theorem dispatch_of_call {r : Registry (Handler σ)} {m : Message} {s : Schema} {bindings : Bindings} {handler : Handler σ}
    (h : r.route m = .call s bindings handler) :
    r.dispatch m = .note (.info ("dispatch.command" ++ invocation s m)) (s.conclude (handler ⟨s, bindings⟩ m)) := by
  rw [dispatch, h]
  rfl

theorem slice_dispatch_of_ended {r : Registry (Handler σ)} {m : Message} {s : Schema} {bindings : Bindings}
    {handler : Handler σ} (h : r.route m = .call s bindings handler) {stops : Pause → Bool} {st st' : σ}
    {outputs : List Program.Output} {result : Except Fault Unit}
    (hturn : (handler ⟨s, bindings⟩ m).advance stops st = ⟨outputs, st', .ended result⟩) :
    (r.dispatch m).slice stops st =
      ⟨.note (.info ("dispatch.command" ++ invocation s m)) :: (outputs ++ handlerNotes s result), st', .done true⟩ := by
  rw [dispatch_of_call h, Program.slice, Program.slice_eq_advance, s.advance_conclude_of_ended hturn]
  rfl

theorem slice_dispatch_of_stopped {r : Registry (Handler σ)} {m : Message} {s : Schema} {bindings : Bindings}
    {handler : Handler σ} (h : r.route m = .call s bindings handler) {stops : Pause → Bool} {st st' : σ}
    {outputs : List Program.Output} {rest : Program σ Unit}
    (hturn : (handler ⟨s, bindings⟩ m).advance stops st = ⟨outputs, st', .stopped rest⟩) :
    (r.dispatch m).slice stops st =
      ⟨.note (.info ("dispatch.command" ++ invocation s m)) :: outputs, st', s.conclude rest⟩ := by
  rw [dispatch_of_call h, Program.slice, Program.slice_eq_advance, s.advance_conclude_of_stopped hturn]
  rfl

/-- Where a call comes from. -/
theorem exists_of_route_eq_call {η : Type} {r : Registry η} {m : Message} {s : Schema} {bindings : Bindings} {handler : η}
    (h : r.route m = .call s bindings handler) :
    r.leader <+: m.content ∧ s.extract m.content = .matched bindings ∧
      ∃ c ∈ r.registrations, c.schema = s ∧ c.handler = handler ∧ (s.elevated = true → m.isElevated = true) := by
  have hamong (cs : List (Registration η)) (h : routeAmong m cs = .call s bindings handler) :
      s.extract m.content = .matched bindings ∧
        ∃ c ∈ cs, c.schema = s ∧ c.handler = handler ∧ (s.elevated = true → m.isElevated = true) := by
    induction cs with
    | nil => cases h
    | cons c cs ih =>
      rw [routeAmong] at h
      split at h
      · obtain ⟨hextract, d, hd, hfound⟩ := ih h
        exact ⟨hextract, d, List.mem_cons_of_mem c hd, hfound⟩
      · cases h
      · rename_i hextract
        split at h
        · cases h
        · rename_i hallowed
          cases h
          exact ⟨hextract, c, List.mem_cons_self, rfl, rfl, by simpa using hallowed⟩
  rw [route] at h
  split at h
  · rename_i hstarts
    obtain ⟨hextract, c, hc, hfound⟩ := hamong r.candidates h
    exact ⟨Text.startsWith_iff.mp hstarts, hextract, c, (candidates_spec r).1.mem_iff.mp hc, hfound⟩
  · cases h

/-- A message changes a part of the state only through a handler that it calls. -/
theorem dispatch_keeps {view : σ → ν} {r : Registry (Handler σ)} {m : Message}
    (h : ∀ s bindings handler, r.route m = .call s bindings handler → (handler ⟨s, bindings⟩ m).Keeps view) :
    (r.dispatch m).Keeps view := by
  cases hroute : r.route m with
  | unhandled =>
    rw [dispatch, hroute]
    exact Program.keeps_pure _
  | usage s =>
    rw [dispatch, hroute]
    exact (Program.keeps_reply _).bind fun _ => Program.keeps_pure _
  | denied s =>
    rw [dispatch, hroute]
    exact (Program.keeps_record _).bind fun _ => (Program.keeps_reply _).bind fun _ => Program.keeps_pure _
  | call s bindings handler =>
    rw [dispatch_of_call hroute]
    exact s.conclude_keeps (h s bindings handler hroute)

end Registry
end ChatBot.Command
