import ChatBot.Proofs.Command.Registry

/-!
Registering over whole runs. A registry holds what its calls have registered, in order and each with the handler it came with,
however many calls were refused in between. Schemas that share a usage line stay apart by their names.
-/
set_option autoImplicit false

namespace ChatBot.Command

/-- A call that registers a command: under a schema made elsewhere, or by a usage line, for everybody or for the elevated. -/
inductive Enrolment (η : Type) where
  | add (schema : Schema) (handler : η)
  | command (usage : Text) (handler : η)
  | elevated (usage : Text) (handler : η)

namespace Enrolment
variable {η : Type}

def handler : Enrolment η → η
  | add _ handler => handler
  | command _ handler => handler
  | elevated _ handler => handler

/-- The schema a call comes with, unless its usage line is not well-formed. -/
def schema (leader : Text) : Enrolment η → Except UsageError Schema
  | add schema _ => .ok schema
  | command usage _ => Schema.ofUsage leader usage false
  | elevated usage _ => Schema.ofUsage leader usage true

def answer (r : Registry η) : Enrolment η → Except RegistrationError (Registry η × Schema)
  | add schema handler => (r.add schema handler).map fun r => (r, schema)
  | command usage handler => r.declare usage false handler
  | elevated usage handler => r.declare usage true handler

/-- The outcome of a call and the registry behind it. One that is refused hands out no other registry, so the old one is there still. -/
def perform (r : Registry η) (call : Enrolment η) : Except RegistrationError Schema × Registry η :=
  match call.answer r with
  | .ok (r', schema) => (.ok schema, r')
  | .error e => (.error e, r)

end Enrolment

namespace Registry
variable {η : Type}

/-! ## One call -/

theorem add_of_registered {r : Registry η} {schema : Schema} (h : schema.name ∈ r.schemas.map Schema.name) (handler : η) :
    r.add schema handler = .error (.duplicate schema.name) := by
  have hany : r.schemas.any (·.name = schema.name) = true := by simpa using h
  rw [add, if_pos hany]

theorem add_of_fresh {r : Registry η} {schema : Schema} (h : schema.name ∉ r.schemas.map Schema.name) (handler : η) :
    r.add schema handler = .ok { r with registrations := r.registrations ++ [⟨schema, handler⟩] } :=
  add_eq_ok_iff.mpr ⟨h, rfl⟩

theorem answer_eq (r : Registry η) (call : Enrolment η) :
    call.answer r = match call.schema r.leader with
      | .error e => .error (.usage e)
      | .ok schema => (r.add schema call.handler).map fun r => (r, schema) := by
  cases call <;> rfl

theorem perform_cases (r : Registry η) (call : Enrolment η) :
    (∃ e, call.schema r.leader = .error e ∧ call.perform r = (.error (.usage e), r)) ∨
      (∃ schema, call.schema r.leader = .ok schema ∧ schema.name ∈ r.schemas.map Schema.name ∧
        call.perform r = (.error (.duplicate schema.name), r)) ∨
      ∃ schema, call.schema r.leader = .ok schema ∧ schema.name ∉ r.schemas.map Schema.name ∧
        call.perform r = (.ok schema, { r with registrations := r.registrations ++ [⟨schema, call.handler⟩] }) := by
  rw [Enrolment.perform, answer_eq]
  cases hschema : call.schema r.leader with
  | error e => exact .inl ⟨e, rfl, rfl⟩
  | ok schema =>
    dsimp only
    by_cases hname : schema.name ∈ r.schemas.map Schema.name
    · rw [add_of_registered hname]
      exact .inr (.inl ⟨schema, rfl, hname, rfl⟩)
    · rw [add_of_fresh hname]
      exact .inr (.inr ⟨schema, rfl, hname, rfl⟩)

theorem perform_eq_duplicate_iff {r : Registry η} {call : Enrolment η} {name : Text} :
    (call.perform r).1 = .error (.duplicate name) ↔
      ∃ schema, call.schema r.leader = .ok schema ∧ schema.name = name ∧ name ∈ r.schemas.map Schema.name := by
  rcases perform_cases r call with ⟨e, hschema, h⟩ | ⟨schema, hschema, hname, h⟩ | ⟨schema, hschema, hname, h⟩
  · simp [h, hschema]
  · simp only [h, hschema, Except.error.injEq, RegistrationError.duplicate.injEq, Except.ok.injEq, exists_eq_left']
    exact ⟨fun e => ⟨e, e ▸ hname⟩, And.left⟩
  · simp only [h, hschema, reduceCtorEq, Except.ok.injEq, exists_eq_left', false_iff, not_and]
    rintro rfl
    exact hname

theorem perform_eq_usage_iff {r : Registry η} {call : Enrolment η} {e : UsageError} :
    (call.perform r).1 = .error (.usage e) ↔ call.schema r.leader = .error e := by
  rcases perform_cases r call with ⟨e', hschema, h⟩ | ⟨schema, hschema, -, h⟩ | ⟨schema, hschema, -, h⟩ <;>
    simp [h, hschema]

theorem perform_of_error {r : Registry η} {call : Enrolment η} {e : RegistrationError} (h : (call.perform r).1 = .error e) :
    (call.perform r).2 = r := by
  rcases perform_cases r call with ⟨_, -, hr⟩ | ⟨_, -, -, hr⟩ | ⟨_, -, -, hr⟩
  · rw [hr]
  · rw [hr]
  · rw [hr] at h
    cases h

theorem perform_of_ok {r : Registry η} {call : Enrolment η} {schema : Schema} (h : (call.perform r).1 = .ok schema) :
    schema.name ∉ r.schemas.map Schema.name ∧
      (call.perform r).2 = { r with registrations := r.registrations ++ [⟨schema, call.handler⟩] } := by
  rcases perform_cases r call with ⟨_, -, hr⟩ | ⟨_, -, -, hr⟩ | ⟨s, -, hname, hr⟩
  · rw [hr] at h
    cases h
  · rw [hr] at h
    cases h
  · rw [hr] at h ⊢
    cases h
    exact ⟨hname, rfl⟩

/-! ## A run of calls -/

def enrolEach (r : Registry η) (calls : List (Enrolment η)) : Registry η := calls.foldl (fun r call => (call.perform r).2) r

def outcomes : Registry η → List (Enrolment η) → List (Except RegistrationError Schema)
  | _, [] => []
  | r, call :: calls => (call.perform r).1 :: outcomes (call.perform r).2 calls

/-- The schemas that the calls of a series returned, each with the handler its call was given. -/
def admitted (r : Registry η) (calls : List (Enrolment η)) : List (Registration η) :=
  (calls.zip (r.outcomes calls)).filterMap fun (call, outcome) => outcome.toOption.map (⟨·, call.handler⟩)

theorem admitted_cons (r : Registry η) (call : Enrolment η) (calls : List (Enrolment η)) :
    r.admitted (call :: calls) =
      ((call.perform r).1.toOption.map fun s => (⟨s, call.handler⟩ : Registration η)).toList ++
        (call.perform r).2.admitted calls := by
  rw [admitted, outcomes, List.zip_cons_cons, List.filterMap_cons]
  cases (call.perform r).1 <;> rfl

theorem leader_perform (r : Registry η) (call : Enrolment η) : (call.perform r).2.leader = r.leader := by
  rcases perform_cases r call with ⟨_, -, h⟩ | ⟨_, -, -, h⟩ | ⟨_, -, -, h⟩ <;> rw [h]

theorem registrations_perform (r : Registry η) (call : Enrolment η) :
    (call.perform r).2.registrations =
      r.registrations ++ ((call.perform r).1.toOption.map fun s => (⟨s, call.handler⟩ : Registration η)).toList := by
  cases h : (call.perform r).1 with
  | error e =>
    rw [perform_of_error h]
    exact (List.append_nil _).symm
  | ok schema =>
    rw [(perform_of_ok h).2]
    rfl

theorem nodup_names_perform {r : Registry η} (hr : (r.schemas.map Schema.name).Nodup) (call : Enrolment η) :
    ((call.perform r).2.schemas.map Schema.name).Nodup := by
  cases h : (call.perform r).1 with
  | error e => rwa [perform_of_error h]
  | ok schema =>
    obtain ⟨hfresh, hadded⟩ := perform_of_ok h
    rw [hadded]
    exact nodup_names_append hr hfresh call.handler

theorem leader_enrolEach (r : Registry η) (calls : List (Enrolment η)) : (r.enrolEach calls).leader = r.leader := by
  induction calls generalizing r with
  | nil => rfl
  | cons call calls ih => exact (ih _).trans (leader_perform r call)

/-- Nothing that is registered is ever moved or replaced. -/
theorem registrations_enrolEach (r : Registry η) (calls : List (Enrolment η)) :
    (r.enrolEach calls).registrations = r.registrations ++ r.admitted calls := by
  induction calls generalizing r with
  | nil => exact (List.append_nil _).symm
  | cons call calls ih =>
    calc (r.enrolEach (call :: calls)).registrations
        = (call.perform r).2.registrations ++ (call.perform r).2.admitted calls := ih _
      _ = r.registrations ++ r.admitted (call :: calls) := by
        rw [registrations_perform, List.append_assoc, admitted_cons]

theorem nodup_names_enrolEach {r : Registry η} (hr : (r.schemas.map Schema.name).Nodup) (calls : List (Enrolment η)) :
    ((r.enrolEach calls).schemas.map Schema.name).Nodup := by
  induction calls generalizing r with
  | nil => exact hr
  | cons call calls ih => exact ih (nodup_names_perform hr call)

theorem schemas_admitted (r : Registry η) (calls : List (Enrolment η)) :
    (r.admitted calls).map Registration.schema = (r.outcomes calls).filterMap Except.toOption := by
  induction calls generalizing r with
  | nil => rfl
  | cons call calls ih =>
    rw [admitted_cons, List.map_append, ih, outcomes, List.filterMap_cons]
    cases (call.perform r).1 <;> rfl

/-- After any calls, a registry holds the schemas they returned, in order, under distinct names, each with the handler it came with.
The next call is refused for its name just when its schema is well-formed and the name taken, and no refusal changes anything. -/
theorem registry_of_calls (leader : Text) (calls : List (Enrolment η)) :
    let r := (empty leader : Registry η).enrolEach calls
    r.registrations = (empty leader).admitted calls ∧
      r.schemas = ((empty leader).outcomes calls).filterMap Except.toOption ∧
      (r.schemas.map Schema.name).Nodup ∧
      ∀ call : Enrolment η,
        (∀ name, (call.perform r).1 = .error (.duplicate name) ↔
          ∃ schema, call.schema leader = .ok schema ∧ schema.name = name ∧ name ∈ r.schemas.map Schema.name) ∧
        (∀ e, (call.perform r).1 = .error (.usage e) ↔ call.schema leader = .error e) ∧
        ∀ e, (call.perform r).1 = .error e → (call.perform r).2 = r := by
  intro r
  have hheld : r.registrations = (empty leader).admitted calls := registrations_enrolEach (empty leader) calls
  have hleader : r.leader = leader := leader_enrolEach (empty leader) calls
  have hnames : ((empty leader : Registry η).schemas.map Schema.name).Nodup := List.nodup_nil
  refine ⟨hheld, ?_, nodup_names_enrolEach hnames calls, fun call => ⟨fun name => ?_, fun e => ?_, fun e => ?_⟩⟩
  · rw [schemas, hheld, schemas_admitted]
  · rw [perform_eq_duplicate_iff, hleader]
  · rw [perform_eq_usage_iff, hleader]
  · exact perform_of_error

/-- Of two commands under one usage line both are kept, and a third is refused for its name alone. -/
example :
    let first : Schema := ⟨"one".toList, "!help".toList, [], false, ['!']⟩
    let second : Schema := ⟨"two".toList, "!help".toList, [], false, ['!']⟩
    let calls := [.add first 1, .add second 2, .command "!one <x>".toList 3, .elevated "!".toList 4]
    ((empty ['!'] : Registry Nat).enrolEach calls).registrations.map (fun c => (c.schema, c.handler)) = [(first, 1), (second, 2)] := by
  decide

end Registry
end ChatBot.Command
