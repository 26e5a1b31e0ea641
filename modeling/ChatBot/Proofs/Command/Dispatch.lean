import ChatBot.Program.Errand
import ChatBot.Proofs.Command.Registry
import ChatBot.Proofs.Program.Runs
import ChatBot.Proofs.Text.Trim

/-!
What a message does at the registry that a series of declarations built: nothing, unless some name stands behind the leader;
else one thing at the command with the longest such name, whichever order the commands were declared in.
-/
set_option autoImplicit false

namespace ChatBot.Command
variable {σ : Type}

/-! ## What is done at one command -/

/-- Whether a message may not run the command. -/
def Schema.IsDeniedTo (s : Schema) (m : Message) : Prop :=
  s.elevated = true ∧ ∀ badge ∈ m.badges, badge ∉ Message.elevatedBadges

theorem Schema.isDeniedTo_iff {s : Schema} {m : Message} : s.IsDeniedTo m ↔ (s.elevated && !m.isElevated) = true := by
  rw [IsDeniedTo, Message.isElevated, Bool.and_eq_true, Bool.not_eq_true', List.any_eq_false]
  simp only [List.contains_iff_mem]

/-- Replies with the usage line of a command. -/
def Schema.explain (s : Schema) : Program σ Bool := do
  Program.reply s.usage
  return true

/-- Refuses to run a command. -/
def Schema.refuse (s : Schema) (m : Message) : Program σ Bool := do
  Program.record (.info ("dispatch.denied" ++ invocation s m))
  Program.reply notAllowed
  return true

/-- Calls the handler of a command with these bindings. -/
def Registration.invoke (c : Registration (Handler σ)) (bindings : Bindings) (m : Message) : Program σ Bool := do
  Program.record (.info ("dispatch.command" ++ invocation c.schema m))
  match ← ((c.handler ⟨c.schema, bindings⟩ m).during .command).attempt with
  | .ok _ => return true
  | .error fault => do
    Program.record (.error ("dispatch.handler.error name=" ++ c.schema.name) (some fault))
    return true

/-- What is recorded of a handler that ended so. -/
def handlerNotes (s : Schema) : Except Fault Unit → List Program.Output
  | .ok _ => []
  | .error fault => [.note (.error ("dispatch.handler.error name=" ++ s.name) (some (.during .command fault)))]

theorem yields_explain_iff {s : Schema} {outputs : List Program.Output} {ending : Except Fault Bool} :
    (s.explain : Program σ Bool).Yields outputs ending ↔ ending = .ok true ∧ outputs = [.response .reply s.usage] := by
  change (Program.respond .reply s.usage (.done true)).Yields outputs ending ↔ _
  simp only [Program.yields_respond_iff, Program.yields_done_iff]
  constructor
  · rintro ⟨_, rfl, rfl, rfl⟩
    exact ⟨rfl, rfl⟩
  · rintro ⟨rfl, rfl⟩
    exact ⟨[], rfl, rfl, rfl⟩

theorem yields_refuse_iff {s : Schema} {m : Message} {outputs : List Program.Output} {ending : Except Fault Bool} :
    (s.refuse m : Program σ Bool).Yields outputs ending ↔ ending = .ok true ∧
      outputs = [.note (.info ("dispatch.denied" ++ invocation s m)), .response .reply notAllowed] := by
  change (Program.note (.info ("dispatch.denied" ++ invocation s m))
    (Program.respond .reply notAllowed (.done true))).Yields outputs ending ↔ _
  simp only [Program.yields_note_iff, Program.yields_respond_iff, Program.yields_done_iff]
  constructor
  · rintro ⟨_, rfl, _, rfl, rfl, rfl⟩
    exact ⟨rfl, rfl⟩
  · rintro ⟨rfl, rfl⟩
    exact ⟨_, rfl, [], rfl, rfl, rfl⟩

/-- A call runs the handler once and ends well however the handler ends. -/
theorem yields_invoke_iff {c : Registration (Handler σ)} {bindings : Bindings} {m : Message}
    {outputs : List Program.Output} {ending : Except Fault Bool} :
    (c.invoke bindings m).Yields outputs ending ↔
      ending = .ok true ∧ ∃ told result, (c.handler ⟨c.schema, bindings⟩ m).Yields told result ∧
        outputs = .note (.info ("dispatch.command" ++ invocation c.schema m)) :: told ++ handlerNotes c.schema result := by
  change (Program.note _
    (Program.bind ((c.handler ⟨c.schema, bindings⟩ m).during .command).attempt _)).Yields outputs ending ↔ _
  rw [Program.yields_note_iff]
  constructor
  · rintro ⟨rest, rfl, h⟩
    rcases Program.yields_bind_iff.mp h with ⟨caught, told, kept, hcaught, hkept, rfl⟩ | ⟨fault, hcaught, -⟩
    · obtain ⟨_, hresult, hduring⟩ := Program.yields_attempt_iff.mp hcaught
      obtain ⟨result, hmap, htold⟩ := Program.yields_during_iff.mp (Except.ok.inj hresult ▸ hduring)
      cases result with
      | ok a =>
        obtain rfl : caught = .ok a := hmap
        obtain ⟨rfl, rfl⟩ := Program.yields_done_iff.mp hkept
        exact ⟨rfl, told, .ok a, htold, rfl⟩
      | error fault =>
        obtain rfl : caught = .error (.during .command fault) := hmap
        obtain ⟨kept', rfl, hdone⟩ := Program.yields_note_iff.mp hkept
        obtain ⟨rfl, rfl⟩ := Program.yields_done_iff.mp hdone
        exact ⟨rfl, told, .error fault, htold, rfl⟩
    · obtain ⟨result, hresult, -⟩ := Program.yields_attempt_iff.mp hcaught
      cases hresult
  · rintro ⟨rfl, told, result, htold, rfl⟩
    have hduring : ((c.handler ⟨c.schema, bindings⟩ m).during .command).Yields told
        (result.mapError (Fault.during .command)) := Program.yields_during_iff.mpr ⟨result, rfl, htold⟩
    have hcaught := Program.yields_attempt_iff.mpr ⟨_, rfl, hduring⟩
    refine ⟨told ++ handlerNotes c.schema result, rfl, hcaught.bind ?_⟩
    cases result with
    | ok a => exact .done true
    | error fault => exact .note _ (.done true)

/-! ## One thing at one command -/

/-- A program does the one thing that a message leads to at a command: it explains the command, refuses it or calls it. -/
structure DoesOneThing (p : Program σ Bool) (m : Message) (c : Registration (Handler σ)) : Prop where
  reads : c.schema.extract m.content ≠ .noMatch
  explains : c.schema.extract m.content = .missingRequired →
    p = c.schema.explain ∧ ∀ outputs ending, p.Yields outputs ending → ending = .ok true ∧
      outputs.filterMap (Errand.responseOf? m) = [.toMessage m .reply (Text.trim c.schema.usage)]
  refuses : ∀ bindings, c.schema.extract m.content = .matched bindings → c.schema.IsDeniedTo m →
    p = c.schema.refuse m ∧ ∀ outputs ending, p.Yields outputs ending → ending = .ok true ∧
      outputs.filterMap (Errand.responseOf? m) = [.toMessage m .reply notAllowed]
  calls : ∀ bindings, c.schema.extract m.content = .matched bindings → ¬ c.schema.IsDeniedTo m →
    p = c.invoke bindings m ∧ ∀ outputs ending, p.Yields outputs ending ↔ ending = .ok true ∧
      ∃ told result, (c.handler ⟨c.schema, bindings⟩ m).Yields told result ∧
        outputs = .note (.info ("dispatch.command" ++ invocation c.schema m)) :: told ++ handlerNotes c.schema result

theorem deliverable?_eq_some {c : Char} {t : Text} (h : c ∈ t) (hc : Text.isBlank c = false) :
    Errand.deliverable? t = some (Text.trim t) := by
  have hne : Text.trim t ≠ [] := List.ne_nil_of_mem (Text.mem_trim_of_mem h hc)
  simp [Errand.deliverable?, hne]

namespace Registry

/-- A line lacks arguments only for a command with slots, whose usage line is not blank. -/
theorem WellFormed.deliverable?_usage {r : Registry (Handler σ)} (hr : r.WellFormed) {c : Registration (Handler σ)}
    (hc : c ∈ r.registrations) {line : Text} (h : c.schema.extract line = .missingRequired) :
    Errand.deliverable? c.schema.usage = some (Text.trim c.schema.usage) := by
  obtain ⟨usage, elevated, hschema⟩ := hr.declared c.schema (List.mem_map_of_mem hc)
  obtain ⟨leader, -, hdeclares, husage, -, -⟩ := exists_leader_of_ofUsage hschema
  have hslots : c.schema.slots ≠ [] := by
    intro hnil
    rw [Schema.extract, Schema.extractLedBy] at h
    cases hafter : Text.after? c.schema.name (Text.dropLeading c.schema.leader line) with
    | none => simp [hafter] at h
    | some rest => simp [hafter, Schema.hasKind, hnil] at h
  rw [husage]
  exact deliverable?_eq_some (hdeclares.bracket_mem hslots) (by decide)

theorem dispatch_eq_of_route_eq {r r' : Registry (Handler σ)} {m : Message} (h : r'.route m = r.route m) :
    r'.dispatch m = r.dispatch m := by
  rw [dispatch, dispatch, h]

theorem dispatch_of_route_unhandled {r : Registry (Handler σ)} {m : Message} (h : r.route m = .unhandled) :
    r.dispatch m = .done false := by
  rw [dispatch, h]
  rfl

theorem WellFormed.dispatch_doesOneThing {r : Registry (Handler σ)} (hr : r.WellFormed) {m : Message}
    {c : Registration (Handler σ)} (hc : r.IsLongest m.content c) : DoesOneThing (r.dispatch m) m c := by
  have hroute := hr.route_of_isLongest hc
  have hread : c.schema.extract m.content ≠ .noMatch := fun h =>
    (hr.extract_eq_noMatch_iff hc.mem hc.names.1).mp h hc.names
  refine ⟨hread, fun h => ?_, fun bindings h hdenied => ?_, fun bindings h hallowed => ?_⟩
  · have hdispatch : r.dispatch m = c.schema.explain := by
      rw [dispatch, hroute, routeTo, h]
      rfl
    refine ⟨hdispatch, fun outputs ending hrun => ?_⟩
    obtain ⟨rfl, rfl⟩ := yields_explain_iff.mp (hdispatch ▸ hrun)
    exact ⟨rfl, by simp [Errand.responseOf?, hr.deliverable?_usage hc.mem h]⟩
  · have hdispatch : r.dispatch m = c.schema.refuse m := by
      rw [dispatch, hroute, routeTo, h]
      simp only [if_pos (Schema.isDeniedTo_iff.mp hdenied)]
      rfl
    refine ⟨hdispatch, fun outputs ending hrun => ?_⟩
    obtain ⟨rfl, rfl⟩ := yields_refuse_iff.mp (hdispatch ▸ hrun)
    exact ⟨rfl, rfl⟩
  · have hdispatch : r.dispatch m = c.invoke bindings m := by
      rw [dispatch, hroute, routeTo, h]
      simp only [if_neg fun h => hallowed (Schema.isDeniedTo_iff.mpr h)]
      rfl
    exact ⟨hdispatch, fun outputs ending => hdispatch ▸ yields_invoke_iff⟩

/-! ## The order of declarations -/

/-- The declaration that a registered command comes from. -/
def declarationOf (c : Registration (Handler σ)) : Feature.Declaration σ := ⟨c.schema.usage, c.schema.elevated, c.handler⟩

theorem WellFormed.registration?_declarationOf {r : Registry (Handler σ)} (hr : r.WellFormed)
    {c : Registration (Handler σ)} (hc : c ∈ r.registrations) : registration? r.leader (declarationOf c) = some c := by
  obtain ⟨usage, elevated, hschema⟩ := hr.declared c.schema (List.mem_map_of_mem hc)
  obtain ⟨-, -, -, rfl, -, rfl⟩ := exists_leader_of_ofUsage hschema
  simp only [registration?, declarationOf, hschema]

/-- The commands of a registry can be declared in any order. -/
theorem WellFormed.registrations_declareEach_of_perm {r : Registry (Handler σ)} (hr : r.WellFormed)
    {cs : List (Registration (Handler σ))} (hperm : cs.Perm r.registrations) :
    ((empty r.leader).declareEach (cs.map declarationOf)).registrations = cs := by
  have hread : (cs.map declarationOf).filterMap (registration? r.leader) = cs := by
    rw [List.filterMap_map]
    refine (List.filterMap_congr fun c hc => ?_).trans List.filterMap_some
    exact hr.registration?_declarationOf (hperm.mem_iff.mp hc)
  have hnodup : (cs.map fun c => c.schema.name).Nodup := by
    rw [(hperm.map _).nodup_iff]
    simpa [schemas, Function.comp_def] using hr.names_nodup
  rw [registrations_declareEach]
  · exact hread
  · exact hread.symm ▸ hnodup

/-- At a registry built from declarations a message whose text begins with no name does nothing. Every other message does one
thing, at the only command with the longest such name. Neither depends on the order of the registrations, which may be any. -/
theorem dispatch_at_longest_name (leader : Text) (ds : List (Feature.Declaration σ)) (m : Message) :
    let r := (empty leader).declareEach ds
    ((∀ c ∈ r.registrations, ¬ Names leader m.content c) → r.dispatch m = .done false) ∧
    ((∃ c ∈ r.registrations, Names leader m.content c) → ∃ c, r.IsLongest m.content c ∧
      (∀ d, r.IsLongest m.content d → d = c) ∧ DoesOneThing (r.dispatch m) m c) ∧
    (∀ cs, cs.Perm r.registrations → ∃ ds', ((empty leader).declareEach ds').registrations = cs) ∧
    ∀ ds', ((empty leader).declareEach ds').registrations.Perm r.registrations →
      ((empty leader).declareEach ds').dispatch m = r.dispatch m := by
  intro r
  obtain ⟨hr, hleader⟩ : r.WellFormed ∧ r.leader = leader := (wellFormed_empty leader).declareEach ds
  refine ⟨fun hnone => ?_, fun hsome => ?_, fun cs hperm => ?_, fun ds' hperm => ?_⟩
  · exact dispatch_of_route_unhandled (hr.route_eq_unhandled (hleader.symm ▸ hnone))
  · obtain ⟨c, hc⟩ := hr.exists_isLongest (hleader.symm ▸ hsome)
    exact ⟨c, hc, fun d hd => hc.unique hd, hr.dispatch_doesOneThing hc⟩
  · exact ⟨_, hleader ▸ hr.registrations_declareEach_of_perm hperm⟩
  · obtain ⟨hr', hleader'⟩ := (wellFormed_empty leader : (empty leader : Registry (Handler σ)).WellFormed).declareEach ds'
    exact dispatch_eq_of_route_eq (hr.route_eq_of_perm hr' (hleader'.trans hleader.symm) hperm m)

/-- Two commands, one of which has the beginning of the other's name for its name. -/
theorem dispatch_at_longest_name_of_nested_names :
    let one : Feature.Declaration Unit := ⟨"!crate <name>", false, fun _ _ => .done ()⟩
    let many : Feature.Declaration Unit := ⟨"!crates <name>", true, fun _ _ => .done ()⟩
    let m : Message := ⟨"lobby", "ana", "!crates serde", [], "console", "1"⟩
    let r := (empty ['!']).declareEach [one, many]
    (∃ c ∈ r.registrations, Names ['!'] m.content c) ∧
      (∃ c, r.IsLongest m.content c ∧ DoesOneThing (r.dispatch m) m c) ∧
      ((empty ['!']).declareEach [many, one]).dispatch m = r.dispatch m := by
  intro one many m r
  have hregistered : r.registrations =
      [⟨⟨"crate", "!crate <name>", [⟨"name", .required⟩], false, ['!']⟩, one.handler⟩,
        ⟨⟨"crates", "!crates <name>", [⟨"name", .required⟩], true, ['!']⟩, many.handler⟩] := rfl
  have hnamed : ∃ c ∈ r.registrations, Names ['!'] m.content c := by
    refine ⟨_, hregistered ▸ List.mem_cons_self, ?_, ?_⟩ <;> decide
  obtain ⟨-, hlongest, -, horder⟩ := dispatch_at_longest_name ['!'] [one, many] m
  obtain ⟨c, hc, -, hdoes⟩ := hlongest hnamed
  refine ⟨hnamed, ⟨c, hc, hdoes⟩, horder [many, one] ?_⟩
  exact hregistered ▸ List.Perm.swap _ _ []

end Registry
end ChatBot.Command
