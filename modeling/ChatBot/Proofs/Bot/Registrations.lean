import ChatBot.Proofs.Command.Registry
import ChatBot.Proofs.Feature.CustomResponses
import ChatBot.Proofs.Feature.Frame

/-!
The commands of a bot with all features. Declaring them succeeds under every leader, and what is registered does not depend on
it but for the leader in the usage lines.
-/
set_option autoImplicit false

namespace ChatBot.Bot
open Command Feature
variable {τ : Type}

/-! ## Declaring commands -/

theorem declareAll_eq_ok {r : Registry (Handler (World τ))} {ds : List (Declaration (World τ))}
    {cs : List (Registration (Handler (World τ)))}
    (hread : List.Forall₂ (fun d c => Registry.registration? r.leader d = some c) ds cs)
    (hnodup : ((r.registrations ++ cs).map fun c => c.schema.name).Nodup) :
    declareAll r ds = .ok { r with registrations := r.registrations ++ cs } := by
  induction ds generalizing r cs with
  | nil =>
    cases hread
    rw [List.append_nil]
    rfl
  | cons d ds ih =>
    obtain _ | @⟨_, c, _, cs, hd, hds⟩ := hread
    obtain ⟨schema, hschema, rfl⟩ : ∃ schema, Schema.ofUsage r.leader d.usage d.elevated = .ok schema ∧
        c = ⟨schema, d.handler⟩ := by
      rw [Registry.registration?] at hd
      split at hd
      · exact ⟨_, by assumption, (Option.some.inj hd).symm⟩
      · cases hd
    have hfresh : schema.name ∉ r.schemas.map Schema.name := by
      rw [List.map_append, List.nodup_append] at hnodup
      intro hmem
      refine hnodup.2.2 schema.name ?_ schema.name (by simp) rfl
      simpa [Registry.schemas] using hmem
    have hadd : r.add schema d.handler = .ok _ := Registry.add_eq_ok_iff.mpr ⟨hfresh, rfl⟩
    have hdeclare : declareAll r (d :: ds) =
        declareAll { r with registrations := r.registrations ++ [⟨schema, d.handler⟩] } ds := by
      rw [declareAll, Registry.declare, hschema]
      simp only [hadd]
      rfl
    have hrest := @ih { r with registrations := r.registrations ++ [⟨schema, d.handler⟩] } cs hds (by simpa using hnodup)
    rw [hdeclare, hrest]
    simp

theorem wellFormed_of_declareAll {r r' : Registry (Handler (World τ))} {ds : List (Declaration (World τ))}
    (hr : r.WellFormed) (h : declareAll r ds = .ok r') : r'.WellFormed := by
  induction ds generalizing r with
  | nil =>
    obtain rfl : r = r' := Except.ok.inj h
    exact hr
  | cons d ds ih =>
    rw [declareAll] at h
    cases hd : r.declare d.usage d.elevated d.handler with
    | error e =>
      rw [hd] at h
      cases h
    | ok declared =>
      rw [hd] at h
      exact ih (hr.declare hd).1 h

def schemaOf (settings : Settings) (usage name : Text) (slots : List Slot) (elevated : Bool) : Schema :=
  ⟨name, settings.usage usage, slots, elevated, [settings.leader]⟩

/-- The leader takes no part in what the rest of a usage line declares. -/
theorem ofUsage_usage (settings : Settings) {usage : Text} {c : Char} {name : Text} {words : List Text} {slots : List Slot}
    (elevated : Bool) (hwords : usageWords usage = (c :: name) :: words) (hslots : addSlots [] words = .ok slots) :
    Schema.ofUsage [settings.leader] (settings.usage usage) elevated =
      .ok (schemaOf settings usage (c :: name) slots elevated) := by
  have hdrop : Text.dropLeading [settings.leader] (settings.usage usage) = usage := by
    simp [Text.dropLeading, Settings.usage, Text.after?]
  rw [Schema.ofUsage, hdrop, hwords]
  simp only [hslots]
  rfl

/-! ## The commands of all features -/

def operation (settings : Settings) (usage : Text) (op : CustomResponses.Operation) : Registration (Handler (World τ)) :=
  ⟨schemaOf settings usage op.name op.slots true, op.handler⟩

def lookup (settings : Settings) (usage name : Text) : Registration (Handler (World τ)) :=
  ⟨schemaOf settings usage name [⟨"crate", .required⟩] false, Crates.handle settings⟩

variable [Instant τ]

def commandsBeforeHelp (settings : Settings) (started : τ) : List (Registration (Handler (World τ))) :=
  [lookup settings "crate <crate>" "crate", lookup settings "crates <crate>" "crates",
   lookup settings "lookup <crate>" "lookup",
   operation settings "set <command> <body...>" .set, operation settings "add <command> <body...>" .add,
   operation settings "edit <command> <body...>" .edit, operation settings "remove <command>" .remove,
   ⟨schemaOf settings "speak" "speak" [] false, Chatter.speak settings⟩,
   ⟨schemaOf settings "uptime" "uptime" [] false, Uptime.handle started⟩]

/-- The help command, which knows itself and the commands before it. -/
def helpCommand (settings : Settings) (started : τ) : Registration (Handler (World τ)) :=
  let schema := schemaOf settings Help.usage "help" [⟨"command", .optional⟩] false
  ⟨schema, Help.handle settings.leader (schema :: (commandsBeforeHelp settings started).map Registration.schema)⟩

def fullRegistry (settings : Settings) (started : τ) : Registry (Handler (World τ)) :=
  ⟨[settings.leader], commandsBeforeHelp settings started ++ [helpCommand settings started]⟩

theorem declareAll_declarations (settings : Settings) (started : τ) :
    declareAll (Registry.empty [settings.leader]) (declarations settings started) =
      .ok ⟨[settings.leader], commandsBeforeHelp settings started⟩ := by
  have h {usage : Text} {c : Char} {name : Text} {words : List Text} {slots : List Slot} {elevated : Bool}
      {handler : Handler (World τ)} (hwords : usageWords usage = (c :: name) :: words)
      (hslots : addSlots [] words = .ok slots) :
      Registry.registration? [settings.leader] ⟨settings.usage usage, elevated, handler⟩ =
        some ⟨schemaOf settings usage (c :: name) slots elevated, handler⟩ := by
    simp only [Registry.registration?, ofUsage_usage settings elevated hwords hslots]
  have hread : List.Forall₂ (fun d c => Registry.registration? [settings.leader] d = some c)
      (declarations settings started) (commandsBeforeHelp settings started) := by
    refine .cons (h rfl rfl) (.cons (h rfl rfl) (.cons (h rfl rfl) ?_))
    refine .cons (h rfl rfl) (.cons (h rfl rfl) (.cons (h rfl rfl) (.cons (h rfl rfl) ?_)))
    exact .cons (h rfl rfl) (.cons (h rfl rfl) .nil)
  have hnodup : ((commandsBeforeHelp settings started).map fun c => c.schema.name).Nodup := by
    change List.Nodup (["crate", "crates", "lookup", "set", "add", "edit", "remove", "speak", "uptime"].map String.toList)
    decide
  exact declareAll_eq_ok hread hnodup

theorem ofUsage_helpCommand (settings : Settings) (started : τ) :
    Schema.ofUsage [settings.leader] (settings.usage Help.usage) false = .ok (helpCommand settings started).schema :=
  ofUsage_usage settings false rfl rfl

theorem add_helpCommand (settings : Settings) (started : τ) :
    (⟨[settings.leader], commandsBeforeHelp settings started⟩ : Registry (Handler (World τ))).add
      (helpCommand settings started).schema (helpCommand settings started).handler = .ok (fullRegistry settings started) := by
  refine Registry.add_eq_ok_iff.mpr ⟨?_, rfl⟩
  change "help".toList ∉ ["crate", "crates", "lookup", "set", "add", "edit", "remove", "speak", "uptime"].map String.toList
  decide

theorem full_eq_ok (settings : Settings) (started : τ) :
    full settings started = .ok ⟨settings, fullRegistry settings started,
      CustomResponses.passives settings ++ Chatter.passives settings⟩ := by
  have hhelp : declareHelp settings ⟨[settings.leader], commandsBeforeHelp settings started⟩ =
      .ok (fullRegistry settings started) := by
    simp only [declareHelp, ofUsage_helpCommand settings started]
    exact add_helpCommand settings started
  rw [full, declareAll_declarations]
  change (declareHelp settings ⟨[settings.leader], commandsBeforeHelp settings started⟩ >>= _) = _
  rw [hhelp]
  rfl

theorem wellFormed_fullRegistry (settings : Settings) (started : τ) : (fullRegistry settings started).WellFormed := by
  have hbefore := wellFormed_of_declareAll (Registry.wellFormed_empty [settings.leader])
    (declareAll_declarations settings started)
  have hdeclare : Registry.declare ⟨[settings.leader], commandsBeforeHelp settings started⟩ (settings.usage Help.usage)
      false (helpCommand settings started).handler =
        .ok (fullRegistry settings started, (helpCommand settings started).schema) := by
    simp only [Registry.declare, ofUsage_helpCommand settings started, add_helpCommand settings started]
    rfl
  exact (hbefore.declare hdeclare).1

structure IsFull (bot : Bot τ) : Prop where
  registry : ∃ started, bot.registry = fullRegistry bot.settings started
  passives : bot.passives = CustomResponses.passives bot.settings ++ Chatter.passives bot.settings

theorem isFull_of_full {settings : Settings} {started : τ} {bot : Bot τ} (h : full settings started = .ok bot) :
    bot.settings = settings ∧ bot.IsFull := by
  rw [full_eq_ok] at h
  cases h
  exact ⟨rfl, ⟨started, rfl⟩, rfl⟩

theorem exists_operation_mem (settings : Settings) (started : τ) (op : CustomResponses.Operation) :
    ∃ usage, operation settings usage op ∈ (fullRegistry settings started).registrations := by
  cases op with
  | set => exact ⟨"set <command> <body...>", by simp [fullRegistry, commandsBeforeHelp]⟩
  | add => exact ⟨"add <command> <body...>", by simp [fullRegistry, commandsBeforeHelp]⟩
  | edit => exact ⟨"edit <command> <body...>", by simp [fullRegistry, commandsBeforeHelp]⟩
  | remove => exact ⟨"remove <command>", by simp [fullRegistry, commandsBeforeHelp]⟩

/-- A command either changes custom responses, and then needs privileges, or leaves files and shelf alone. -/
theorem operation_or_keeps {settings : Settings} {started : τ} {c : Registration (Handler (World τ))}
    (h : c ∈ (fullRegistry settings started).registrations) :
    (∃ usage op, c = operation settings usage op) ∨
      ((∀ op : CustomResponses.Operation, c.schema.name ≠ op.name) ∧
        ∀ args m, (c.handler args m).Keeps World.storage) := by
  simp only [fullRegistry, commandsBeforeHelp, List.cons_append, List.nil_append, List.mem_cons, List.not_mem_nil,
    or_false] at h
  have hname (name : Text) (hname : name ∉ ["set", "add", "edit", "remove"].map String.toList)
      (op : CustomResponses.Operation) : name ≠ op.name := by
    rintro rfl
    exact hname (by cases op <;> decide)
  rcases h with rfl | rfl | rfl | rfl | rfl | rfl | rfl | rfl | rfl | rfl
  · exact .inr ⟨hname "crate" (by decide), Crates.handle_keeps settings⟩
  · exact .inr ⟨hname "crates" (by decide), Crates.handle_keeps settings⟩
  · exact .inr ⟨hname "lookup" (by decide), Crates.handle_keeps settings⟩
  · exact .inl ⟨_, _, rfl⟩
  · exact .inl ⟨_, _, rfl⟩
  · exact .inl ⟨_, _, rfl⟩
  · exact .inl ⟨_, _, rfl⟩
  · exact .inr ⟨hname "speak" (by decide), Chatter.speak_keeps settings⟩
  · exact .inr ⟨hname "uptime" (by decide), Uptime.handle_keeps started⟩
  · exact .inr ⟨hname "help" (by decide), Help.handle_keeps settings.leader _⟩

end ChatBot.Bot
