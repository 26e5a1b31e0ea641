import ChatBot.Proofs.Bot.Registrations
import ChatBot.Proofs.Command.Admission

/-!
What help lists and what it finds. It lists a name exactly when it finds something for it, so whatever it lists may be asked for as it
stands; where a custom response has the name of a command, the command is found.
-/
set_option autoImplicit false

namespace ChatBot.Feature.Help
open Command
variable {τ : Type}

/-! ## Finding -/

section Finding
variable {leader : Char} {schemas : List Schema} {custom : Text → Option Template} {name : Text}

theorem find?_of_mem {schema : Schema} (hnames : (schemas.map Schema.name).Nodup) (h : schema ∈ schemas) :
    find? schemas custom schema.name = some schema.usage := by
  have hsame : schemas.find? (fun s => s.name = schema.name) = some schema := by
    rw [List.find?_eq_some_iff_append]
    obtain ⟨before, after, rfl⟩ := List.append_of_mem h
    refine ⟨decide_eq_true rfl, before, after, rfl, fun other hother => ?_⟩
    rw [List.map_append, List.nodup_append] at hnames
    have hne := hnames.2.2 other.name (List.mem_map_of_mem hother) schema.name List.mem_cons_self
    rw [Bool.not_eq_true', decide_eq_false_iff_not]
    exact hne
  rw [find?, hsame]

theorem find?_of_not_mem (h : name ∉ schemas.map Schema.name) : find? schemas custom name = (custom name).map Template.body := by
  have hnone : schemas.find? (fun s => s.name = name) = none := by
    refine List.find?_eq_none.mpr fun schema hschema hname => h ?_
    rw [← of_decide_eq_true hname]
    exact List.mem_map_of_mem hschema
  rw [find?, hnone]

theorem map_fst_commands (entries : Storage.Entries) (channel : Text) :
    (entries.commands channel).map Prod.fst = (entries.channel channel).keys := List.map_map

theorem isSome_find?_iff (hnames : (schemas.map Schema.name).Nodup) (entries : Storage.Entries) (channel name : Text) :
    (find? schemas (entries.get? channel) name).isSome ↔
      name ∈ schemas.map Schema.name ∨ name ∈ (entries.commands channel).map Prod.fst := by
  by_cases h : name ∈ schemas.map Schema.name
  · obtain ⟨schema, hschema, rfl⟩ := List.mem_map.mp h
    rw [find?_of_mem hnames hschema]
    exact iff_of_true rfl (.inl h)
  · rw [find?_of_not_mem h, Option.isSome_map, Storage.Entries.get?, Assoc.isSome_find?_iff, map_fst_commands]
    exact (or_iff_right h).symm

theorem cons_mem_listing_iff {texts : List (Text × Text)} :
    leader :: name ∈ listing leader schemas texts ↔ name ∈ schemas.map Schema.name ∨ name ∈ texts.map Prod.fst := by
  rw [listing, List.mem_map_of_injective List.cons_injective, List.mem_append]

theorem listing_cons {first : Schema} (entries : Storage.Entries) (channel : Text) :
    listing leader (first :: schemas) (entries.commands channel) =
      (leader :: first.name) :: schemas.map (leader :: ·.name) ++ (entries.channel channel).keys.map (leader :: ·) := by
  rw [listing, map_fst_commands, List.map_append, List.map_map]
  rfl

theorem exists_cons_of_mem_listing {texts : List (Text × Text)} {entry : Text} (h : entry ∈ listing leader schemas texts) :
    ∃ name, entry = leader :: name := by
  obtain ⟨name, -, rfl⟩ := List.mem_map.mp h
  exact ⟨name, rfl⟩

end Finding

/-! ## The commands that help knows -/

/-- The schema under which help is declared. -/
def schema (settings : Settings) : Schema := Bot.schemaOf settings usage "help" [⟨"command", .optional⟩] false

theorem ofUsage_schema (settings : Settings) :
    Schema.ofUsage [settings.leader] (settings.usage usage) false = .ok (schema settings) :=
  Bot.ofUsage_usage settings false rfl rfl

section Declaring
variable {settings : Settings} {r : Registry (Handler (World τ))}

/-- Help becomes the last command, and it knows itself and those before it. -/
theorem declareHelp_of_fresh (hleader : r.leader = [settings.leader])
    (h : (schema settings).name ∉ r.schemas.map Schema.name) :
    Bot.declareHelp settings r = .ok { r with
      registrations := r.registrations ++ [⟨schema settings, handle settings.leader (schema settings :: r.schemas)⟩] } := by
  simp only [Bot.declareHelp, hleader, ofUsage_schema]
  rw [Registry.add_of_fresh h, hleader]

theorem declareHelp_of_registered (hleader : r.leader = [settings.leader])
    (h : (schema settings).name ∈ r.schemas.map Schema.name) :
    Bot.declareHelp settings r = .error (.duplicate "help") := by
  simp only [Bot.declareHelp, hleader, ofUsage_schema]
  exact Registry.add_of_registered h _

end Declaring

/-- After any calls, help is declared unless one of them took its name. It then lists itself, the commands there are in the order of
their registration, each once, and the custom responses of the channel in the order of the store. It finds something for a query just
when it lists the query's name: the usage line of a command, else the body of a custom response. -/
theorem help_finds_what_it_lists (settings : Settings) (calls : List (Enrolment (Handler (World τ)))) :
    let r := (Registry.empty [settings.leader]).enrolEach calls
    let known := schema settings :: r.schemas
    ("help".toList ∈ r.schemas.map Schema.name → Bot.declareHelp settings r = .error (.duplicate "help")) ∧
      ("help".toList ∉ r.schemas.map Schema.name →
        Bot.declareHelp settings r = .ok { r with
            registrations := r.registrations ++ [⟨schema settings, handle settings.leader known⟩] } ∧
          r.schemas = ((Registry.empty [settings.leader]).outcomes calls).filterMap Except.toOption ∧
          (known.map Schema.name).Nodup ∧
          ∀ (entries : Storage.Entries) (channel : Text),
            let listed := listing settings.leader known (entries.commands channel)
            let found (query : Text) := find? known (entries.get? channel) (Text.dropLeading [settings.leader] query)
            listed = (settings.leader :: "help".toList) :: r.schemas.map (settings.leader :: ·.name) ++
                (entries.channel channel).keys.map (settings.leader :: ·) ∧
              ∀ query, let name := Text.dropLeading [settings.leader] query
                answer settings.leader known (entries.get? channel) query =
                    (found query).getD ("I don't know what '" ++ query ++ "' is") ∧
                  ((found query).isSome ↔ settings.leader :: name ∈ listed) ∧
                  (∀ s ∈ known, s.name = name → found query = some s.usage) ∧
                  (name ∉ known.map Schema.name → found query = (entries.get? channel name).map Template.body) ∧
                  (query ∈ listed → (found query).isSome)) := by
  intro r known
  have hleader : r.leader = [settings.leader] := Registry.leader_enrolEach _ calls
  have hheld : r.registrations = (Registry.empty [settings.leader]).admitted calls := Registry.registrations_enrolEach _ calls
  refine ⟨declareHelp_of_registered hleader, fun hfree => ?_⟩
  have hempty : ((Registry.empty [settings.leader] : Registry (Handler (World τ))).schemas.map Schema.name).Nodup := List.nodup_nil
  have hnames : (known.map Schema.name).Nodup :=
    List.nodup_cons.mpr ⟨hfree, Registry.nodup_names_enrolEach hempty calls⟩
  refine ⟨declareHelp_of_fresh hleader hfree, ?_, hnames, fun entries channel => ?_⟩
  · rw [Registry.schemas, hheld, Registry.schemas_admitted]
  intro listed found
  have hiff (query : Text) : (found query).isSome ↔ settings.leader :: Text.dropLeading [settings.leader] query ∈ listed :=
    (isSome_find?_iff hnames entries channel _).trans cons_mem_listing_iff.symm
  refine ⟨listing_cons entries channel, fun query => ⟨rfl, hiff query, ?_, find?_of_not_mem, fun hlisted => ?_⟩⟩
  · intro s hs hname
    change find? known (entries.get? channel) (Text.dropLeading [settings.leader] query) = some s.usage
    rw [← hname, find?_of_mem hnames hs]
  · -- An entry begins with the leader, so that the name it is asked for is its own.
    obtain ⟨name, rfl⟩ := exists_cons_of_mem_listing hlisted
    have hdrop : Text.dropLeading [settings.leader] (settings.leader :: name) = name :=
      Text.dropLeading_append [settings.leader] name
    rwa [hiff, hdrop]

/-- A custom response has the name of a command, another begins with the leader, and one registration is refused. -/
theorem help_finds_what_it_lists_of_shadowed :
    let idle : Handler (World ℕ) := fun _ _ => pure ()
    let calls := [.command "!greet <name>" idle, .command "greet" idle, .elevated "!!x" idle]
    let entries : Storage.Entries := [("#lobby", [("greet", ⟨"greet", "hello"⟩), ("!y", ⟨"!y", "yes"⟩)])]
    let r := (Registry.empty ['!']).enrolEach calls
    let known := schema .standard :: r.schemas
    let listed := listing '!' known (entries.commands "#lobby")
    "help".toList ∉ r.schemas.map Schema.name ∧
      listed = ["!help", "!greet", "!!x", "!greet", "!!y"].map String.toList ∧
      answer '!' known (entries.get? "#lobby") "!greet" = "!greet <name>".toList ∧
      (∀ entry ∈ listed, (find? known (entries.get? "#lobby") (Text.dropLeading ['!'] entry)).isSome) ∧
      ¬ (find? known (entries.get? "#lobby") (Text.dropLeading ['!'] "!y")).isSome := by
  intro idle calls entries r known listed
  have hfree : "help".toList ∉ r.schemas.map Schema.name := by decide
  have hlisted : listed = ["!help", "!greet", "!!x", "!greet", "!!y"].map String.toList := by decide
  obtain ⟨-, -, -, hagree⟩ := (help_finds_what_it_lists .standard calls).2 hfree
  obtain ⟨-, hquery⟩ := hagree entries "#lobby"
  refine ⟨hfree, hlisted, by decide, fun entry hentry => (hquery entry).2.2.2.2 hentry, fun hfound => ?_⟩
  have hmem : "!y".toList ∈ listed := (hquery "!y").2.1.mp hfound
  rw [hlisted] at hmem
  exact absurd hmem (by decide)

end ChatBot.Feature.Help
