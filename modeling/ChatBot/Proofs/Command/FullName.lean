import ChatBot.Proofs.Command.Invocation

/-!
Lines that name a command in full belong to that command. Names of other commands may be beginnings of the name or go on behind
it, and may stand in any order: what the message does is done at the command that is named, and at no other one.
-/
set_option autoImplicit false

namespace ChatBot.Command
variable {σ : Type}

/-! ## What is done shows the command -/

/-- The program begins with a reply of the command's usage line, or with a record of the command's name. -/
def Shows (p : Program σ Bool) (m : Message) (s : Schema) : Prop :=
  (∃ next, p = .respond .reply s.usage next) ∨
    ∃ verb ∈ [("dispatch.denied" : Text), "dispatch.command"], ∃ next, p = .note (.info (verb ++ invocation s m)) next

theorem DoesOneThing.shows {p : Program σ Bool} {m : Message} {c : Registration (Handler σ)} (h : DoesOneThing p m c) :
    Shows p m c.schema := by
  cases hextract : c.schema.extract m.content with
  | noMatch => exact absurd hextract h.reads
  | missingRequired =>
    left
    obtain ⟨hexplain, -⟩ := h.explains hextract
    exact ⟨_, hexplain⟩
  | matched bindings =>
    right
    by_cases hdenied : c.schema.IsDeniedTo m
    · obtain ⟨hrefuse, -⟩ := h.refuses bindings hextract hdenied
      exact ⟨_, List.mem_cons_self, _, hrefuse⟩
    · obtain ⟨hinvoke, -⟩ := h.calls bindings hextract hdenied
      exact ⟨_, List.mem_cons_of_mem _ List.mem_cons_self, _, hinvoke⟩

theorem DoesOneThing.ending_eq {p : Program σ Bool} {m : Message} {c : Registration (Handler σ)} (h : DoesOneThing p m c)
    {outputs : List Program.Output} {ending : Except Fault Bool} (hrun : p.Yields outputs ending) : ending = .ok true := by
  cases hextract : c.schema.extract m.content with
  | noMatch => exact absurd hextract h.reads
  | missingRequired => exact ((h.explains hextract).2 outputs ending hrun).1
  | matched bindings =>
    by_cases hdenied : c.schema.IsDeniedTo m
    · exact ((h.refuses bindings hextract hdenied).2 outputs ending hrun).1
    · exact (((h.calls bindings hextract hdenied).2 outputs ending).mp hrun).1

theorem name_eq_of_invocation_eq {s t : Schema} {m : Message} (h : invocation s m = invocation t m) : s.name = t.name := by
  unfold invocation at h
  simp only [List.append_cancel_right_eq] at h
  exact List.append_cancel_left h

/-- The two records differ behind the dot. -/
theorem verb_eq_of_append_eq {verb verb' rest rest' : Text} (hverb : verb ∈ [("dispatch.denied" : Text), "dispatch.command"])
    (hverb' : verb' ∈ [("dispatch.denied" : Text), "dispatch.command"]) (h : verb ++ rest = verb' ++ rest') : verb = verb' := by
  have hplace : (verb ++ rest)[9]? = (verb' ++ rest')[9]? := by rw [h]
  simp only [List.mem_cons, List.not_mem_nil, or_false] at hverb hverb'
  rcases hverb with rfl | rfl <;> rcases hverb' with rfl | rfl
  · rfl
  · cases hplace
  · cases hplace
  · rfl

/-- One program shows one command, up to usage lines or names that agree. -/
theorem Shows.agree {p : Program σ Bool} {m : Message} {s t : Schema} (hs : Shows p m s) (ht : Shows p m t) :
    s.usage = t.usage ∨ s.name = t.name := by
  rcases hs with ⟨next, rfl⟩ | ⟨verb, hverb, next, rfl⟩
  · rcases ht with ⟨next', hsame⟩ | ⟨_, _, _, hsame⟩
    · left
      injection hsame
    · cases hsame
  · rcases ht with ⟨_, hsame⟩ | ⟨verb', hverb', next', hsame⟩
    · cases hsame
    · right
      injection hsame with hnote
      have htext : verb ++ invocation s m = verb' ++ invocation t m := by injection hnote
      obtain rfl := verb_eq_of_append_eq hverb hverb' htext
      exact name_eq_of_invocation_eq (List.append_cancel_left htext)

namespace Registry

theorem WellFormed.name_eq_of_usage_eq {r : Registry (Handler σ)} (hr : r.WellFormed) {c d : Registration (Handler σ)}
    (hc : c ∈ r.registrations) (hd : d ∈ r.registrations) (h : c.schema.usage = d.schema.usage) :
    c.schema.name = d.schema.name := by
  obtain ⟨usage, elevated, hcs⟩ := hr.declared c.schema (List.mem_map_of_mem hc)
  obtain ⟨usage', elevated', hds⟩ := hr.declared d.schema (List.mem_map_of_mem hd)
  obtain ⟨leader, hleader, hcdeclares, rfl, -, -⟩ := exists_leader_of_ofUsage hcs
  obtain ⟨leader', hleader', hddeclares, rfl, -, -⟩ := exists_leader_of_ofUsage hds
  obtain rfl : leader = leader' := List.singleton_inj.mp (hleader.symm.trans hleader')
  obtain ⟨words, hwords, -⟩ := hcdeclares.words
  obtain ⟨words', hwords', -⟩ := hddeclares.words
  rw [← h, hwords] at hwords'
  exact (List.cons.inj hwords').1

theorem WellFormed.eq_of_doesOneThing {r : Registry (Handler σ)} (hr : r.WellFormed) {p : Program σ Bool} {m : Message}
    {c d : Registration (Handler σ)} (hc : c ∈ r.registrations) (hd : d ∈ r.registrations) (hpc : DoesOneThing p m c)
    (hpd : DoesOneThing p m d) : d = c := by
  rcases hpc.shows.agree hpd.shows with husage | hname
  · exact (hr.eq_of_name_eq hc hd (hr.name_eq_of_usage_eq hc hd husage)).symm
  · exact (hr.eq_of_name_eq hc hd hname).symm

/-! ## The command that is named in full -/

/-- The line is the leader and the command's name, and nothing or a space and any text behind it. -/
def Addresses {η : Type} (leader content : Text) (c : Registration η) : Prop :=
  content = leader ++ c.schema.name ∨ ∃ x, content = leader ++ c.schema.name ++ ' ' :: x

theorem WellFormed.isLongest_of_addresses {r : Registry (Handler σ)} (hr : r.WellFormed) {c : Registration (Handler σ)}
    (hc : c ∈ r.registrations) {content : Text} (h : Addresses r.leader content c) : r.IsLongest content c := by
  obtain ⟨rest, hrest, rfl⟩ : ∃ rest : Text, (∀ d ∈ rest.head?, d = ' ') ∧ content = r.leader ++ (c.schema.name ++ rest) := by
    rcases h with rfl | ⟨x, rfl⟩
    · exact ⟨[], by simp, by simp⟩
    · exact ⟨' ' :: x, by simp, by simp⟩
  exact hr.isLongest_of_invocation hc hrest

/-- A line that names a command in full does the one thing at that command, which always ends well, and the one thing at no other
command. Whatever else is registered, and in whatever order, is of no account: wherever the command is registered under the
leader, the message does the same. -/
theorem full_name_reaches_its_command (leader : Text) (ds : List (Feature.Declaration σ)) {c : Registration (Handler σ)}
    {m : Message} (hc : c ∈ ((empty leader).declareEach ds).registrations) (hcontent : Addresses leader m.content c) :
    let r := (empty leader).declareEach ds
    DoesOneThing (r.dispatch m) m c ∧ (∀ outputs ending, (r.dispatch m).Yields outputs ending → ending = .ok true) ∧
    (∀ d ∈ r.registrations, DoesOneThing (r.dispatch m) m d → d = c) ∧
    ∀ ds', c ∈ ((empty leader).declareEach ds').registrations →
      ((empty leader).declareEach ds').dispatch m = r.dispatch m := by
  intro r
  have hempty : (empty leader : Registry (Handler σ)).WellFormed := wellFormed_empty leader
  obtain ⟨hr, hleader⟩ : r.WellFormed ∧ r.leader = leader := hempty.declareEach ds
  have hlongest : r.IsLongest m.content c := hr.isLongest_of_addresses hc (hleader.symm ▸ hcontent)
  have hdoes : DoesOneThing (r.dispatch m) m c := hr.dispatch_doesOneThing hlongest
  refine ⟨hdoes, fun outputs ending => hdoes.ending_eq, fun d hd hddoes => ?_, fun ds' hc' => ?_⟩
  · exact hr.eq_of_doesOneThing hc hd hdoes hddoes
  · obtain ⟨hr', hleader'⟩ := hempty.declareEach ds'
    have hlongest' : ((empty leader).declareEach ds').IsLongest m.content c :=
      hr'.isLongest_of_addresses hc' (hleader'.symm ▸ hcontent)
    exact dispatch_eq_of_route_eq ((hr'.route_of_isLongest hlongest').trans (hr.route_of_isLongest hlongest).symm)

/-- A shorter name begins the one that is given, and a longer one begins with it. -/
theorem full_name_reaches_its_command_among_nested_names :
    let short : Feature.Declaration Unit := ⟨"!c", false, fun _ _ => .done ()⟩
    let long : Feature.Declaration Unit := ⟨"!crates", false, fun _ _ => .done ()⟩
    let named : Feature.Declaration Unit := ⟨"!crate <name>", true, fun _ _ => .done ()⟩
    let c : Registration (Handler Unit) := ⟨⟨"crate", "!crate <name>", [⟨"name", .required⟩], true, ['!']⟩, named.handler⟩
    let m : Message := ⟨"lobby", "ana", "!crate s", [], "console", "1"⟩
    let r := (empty ['!']).declareEach [short, long, named]
    c ∈ r.registrations ∧ Addresses ['!'] m.content c ∧ DoesOneThing (r.dispatch m) m c ∧
      ((empty ['!']).declareEach [named]).dispatch m = r.dispatch m := by
  intro short long named c m r
  have hregistered : r.registrations =
      [⟨⟨"c", "!c", [], false, ['!']⟩, short.handler⟩, ⟨⟨"crates", "!crates", [], false, ['!']⟩, long.handler⟩, c] := rfl
  have hc : c ∈ r.registrations := hregistered ▸ by simp
  have hcontent : Addresses ['!'] m.content c := .inr ⟨"s", rfl⟩
  obtain ⟨hdoes, -, -, hothers⟩ := full_name_reaches_its_command ['!'] [short, long, named] hc hcontent
  exact ⟨hc, hcontent, hdoes, hothers [named] List.mem_cons_self⟩

end Registry
end ChatBot.Command
