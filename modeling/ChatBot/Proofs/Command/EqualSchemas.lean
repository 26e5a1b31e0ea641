import Mathlib.Data.List.Pairwise
import ChatBot.Proofs.Command.UsageLine

/-!
Equal schemas in sets and dictionaries. Schemas are equal when they share a usage line, but they are filed under their names, and a usage
line names another command where a leader is taken off it than where none is. So two equal schemas are kept as two members just when
their leaders differ and the line begins with one of them; under one leader that never happens.
-/
set_option autoImplicit false

namespace ChatBot.Command

/-! ## One usage line under two leaders -/

def Schema.IsDeclared (s : Schema) : Prop := ∃ leader usage elevated, Schema.ofUsage leader usage elevated = .ok s

/-- The leaders are different, and the usage line begins with one of them. -/
def LeadersDisagree (leader leader' usage : Text) : Prop := leader ≠ leader' ∧ (leader <+: usage ∨ leader' <+: usage)

namespace DeclaresCommand
variable {leader leader' : Char} {usage name name' : Text} {slots slots' : List Slot}

theorem head?_splitOn (h : DeclaresCommand leader usage name slots) :
    (List.splitOn ' ' (Text.dropLeading [leader] usage)).head? = some name := by
  obtain ⟨pieces, hpieces, -⟩ := h.exists_splitOn
  rw [hpieces, List.head?_cons]

theorem name_eq (h : DeclaresCommand leader usage name slots) (h' : DeclaresCommand leader' usage name' slots')
    (hline : Text.dropLeading [leader] usage = Text.dropLeading [leader'] usage) : name = name' := by
  have hhead := h.head?_splitOn
  rw [hline, h'.head?_splitOn] at hhead
  exact (Option.some.inj hhead).symm

/-- The leader that one command takes off the line is part of the other's name. -/
theorem name_eq_cons (h : DeclaresCommand leader usage name slots) (h' : DeclaresCommand leader' usage name' slots')
    (hne : leader ≠ leader') (hleader : [leader] <+: usage) : name' = leader :: name := by
  obtain ⟨rest, rfl⟩ := hleader
  have hother : ¬ [leader'] <+: leader :: rest := fun hpre => hne (List.cons_prefix_cons.mp hpre).1.symm
  have hhead := h.head?_splitOn
  have hhead' := h'.head?_splitOn
  rw [Text.dropLeading_append] at hhead
  rw [List.singleton_append, Text.dropLeading_eq_self hother, List.splitOn_cons_eq_if_modifyHead] at hhead'
  obtain ⟨pieces, hpieces⟩ := List.head?_eq_some_iff.mp hhead
  rw [hpieces] at hhead'
  split at hhead'
  · -- A line that begins with a space names nothing unless the space is its leader.
    exact absurd (Option.some.inj hhead').symm h'.name_ne_nil
  · exact (Option.some.inj hhead').symm

end DeclaresCommand

theorem Schema.IsDeclared.exists_leader {s : Schema} (h : s.IsDeclared) :
    ∃ c, s.leader = [c] ∧ DeclaresCommand c s.usage s.name s.slots := by
  obtain ⟨leader, usage, elevated, hread⟩ := h
  obtain ⟨c, rfl, hdeclares, rfl, hleader, -⟩ := exists_leader_of_ofUsage hread
  exact ⟨c, hleader, hdeclares⟩

theorem name_ne_iff_of_usage_eq {s t : Schema} (hs : s.IsDeclared) (ht : t.IsDeclared) (husage : s.usage = t.usage) :
    s.name ≠ t.name ↔ LeadersDisagree s.leader t.leader s.usage := by
  obtain ⟨c, hc, hs⟩ := hs.exists_leader
  obtain ⟨d, hd, ht⟩ := ht.exists_leader
  rw [← husage] at ht
  rw [LeadersDisagree, hc, hd]
  constructor
  · intro hname
    refine ⟨fun heq => hname (hs.name_eq ht (by rw [heq])), ?_⟩
    by_contra hneither
    obtain ⟨hfirst, hsecond⟩ := not_or.mp hneither
    exact hname (hs.name_eq ht (by rw [Text.dropLeading_eq_self hfirst, Text.dropLeading_eq_self hsecond]))
  · rintro ⟨hne, hfirst | hsecond⟩ hname
    · have hcons := hs.name_eq_cons ht (fun e => hne (by rw [e])) hfirst
      exact List.cons_ne_self c s.name (hcons.symm.trans hname.symm)
    · have hcons := ht.name_eq_cons hs (fun e => hne (by rw [e])) hsecond
      exact List.cons_ne_self d t.name (hcons.symm.trans hname)

/-! ## What a set of schemas keeps -/

namespace Schema

/-- Two schemas are one member of a set when they are filed under one name and found equal there. -/
def IsOneMember (s t : Schema) : Prop := s.name = t.name ∧ s.usage = t.usage

theorem sameName_and_sameUsage_iff {s t : Schema} : (s.sameName t && s.sameUsage t) = true ↔ s.IsOneMember t := by
  rw [Bool.and_eq_true, sameName, sameUsage, beq_iff_eq, beq_iff_eq, IsOneMember]

theorem distinct_concat (schemas : List Schema) (s : Schema) :
    distinct (schemas ++ [s]) =
      if (distinct schemas).any fun k => k.sameName s && k.sameUsage s then distinct schemas else distinct schemas ++ [s] := by
  rw [distinct, List.foldl_append, List.foldl_cons, List.foldl_nil, ← distinct]

theorem mem_of_mem_distinct {schemas : List Schema} {s : Schema} (h : s ∈ distinct schemas) : s ∈ schemas := by
  induction schemas using List.reverseRecOn with
  | nil => exact h
  | append_singleton schemas t ih =>
    rw [distinct_concat] at h
    split at h
    · exact List.mem_append_left [t] (ih h)
    · rcases List.mem_append.mp h with h | h
      · exact List.mem_append_left [t] (ih h)
      · exact List.mem_append_right schemas h

theorem exists_mem_distinct {schemas : List Schema} {s : Schema} (h : s ∈ schemas) :
    ∃ k ∈ distinct schemas, k.IsOneMember s := by
  induction schemas using List.reverseRecOn with
  | nil => cases h
  | append_singleton schemas t ih =>
    rw [distinct_concat]
    split
    · rename_i hany
      rcases List.mem_append.mp h with h | h
      · exact ih h
      · obtain rfl := List.mem_singleton.mp h
        obtain ⟨k, hk, hsame⟩ := List.any_eq_true.mp hany
        exact ⟨k, hk, sameName_and_sameUsage_iff.mp hsame⟩
    · rcases List.mem_append.mp h with h | h
      · obtain ⟨k, hk, hsame⟩ := ih h
        exact ⟨k, List.mem_append_left [t] hk, hsame⟩
      · obtain rfl := List.mem_singleton.mp h
        exact ⟨s, List.mem_append_right _ List.mem_cons_self, rfl, rfl⟩

theorem pairwise_distinct (schemas : List Schema) : (distinct schemas).Pairwise fun s t => ¬ s.IsOneMember t := by
  induction schemas using List.reverseRecOn with
  | nil => exact List.Pairwise.nil
  | append_singleton schemas t ih =>
    rw [distinct_concat]
    split
    · exact ih
    · rename_i hany
      refine List.pairwise_append.mpr ⟨ih, List.pairwise_singleton _ _, fun s hs t' ht' hsame => hany ?_⟩
      obtain rfl := List.mem_singleton.mp ht'
      exact List.any_eq_true.mpr ⟨s, hs, sameName_and_sameUsage_iff.mpr hsame⟩

/-- A set has two members with one usage line when it was given two under different names. -/
theorem not_pairwise_distinct_iff {schemas : List Schema} :
    (¬ (distinct schemas).Pairwise fun s t => s.usage ≠ t.usage) ↔
      ∃ s ∈ schemas, ∃ t ∈ schemas, s.usage = t.usage ∧ s.name ≠ t.name := by
  constructor
  · intro hequal
    by_contra hnone
    refine hequal ((pairwise_distinct schemas).imp_of_mem fun {s t} hs ht hapart husage => hapart ⟨?_, husage⟩)
    by_contra hname
    exact hnone ⟨s, mem_of_mem_distinct hs, t, mem_of_mem_distinct ht, husage, hname⟩
  · rintro ⟨s, hs, t, ht, husage, hname⟩ hapart
    obtain ⟨k, hk, hks⟩ := exists_mem_distinct hs
    obtain ⟨l, hl, hlt⟩ := exists_mem_distinct ht
    have hne : k ≠ l := fun e => hname (by rw [← hks.1, ← hlt.1, e])
    have hsymm : Std.Symm fun a b : Schema => a.usage ≠ b.usage := ⟨fun _ _ h => h.symm⟩
    exact hapart.forall hk hl hne (by rw [hks.2, hlt.2, husage])

end Schema

/-! ## What a dictionary keeps -/

namespace Registry
variable {η : Type}

/-- A dictionary that the registrations are filed in one after the other. -/
def fileEach (cs : List (Registration η)) : List (Registration η) := cs.foldl (fun filed c => file c.schema c.handler filed) []

theorem map_schema_file (schema : Schema) (handler : η) (cs : List (Registration η)) :
    (file schema handler cs).map Registration.schema =
      if (cs.map Registration.schema).any fun k => k.sameName schema && k.sameUsage schema then cs.map Registration.schema
      else cs.map Registration.schema ++ [schema] := by
  induction cs with
  | nil => rfl
  | cons c cs ih =>
    rw [file, List.map_cons, List.any_cons]
    cases hsame : c.schema.sameName schema && c.schema.sameUsage schema with
    | true => rfl
    | false =>
      rw [if_neg Bool.false_ne_true, List.map_cons, ih, Bool.false_or]
      split <;> rfl

/-- A dictionary has the members that a set has. -/
theorem schemas_fileEach (cs : List (Registration η)) :
    (fileEach cs).map Registration.schema = Schema.distinct (cs.map Registration.schema) := by
  induction cs using List.reverseRecOn with
  | nil => rfl
  | append_singleton cs c ih =>
    have hlast : fileEach (cs ++ [c]) = file c.schema c.handler (fileEach cs) := List.foldl_concat ..
    rw [hlast, map_schema_file, ih, List.map_append, List.map_singleton, Schema.distinct_concat]

end Registry

/-- Schemas from usage lines that are equal differ in name, and so in their places in a set, just when their leaders disagree about the
line. A set has the same members as a dictionary, and it has two that are equal just when it was given two whose leaders disagree. -/
theorem equal_schemas_part_iff {η : Type} :
    (∀ s t : Schema, s.IsDeclared → t.IsDeclared → s.sameUsage t = true →
      (s.sameName t = false ↔ LeadersDisagree s.leader t.leader s.usage)) ∧
    ∀ cs : List (Registration η), (∀ c ∈ cs, c.schema.IsDeclared) →
      let members := Schema.distinct (cs.map Registration.schema)
      (Registry.fileEach cs).map Registration.schema = members ∧
        ((¬ members.Pairwise fun s t => s.sameUsage t = false) ↔
          ∃ c ∈ cs, ∃ d ∈ cs, c.schema.sameUsage d.schema = true ∧
            LeadersDisagree c.schema.leader d.schema.leader c.schema.usage) := by
  constructor
  · intro s t hs ht hequal
    rw [Schema.sameName, beq_eq_false_iff_ne]
    exact name_ne_iff_of_usage_eq hs ht (eq_of_beq hequal)
  · intro cs hcs members
    refine ⟨Registry.schemas_fileEach cs, ?_⟩
    have hmembers : (members.Pairwise fun s t => s.sameUsage t = false) ↔ members.Pairwise fun s t => s.usage ≠ t.usage := by
      simp only [Schema.sameUsage, beq_eq_false_iff_ne]
    rw [hmembers, Schema.not_pairwise_distinct_iff]
    constructor
    · rintro ⟨s, hs, t, ht, husage, hname⟩
      obtain ⟨c, hc, rfl⟩ := List.mem_map.mp hs
      obtain ⟨d, hd, rfl⟩ := List.mem_map.mp ht
      exact ⟨c, hc, d, hd, beq_iff_eq.mpr husage, (name_ne_iff_of_usage_eq (hcs c hc) (hcs d hd) husage).mp hname⟩
    · rintro ⟨c, hc, d, hd, hequal, hdisagree⟩
      have husage : c.schema.usage = d.schema.usage := eq_of_beq hequal
      exact ⟨c.schema, List.mem_map_of_mem hc, d.schema, List.mem_map_of_mem hd, husage,
        (name_ne_iff_of_usage_eq (hcs c hc) (hcs d hd) husage).mpr hdisagree⟩

/-- An elevated command is equal to one that is not, and the set keeps the first of them; under another leader the line names `!a`. -/
theorem equal_schemas_part_iff_of_three :
    let plain : Schema := ⟨"a", "!a", [], false, ['!']⟩
    let elevated : Schema := ⟨"a", "!a", [], true, ['!']⟩
    let other : Schema := ⟨"!a", "!a", [], false, ['#']⟩
    let cs : List (Registration ℕ) := [⟨plain, 0⟩, ⟨elevated, 1⟩, ⟨other, 2⟩]
    (plain.IsDeclared ∧ elevated.IsDeclared ∧ other.IsDeclared) ∧
      (plain.sameUsage elevated = true ∧ ¬ plain.sameName elevated = false) ∧
      (plain.sameUsage other = true ∧ plain.sameName other = false) ∧
      Schema.distinct (cs.map Registration.schema) = [plain, other] ∧
      (Registry.fileEach cs).map Registration.schema = [plain, other] ∧
      ¬ [plain, other].Pairwise fun s t => s.sameUsage t = false := by
  intro plain elevated other cs
  have hplain : plain.IsDeclared := ⟨['!'], "!a", false, by decide⟩
  have helevated : elevated.IsDeclared := ⟨['!'], "!a", true, by decide⟩
  have hother : other.IsDeclared := ⟨['#'], "!a", false, by decide⟩
  have hdeclared : ∀ c ∈ cs, c.schema.IsDeclared := by
    intro c hc
    simp only [cs, List.mem_cons, List.not_mem_nil, or_false] at hc
    rcases hc with rfl | rfl | rfl
    · exact hplain
    · exact helevated
    · exact hother
  have hagree : ¬ LeadersDisagree plain.leader elevated.leader plain.usage := fun h => h.1 rfl
  have hdisagree : LeadersDisagree plain.leader other.leader plain.usage := ⟨by decide, .inl (by decide)⟩
  obtain ⟨hpair, hset⟩ := equal_schemas_part_iff (η := ℕ)
  obtain ⟨hmembers, htwo⟩ := hset cs hdeclared
  refine ⟨⟨hplain, helevated, hother⟩, ⟨rfl, ?_⟩, ⟨rfl, ?_⟩, rfl, hmembers, ?_⟩
  · exact fun h => hagree ((hpair plain elevated hplain helevated rfl).mp h)
  · exact (hpair plain other hplain hother rfl).mpr hdisagree
  · exact htwo.mpr ⟨⟨plain, 0⟩, List.mem_cons_self, ⟨other, 2⟩, by simp [cs], rfl, hdisagree⟩

/-- Equal schemas can have different names, and a set keeps both. -/
theorem equal_schemas_under_two_leaders :
    ∃ s t : Schema, Schema.ofUsage ['!'] "!a" false = .ok s ∧ Schema.ofUsage ['#'] "!a" false = .ok t ∧
      s.sameUsage t = true ∧ s.sameName t = false ∧ Schema.distinct [s, t] = [s, t] :=
  ⟨⟨"a", "!a", [], false, ['!']⟩, ⟨"!a", "!a", [], false, ['#']⟩, by decide⟩

end ChatBot.Command
