import Mathlib.Data.List.Perm.Basic
import Mathlib.Data.List.Nodup
import ChatBot.Feature.Basic
import ChatBot.Proofs.Command.UsageGrammar

/-!
What a registry built from usage lines holds, and which of its commands a message reaches. Names are distinct, so among the
commands whose names a text begins with there is one with the longest name; routing depends on that command alone, not on
the order of registration.
-/
set_option autoImplicit false

namespace ChatBot.Command

/-! ## Extraction tells readers apart -/

theorem extract_eq_noMatch_iff {s : Schema} {line : Text} :
    s.extract line = .noMatch ↔ ¬ s.name <+: Text.dropLeading s.leader line := by
  rw [Schema.extract, Schema.extractLedBy]
  by_cases h : s.name <+: Text.dropLeading s.leader line
  · rw [Text.after?_eq_drop h]
    simp only [h, not_true, iff_false]
    split <;> simp
  · simp [Text.after?_eq_none_iff.mpr h, h]

namespace Registry
variable {η σ : Type}

/-! ## Registries built from usage lines -/

/-- The registry after a series of declarations, each of which may be refused. -/
def declareEach (r : Registry (Handler σ)) : List (Feature.Declaration σ) → Registry (Handler σ)
  | [] => r
  | d :: ds =>
    match r.declare d.usage d.elevated d.handler with
    | .ok (r, _) => r.declareEach ds
    | .error _ => r.declareEach ds

/-- Every command was declared by a usage line under the leader of the registry, and no two share a name. -/
structure WellFormed (r : Registry η) : Prop where
  names_nodup : (r.schemas.map Schema.name).Nodup
  declared : ∀ schema ∈ r.schemas, ∃ usage elevated, Schema.ofUsage r.leader usage elevated = .ok schema

theorem wellFormed_empty (leader : Text) : (empty leader : Registry η).WellFormed :=
  ⟨List.nodup_nil, fun _ h => absurd h List.not_mem_nil⟩

/-- A schema with a new name is equal to none that is filed, whatever usage lines they share. -/
theorem file_of_fresh {cs : List (Registration η)} {schema : Schema} (h : ∀ c ∈ cs, c.schema.name ≠ schema.name)
    (handler : η) : file schema handler cs = cs ++ [⟨schema, handler⟩] := by
  induction cs with
  | nil => rfl
  | cons c cs ih =>
    have hname : c.schema.sameName schema = false := beq_eq_false_iff_ne.mpr (h c List.mem_cons_self)
    rw [file, hname, Bool.false_and, if_neg Bool.false_ne_true, ih fun d hd => h d (List.mem_cons_of_mem c hd)]
    rfl

theorem add_eq_ok_iff {r r' : Registry η} {schema : Schema} {handler : η} :
    r.add schema handler = .ok r' ↔
      schema.name ∉ r.schemas.map Schema.name ∧
        r' = { r with registrations := r.registrations ++ [⟨schema, handler⟩] } := by
  rw [add]
  by_cases h : r.schemas.any (·.name = schema.name) = true
  · have hmem : schema.name ∈ r.schemas.map Schema.name := by simpa using h
    simp [h, hmem]
  · have hmem : schema.name ∉ r.schemas.map Schema.name := by simpa using h
    have hfresh : ∀ c ∈ r.registrations, c.schema.name ≠ schema.name := fun c hc hname =>
      hmem (hname ▸ List.mem_map_of_mem (List.mem_map_of_mem hc))
    simp only [h, hmem, file_of_fresh hfresh, Bool.false_eq_true, if_false, Except.ok.injEq, not_false_eq_true, true_and]
    exact eq_comm

theorem declare_eq_ok {r r' : Registry η} {usage : Text} {elevated : Bool} {handler : η} {schema : Schema}
    (h : r.declare usage elevated handler = .ok (r', schema)) :
    Schema.ofUsage r.leader usage elevated = .ok schema ∧ schema.name ∉ r.schemas.map Schema.name ∧
      r' = { r with registrations := r.registrations ++ [⟨schema, handler⟩] } := by
  rw [declare] at h
  cases hschema : Schema.ofUsage r.leader usage elevated with
  | error e => simp [hschema] at h
  | ok s =>
    cases hadd : r.add s handler with
    | error e => simp [hschema, hadd, Except.map] at h
    | ok r'' =>
      simp only [hschema, hadd, Except.map, Except.ok.injEq, Prod.mk.injEq] at h
      obtain ⟨rfl, rfl⟩ := h
      exact ⟨rfl, add_eq_ok_iff.mp hadd⟩

theorem nodup_names_append {r : Registry η} {schema : Schema} (hr : (r.schemas.map Schema.name).Nodup)
    (hfresh : schema.name ∉ r.schemas.map Schema.name) (handler : η) :
    (({ r with registrations := r.registrations ++ [⟨schema, handler⟩] } : Registry η).schemas.map Schema.name).Nodup := by
  simp only [schemas, List.map_append, List.map_cons, List.map_nil]
  rw [← List.concat_eq_append]
  exact List.Nodup.concat hfresh hr

theorem WellFormed.declare {r r' : Registry η} {usage : Text} {elevated : Bool} {handler : η} {schema : Schema}
    (hr : r.WellFormed) (h : r.declare usage elevated handler = .ok (r', schema)) :
    r'.WellFormed ∧ r'.leader = r.leader := by
  obtain ⟨hschema, hfresh, rfl⟩ := declare_eq_ok h
  refine ⟨⟨nodup_names_append hr.names_nodup hfresh handler, fun s hs => ?_⟩, rfl⟩
  simp only [schemas, List.map_append, List.map_cons, List.map_nil, List.mem_append, List.mem_singleton] at hs
  rcases hs with hs | rfl
  · exact hr.declared s hs
  · exact ⟨usage, elevated, hschema⟩

theorem WellFormed.declareEach {r : Registry (Handler σ)} (ds : List (Feature.Declaration σ)) (hr : r.WellFormed) :
    (r.declareEach ds).WellFormed ∧ (r.declareEach ds).leader = r.leader := by
  induction ds generalizing r with
  | nil => exact ⟨hr, rfl⟩
  | cons d ds ih =>
    cases h : r.declare d.usage d.elevated d.handler with
    | error e =>
      simp only [Registry.declareEach, h]
      exact ih hr
    | ok added =>
      obtain ⟨r', schema⟩ := added
      obtain ⟨hr', hleader⟩ := hr.declare h
      simp only [Registry.declareEach, h]
      exact ⟨(ih hr').1, (ih hr').2.trans hleader⟩

/-- What a declaration registers when its usage line is read. -/
def registration? (leader : Text) (d : Feature.Declaration σ) : Option (Registration (Handler σ)) :=
  match Schema.ofUsage leader d.usage d.elevated with
  | .ok schema => some ⟨schema, d.handler⟩
  | .error _ => none

/-- When no two declared names agree, every usage line that is read is registered. -/
theorem registrations_declareEach {r : Registry (Handler σ)} (ds : List (Feature.Declaration σ))
    (h : ((r.registrations ++ ds.filterMap (registration? r.leader)).map fun c => c.schema.name).Nodup) :
    (r.declareEach ds).registrations = r.registrations ++ ds.filterMap (registration? r.leader) := by
  induction ds generalizing r with
  | nil => exact (List.append_nil _).symm
  | cons d ds ih =>
    cases hschema : Schema.ofUsage r.leader d.usage d.elevated with
    | error e =>
      have hnone : registration? r.leader d = none := by simp only [registration?, hschema]
      rw [List.filterMap_cons_none hnone] at h ⊢
      simp only [declareEach, declare, hschema]
      exact ih h
    | ok schema =>
      have hsome : registration? r.leader d = some ⟨schema, d.handler⟩ := by simp only [registration?, hschema]
      rw [List.filterMap_cons_some hsome] at h ⊢
      have hfresh : schema.name ∉ r.schemas.map Schema.name := by
        rw [List.map_append, List.nodup_append] at h
        intro hmem
        refine h.2.2 schema.name ?_ schema.name (by simp) rfl
        simpa [schemas] using hmem
      have hadd : r.add schema d.handler = .ok _ := add_eq_ok_iff.mpr ⟨hfresh, rfl⟩
      simp only [declareEach, declare, hschema, hadd, Except.map]
      rw [ih (by simpa using h)]
      simp

/-! ## The command with the longest name -/

/-- Whether a command's name stands behind the leader at the beginning of a text. -/
def Names (leader content : Text) (c : Registration η) : Prop :=
  leader <+: content ∧ c.schema.name <+: content.drop leader.length

/-- A command whose name the text begins with, longer than every other such name. -/
structure IsLongest (r : Registry η) (content : Text) (c : Registration η) : Prop where
  mem : c ∈ r.registrations
  names : Names r.leader content c
  longest : ∀ d ∈ r.registrations, Names r.leader content d → d ≠ c →
    d.schema.name.length < c.schema.name.length

theorem WellFormed.eq_of_name_eq {r : Registry η} (hr : r.WellFormed) {c d : Registration η}
    (hc : c ∈ r.registrations) (hd : d ∈ r.registrations) (h : c.schema.name = d.schema.name) : c = d := by
  have hnodup : (r.registrations.map fun c => c.schema.name).Nodup := by
    simpa [schemas, Function.comp_def] using hr.names_nodup
  exact List.inj_on_of_nodup_map hnodup hc hd h

/-- Two names of one length that a text begins with are the same name. -/
theorem WellFormed.eq_of_names {r : Registry η} (hr : r.WellFormed) {content : Text} {c d : Registration η}
    (hc : c ∈ r.registrations) (hd : d ∈ r.registrations) (hcn : Names r.leader content c)
    (hdn : Names r.leader content d) (h : c.schema.name.length = d.schema.name.length) : c = d :=
  hr.eq_of_name_eq hc hd ((List.prefix_of_prefix_length_le hcn.2 hdn.2 (Nat.le_of_eq h)).eq_of_length h)

theorem IsLongest.unique {r : Registry η} {content : Text} {c d : Registration η} (hc : r.IsLongest content c)
    (hd : r.IsLongest content d) : d = c := by
  by_contra hne
  have hlt := hc.longest d hd.mem hd.names hne
  have hgt := hd.longest c hc.mem hc.names fun e => hne e.symm
  omega

theorem IsLongest.perm {r r' : Registry η} {content : Text} {c : Registration η} (h : r.IsLongest content c)
    (hleader : r'.leader = r.leader) (hperm : r'.registrations.Perm r.registrations) : r'.IsLongest content c := by
  refine ⟨hperm.mem_iff.mpr h.mem, hleader ▸ h.names, fun d hd hdn => ?_⟩
  rw [hleader] at hdn
  exact h.longest d (hperm.mem_iff.mp hd) hdn

/-! ## Candidates -/

theorem insertByLength_perm (a : Registration η) (cs : List (Registration η)) :
    (insertByLength a cs).Perm (a :: cs) := by
  induction cs with
  | nil => exact .refl _
  | cons b cs ih =>
    rw [insertByLength]
    split
    · exact .refl _
    · exact (ih.cons b).trans (.swap a b cs)

def Descending (cs : List (Registration η)) : Prop :=
  cs.Pairwise fun c d => d.schema.name.length ≤ c.schema.name.length

theorem descending_insertByLength {a : Registration η} {cs : List (Registration η)} (h : Descending cs) :
    Descending (insertByLength a cs) := by
  induction cs with
  | nil => exact List.pairwise_singleton _ a
  | cons b cs ih =>
    obtain ⟨hb, hcs⟩ := List.pairwise_cons.mp h
    rw [insertByLength]
    split
    · rename_i hlt
      refine List.pairwise_cons.mpr ⟨fun c hc => ?_, h⟩
      rcases List.mem_cons.mp hc with rfl | hc
      · exact Nat.le_of_lt hlt
      · exact Nat.le_trans (hb c hc) (Nat.le_of_lt hlt)
    · rename_i hge
      refine List.pairwise_cons.mpr ⟨fun c hc => ?_, ih hcs⟩
      rcases List.mem_cons.mp ((insertByLength_perm a cs).mem_iff.mp hc) with rfl | hc
      · exact Nat.not_lt.mp hge
      · exact hb c hc

theorem candidates_spec (r : Registry η) : r.candidates.Perm r.registrations ∧ Descending r.candidates := by
  have hfold : ∀ cs sorted : List (Registration η), Descending sorted →
      (cs.foldl (fun sorted a => insertByLength a sorted) sorted).Perm (cs ++ sorted) ∧
        Descending (cs.foldl (fun sorted a => insertByLength a sorted) sorted) := by
    intro cs
    induction cs with
    | nil => exact fun sorted h => ⟨.refl _, h⟩
    | cons c cs ih =>
      intro sorted h
      obtain ⟨hperm, hdesc⟩ := ih (insertByLength c sorted) (descending_insertByLength h)
      exact ⟨hperm.trans (((insertByLength_perm c sorted).append_left cs).trans List.perm_middle), hdesc⟩
  simpa [candidates] using hfold r.registrations [] List.Pairwise.nil

/-! ## Routing -/

def routeTo (m : Message) (c : Registration η) : Route η :=
  match c.schema.extract m.content with
  | .noMatch => .unhandled
  | .missingRequired => .usage c.schema
  | .matched bindings =>
    if c.schema.elevated && !m.isElevated then .denied c.schema else .call c.schema bindings c.handler

theorem routeAmong_eq_unhandled {m : Message} {cs : List (Registration η)}
    (h : ∀ c ∈ cs, c.schema.extract m.content = .noMatch) : routeAmong m cs = .unhandled := by
  induction cs with
  | nil => rfl
  | cons c cs ih =>
    rw [routeAmong, h c List.mem_cons_self]
    exact ih fun d hd => h d (List.mem_cons_of_mem c hd)

theorem routeAmong_append {m : Message} {c : Registration η} (before after : List (Registration η))
    (hbefore : ∀ d ∈ before, d.schema.extract m.content = .noMatch) (hc : c.schema.extract m.content ≠ .noMatch) :
    routeAmong m (before ++ c :: after) = routeTo m c := by
  induction before with
  | nil =>
    rw [List.nil_append, routeAmong, routeTo]
    cases h : c.schema.extract m.content with
    | noMatch => exact absurd h hc
    | missingRequired => rfl
    | matched bindings => rfl
  | cons b before ih =>
    rw [List.cons_append, routeAmong, hbefore b List.mem_cons_self]
    exact ih fun d hd => hbefore d (List.mem_cons_of_mem b hd)

theorem WellFormed.extract_eq_noMatch_iff {r : Registry η} (hr : r.WellFormed) {content : Text} {c : Registration η}
    (hc : c ∈ r.registrations) (hleader : r.leader <+: content) :
    c.schema.extract content = .noMatch ↔ ¬ Names r.leader content c := by
  obtain ⟨usage, elevated, hschema⟩ := hr.declared c.schema (List.mem_map_of_mem hc)
  obtain ⟨-, -, -, -, hsame, -⟩ := exists_leader_of_ofUsage hschema
  rw [Command.extract_eq_noMatch_iff, hsame, Text.dropLeading_eq_drop hleader]
  simp only [Names, hleader, true_and]

theorem WellFormed.route_eq_unhandled {r : Registry η} (hr : r.WellFormed) {m : Message}
    (h : ∀ c ∈ r.registrations, ¬ Names r.leader m.content c) : r.route m = .unhandled := by
  rw [route]
  split
  · rename_i hstarts
    have hleader := Text.startsWith_iff.mp hstarts
    refine routeAmong_eq_unhandled fun c hc => ?_
    have hmem := (candidates_spec r).1.mem_iff.mp hc
    exact (hr.extract_eq_noMatch_iff hmem hleader).mpr (h c hmem)
  · rfl

/-- Among the candidates, the first whose name the text begins with has the longest such name. -/
theorem WellFormed.isLongest_of_candidates {r : Registry η} (hr : r.WellFormed) {content : Text} {c : Registration η}
    {before after : List (Registration η)} (hsplit : r.candidates = before ++ c :: after)
    (hbefore : ∀ d ∈ before, ¬ Names r.leader content d) (hnames : Names r.leader content c) :
    r.IsLongest content c := by
  obtain ⟨hperm, hdesc⟩ := candidates_spec r
  have hmem : c ∈ r.registrations := hperm.mem_iff.mp (by simp [hsplit])
  refine ⟨hmem, hnames, fun d hd hdn hne => ?_⟩
  have hafter : d ∈ after := by
    rcases List.mem_append.mp (hsplit ▸ hperm.mem_iff.mpr hd) with hd | hd
    · exact absurd hdn (hbefore d hd)
    · exact (List.mem_cons.mp hd).resolve_left hne
  rw [Descending, hsplit] at hdesc
  have hle := (List.pairwise_cons.mp (List.pairwise_append.mp hdesc).2.1).1 d hafter
  exact Nat.lt_of_le_of_ne hle fun h => hne (hr.eq_of_names hd hmem hdn hnames h)

theorem exists_candidates_split {r : Registry η} {content : Text} (h : ∃ c ∈ r.registrations, Names r.leader content c) :
    ∃ before c after, r.candidates = before ++ c :: after ∧ (∀ d ∈ before, ¬ Names r.leader content d) ∧
      Names r.leader content c := by
  classical
  obtain ⟨d, hd, hdn⟩ := h
  have hsome : (r.candidates.find? fun c => decide (Names r.leader content c)).isSome := by
    rw [List.find?_isSome]
    exact ⟨d, (candidates_spec r).1.mem_iff.mpr hd, decide_eq_true hdn⟩
  obtain ⟨c, hc⟩ := Option.isSome_iff_exists.mp hsome
  obtain ⟨hcn, before, after, hsplit, hbefore⟩ := List.find?_eq_some_iff_append.mp hc
  exact ⟨before, c, after, hsplit, fun d hd => by simpa using hbefore d hd, of_decide_eq_true hcn⟩

/-- Some command has the longest name, unless there is none whose name the text begins with. -/
theorem WellFormed.exists_isLongest {r : Registry η} (hr : r.WellFormed) {content : Text}
    (h : ∃ c ∈ r.registrations, Names r.leader content c) : ∃ c, r.IsLongest content c := by
  obtain ⟨before, c, after, hsplit, hbefore, hcn⟩ := exists_candidates_split h
  exact ⟨c, hr.isLongest_of_candidates hsplit hbefore hcn⟩

theorem WellFormed.route_of_isLongest {r : Registry η} (hr : r.WellFormed) {m : Message} {c : Registration η}
    (hc : r.IsLongest m.content c) : r.route m = routeTo m c := by
  obtain ⟨before, d, after, hsplit, hbefore, hdn⟩ := exists_candidates_split ⟨c, hc.mem, hc.names⟩
  obtain rfl : d = c := hc.unique (hr.isLongest_of_candidates hsplit hbefore hdn)
  have hperm := (candidates_spec r).1
  have hleader := hc.names.1
  rw [route, if_pos (Text.startsWith_iff.mpr hleader), hsplit]
  refine routeAmong_append before after (fun b hb => ?_) fun hno => ?_
  · have hmem : b ∈ r.registrations := hperm.mem_iff.mp (by simp [hsplit, hb])
    exact (hr.extract_eq_noMatch_iff hmem hleader).mpr (hbefore b hb)
  · exact (hr.extract_eq_noMatch_iff hc.mem hleader).mp hno hdn

theorem WellFormed.route_eq_of_perm {r r' : Registry η} (hr : r.WellFormed) (hr' : r'.WellFormed)
    (hleader : r'.leader = r.leader) (hperm : r'.registrations.Perm r.registrations) (m : Message) :
    r'.route m = r.route m := by
  by_cases h : ∃ c ∈ r.registrations, Names r.leader m.content c
  · obtain ⟨c, hc⟩ := hr.exists_isLongest h
    rw [hr.route_of_isLongest hc, hr'.route_of_isLongest (hc.perm hleader hperm)]
  · have hnone : ∀ c ∈ r.registrations, ¬ Names r.leader m.content c := fun c hc hcn => h ⟨c, hc, hcn⟩
    rw [hr.route_eq_unhandled hnone, hr'.route_eq_unhandled fun c hc => hleader ▸ hnone c (hperm.mem_iff.mp hc)]

end Registry
end ChatBot.Command
