import ChatBot.Proofs.Json.DistinctNames

/-!
Documents as they are written. An object may be written with one name for several members; reading keeps the place of the first
and the value of the last of them. A text that is read spells one written document, and what is read is that document with its
names settled.
-/
set_option autoImplicit false

namespace ChatBot.Json

/-! ## What a text spells -/

section
variable (runtime : Runtime)

mutual

/-- The text begins with a value that is written so, and this is the rest behind it. -/
inductive Spells : Text → Json → Text → Prop
  | text {t rest s : Text} : readText runtime t = .ok (s, rest) → Spells ('"' :: t) (.string s) rest
  | noItems {t rest : Text} : skipSpace t = ']' :: rest → Spells ('[' :: t) (.array []) rest
  | items {t rest : Text} {vs : List Json} : SpellsItems (skipSpace t) vs rest → Spells ('[' :: t) (.array vs) rest
  | noMembers {t rest : Text} : skipSpace t = '\x7d' :: rest → Spells ('\x7b' :: t) (.object []) rest
  | members {t rest : Text} {ms : List (Text × Json)} : SpellsMembers (skipSpace t) ms rest →
      Spells ('\x7b' :: t) (.object ms) rest
  | word {t rest : Text} {v : Json} : readLiteral? t = some (v, rest) → Spells t v rest
  | number {t rest : Text} {v : Json} : readLiteral? t = none → readNumber t = .ok (v, rest) → Spells t v rest

/-- The text begins with the items of an array up to its bracket. -/
inductive SpellsItems : Text → List Json → Text → Prop
  | last {t after rest : Text} {v : Json} : Spells t v after → skipSpace after = ']' :: rest → SpellsItems t [v] rest
  | more {t after next rest : Text} {v : Json} {vs : List Json} : Spells t v after → skipSpace after = ',' :: next →
      SpellsItems (skipSpace next) vs rest → SpellsItems t (v :: vs) rest

/-- The text begins with the members of an object up to its brace. -/
inductive SpellsMembers : Text → List (Text × Json) → Text → Prop
  | last {t colon value after rest name : Text} {v : Json} : readText runtime t = .ok (name, colon) →
      skipSpace colon = ':' :: value → Spells (skipSpace value) v after → skipSpace after = '\x7d' :: rest →
      SpellsMembers ('"' :: t) [(name, v)] rest
  | more {t colon value after next rest name : Text} {v : Json} {ms : List (Text × Json)} :
      readText runtime t = .ok (name, colon) → skipSpace colon = ':' :: value → Spells (skipSpace value) v after →
      skipSpace after = ',' :: next → SpellsMembers (skipSpace next) ms rest →
      SpellsMembers ('"' :: t) ((name, v) :: ms) rest

end

/-- The whole text is this document, with blanks around it. -/
def Writes (text : Text) (v : Json) : Prop := ∃ rest, Spells runtime (skipSpace text) v rest ∧ skipSpace rest = []

end

/-! ## Settled names -/

mutual

/-- The document in which every object has each name once, at the place of the first member and with the value of the last. -/
def settled : Json → Json
  | array vs => array (settledItems vs)
  | object ms => object (Assoc.ofList (settledMembers ms))
  | v => v

def settledItems : List Json → List Json
  | [] => []
  | v :: vs => settled v :: settledItems vs

def settledMembers : List (Text × Json) → List (Text × Json)
  | [] => []
  | (name, v) :: ms => (name, settled v) :: settledMembers ms

end

theorem settledMembers_eq_map (ms : List (Text × Json)) : settledMembers ms = ms.map (Prod.map id settled) := by
  induction ms with
  | nil => rfl
  | cons m ms ih => rw [List.map_cons, ← ih, settledMembers, Prod.map_apply, id_eq]

theorem settledItems_eq_map (vs : List Json) : settledItems vs = vs.map settled := by
  induction vs with
  | nil => rfl
  | cons v vs ih => rw [List.map_cons, ← ih, settledItems]

theorem HasDistinctNames.settled_eq {v : Json} (h : v.HasDistinctNames) : v.settled = v := by
  induction h with
  | array _ ih =>
    rw [settled, settledItems_eq_map, List.map_congr_left ih, List.map_id']
  | @object ms hnodup _ ih =>
    have hvalues : ms.map (Prod.map id settled) = ms := by
      refine (List.map_congr_left fun m hm => ?_).trans (List.map_id' ms)
      rw [Prod.map_apply, ih m hm, id_eq]
    rw [settled, settledMembers_eq_map, hvalues, Assoc.ofList_of_nodup hnodup]
  | _ => rfl

/-! ## What a text spells by its first character -/

section
variable {runtime : Runtime}

theorem spells_quote_iff {t rest : Text} {v : Json} :
    Spells runtime ('"' :: t) v rest ↔ ∃ s, readText runtime t = .ok (s, rest) ∧ v = .string s := by
  constructor
  · intro h
    cases h with
    | text hs => exact ⟨_, hs, rfl⟩
    | word hword => cases hword
    | number _ hnumber => cases hnumber
  · rintro ⟨s, hs, rfl⟩
    exact .text hs

theorem spells_bracket_iff {t rest : Text} {v : Json} :
    Spells runtime ('[' :: t) v rest ↔
      (skipSpace t = ']' :: rest ∧ v = .array []) ∨ ∃ vs, SpellsItems runtime (skipSpace t) vs rest ∧ v = .array vs := by
  constructor
  · intro h
    cases h with
    | noItems hend => exact .inl ⟨hend, rfl⟩
    | items hitems => exact .inr ⟨_, hitems, rfl⟩
    | word hword => cases hword
    | number _ hnumber => cases hnumber
  · rintro (⟨hend, rfl⟩ | ⟨vs, hitems, rfl⟩)
    · exact .noItems hend
    · exact .items hitems

theorem spells_brace_iff {t rest : Text} {v : Json} :
    Spells runtime ('\x7b' :: t) v rest ↔
      (skipSpace t = '\x7d' :: rest ∧ v = .object []) ∨ ∃ ms, SpellsMembers runtime (skipSpace t) ms rest ∧ v = .object ms := by
  constructor
  · intro h
    cases h with
    | noMembers hend => exact .inl ⟨hend, rfl⟩
    | members hmembers => exact .inr ⟨_, hmembers, rfl⟩
    | word hword => cases hword
    | number _ hnumber => cases hnumber
  · rintro (⟨hend, rfl⟩ | ⟨ms, hmembers, rfl⟩)
    · exact .noMembers hend
    · exact .members hmembers

/-- A text that begins neither a text nor an array nor an object begins a word or a number. -/
theorem spells_plain_iff {t rest : Text} {v : Json} (ht : ∀ c ∈ t.head?, c ∉ ['"', '[', '\x7b']) :
    Spells runtime t v rest ↔ readLiteral? t = some (v, rest) ∨ readLiteral? t = none ∧ readNumber t = .ok (v, rest) := by
  constructor
  · intro h
    cases h with
    | word hword => exact .inl hword
    | number hword hnumber => exact .inr ⟨hword, hnumber⟩
    | _ => exact absurd (by decide) (ht _ rfl)
  · rintro (hword | ⟨hword, hnumber⟩)
    · exact .word hword
    · exact .number hword hnumber

theorem not_spells_closing_bracket {t rest : Text} {v : Json} : ¬ Spells runtime (']' :: t) v rest := by
  rw [spells_plain_iff (by simp)]
  rintro (hword | ⟨-, hnumber⟩)
  · cases hword
  · cases hnumber

theorem not_spellsItems_closing_bracket {t rest : Text} {vs : List Json} : ¬ SpellsItems runtime (']' :: t) vs rest := by
  intro h
  cases h with
  | last hfirst _ => exact not_spells_closing_bracket hfirst
  | more hfirst _ _ => exact not_spells_closing_bracket hfirst

theorem not_spellsMembers_closing_brace {t rest : Text} {ms : List (Text × Json)} :
    ¬ SpellsMembers runtime ('\x7d' :: t) ms rest := nofun

end

/-! ## Texts that spell one thing -/

/-- Of all that may be at the head of a text there is just this, with just this rest behind it. -/
def Only {α : Type} (p : α → Text → Prop) (a : α) (rest : Text) : Prop := ∀ a' rest', p a' rest' ↔ a' = a ∧ rest' = rest

theorem Only.self {α : Type} {p : α → Text → Prop} {a : α} {rest : Text} (h : Only p a rest) : p a rest :=
  (h a rest).mpr ⟨rfl, rfl⟩

section
variable {runtime : Runtime} {t after rest name : Text} {v : Json}

theorem only_text {s : Text} (hs : readText runtime t = .ok (s, rest)) : Only (Spells runtime ('"' :: t)) (.string s) rest := by
  intro v' rest'
  rw [spells_quote_iff, hs]
  constructor
  · rintro ⟨s', hs', rfl⟩
    obtain ⟨rfl, rfl⟩ := Prod.mk.inj (Except.ok.inj hs')
    exact ⟨rfl, rfl⟩
  · rintro ⟨rfl, rfl⟩
    exact ⟨s, rfl, rfl⟩

theorem only_noItems (hend : skipSpace t = ']' :: rest) : Only (Spells runtime ('[' :: t)) (.array []) rest := by
  intro v' rest'
  rw [spells_bracket_iff, hend]
  constructor
  · rintro (⟨hsame, rfl⟩ | ⟨vs, hitems, -⟩)
    · exact ⟨rfl, (List.cons.inj hsame).2.symm⟩
    · exact absurd hitems not_spellsItems_closing_bracket
  · rintro ⟨rfl, rfl⟩
    exact .inl ⟨rfl, rfl⟩

theorem only_noMembers (hend : skipSpace t = '\x7d' :: rest) : Only (Spells runtime ('\x7b' :: t)) (.object []) rest := by
  intro v' rest'
  rw [spells_brace_iff, hend]
  constructor
  · rintro (⟨hsame, rfl⟩ | ⟨ms, hmembers, -⟩)
    · exact ⟨rfl, (List.cons.inj hsame).2.symm⟩
    · exact absurd hmembers not_spellsMembers_closing_brace
  · rintro ⟨rfl, rfl⟩
    exact .inl ⟨rfl, rfl⟩

theorem Only.array {vs : List Json} (h : Only (SpellsItems runtime (skipSpace t)) vs rest) :
    Only (Spells runtime ('[' :: t)) (.array vs) rest := by
  intro v' rest'
  rw [spells_bracket_iff]
  constructor
  · rintro (⟨hend, -⟩ | ⟨ws, hws, rfl⟩)
    · exact absurd (hend ▸ h.self) not_spellsItems_closing_bracket
    · obtain ⟨rfl, rfl⟩ := (h _ _).mp hws
      exact ⟨rfl, rfl⟩
  · rintro ⟨rfl, rfl⟩
    exact .inr ⟨vs, h.self, rfl⟩

theorem Only.object {ms : List (Text × Json)} (h : Only (SpellsMembers runtime (skipSpace t)) ms rest) :
    Only (Spells runtime ('\x7b' :: t)) (.object ms) rest := by
  intro v' rest'
  rw [spells_brace_iff]
  constructor
  · rintro (⟨hend, -⟩ | ⟨ws, hws, rfl⟩)
    · exact absurd (hend ▸ h.self) not_spellsMembers_closing_brace
    · obtain ⟨rfl, rfl⟩ := (h _ _).mp hws
      exact ⟨rfl, rfl⟩
  · rintro ⟨rfl, rfl⟩
    exact .inr ⟨ms, h.self, rfl⟩

theorem Only.items_last (h : Only (Spells runtime t) v after) (hend : skipSpace after = ']' :: rest) :
    Only (SpellsItems runtime t) [v] rest := by
  intro vs' rest'
  constructor
  · intro hitems
    cases hitems with
    | last hfirst hend' =>
      obtain ⟨rfl, rfl⟩ := (h _ _).mp hfirst
      exact ⟨rfl, (List.cons.inj (hend'.symm.trans hend)).2⟩
    | more hfirst hcomma _ =>
      obtain ⟨rfl, rfl⟩ := (h _ _).mp hfirst
      exact absurd (hcomma.symm.trans hend) (by simp)
  · rintro ⟨rfl, rfl⟩
    exact .last h.self hend

theorem Only.items_more {next : Text} {vs : List Json} (h : Only (Spells runtime t) v after)
    (hcomma : skipSpace after = ',' :: next) (hrest : Only (SpellsItems runtime (skipSpace next)) vs rest) :
    Only (SpellsItems runtime t) (v :: vs) rest := by
  intro vs' rest'
  constructor
  · intro hitems
    cases hitems with
    | last hfirst hend =>
      obtain ⟨rfl, rfl⟩ := (h _ _).mp hfirst
      exact absurd (hend.symm.trans hcomma) (by simp)
    | more hfirst hcomma' hvs =>
      obtain ⟨rfl, rfl⟩ := (h _ _).mp hfirst
      obtain rfl := (List.cons.inj (hcomma'.symm.trans hcomma)).2
      obtain ⟨rfl, rfl⟩ := (hrest _ _).mp hvs
      exact ⟨rfl, rfl⟩
  · rintro ⟨rfl, rfl⟩
    exact .more h.self hcomma hrest.self

/-! Of a member the name and the colon are read before the value, each in one way only. -/

variable {colon value : Text}

theorem eq_of_member {colon' value' name' : Text} (hname : readText runtime t = .ok (name, colon))
    (hcolon : skipSpace colon = ':' :: value) (hname' : readText runtime t = .ok (name', colon'))
    (hcolon' : skipSpace colon' = ':' :: value') : name' = name ∧ value' = value := by
  obtain ⟨rfl, rfl⟩ := Prod.mk.inj (Except.ok.inj (hname'.symm.trans hname))
  exact ⟨rfl, (List.cons.inj (hcolon'.symm.trans hcolon)).2⟩

theorem Only.members_last (hname : readText runtime t = .ok (name, colon)) (hcolon : skipSpace colon = ':' :: value)
    (h : Only (Spells runtime (skipSpace value)) v after) (hend : skipSpace after = '\x7d' :: rest) :
    Only (SpellsMembers runtime ('"' :: t)) [(name, v)] rest := by
  intro ms' rest'
  constructor
  · intro hmembers
    cases hmembers with
    | last hname' hcolon' hfirst hend' =>
      obtain ⟨rfl, rfl⟩ := eq_of_member hname hcolon hname' hcolon'
      obtain ⟨rfl, rfl⟩ := (h _ _).mp hfirst
      exact ⟨rfl, (List.cons.inj (hend'.symm.trans hend)).2⟩
    | more hname' hcolon' hfirst hcomma _ =>
      obtain ⟨rfl, rfl⟩ := eq_of_member hname hcolon hname' hcolon'
      obtain ⟨rfl, rfl⟩ := (h _ _).mp hfirst
      exact absurd (hcomma.symm.trans hend) (by simp)
  · rintro ⟨rfl, rfl⟩
    exact .last hname hcolon h.self hend

theorem Only.members_more {next : Text} {ms : List (Text × Json)} (hname : readText runtime t = .ok (name, colon))
    (hcolon : skipSpace colon = ':' :: value) (h : Only (Spells runtime (skipSpace value)) v after)
    (hcomma : skipSpace after = ',' :: next) (hrest : Only (SpellsMembers runtime (skipSpace next)) ms rest) :
    Only (SpellsMembers runtime ('"' :: t)) ((name, v) :: ms) rest := by
  intro ms' rest'
  constructor
  · intro hmembers
    cases hmembers with
    | last hname' hcolon' hfirst hend =>
      obtain ⟨rfl, rfl⟩ := eq_of_member hname hcolon hname' hcolon'
      obtain ⟨rfl, rfl⟩ := (h _ _).mp hfirst
      exact absurd (hend.symm.trans hcomma) (by simp)
    | more hname' hcolon' hfirst hcomma' hms =>
      obtain ⟨rfl, rfl⟩ := eq_of_member hname hcolon hname' hcolon'
      obtain ⟨rfl, rfl⟩ := (h _ _).mp hfirst
      obtain rfl := (List.cons.inj (hcomma'.symm.trans hcomma)).2
      obtain ⟨rfl, rfl⟩ := (hrest _ _).mp hms
      exact ⟨rfl, rfl⟩
  · rintro ⟨rfl, rfl⟩
    exact .more hname hcolon h.self hcomma hrest.self

end

/-! ## What is read is what is spelled -/

/-- All readings of one depth give, settled, the only thing that the text spells. -/
structure ReadsAsSpelled (runtime : Runtime) (depth : ℕ) : Prop where
  value : ∀ {levels t v rest}, readValue runtime depth levels t = .ok (v, rest) → ∃ w, w.settled = v ∧ Only (Spells runtime t) w rest
  items : ∀ {levels t vs rest}, readItems runtime depth levels t = .ok (vs, rest) →
    ∃ ws, settledItems ws = vs ∧ Only (SpellsItems runtime t) ws rest
  members : ∀ {levels t ms rest}, readMembers runtime depth levels t = .ok (ms, rest) →
    ∃ ws, settledMembers ws = ms ∧ Only (SpellsMembers runtime t) ws rest

namespace ReadsAsSpelled
variable {runtime : Runtime} {depth levels : ℕ} {t rest : Text}

theorem value_succ (ih : ReadsAsSpelled runtime depth) {v : Json} (h : readValue runtime (depth + 1) levels t = .ok (v, rest)) :
    ∃ w, w.settled = v ∧ Only (Spells runtime t) w rest := by
  unfold readValue at h
  split at h
  · -- a text
    split at h
    · rename_i hs
      obtain ⟨rfl, rfl⟩ := Prod.mk.inj (Except.ok.inj h)
      exact ⟨.string _, rfl, only_text hs⟩
    · cases h
  · -- an array
    split at h
    · cases h
    · split at h
      · rename_i hend
        obtain ⟨rfl, rfl⟩ := Prod.mk.inj (Except.ok.inj h)
        exact ⟨.array [], rfl, only_noItems hend⟩
      · split at h
        · rename_i hitems
          obtain ⟨rfl, rfl⟩ := Prod.mk.inj (Except.ok.inj h)
          obtain ⟨ws, rfl, hws⟩ := ih.items hitems
          exact ⟨.array ws, rfl, hws.array⟩
        · cases h
  · -- an object
    split at h
    · cases h
    · split at h
      · rename_i hend
        obtain ⟨rfl, rfl⟩ := Prod.mk.inj (Except.ok.inj h)
        exact ⟨.object [], rfl, only_noMembers hend⟩
      · split at h
        · rename_i hmembers
          obtain ⟨rfl, rfl⟩ := Prod.mk.inj (Except.ok.inj h)
          obtain ⟨ws, rfl, hws⟩ := ih.members hmembers
          exact ⟨.object ws, rfl, hws.object⟩
        · cases h
  · -- a word or a number
    rename_i hquote hbracket hbrace
    have hplain : ∀ c ∈ t.head?, c ∉ ['"', '[', '\x7b'] := by
      rintro c hc hmem
      obtain ⟨r, rfl⟩ : ∃ r, t = c :: r := List.head?_eq_some_iff.mp hc
      simp only [List.mem_cons, List.not_mem_nil, or_false] at hmem
      rcases hmem with rfl | rfl | rfl
      · exact hquote r rfl
      · exact hbracket r rfl
      · exact hbrace r rfl
    split at h
    · rename_i found hword
      obtain rfl := Except.ok.inj h
      refine ⟨v, (HasDistinctNames.of_readLiteral? hword).settled_eq, fun w' rest' => ?_⟩
      rw [spells_plain_iff hplain, hword]
      simp [eq_comm]
    · rename_i hword
      refine ⟨v, (HasDistinctNames.of_readNumber h).settled_eq, fun w' rest' => ?_⟩
      rw [spells_plain_iff hplain, hword, h]
      simp [eq_comm]

theorem items_succ (ih : ReadsAsSpelled runtime depth) {vs : List Json}
    (h : readItems runtime (depth + 1) levels t = .ok (vs, rest)) :
    ∃ ws, settledItems ws = vs ∧ Only (SpellsItems runtime t) ws rest := by
  unfold readItems at h
  split at h
  · cases h
  · rename_i hfirst
    obtain ⟨w, rfl, hw⟩ := ih.value hfirst
    split at h
    · rename_i hend
      obtain ⟨rfl, rfl⟩ := Prod.mk.inj (Except.ok.inj h)
      exact ⟨[w], rfl, hw.items_last hend⟩
    · rename_i hcomma
      split at h
      · rename_i hitems
        obtain ⟨rfl, rfl⟩ := Prod.mk.inj (Except.ok.inj h)
        obtain ⟨ws, rfl, hws⟩ := ih.items hitems
        exact ⟨w :: ws, rfl, hw.items_more hcomma hws⟩
      · cases h
    · cases h

theorem members_succ (ih : ReadsAsSpelled runtime depth) {ms : List (Text × Json)}
    (h : readMembers runtime (depth + 1) levels t = .ok (ms, rest)) :
    ∃ ws, settledMembers ws = ms ∧ Only (SpellsMembers runtime t) ws rest := by
  unfold readMembers at h
  split at h
  · split at h
    · cases h
    · rename_i hname
      split at h
      · rename_i hcolon
        split at h
        · cases h
        · rename_i hfirst
          obtain ⟨w, rfl, hw⟩ := ih.value hfirst
          split at h
          · rename_i hend
            obtain ⟨rfl, rfl⟩ := Prod.mk.inj (Except.ok.inj h)
            exact ⟨[(_, w)], rfl, .members_last hname hcolon hw hend⟩
          · rename_i hcomma
            split at h
            · rename_i hmembers
              obtain ⟨rfl, rfl⟩ := Prod.mk.inj (Except.ok.inj h)
              obtain ⟨ws, rfl, hws⟩ := ih.members hmembers
              exact ⟨(_, w) :: ws, rfl, .members_more hname hcolon hw hcomma hws⟩
            · cases h
          · cases h
      · cases h
  · cases h

end ReadsAsSpelled

theorem readsAsSpelled (runtime : Runtime) (depth : ℕ) : ReadsAsSpelled runtime depth := by
  induction depth with
  | zero =>
    refine ⟨fun h => ?_, fun h => ?_, fun h => ?_⟩
    · rw [readValue] at h
      cases h
    · rw [readItems] at h
      cases h
    · rw [readMembers] at h
      cases h
  | succ depth ih => exact ⟨ih.value_succ, ih.items_succ, ih.members_succ⟩

/-- A text that is read is written as one document, and settling its names gives what is read. -/
theorem exists_writes_of_read {runtime : Runtime} {document : Text} {v : Json} (h : read runtime document = .ok v) :
    ∃ written, written.settled = v ∧ ∀ w, Writes runtime document w ↔ w = written := by
  rw [read] at h
  split at h
  · cases h
  · split at h
    · cases h
    · rename_i hread
      split at h
      · rename_i hblank
        obtain rfl := Except.ok.inj h
        obtain ⟨written, hsettled, honly⟩ := (readsAsSpelled runtime _).value hread
        refine ⟨written, hsettled, fun w => ?_⟩
        constructor
        · rintro ⟨rest, hw, -⟩
          exact ((honly w rest).mp hw).1
        · rintro rfl
          exact ⟨_, honly.self, List.isEmpty_iff.mp hblank⟩
      · cases h

end ChatBot.Json
