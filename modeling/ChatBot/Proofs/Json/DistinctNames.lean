import ChatBot.Json.Reader
import ChatBot.Proofs.Assoc

/-!
Reading settles repeated names, so no object of a document that was read has two members with one name.
-/
set_option autoImplicit false

namespace ChatBot.Json

/-- No object in the document has two members with one name. -/
inductive HasDistinctNames : Json → Prop
  | null : HasDistinctNames .null
  | bool (b : Bool) : HasDistinctNames (.bool b)
  | int (n : Int) : HasDistinctNames (.int n)
  | float (x : Float) : HasDistinctNames (.float x)
  | string (t : Text) : HasDistinctNames (.string t)
  | array {items : List Json} : (∀ v ∈ items, HasDistinctNames v) → HasDistinctNames (.array items)
  | object {members : List (Text × Json)} : (Assoc.keys members).Nodup → (∀ m ∈ members, HasDistinctNames m.2) →
      HasDistinctNames (.object members)

theorem HasDistinctNames.of_readLiteral? {t rest : Text} {v : Json} (h : readLiteral? t = some (v, rest)) :
    HasDistinctNames v := by
  obtain ⟨⟨word, w⟩, hmem, hfound⟩ := List.exists_of_findSome?_eq_some h
  obtain ⟨_, -, heq⟩ := Option.map_eq_some_iff.mp hfound
  obtain rfl := (Prod.mk.inj heq).1
  simp only [literals, List.mem_cons, Prod.mk.injEq, List.not_mem_nil, or_false] at hmem
  rcases hmem with ⟨-, rfl⟩ | ⟨-, rfl⟩ | ⟨-, rfl⟩ | ⟨-, rfl⟩ | ⟨-, rfl⟩ | ⟨-, rfl⟩
  · exact .null
  · exact .bool true
  · exact .bool false
  · exact .float _
  · exact .float _
  · exact .float _

theorem HasDistinctNames.of_ofDigits {negative : Bool} {digits t rest : Text} {v : Json}
    (h : ofDigits negative digits t = .ok (v, rest)) : HasDistinctNames v := by
  unfold ofDigits at h
  split at h
  · cases h
  · obtain ⟨rfl, -⟩ := Prod.mk.inj (Except.ok.inj h)
    exact .int _

theorem HasDistinctNames.of_readNumber {t rest : Text} {v : Json} (h : readNumber t = .ok (v, rest)) :
    HasDistinctNames v := by
  unfold readNumber at h
  split at h
  split at h
  · cases h
  · split at h
    split at h
    split at h
    · exact .of_ofDigits h
    · obtain ⟨rfl, -⟩ := Prod.mk.inj (Except.ok.inj h)
      exact .float _

/-- What all readings of one depth give. -/
structure ReadsDistinctNames (runtime : Runtime) (depth : ℕ) : Prop where
  value : ∀ {levels t v rest}, readValue runtime depth levels t = .ok (v, rest) → HasDistinctNames v
  items : ∀ {levels t vs rest}, readItems runtime depth levels t = .ok (vs, rest) → ∀ v ∈ vs, HasDistinctNames v
  members : ∀ {levels t ms rest}, readMembers runtime depth levels t = .ok (ms, rest) → ∀ m ∈ ms, HasDistinctNames m.2

namespace ReadsDistinctNames
variable {runtime : Runtime} {depth levels : ℕ} {t rest : Text}

theorem value_succ (ih : ReadsDistinctNames runtime depth) {v : Json}
    (h : readValue runtime (depth + 1) levels t = .ok (v, rest)) : HasDistinctNames v := by
  unfold readValue at h
  split at h
  · -- a text
    split at h
    · obtain ⟨rfl, -⟩ := Prod.mk.inj (Except.ok.inj h)
      exact .string _
    · cases h
  · -- an array
    split at h
    · cases h
    · split at h
      · obtain ⟨rfl, -⟩ := Prod.mk.inj (Except.ok.inj h)
        exact .array fun _ hv => absurd hv List.not_mem_nil
      · split at h
        · rename_i hitems
          obtain ⟨rfl, -⟩ := Prod.mk.inj (Except.ok.inj h)
          exact .array (ih.items hitems)
        · cases h
  · -- an object, of whose members the later replace the earlier
    split at h
    · cases h
    · split at h
      · obtain ⟨rfl, -⟩ := Prod.mk.inj (Except.ok.inj h)
        exact .object List.nodup_nil fun _ hm => absurd hm List.not_mem_nil
      · split at h
        · rename_i hmembers
          obtain ⟨rfl, -⟩ := Prod.mk.inj (Except.ok.inj h)
          exact .object (Assoc.nodup_keys_ofList _) fun m hm => ih.members hmembers m (Assoc.mem_of_mem_ofList hm)
        · cases h
  · -- a word or a number
    split at h
    · rename_i hliteral
      obtain rfl := Except.ok.inj h
      exact .of_readLiteral? hliteral
    · exact .of_readNumber h

theorem items_succ (ih : ReadsDistinctNames runtime depth) {vs : List Json}
    (h : readItems runtime (depth + 1) levels t = .ok (vs, rest)) : ∀ v ∈ vs, HasDistinctNames v := by
  unfold readItems at h
  split at h
  · cases h
  · rename_i first after hfirst
    have hvalue := ih.value hfirst
    split at h
    · obtain ⟨rfl, -⟩ := Prod.mk.inj (Except.ok.inj h)
      exact List.forall_mem_singleton.mpr hvalue
    · split at h
      · rename_i hitems
        obtain ⟨rfl, -⟩ := Prod.mk.inj (Except.ok.inj h)
        exact List.forall_mem_cons.mpr ⟨hvalue, ih.items hitems⟩
      · cases h
    · cases h

theorem members_succ (ih : ReadsDistinctNames runtime depth) {ms : List (Text × Json)}
    (h : readMembers runtime (depth + 1) levels t = .ok (ms, rest)) : ∀ m ∈ ms, HasDistinctNames m.2 := by
  unfold readMembers at h
  split at h
  · split at h
    · cases h
    · split at h
      · split at h
        · cases h
        · rename_i hfirst
          have hvalue := ih.value hfirst
          split at h
          · obtain ⟨rfl, -⟩ := Prod.mk.inj (Except.ok.inj h)
            exact List.forall_mem_singleton.mpr hvalue
          · split at h
            · rename_i hmembers
              obtain ⟨rfl, -⟩ := Prod.mk.inj (Except.ok.inj h)
              exact List.forall_mem_cons.mpr ⟨hvalue, ih.members hmembers⟩
            · cases h
          · cases h
      · cases h
  · cases h

end ReadsDistinctNames

theorem readsDistinctNames (runtime : Runtime) (depth : ℕ) : ReadsDistinctNames runtime depth := by
  induction depth with
  | zero =>
    refine ⟨fun h => ?_, fun h => ?_, fun h => ?_⟩
    · rw [readValue] at h
      cases h
    · rw [readItems] at h
      cases h
    · rw [readMembers] at h
      cases h
  | succ depth ih => exact ⟨ih.value_succ, ih.items_succ, ih.members_succ⟩

theorem hasDistinctNames_of_read {runtime : Runtime} {document : Text} {v : Json} (h : read runtime document = .ok v) :
    HasDistinctNames v := by
  rw [read] at h
  split at h
  · cases h
  · split at h
    · cases h
    · rename_i hread
      split at h
      · obtain rfl := Except.ok.inj h
        exact (readsDistinctNames runtime _).value hread
      · cases h

end ChatBot.Json
