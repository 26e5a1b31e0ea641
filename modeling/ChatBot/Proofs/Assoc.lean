import Mathlib.Data.List.Nodup
import ChatBot.Assoc

/-!
Bindings made one after the other. Of several bindings for one key the place of the first and the value of the last
remain, so no key is ever bound twice.
-/
set_option autoImplicit false

namespace ChatBot.Assoc
variable {κ β : Type} [DecidableEq κ]

/-- The value that the bindings give to a key last. -/
def latest? (bindings : List (κ × β)) (key : κ) : Option β :=
  ((bindings.filter fun b => b.1 = key).getLast?).map Prod.snd

/-- The keys in the order in which they first occur, each with its last value. -/
def settled (bindings : List (κ × β)) : Assoc κ β :=
  (bindings.map Prod.fst).eraseDups.filterMap fun key => (latest? bindings key).map fun value => (key, value)

theorem latest?_cons_self (key : κ) (value : β) (bindings : List (κ × β)) :
    latest? ((key, value) :: bindings) key = some ((latest? bindings key).getD value) := by
  cases h : (bindings.filter fun b => b.1 = key).getLast? with
  | none => simp [latest?, List.getLast?_cons, h]
  | some b => simp [latest?, List.getLast?_cons, h]

theorem latest?_cons_of_ne {key other : κ} (value : β) (bindings : List (κ × β)) (h : ¬ key = other) :
    latest? ((key, value) :: bindings) other = latest? bindings other := by
  simp [latest?, h]

theorem latest?_filter_of_ne {key other : κ} (bindings : List (κ × β)) (h : ¬ other = key) :
    latest? (bindings.filter fun b => ¬ b.1 = key) other = latest? bindings other := by
  have hboth : ∀ b ∈ bindings, (decide (b.1 = other) && decide ¬ b.1 = key) = decide (b.1 = other) := by
    intro b _
    by_cases hb : b.1 = other
    · simp [hb, h]
    · simp [hb]
  rw [latest?, List.filter_filter, List.filter_congr hboth, latest?]

/-- What is bound after the first key stands behind it; later bindings of the first key only change its value. -/
theorem foldl_insert_cons (key : κ) (value : β) (m : Assoc κ β) (bindings : List (κ × β)) :
    bindings.foldl (fun m b => insert m b.1 b.2) ((key, value) :: m) =
      (key, (latest? bindings key).getD value) ::
        (bindings.filter fun b => ¬ b.1 = key).foldl (fun m b => insert m b.1 b.2) m := by
  induction bindings generalizing value m with
  | nil => rfl
  | cons b bindings ih =>
    obtain ⟨k, v⟩ := b
    by_cases h : key = k
    · subst h
      rw [List.foldl_cons, latest?_cons_self]
      simpa [insert] using ih v m
    · have h' : ¬ k = key := fun e => h e.symm
      rw [List.foldl_cons, latest?_cons_of_ne v bindings h']
      simpa [insert, h, h'] using ih value (insert m k v)

theorem settled_cons (key : κ) (value : β) (bindings : List (κ × β)) :
    settled ((key, value) :: bindings) =
      (key, (latest? bindings key).getD value) :: settled (bindings.filter fun b => ¬ b.1 = key) := by
  have hkeys : (bindings.map Prod.fst).filter (fun k => !k == key) =
      (bindings.filter fun b => ¬ b.1 = key).map Prod.fst := by
    rw [List.filter_map]
    congr 1
    apply List.filter_congr
    intro b _
    by_cases h : b.1 = key <;> simp [h]
  rw [settled, List.map_cons, List.eraseDups_cons, List.filterMap_cons, latest?_cons_self, hkeys]
  simp only [Option.map_some, List.cons.injEq, true_and]
  apply List.filterMap_congr
  intro k hk
  have hne : ¬ k = key := by
    obtain ⟨b, hb, rfl⟩ := List.mem_map.mp (List.mem_eraseDups.mp hk)
    simpa using (List.mem_filter.mp hb).2
  rw [latest?_cons_of_ne value bindings fun e => hne e.symm, latest?_filter_of_ne bindings hne]

theorem ofList_eq_settled (bindings : List (κ × β)) : ofList bindings = settled bindings := by
  match bindings with
  | [] => rfl
  | (key, value) :: bindings =>
    -- The bindings of other keys are fewer, and they settle behind the first one.
    have ih := ofList_eq_settled (bindings.filter fun b => ¬ b.1 = key)
    rw [settled_cons, ← ih]
    exact foldl_insert_cons key value [] bindings
termination_by bindings.length
decreasing_by exact Nat.lt_succ_of_le (List.length_filter_le _ bindings)

/-! ## Distinct keys -/

variable {m : Assoc κ β} {key : κ} {value : β} {b : κ × β}

theorem mem_of_mem_insert (h : b ∈ m.insert key value) : b = (key, value) ∨ b ∈ m := by
  induction m with
  | nil => exact .inl (List.mem_singleton.mp h)
  | cons a m ih =>
    rw [insert] at h
    split at h
    · rename_i hkey
      subst hkey
      exact (List.mem_cons.mp h).imp_right (List.mem_cons_of_mem a)
    · rcases List.mem_cons.mp h with rfl | h
      · exact .inr List.mem_cons_self
      · exact (ih h).imp_right (List.mem_cons_of_mem a)

theorem mem_of_find?_eq_some (h : m.find? key = some value) : (key, value) ∈ m := by
  induction m with
  | nil => cases h
  | cons a m ih =>
    rw [find?] at h
    split at h
    · rename_i hkey
      obtain rfl := Option.some.inj h
      subst hkey
      exact List.mem_cons_self
    · exact List.mem_cons_of_mem a (ih h)

theorem insert_of_find?_eq_some (h : m.find? key = some value) : m.insert key value = m := by
  induction m with
  | nil => cases h
  | cons a m ih =>
    rw [find?] at h
    rw [insert]
    split at h
    · rename_i hkey
      obtain rfl := Option.some.inj h
      rw [if_pos hkey]
    · rename_i hkey
      rw [if_neg hkey, ih h]

theorem insert_of_not_mem_keys (h : key ∉ m.keys) : m.insert key value = m ++ [(key, value)] := by
  induction m with
  | nil => rfl
  | cons a m ih =>
    have hne : ¬ a.1 = key := fun e => h (e ▸ List.mem_cons_self)
    rw [insert, if_neg hne, ih fun hmem => h (List.mem_cons_of_mem a.1 hmem)]
    rfl

theorem keys_insert_of_mem_keys (h : key ∈ m.keys) : (m.insert key value).keys = m.keys := by
  induction m with
  | nil => cases h
  | cons a m ih =>
    by_cases hkey : a.1 = key
    · rw [insert, if_pos hkey]
      rfl
    · rw [insert, if_neg hkey]
      have htail : key ∈ keys m := (List.mem_cons.mp h).resolve_left fun e => hkey e.symm
      exact congrArg (a.1 :: ·) (ih htail)

theorem filter_insert (m : Assoc κ β) (key : κ) (value : β) :
    (m.insert key value).filter (fun b => b.1 ≠ key) = m.filter fun b => b.1 ≠ key := by
  induction m with
  | nil => simp [insert]
  | cons b m ih =>
    rw [insert]
    split
    · rename_i hb
      simp [hb]
    · rw [List.filter_cons, List.filter_cons, ih]

theorem nodup_keys_insert (hm : m.keys.Nodup) : (m.insert key value).keys.Nodup := by
  by_cases h : key ∈ m.keys
  · rwa [keys_insert_of_mem_keys h]
  · rw [insert_of_not_mem_keys h, keys, List.map_append]
    exact List.Nodup.append hm (List.nodup_singleton key) (List.disjoint_singleton.mpr h)

theorem erase_sublist (m : Assoc κ β) (key : κ) : (m.erase key).Sublist m := by
  induction m with
  | nil => exact .slnil
  | cons a m ih =>
    rw [erase]
    split
    · exact List.sublist_cons_self a m
    · exact ih.cons_cons a

theorem nodup_keys_erase (hm : m.keys.Nodup) : (m.erase key).keys.Nodup :=
  hm.sublist ((erase_sublist m key).map Prod.fst)

theorem find?_eq_none_of_not_mem_keys (h : key ∉ m.keys) : m.find? key = none := by
  cases hfind : m.find? key with
  | none => rfl
  | some value => exact absurd (List.mem_map_of_mem (mem_of_find?_eq_some hfind)) h

theorem isSome_find?_iff : (m.find? key).isSome ↔ key ∈ m.keys := by
  constructor
  · intro h
    obtain ⟨value, hfind⟩ := Option.isSome_iff_exists.mp h
    exact List.mem_map_of_mem (mem_of_find?_eq_some hfind)
  · intro h
    induction m with
    | nil => cases h
    | cons b m ih =>
      by_cases hkey : b.1 = key
      · rw [find?, if_pos hkey, Option.isSome_some]
      · rw [find?, if_neg hkey]
        exact ih ((List.mem_cons.mp h).resolve_left fun e => hkey e.symm)

theorem find?_of_mem (hm : m.keys.Nodup) (h : (key, value) ∈ m) : m.find? key = some value := by
  induction m with
  | nil => cases h
  | cons b m ih =>
    obtain ⟨hb, hrest⟩ := List.nodup_cons.mp hm
    rw [find?]
    rcases List.mem_cons.mp h with rfl | h
    · exact if_pos rfl
    · have hne : ¬ b.1 = key := fun e => hb (e ▸ List.mem_map_of_mem h)
      rw [if_neg hne, ih hrest h]

/-- Where keys are distinct, the order of the bindings does not matter. -/
theorem find?_of_perm {m' : Assoc κ β} (hm : m.keys.Nodup) (h : m'.Perm m) (key : κ) : m'.find? key = m.find? key := by
  have hm' : m'.keys.Nodup := (h.map Prod.fst).nodup_iff.mpr hm
  refine Option.ext fun value => ⟨fun hfind => ?_, fun hfind => ?_⟩
  · exact find?_of_mem hm (h.mem_iff.mp (mem_of_find?_eq_some hfind))
  · exact find?_of_mem hm' (h.mem_iff.mpr (mem_of_find?_eq_some hfind))

/-- Where keys are distinct, the values for a key are the one that is found. -/
theorem map_snd_filter (hm : m.keys.Nodup) (key : κ) :
    (m.filter fun b => b.1 = key).map Prod.snd = (m.find? key).toList := by
  induction m with
  | nil => rfl
  | cons b m ih =>
    obtain ⟨hb, hrest⟩ := List.nodup_cons.mp hm
    by_cases hkey : b.1 = key
    · have hnone : find? m key = none := find?_eq_none_of_not_mem_keys (hkey ▸ hb)
      have htail : (m.filter fun b => b.1 = key).map Prod.snd = [] := by rw [ih hrest, hnone, Option.toList_none]
      rw [List.filter_cons, if_pos (decide_eq_true hkey), List.map_cons, htail, find?, if_pos hkey, Option.toList_some]
    · rw [List.filter_cons, if_neg (by simpa using hkey), find?, if_neg hkey, ih hrest]

theorem find?_erase_self (hm : m.keys.Nodup) : (m.erase key).find? key = none := by
  induction m with
  | nil => rfl
  | cons b m ih =>
    obtain ⟨hb, hrest⟩ := List.nodup_cons.mp hm
    rw [erase]
    split
    · rename_i hkey
      exact find?_eq_none_of_not_mem_keys (hkey ▸ hb)
    · rename_i hkey
      rw [find?, if_neg hkey]
      exact ih hrest

omit [DecidableEq κ] in
/-- What is made of some items, each under a key of its own, has their keys in order. -/
theorem keys_filterMap_sublist_map {α γ : Type} {f : α → Option (κ × γ)} {g : α → κ} (hf : ∀ a c, f a = some c → c.1 = g a)
    (items : List α) : (keys (items.filterMap f)).Sublist (items.map g) := by
  induction items with
  | nil => exact .slnil
  | cons a items ih =>
    cases ha : f a with
    | none =>
      rw [List.filterMap_cons_none ha]
      exact ih.cons (g a)
    | some c =>
      rw [List.filterMap_cons_some ha]
      simpa [keys, hf a c ha] using ih

omit [DecidableEq κ] in
theorem keys_filterMap_sublist {γ : Type} {f : κ × β → Option (κ × γ)} (hf : ∀ b c, f b = some c → c.1 = b.1)
    (m : Assoc κ β) : (keys (m.filterMap f)).Sublist m.keys := keys_filterMap_sublist_map hf m

theorem nodup_keys_foldl_insert (bindings : List (κ × β)) (hm : m.keys.Nodup) :
    (bindings.foldl (fun m b => insert m b.1 b.2) m).keys.Nodup := by
  induction bindings generalizing m with
  | nil => exact hm
  | cons b bindings ih => exact ih (nodup_keys_insert hm)

theorem nodup_keys_ofList (bindings : List (κ × β)) : (ofList bindings).keys.Nodup :=
  nodup_keys_foldl_insert bindings List.nodup_nil

theorem mem_of_mem_foldl_insert {bindings : List (κ × β)} (h : b ∈ bindings.foldl (fun m b => insert m b.1 b.2) m) :
    b ∈ m ∨ b ∈ bindings := by
  induction bindings generalizing m with
  | nil => exact .inl h
  | cons a bindings ih =>
    rcases ih h with h | h
    · rcases mem_of_mem_insert h with rfl | h
      · exact .inr List.mem_cons_self
      · exact .inl h
    · exact .inr (List.mem_cons_of_mem a h)

theorem mem_of_mem_ofList {bindings : List (κ × β)} (h : b ∈ ofList bindings) : b ∈ bindings :=
  (mem_of_mem_foldl_insert h).resolve_left List.not_mem_nil

theorem foldl_insert_of_nodup {bindings : List (κ × β)} (h : (keys (m ++ bindings)).Nodup) :
    bindings.foldl (fun m b => insert m b.1 b.2) m = m ++ bindings := by
  induction bindings generalizing m with
  | nil => exact (List.append_nil m).symm
  | cons b bindings ih =>
    have hfresh : b.1 ∉ keys m := by
      rw [keys, List.map_append, List.map_cons] at h
      exact fun hmem => (List.nodup_append.mp h).2.2 b.1 hmem b.1 List.mem_cons_self rfl
    rw [List.foldl_cons, insert_of_not_mem_keys hfresh, ih (by simpa using h)]
    simp

theorem ofList_of_nodup {bindings : List (κ × β)} (h : (keys bindings).Nodup) : ofList bindings = bindings :=
  foldl_insert_of_nodup h

/-! ## What is found -/

theorem find?_foldl_insert (bindings : List (κ × β)) (m : Assoc κ β) (key : κ) :
    find? (bindings.foldl (fun m b => insert m b.1 b.2) m) key = (latest? bindings key).or (m.find? key) := by
  induction bindings generalizing m with
  | nil => rfl
  | cons b bindings ih =>
    obtain ⟨k, v⟩ := b
    rw [List.foldl_cons, ih]
    by_cases h : k = key
    · subst h
      rw [find?_insert_self, latest?_cons_self]
      cases latest? bindings k <;> rfl
    · rw [find?_insert_of_ne m v h, latest?_cons_of_ne v bindings h]

theorem find?_ofList (bindings : List (κ × β)) (key : κ) : find? (ofList bindings) key = latest? bindings key := by
  rw [ofList, find?_foldl_insert, find?_nil, Option.or_none]

/-! ## Other values for the same keys -/

variable {γ : Type} (f : β → γ)

/-- Each value may become another in view of its key. -/
theorem find?_map_keyed (g : κ → β → γ) (m : Assoc κ β) (key : κ) :
    find? (m.map fun b => (b.1, g b.1 b.2)) key = (m.find? key).map (g key) := by
  induction m with
  | nil => rfl
  | cons b m ih =>
    rw [List.map_cons, find?, find?, ih]
    by_cases h : b.1 = key
    · rw [if_pos h, if_pos h, h, Option.map_some]
    · rw [if_neg h, if_neg h]

theorem find?_map (m : Assoc κ β) (key : κ) : find? (m.map (Prod.map id f)) key = (m.find? key).map f :=
  find?_map_keyed (fun _ => f) m key

theorem map_insert (m : Assoc κ β) (key : κ) (value : β) :
    (m.insert key value).map (Prod.map id f) = insert (m.map (Prod.map id f)) key (f value) := by
  induction m with
  | nil => rfl
  | cons b m ih =>
    obtain ⟨k, v⟩ := b
    by_cases h : k = key
    · simp [insert, h]
    · simp [insert, h, ih]

theorem map_foldl_insert (bindings : List (κ × β)) (m : Assoc κ β) :
    (bindings.foldl (fun m b => insert m b.1 b.2) m).map (Prod.map id f) =
      (bindings.map (Prod.map id f)).foldl (fun m b => insert m b.1 b.2) (m.map (Prod.map id f)) := by
  induction bindings generalizing m with
  | nil => rfl
  | cons b bindings ih =>
    rw [List.foldl_cons, ih, map_insert, List.map_cons, List.foldl_cons, Prod.map_fst, Prod.map_snd, id_eq]

theorem map_ofList (bindings : List (κ × β)) :
    (ofList bindings).map (Prod.map id f) = ofList (bindings.map (Prod.map id f)) := map_foldl_insert f bindings []

end ChatBot.Assoc
