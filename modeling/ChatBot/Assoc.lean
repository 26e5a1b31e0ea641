/-!
Maps that remember the order in which their keys were first bound. Binding a key again keeps its place and replaces its
value; erasing it gives up the place.
-/
set_option autoImplicit false

namespace ChatBot

/-- Bindings in the order in which their keys were first bound. -/
abbrev Assoc (κ β : Type) := List (κ × β)

namespace Assoc
variable {κ β γ : Type} [DecidableEq κ]

def find? : Assoc κ β → κ → Option β
  | [], _ => none
  | (k, b) :: m, key => if k = key then some b else find? m key

def insert : Assoc κ β → κ → β → Assoc κ β
  | [], key, value => [(key, value)]
  | (k, b) :: m, key, value => if k = key then (k, value) :: m else (k, b) :: insert m key value

def erase : Assoc κ β → κ → Assoc κ β
  | [], _ => []
  | (k, b) :: m, key => if k = key then m else (k, b) :: erase m key

/-- The bindings made one after the other. -/
def ofList (bindings : List (κ × β)) : Assoc κ β := bindings.foldl (fun m b => m.insert b.1 b.2) []

def keys (m : Assoc κ β) : List κ := m.map Prod.fst

@[simp] theorem find?_nil (key : κ) : find? ([] : Assoc κ β) key = none := rfl

@[simp] theorem find?_insert_self (m : Assoc κ β) (key : κ) (value : β) :
    (m.insert key value).find? key = some value := by
  induction m with
  | nil => simp [insert, find?]
  | cons b m ih => by_cases h : b.1 = key <;> simp [insert, find?, h, ih]

@[simp] theorem find?_insert_of_ne (m : Assoc κ β) {key other : κ} (value : β) (h : key ≠ other) :
    (m.insert key value).find? other = m.find? other := by
  induction m with
  | nil => simp [insert, find?, h]
  | cons b m ih =>
    by_cases hb : b.1 = key
    · subst hb
      simp [insert, find?, h]
    · simp [insert, find?, hb, ih]

@[simp] theorem find?_erase_of_ne (m : Assoc κ β) {key other : κ} (h : key ≠ other) :
    (m.erase key).find? other = m.find? other := by
  induction m with
  | nil => rfl
  | cons b m ih =>
    by_cases hb : b.1 = key
    · subst hb
      simp [erase, find?, h]
    · simp [erase, find?, hb, ih]

end Assoc
end ChatBot
