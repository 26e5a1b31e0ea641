import Mathlib.Logic.Function.Basic
import ChatBot.Proofs.Storage.Shelf

/-!
Calls that change custom responses and take turns on one shelf. What is left of each call is known by its phase, so a turn is
one of a few steps between phases.
-/
set_option autoImplicit false

namespace ChatBot.Storage.Shelf
variable {ι τ : Type}

/-! ## Calls that take turns -/

/-- What shows of a write: what it takes, and what it leaves or that it failed. -/
inductive Event (ι : Type) where
  | took (call : ι) (content : Except FileFault (Option FileNode))
  | stored (call : ι) (content : Except FileFault (Option FileNode))
  | failed (call : ι)

namespace Event

/-- What a turn of a call shows, which leaves so much of the call. -/
def ofTurn (call : ι) (before after : World τ) (rest : Program (World τ) Bool) : List (Event ι) :=
  match before.shelf.writing, after.shelf.writing with
  | false, true => [took call (.ok (some after.shelf.entries.file))]
  | true, false =>
    match rest.ending? with
    | some (.ok _) => [stored call (onDisk after)]
    | _ => [failed call]
  | _, _ => []

theorem ofTurn_of_same {call : ι} {before after : World τ} {rest : Program (World τ) Bool}
    (h : after.shelf.writing = before.shelf.writing) : ofTurn call before after rest = [] := by
  cases hbefore : before.shelf.writing <;> simp only [ofTurn, h, hbefore]

def taken? : Event ι → Option (ι × Except FileFault (Option FileNode))
  | took call content => some (call, content)
  | _ => none

def stored? : Event ι → Option (ι × Except FileFault (Option FileNode))
  | stored call content => some (call, content)
  | _ => none

end Event

def takes (log : List (Event ι)) : List (ι × Except FileFault (Option FileNode)) := log.filterMap Event.taken?

def stores (log : List (Event ι)) : List (ι × Except FileFault (Option FileNode)) := log.filterMap Event.stored?

/-- What stands where the responses are kept, when so much was stored since there stood something else. -/
def lastStored (initial : Except FileFault (Option FileNode)) (log : List (Event ι)) : Except FileFault (Option FileNode) :=
  ((stores log).getLast?.map Prod.snd).getD initial

theorem takes_concat_took (log : List (Event ι)) (call : ι) (content : Except FileFault (Option FileNode)) :
    takes (log ++ [.took call content]) = takes log ++ [(call, content)] := List.filterMap_append

theorem takes_concat_stored (log : List (Event ι)) (call : ι) (content : Except FileFault (Option FileNode)) :
    takes (log ++ [.stored call content]) = takes log := by
  simp [takes, Event.taken?]

theorem takes_concat_failed (log : List (Event ι)) (call : ι) : takes (log ++ [.failed call]) = takes log := by
  simp [takes, Event.taken?]

theorem stores_concat_took (log : List (Event ι)) (call : ι) (content : Except FileFault (Option FileNode)) :
    stores (log ++ [.took call content]) = stores log := by
  simp [stores, Event.stored?]

theorem stores_concat_stored (log : List (Event ι)) (call : ι) (content : Except FileFault (Option FileNode)) :
    stores (log ++ [.stored call content]) = stores log ++ [(call, content)] := List.filterMap_append

theorem stores_concat_failed (log : List (Event ι)) (call : ι) : stores (log ++ [.failed call]) = stores log := by
  simp [stores, Event.stored?]

variable [DecidableEq ι]

/-- Calls on one world, and what has shown of their writes. -/
structure Pool (ι τ : Type) where
  world : World τ
  calls : ι → Program (World τ) Bool
  log : List (Event ι)

namespace Pool

def start (w : World τ) (changes : ι → Change) : Pool ι τ := ⟨w, fun i => (changes i).call, []⟩

def turn (pool : Pool ι τ) (i : ι) : Pool ι τ :=
  let done := (pool.calls i).slice Program.everywhere pool.world
  ⟨done.state, Function.update pool.calls i done.rest, pool.log ++ Event.ofTurn i pool.world done.state done.rest⟩

def run (pool : Pool ι τ) (schedule : List ι) : Pool ι τ := schedule.foldl turn pool

theorem run_concat (pool : Pool ι τ) (schedule : List ι) (i : ι) :
    pool.run (schedule ++ [i]) = (pool.run schedule).turn i := List.foldl_append

end Pool

/-- The responses after some turns: each call changes them in its first turn, if at all. -/
def memoryAfter (changes : ι → Change) (entries : Entries) (schedule : List ι) : Entries :=
  schedule.eraseDups.foldl (fun entries i => ((changes i).applied? entries).getD entries) entries

theorem memoryAfter_concat_of_mem {changes : ι → Change} {entries : Entries} {schedule : List ι} {i : ι}
    (h : i ∈ schedule) : memoryAfter changes entries (schedule ++ [i]) = memoryAfter changes entries schedule := by
  simp [memoryAfter, List.eraseDups_append, List.removeAll, h]

theorem memoryAfter_concat_of_not_mem {changes : ι → Change} {entries : Entries} {schedule : List ι} {i : ι}
    (h : i ∉ schedule) : memoryAfter changes entries (schedule ++ [i]) =
      ((changes i).applied? (memoryAfter changes entries schedule)).getD (memoryAfter changes entries schedule) := by
  simp [memoryAfter, List.eraseDups_append, List.removeAll, List.eraseDups_cons, h]

/-! ## Calls by their phases -/

/-- Calls as their phases, on one world, and what has shown of their writes. -/
structure Situation (ι τ : Type) where
  world : World τ
  phases : ι → Phase
  log : List (Event ι)

namespace Situation

def pool (changes : ι → Change) (s : Situation ι τ) : Pool ι τ :=
  ⟨s.world, fun i => (s.phases i).program (changes i), s.log⟩

/-- The situation after a turn that leads a call to this phase and to this world and shows these events. -/
def after (s : Situation ι τ) (i : ι) (next : Phase) (w : World τ) (events : List (Event ι)) : Situation ι τ :=
  ⟨w, Function.update s.phases i next, s.log ++ events⟩

/-- What one turn of a call makes of a situation. -/
inductive Step (changes : ι → Change) (i : ι) (s : Situation ι τ) : Situation ι τ → Prop
  | idle : s.phases i ≠ .fresh → Step changes i s s
  | refuse : s.phases i = .fresh → (changes i).applied? s.world.shelf.entries = none →
      Step changes i s (s.after i (.ended (changes i).refusal) s.world [])
  | change (entries : Entries) : s.phases i = .fresh → (changes i).applied? s.world.shelf.entries = some entries →
      Step changes i s (s.after i .waiting (s.world.withEntries entries) [])
  | take : s.phases i = .waiting → s.world.shelf.writing = false →
      Step changes i s (s.after i (.writing s.world.shelf.entries) (s.world.withWriting true)
        [.took i (.ok (some s.world.shelf.entries.file))])
  | store (entries : Entries) (w : World τ) : s.phases i = .writing entries →
      w.shelf = { s.world.shelf with writing := false } → (KeepsFile s.world → KeepsFile w) →
      onDisk w = .ok (some entries.file) →
      Step changes i s (s.after i (.ended (.ok true)) w [.stored i (.ok (some entries.file))])
  | fail (entries : Entries) (fault : Fault) (w : World τ) : s.phases i = .writing entries →
      w.shelf = { s.world.shelf with writing := false } → (KeepsFile s.world → KeepsFile w) →
      (KeepsFile s.world → onDisk w = onDisk s.world) →
      Step changes i s (s.after i (.ended (.error fault)) w [.failed i])

theorem update_program (changes : ι → Change) (phases : ι → Phase) (i : ι) (next : Phase) :
    (Function.update (fun j => (phases j).program (changes j)) i (next.program (changes i)) :
        ι → Program (World τ) Bool) = fun j => (Function.update phases i next j).program (changes j) := by
  funext j
  by_cases hj : j = i
  · subst hj
    simp only [Function.update_self]
  · simp only [Function.update_of_ne hj]

theorem turn_eq_of_slice {changes : ι → Change} {s : Situation ι τ} {i : ι} {next : Phase} {w : World τ}
    {events : List (Event ι)}
    (hslice : ((s.phases i).program (changes i)).slice Program.everywhere s.world = ⟨[], w, next.program (changes i)⟩)
    (hevents : Event.ofTurn i s.world w (next.program (changes i)) = events) :
    (s.pool changes).turn i = (s.after i next w events).pool changes := by
  simp only [Pool.turn, pool, after, hslice, update_program, hevents]

theorem after_self (s : Situation ι τ) (i : ι) : s.after i (s.phases i) s.world [] = s := by
  rw [after, Function.update_eq_self, List.append_nil]

/-- A turn of a call is a step, if the right to write is taken whenever a call writes. -/
theorem exists_step_of_turn (changes : ι → Change) {s : Situation ι τ}
    (hbusy : ∀ i entries, s.phases i = .writing entries → s.world.shelf.writing = true) (i : ι) :
    ∃ s', Step changes i s s' ∧ (s.pool changes).turn i = s'.pool changes := by
  cases hphase : s.phases i with
  | fresh =>
    cases happly : (changes i).applied? s.world.shelf.entries with
    | none =>
      exact ⟨_, .refuse hphase happly, turn_eq_of_slice (hphase ▸ slice_call_of_none happly) (Event.ofTurn_of_same rfl)⟩
    | some entries =>
      exact ⟨_, .change entries hphase happly,
        turn_eq_of_slice (hphase ▸ slice_call_of_some happly) (Event.ofTurn_of_same rfl)⟩
  | waiting =>
    cases hwriting : s.world.shelf.writing with
    | true =>
      have hturn := turn_eq_of_slice (hphase ▸ slice_waiting_of_busy (changes i) hwriting) (Event.ofTurn_of_same rfl)
      rw [after_self] at hturn
      exact ⟨s, .idle (by simp [hphase]), hturn⟩
    | false =>
      refine ⟨_, .take hphase hwriting, turn_eq_of_slice (hphase ▸ slice_waiting_of_free (changes i) hwriting) ?_⟩
      simp only [Event.ofTurn, World.withWriting, hwriting]
  | writing entries =>
    have hwriting := hbusy i entries hphase
    obtain ⟨w, hshelf, hkeeps, ⟨hfinish, hdisk⟩ | ⟨fault, hfinish, hleaves⟩⟩ := finishWrite_cases entries s.world
    · refine ⟨_, .store entries w hphase hshelf hkeeps hdisk,
        turn_eq_of_slice (hphase ▸ slice_writing (changes i) hfinish) ?_⟩
      simp only [Event.ofTurn, hshelf, hwriting, ← hdisk]
      rfl
    · refine ⟨_, .fail entries fault w hphase hshelf hkeeps fun h => h.eq_of_leaves hleaves,
        turn_eq_of_slice (hphase ▸ slice_writing (changes i) hfinish) ?_⟩
      simp only [Event.ofTurn, hshelf, hwriting]
      rfl
  | ended result =>
    have hturn := turn_eq_of_slice (hphase ▸ slice_ended (changes i) result s.world) (Event.ofTurn_of_same rfl)
    rw [after_self] at hturn
    exact ⟨s, .idle (by simp [hphase]), hturn⟩

theorem phases_after_iff {s : Situation ι τ} {i j : ι} {next phase : Phase} {w : World τ} {events : List (Event ι)} :
    (s.after i next w events).phases j = phase ↔ (j = i ∧ next = phase) ∨ (j ≠ i ∧ s.phases j = phase) := by
  by_cases hj : j = i
  · subst hj
    simp [after]
  · simp [after, hj]

end Situation
end ChatBot.Storage.Shelf
