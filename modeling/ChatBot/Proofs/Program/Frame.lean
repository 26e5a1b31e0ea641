import ChatBot.Proofs.Program.Advance

/-!
Programs that leave a part of the state alone. Whatever order programs take turns in, such a program never changes what the
part was when its turn began. What it reads there it may use, and every other part it may change.
-/
set_option autoImplicit false

namespace ChatBot.Program
variable {σ ν α β : Type} {view : σ → ν}

/-- Until it next lets others run, and ever after, the program leaves the part of the state alone that is `v` now. -/
def KeepsFrom (view : σ → ν) : Program σ α → ν → Prop
  | done _, _ => True
  | raise _, _ => True
  | read next, v => ∀ s, view s = v → KeepsFrom view (next s) v
  | write s next, v => view s = v ∧ KeepsFrom view next v
  | respond _ _ next, v => KeepsFrom view next v
  | note _ next, v => KeepsFrom view next v
  | pause _ next, v => KeepsFrom view next v ∧ ∀ v', KeepsFrom view next v'
  | await _ next, v => KeepsFrom view next v ∧ ∀ v', KeepsFrom view next v'

/-- The program never changes the part of the state, whatever others do between its turns. -/
def Keeps (view : σ → ν) (p : Program σ α) : Prop := ∀ v, p.KeepsFrom view v

/-! ## Turns -/

theorem KeepsFrom.advance {p : Program σ α} {s : σ} (h : p.KeepsFrom view (view s)) (stops : Pause → Bool) :
    view (p.advance stops s).state = view s ∧ (p.advance stops s).stand.rest.Keeps view := by
  induction p generalizing s with
  | done a => exact ⟨rfl, fun _ => trivial⟩
  | raise fault => exact ⟨rfl, fun _ => trivial⟩
  | read next ih => exact ih s (h s rfl)
  | write s' next ih =>
    obtain ⟨hview, hnext⟩ := h
    obtain ⟨hstate, hrest⟩ := ih (hview ▸ hnext : next.KeepsFrom view (view s'))
    exact ⟨hstate.trans hview, hrest⟩
  | respond kind text next ih => exact ih h
  | note n next ih => exact ih h
  | pause p next ih =>
    rw [Program.advance]
    split
    · exact ⟨rfl, h.2⟩
    · exact ih h.1
  | await ready next ih =>
    rw [Program.advance]
    split
    · exact ih h.1
    · exact ⟨rfl, fun v => ⟨h.2 v, h.2⟩⟩

/-- A turn keeps the part of the state and leaves a program that keeps it. -/
theorem Keeps.slice {p : Program σ α} (h : p.Keeps view) (stops : Pause → Bool) (s : σ) :
    view (p.slice stops s).state = view s ∧ (p.slice stops s).rest.Keeps view := by
  rw [slice_eq_advance]
  exact (h (view s)).advance stops

/-! ## Programs made of others -/

theorem KeepsFrom.bind {p : Program σ α} {f : α → Program σ β} {v : ν} (hp : p.KeepsFrom view v)
    (hf : ∀ a, (f a).Keeps view) : (p.bind f).KeepsFrom view v := by
  induction p generalizing v with
  | done a => exact hf a v
  | raise fault => trivial
  | read next ih => exact fun s hs => ih s (hp s hs)
  | write s next ih => exact ⟨hp.1, ih hp.2⟩
  | respond kind text next ih => exact ih hp
  | note n next ih => exact ih hp
  | pause p next ih => exact ⟨ih hp.1, fun v' => ih (hp.2 v')⟩
  | await ready next ih => exact ⟨ih hp.1, fun v' => ih (hp.2 v')⟩

theorem Keeps.bind {p : Program σ α} {f : α → Program σ β} (hp : p.Keeps view) (hf : ∀ a, (f a).Keeps view) :
    (p >>= f).Keeps view := fun v => (hp v).bind hf

theorem Keeps.attempt {p : Program σ α} (hp : p.Keeps view) : p.attempt.Keeps view := by
  -- What comes before the first pause keeps one value only, so the induction is on `KeepsFrom`.
  intro v
  have hv := hp v
  clear hp
  induction p generalizing v with
  | done a => trivial
  | raise fault => trivial
  | read next ih => exact fun s hs => ih s v (hv s hs)
  | write s next ih => exact ⟨hv.1, ih v hv.2⟩
  | respond kind text next ih => exact ih v hv
  | note n next ih => exact ih v hv
  | pause p next ih => exact ⟨ih v hv.1, fun v' => ih v' (hv.2 v')⟩
  | await ready next ih => exact ⟨ih v hv.1, fun v' => ih v' (hv.2 v')⟩

theorem keeps_done (a : α) : (done a : Program σ α).Keeps view := fun _ => trivial

theorem keeps_pure (a : α) : (pure a : Program σ α).Keeps view := keeps_done a

theorem keeps_fail (fault : Fault) : (fail fault : Program σ α).Keeps view := fun _ => trivial

theorem Keeps.during {p : Program σ α} (hp : p.Keeps view) (activity : Activity) : (p.during activity).Keeps view := by
  refine hp.attempt.bind fun result => ?_
  cases result with
  | ok a => exact keeps_done a
  | error fault => exact keeps_fail _

/-! ## Single steps -/

theorem keeps_ofExcept (result : Except Fault α) : (ofExcept result : Program σ α).Keeps view := by
  cases result with
  | ok a => exact keeps_done a
  | error fault => exact keeps_fail fault

theorem keeps_get : (get : Program σ σ).Keeps view := fun _ _ _ => trivial

theorem keeps_modify {f : σ → σ} (hf : ∀ s, view (f s) = view s) : (modify f).Keeps view :=
  fun _ s hs => ⟨(hf s).trans hs, trivial⟩

theorem keeps_update {f : σ → α × σ} (hf : ∀ s, view (f s).2 = view s) : (update f).Keeps view :=
  fun _ s hs => ⟨(hf s).trans hs, trivial⟩

theorem keeps_say (text : Text) : (say text : Program σ Unit).Keeps view := fun _ => trivial

theorem keeps_reply (text : Text) : (reply text : Program σ Unit).Keeps view := fun _ => trivial

theorem keeps_record (n : Note) : (record n : Program σ Unit).Keeps view := fun _ => trivial

theorem keeps_yield (p : Pause) : (yield p : Program σ Unit).Keeps view := fun _ => ⟨trivial, fun _ => trivial⟩

theorem keeps_waitUntil (ready : σ → Bool) : (waitUntil ready).Keeps view := fun _ => ⟨trivial, fun _ => trivial⟩

end ChatBot.Program
