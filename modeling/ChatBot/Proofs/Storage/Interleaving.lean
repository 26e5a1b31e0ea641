import Mathlib.Data.List.Induction
import ChatBot.Proofs.Storage.Pool

/-!
What holds when calls that change custom responses take turns in any order. Memory is what the changes make of it in the
order of their first turns. The file lags behind it, but only as long as some call has yet to write: what a write takes is
never older than what an earlier write took. A failing write may cut the file short; where it leaves the file as it was, the file
never goes back behind what was stored.
-/
set_option autoImplicit false

namespace ChatBot.Storage.Shelf
variable {ι τ : Type} [DecidableEq ι]

namespace Situation

variable {changes : ι → Change} {w₀ w : World τ} {schedule : List ι} {s s' : Situation ι τ} {i : ι} {next : Phase}
  {events : List (Event ι)}

/-! ## One call writes at a time -/

/-- While a call writes, the right to write is taken, and no other call writes. -/
def Exclusive (s : Situation ι τ) : Prop :=
  ∀ i entries, s.phases i = .writing entries →
    s.world.shelf.writing = true ∧ ∀ j entries', s.phases j = .writing entries' → j = i

omit [DecidableEq ι] in
theorem Exclusive.not_writing_of_free (hs : s.Exclusive) (hfree : s.world.shelf.writing = false) (j : ι)
    (entries : Entries) : s.phases j ≠ .writing entries := by
  intro hj
  rw [(hs j entries hj).1] at hfree
  cases hfree

theorem Exclusive.not_writing_after {entries : Entries} {result : Except Fault Bool} (hs : s.Exclusive)
    (hphase : s.phases i = .writing entries) (j : ι) (entries' : Entries) :
    (s.after i (.ended result) w events).phases j ≠ .writing entries' := by
  intro hj
  obtain ⟨-, h⟩ | ⟨hne, hj⟩ := phases_after_iff.mp hj
  · cases h
  · exact hne ((hs i entries hphase).2 j entries' hj)

theorem Exclusive.after (hs : s.Exclusive) (hnext : ∀ entries, next ≠ .writing entries)
    (hbusy : ∀ j entries, j ≠ i → s.phases j = .writing entries → w.shelf.writing = true) :
    (s.after i next w events).Exclusive := by
  intro j entries hj
  obtain ⟨-, hwriting⟩ | ⟨hne, hj⟩ := phases_after_iff.mp hj
  · exact absurd hwriting (hnext entries)
  · refine ⟨hbusy j entries hne hj, fun k entries' hk => ?_⟩
    obtain ⟨-, hwriting⟩ | ⟨-, hk⟩ := phases_after_iff.mp hk
    · exact absurd hwriting (hnext entries')
    · exact (hs j entries hj).2 k entries' hk

theorem Exclusive.step (hs : s.Exclusive) (h : Step changes i s s') : s'.Exclusive := by
  cases h with
  | idle _ => exact hs
  | refuse _ _ => exact hs.after (fun _ => by simp) fun j entries _ hj => (hs j entries hj).1
  | change _ _ _ => exact hs.after (fun _ => by simp) fun j entries _ hj => (hs j entries hj).1
  | take _ hfree =>
    intro j entries hj
    obtain ⟨rfl, -⟩ | ⟨-, hj⟩ := phases_after_iff.mp hj
    · refine ⟨rfl, fun k entries' hk => ?_⟩
      obtain ⟨rfl, -⟩ | ⟨-, hk⟩ := phases_after_iff.mp hk
      · rfl
      · exact absurd hk (hs.not_writing_of_free hfree k entries')
    · exact absurd hj (hs.not_writing_of_free hfree j entries)
  | store _ _ hphase => exact fun j entries hj => absurd hj (hs.not_writing_after hphase j entries)
  | fail _ _ _ hphase => exact fun j entries hj => absurd hj (hs.not_writing_after hphase j entries)

/-! ## Memory is what the changes make of it -/

/-- Every call in the schedule has had its first turn and is where it led to, and memory holds what these turns made of it. -/
structure Accounted (changes : ι → Change) (w₀ : World τ) (schedule : List ι) (s : Situation ι τ) : Prop where
  path : s.world.shelf.path = w₀.shelf.path
  keeps : KeepsFile w₀ → KeepsFile s.world
  memory : s.world.shelf.entries = memoryAfter changes w₀.shelf.entries schedule
  fresh_iff : ∀ i, s.phases i = .fresh ↔ i ∉ schedule
  begun : ∀ i ∈ schedule, ∃ before later, schedule = before ++ i :: later ∧ i ∉ before ∧
    (s.phases i).Fits ((changes i).applied? (memoryAfter changes w₀.shelf.entries before))

theorem Accounted.mem_of_ne_fresh (hs : s.Accounted changes w₀ schedule) (h : s.phases i ≠ .fresh) : i ∈ schedule := by
  by_contra hi
  exact h ((hs.fresh_iff i).mpr hi)

theorem Accounted.fresh_after_iff (hs : s.Accounted changes w₀ schedule) (hnext : next ≠ .fresh) (j : ι) :
    (s.after i next w events).phases j = .fresh ↔ j ∉ schedule ++ [i] := by
  rw [phases_after_iff, hs.fresh_iff, List.mem_append, List.mem_singleton, not_or]
  constructor
  · rintro (⟨-, h⟩ | ⟨hne, hj⟩)
    · exact absurd h hnext
    · exact ⟨hj, hne⟩
  · exact fun ⟨hj, hne⟩ => .inr ⟨hne, hj⟩

theorem Accounted.first (hs : s.Accounted changes w₀ schedule) (hphase : s.phases i = .fresh)
    (hpath : w.shelf.path = s.world.shelf.path) (hkeeps : KeepsFile s.world → KeepsFile w)
    (hmemory : w.shelf.entries = ((changes i).applied? s.world.shelf.entries).getD s.world.shelf.entries)
    (hfits : next.Fits ((changes i).applied? s.world.shelf.entries)) :
    (s.after i next w events).Accounted changes w₀ (schedule ++ [i]) := by
  have hi : i ∉ schedule := (hs.fresh_iff i).mp hphase
  have hnext : next ≠ .fresh := by
    rintro rfl
    exact hfits
  refine ⟨hpath.trans hs.path, fun h => hkeeps (hs.keeps h), ?_, hs.fresh_after_iff hnext, fun j hj => ?_⟩
  · rw [memoryAfter_concat_of_not_mem hi, ← hs.memory]
    exact hmemory
  · rcases List.mem_append.mp hj with hj | hj
    · have hne : j ≠ i := fun h => hi (h ▸ hj)
      obtain ⟨before, later, rfl, hbefore, hfits⟩ := hs.begun j hj
      refine ⟨before, later ++ [i], by simp, hbefore, ?_⟩
      rwa [phases_after_iff.mpr (.inr ⟨hne, rfl⟩)]
    · obtain rfl := List.mem_singleton.mp hj
      refine ⟨schedule, [], rfl, hi, ?_⟩
      rwa [phases_after_iff.mpr (.inl ⟨rfl, rfl⟩), ← hs.memory]

theorem Accounted.again (hs : s.Accounted changes w₀ schedule) (hphase : s.phases i ≠ .fresh)
    (hpath : w.shelf.path = s.world.shelf.path) (hkeeps : KeepsFile s.world → KeepsFile w)
    (hmemory : w.shelf.entries = s.world.shelf.entries)
    (hfits : ∀ changed, (s.phases i).Fits changed → next.Fits changed) :
    (s.after i next w events).Accounted changes w₀ (schedule ++ [i]) := by
  have hi : i ∈ schedule := hs.mem_of_ne_fresh hphase
  have hnext : next ≠ .fresh := by
    obtain ⟨_, _, _, _, hfit⟩ := hs.begun i hi
    rintro rfl
    exact hfits _ hfit
  have hbegun : ∀ j ∈ schedule, ∃ before later, schedule = before ++ j :: later ∧ j ∉ before ∧
      ((s.after i next w events).phases j).Fits ((changes j).applied? (memoryAfter changes w₀.shelf.entries before)) := by
    intro j hj
    obtain ⟨before, later, hsplit, hbefore, hfit⟩ := hs.begun j hj
    refine ⟨before, later, hsplit, hbefore, ?_⟩
    by_cases hne : j = i
    · subst hne
      rw [phases_after_iff.mpr (.inl ⟨rfl, rfl⟩)]
      exact hfits _ hfit
    · rwa [phases_after_iff.mpr (.inr ⟨hne, rfl⟩)]
  refine ⟨hpath.trans hs.path, fun h => hkeeps (hs.keeps h), ?_, hs.fresh_after_iff hnext, fun j hj => ?_⟩
  · rw [memoryAfter_concat_of_mem hi, ← hs.memory]
    exact hmemory
  · have hj : j ∈ schedule := by
      rcases List.mem_append.mp hj with hj | hj
      · exact hj
      · exact List.mem_singleton.mp hj ▸ hi
    obtain ⟨before, later, rfl, hbefore, hfit⟩ := hbegun j hj
    exact ⟨before, later ++ [i], by simp, hbefore, hfit⟩

theorem Accounted.step (hs : s.Accounted changes w₀ schedule) (h : Step changes i s s') :
    s'.Accounted changes w₀ (schedule ++ [i]) := by
  cases h with
  | idle hphase =>
    rw [← after_self s i]
    exact hs.again hphase rfl id rfl fun _ hfit => hfit
  | refuse hphase hnone =>
    exact hs.first hphase rfl id (by rw [hnone]; rfl) (fits_refusal hnone)
  | change entries hphase hsome =>
    exact hs.first hphase rfl (fun h => ⟨h.whole, h.unbroken⟩) (by rw [hsome]; rfl) (by rw [hsome]; rfl)
  | take hphase hfree =>
    exact hs.again (by simp [hphase]) rfl (fun h => ⟨h.whole, h.unbroken⟩) rfl fun changed hfit => by rwa [hphase] at hfit
  | store entries w hphase hshelf hkeeps hdisk =>
    refine hs.again (by simp [hphase]) (by rw [hshelf]) hkeeps (by rw [hshelf]) fun changed hfit => ?_
    rw [hphase] at hfit
    exact hfit.symm
  | fail entries fault w hphase hshelf hkeeps hdisk =>
    exact hs.again (by simp [hphase]) (by rw [hshelf]) hkeeps (by rw [hshelf]) fun changed _ => trivial

/-! ## The file is not older than the calls that have ended -/

/-- The turns up to some point of the schedule, at which every call that has ended well with a change had made it. -/
def Covers (schedule : List ι) (s : Situation ι τ) (before : List ι) : Prop :=
  before <+: schedule ∧ ∀ j, s.phases j = .ended (.ok true) → j ∈ before

/-- What a call writes, and what stands where the responses are kept, is at least as new as what ended calls have written; the file
only where failing writes leave it as it was. -/
structure Backed (changes : ι → Change) (w₀ : World τ) (schedule : List ι) (s : Situation ι τ) : Prop where
  taken : ∀ i entries, s.phases i = .writing entries → ∃ before, s.Covers schedule before ∧ i ∈ before ∧
    entries = memoryAfter changes w₀.shelf.entries before
  disk : KeepsFile w₀ → ∀ i, s.phases i = .ended (.ok true) → ∃ before, s.Covers schedule before ∧
    onDisk s.world = .ok (some (memoryAfter changes w₀.shelf.entries before).file)

theorem Covers.after {before : List ι} (h : s.Covers schedule before) (hnext : next = .ended (.ok true) → i ∈ before) :
    (s.after i next w events).Covers (schedule ++ [i]) before := by
  refine ⟨h.1.trans (List.prefix_append schedule [i]), fun j hj => ?_⟩
  obtain ⟨rfl, hended⟩ | ⟨-, hj⟩ := phases_after_iff.mp hj
  · exact hnext hended
  · exact h.2 j hj

theorem Backed.quiet (hs : s.Backed changes w₀ schedule)
    (hwriting : ∀ entries, next = .writing entries → s.phases i = .writing entries)
    (hended : next = .ended (.ok true) → s.phases i = .ended (.ok true))
    (hdisk : KeepsFile w₀ → onDisk w = onDisk s.world) :
    (s.after i next w events).Backed changes w₀ (schedule ++ [i]) := by
  have hcovers : ∀ before, s.Covers schedule before → (s.after i next w events).Covers (schedule ++ [i]) before :=
    fun before hbefore => hbefore.after fun h => hbefore.2 i (hended h)
  constructor
  · intro j entries hj
    have hj' : s.phases j = .writing entries := by
      obtain ⟨rfl, h⟩ | ⟨-, hj⟩ := phases_after_iff.mp hj
      · exact hwriting entries h
      · exact hj
    obtain ⟨before, hbefore, hmem, hentries⟩ := hs.taken j entries hj'
    exact ⟨before, hcovers before hbefore, hmem, hentries⟩
  · intro hkeeps j hj
    have hj' : s.phases j = .ended (.ok true) := by
      obtain ⟨rfl, h⟩ | ⟨-, hj⟩ := phases_after_iff.mp hj
      · exact hended h
      · exact hj
    obtain ⟨before, hbefore, hstands⟩ := hs.disk hkeeps j hj'
    exact ⟨before, hcovers before hbefore, (hdisk hkeeps).trans hstands⟩

theorem Backed.step (hs : s.Backed changes w₀ schedule) (haccounted : s.Accounted changes w₀ schedule)
    (hexclusive : s.Exclusive) (h : Step changes i s s') : s'.Backed changes w₀ (schedule ++ [i]) := by
  cases h with
  | idle _ =>
    rw [← after_self s i]
    exact hs.quiet (fun _ h => h) (fun h => h) fun _ => rfl
  | refuse _ _ =>
    exact hs.quiet (fun _ h => by cases h) (fun h => absurd (Phase.ended.inj h) (refusal_ne_ok_true _)) fun _ => rfl
  | change _ _ _ => exact hs.quiet (fun _ h => by cases h) (fun h => by cases h) fun _ => rfl
  | take hphase hfree =>
    -- what is taken now is all of memory, so it covers every call that has ended
    have hi : i ∈ schedule := haccounted.mem_of_ne_fresh (by simp [hphase])
    have hended : ∀ j, s.phases j = .ended (.ok true) → j ∈ schedule := by
      intro j hj
      exact haccounted.mem_of_ne_fresh (by simp [hj])
    constructor
    · intro j entries hj
      obtain ⟨rfl, hentries⟩ | ⟨-, hj⟩ := phases_after_iff.mp hj
      · refine ⟨schedule, ⟨List.prefix_append schedule [j], fun k hk => ?_⟩, hi, ?_⟩
        · obtain ⟨-, h⟩ | ⟨-, hk⟩ := phases_after_iff.mp hk
          · cases h
          · exact hended k hk
        · rw [← haccounted.memory]
          exact (Phase.writing.inj hentries).symm
      · exact absurd hj (hexclusive.not_writing_of_free hfree j entries)
    · intro hkeeps j hj
      obtain ⟨-, h⟩ | ⟨-, hj⟩ := phases_after_iff.mp hj
      · cases h
      · obtain ⟨before, hbefore, hstands⟩ := hs.disk hkeeps j hj
        exact ⟨before, hbefore.after (fun h => by cases h), hstands⟩
  | store entries w hphase hshelf _ hdisk =>
    obtain ⟨before, hbefore, hi, rfl⟩ := hs.taken i entries hphase
    constructor
    · exact fun j entries hj => absurd hj (hexclusive.not_writing_after hphase j entries)
    · exact fun _ _ _ => ⟨before, hbefore.after fun _ => hi, hdisk⟩
  | fail entries fault w hphase hshelf _ hdisk =>
    exact hs.quiet (fun _ h => by cases h) (fun h => by cases h) fun hkeeps => hdisk (haccounted.keeps hkeeps)

/-! ## The file lags only behind calls that have yet to write -/

/-- What is being written, and what was written last, is what is in memory, unless a changed memory has yet to be written. -/
structure Current (s : Situation ι τ) : Prop where
  taken : ∀ i entries, s.phases i = .writing entries →
    entries = s.world.shelf.entries ∨ ∃ j, s.phases j = .waiting
  disk : ∀ i content, s.log.getLast? = some (.stored i content) →
    onDisk s.world = .ok (some s.world.shelf.entries.file) ∨ ∃ j, s.phases j = .waiting

/-- A call that waits goes on waiting during the turns of others. -/
theorem exists_waiting_after (hphase : s.phases i ≠ .waiting) (h : ∃ j, s.phases j = .waiting) :
    ∃ j, (s.after i next w events).phases j = .waiting := by
  obtain ⟨j, hj⟩ := h
  exact ⟨j, phases_after_iff.mpr (.inr ⟨fun hji => hphase (hji ▸ hj), hj⟩)⟩

theorem Current.step (hs : s.Current) (hexclusive : s.Exclusive) (h : Step changes i s s') : s'.Current := by
  cases h with
  | idle _ => exact hs
  | refuse hphase hnone =>
    have hwait : (∃ j, s.phases j = .waiting) →
        ∃ j, (s.after i (.ended (changes i).refusal) s.world []).phases j = .waiting :=
      exists_waiting_after (by simp [hphase])
    constructor
    · intro j entries hj
      obtain ⟨-, h⟩ | ⟨-, hj⟩ := phases_after_iff.mp hj
      · cases h
      · exact (hs.taken j entries hj).imp_right hwait
    · intro j content hlast
      rw [Situation.after, List.append_nil] at hlast
      exact (hs.disk j content hlast).imp_right hwait
  | change entries _ _ =>
    have hwait : ∃ j, (s.after i .waiting (s.world.withEntries entries) []).phases j = .waiting :=
      ⟨i, phases_after_iff.mpr (.inl ⟨rfl, rfl⟩)⟩
    exact ⟨fun _ _ _ => .inr hwait, fun _ _ _ => .inr hwait⟩
  | take _ hfree =>
    constructor
    · intro j entries hj
      obtain ⟨-, hentries⟩ | ⟨-, hj⟩ := phases_after_iff.mp hj
      · exact .inl (Phase.writing.inj hentries).symm
      · exact absurd hj (hexclusive.not_writing_of_free hfree j entries)
    · intro j content hlast
      rw [Situation.after, List.getLast?_concat] at hlast
      cases hlast
  | store entries w hphase hshelf _ hdisk =>
    constructor
    · exact fun j entries hj => absurd hj (hexclusive.not_writing_after hphase j entries)
    · intro _ _ _
      rcases hs.taken i entries hphase with hentries | hwait
      · left
        rw [hentries] at hdisk
        simpa only [Situation.after, hshelf] using hdisk
      · exact .inr (exists_waiting_after (by simp [hphase]) hwait)
  | fail entries fault w hphase =>
    constructor
    · exact fun j entries hj => absurd hj (hexclusive.not_writing_after hphase j entries)
    · intro j content hlast
      rw [Situation.after, List.getLast?_concat] at hlast
      cases hlast

/-! ## Writes happen in the order in which they were taken -/

/-- What was stored is some of what was taken, in the same order; what is being written was taken last. Only what is stored
changes what stands on disk, if failing writes leave the file as it was. -/
structure Ordered (w₀ : World τ) (s : Situation ι τ) : Prop where
  disk : KeepsFile w₀ → onDisk s.world = lastStored (onDisk w₀) s.log
  kept : (stores s.log).Sublist (takes s.log)
  taken : ∀ i entries, s.phases i = .writing entries → ∃ earlier, takes s.log = earlier ++ [(i, .ok (some entries.file))] ∧
    (stores s.log).Sublist earlier

theorem Ordered.quiet (hs : s.Ordered w₀) (hnext : ∀ entries, next ≠ .writing entries)
    (hdisk : onDisk w = onDisk s.world) : (s.after i next w []).Ordered w₀ := by
  refine ⟨fun hkeeps => ?_, ?_, fun j entries hj => ?_⟩
  · simpa only [Situation.after, List.append_nil] using hdisk.trans (hs.disk hkeeps)
  · simpa only [Situation.after, List.append_nil] using hs.kept
  · obtain ⟨-, h⟩ | ⟨-, hj⟩ := phases_after_iff.mp hj
    · exact absurd h (hnext entries)
    · simpa only [Situation.after, List.append_nil] using hs.taken j entries hj

theorem Ordered.step (hs : s.Ordered w₀) (haccounted : s.Accounted changes w₀ schedule) (hexclusive : s.Exclusive)
    (h : Step changes i s s') : s'.Ordered w₀ := by
  cases h with
  | idle _ => exact hs
  | refuse _ _ => exact hs.quiet (fun _ => by simp) rfl
  | change _ _ _ => exact hs.quiet (fun _ => by simp) rfl
  | take _ hfree =>
    refine ⟨fun hkeeps => ?_, ?_, fun j entries hj => ?_⟩
    · rw [Situation.after, lastStored, stores_concat_took]
      exact hs.disk hkeeps
    · rw [Situation.after, takes_concat_took, stores_concat_took]
      exact hs.kept.trans (List.sublist_append_left _ _)
    · obtain ⟨rfl, hentries⟩ | ⟨-, hj⟩ := phases_after_iff.mp hj
      · obtain rfl := Phase.writing.inj hentries
        rw [Situation.after, takes_concat_took, stores_concat_took]
        exact ⟨takes s.log, rfl, hs.kept⟩
      · exact absurd hj (hexclusive.not_writing_of_free hfree j entries)
  | store entries w hphase _ _ hdisk =>
    obtain ⟨earlier, htaken, hearlier⟩ := hs.taken i entries hphase
    refine ⟨fun _ => ?_, ?_, fun j entries hj => absurd hj (hexclusive.not_writing_after hphase j entries)⟩
    · rw [Situation.after, lastStored, stores_concat_stored, List.getLast?_concat]
      exact hdisk
    · rw [Situation.after, takes_concat_stored, stores_concat_stored, htaken]
      exact hearlier.append_right _
  | fail entries fault w hphase _ _ hdisk =>
    refine ⟨fun hkeeps => ?_, ?_, fun j entries hj => absurd hj (hexclusive.not_writing_after hphase j entries)⟩
    · rw [Situation.after, lastStored, stores_concat_failed]
      exact (hdisk (haccounted.keeps hkeeps)).trans (hs.disk hkeeps)
    · rw [Situation.after, takes_concat_failed, stores_concat_failed]
      exact hs.kept

/-! ## Every schedule -/

structure Sound (changes : ι → Change) (w₀ : World τ) (schedule : List ι) (s : Situation ι τ) : Prop where
  exclusive : s.Exclusive
  accounted : s.Accounted changes w₀ schedule
  backed : s.Backed changes w₀ schedule
  current : s.Current
  ordered : s.Ordered w₀

theorem sound_start (changes : ι → Change) (w : World τ) :
    (⟨w, fun _ => .fresh, []⟩ : Situation ι τ).Sound changes w [] where
  exclusive := fun _ _ h => by cases h
  accounted := ⟨rfl, id, rfl, fun _ => by simp, fun _ h => absurd h List.not_mem_nil⟩
  backed := ⟨fun _ _ h => (by cases h), fun _ _ h => (by cases h)⟩
  current := ⟨fun _ _ h => (by cases h), fun _ _ h => (by cases h)⟩
  ordered := ⟨fun _ => rfl, .slnil, fun _ _ h => (by cases h)⟩

theorem Sound.step (hs : s.Sound changes w₀ schedule) (h : Step changes i s s') :
    s'.Sound changes w₀ (schedule ++ [i]) where
  exclusive := hs.exclusive.step h
  accounted := hs.accounted.step h
  backed := hs.backed.step hs.accounted hs.exclusive h
  current := hs.current.step hs.exclusive h
  ordered := hs.ordered.step hs.accounted hs.exclusive h

theorem exists_sound_of_run (changes : ι → Change) (w : World τ) (schedule : List ι) :
    ∃ s : Situation ι τ, (Pool.start w changes).run schedule = s.pool changes ∧ s.Sound changes w schedule := by
  induction schedule using List.reverseRecOn with
  | nil => exact ⟨_, rfl, sound_start changes w⟩
  | append_singleton schedule i ih =>
    obtain ⟨s, hrun, hs⟩ := ih
    obtain ⟨s', hstep, hturn⟩ := exists_step_of_turn changes (fun j entries hj => (hs.exclusive j entries hj).1) i
    refine ⟨s', ?_, hs.step hstep⟩
    rw [Pool.run_concat, hrun, hturn]

theorem eq_ended_of_ending? {change : Change} {phase : Phase} {result : Bool}
    (h : (phase.program change : Program (World τ) Bool).ending? = some (.ok result)) : phase = .ended (.ok result) := by
  cases phase with
  | fresh =>
    cases change with
    | set channel name body =>
      cases htemplate : Template.compile name body with
      | ok template =>
        simp only [Phase.program, Change.call, Shelf.set, htemplate] at h
        cases h
      | error error =>
        simp only [Phase.program, Change.call, Shelf.set, htemplate] at h
        cases h
    | remove channel name => cases h
  | waiting => cases h
  | writing entries => cases h
  | ended ending =>
    cases ending with
    | ok b =>
      cases h
      rfl
    | error fault => cases h

end Situation

theorem exists_eq_append_of_prefix {α : Type} {before later l : List α} {i : α} (h : l <+: before ++ i :: later)
    (hi : i ∈ l) (hbefore : i ∉ before) : ∃ between, between <+: later ∧ l = before ++ i :: between := by
  obtain ⟨rest, hrest⟩ := h
  rcases List.append_eq_append_iff.mp hrest with ⟨more, rfl, -⟩ | ⟨more, rfl, hmore⟩
  · exact absurd (List.mem_append_left more hi) hbefore
  · rcases more with _ | ⟨j, between⟩
    · exact absurd (by simpa using hi) hbefore
    · obtain ⟨rfl, rfl⟩ := List.cons.inj hmore
      exact ⟨between, List.prefix_append between rest, rfl⟩

/-- Calls take turns on a shelf in any order, and any of their writes may fail. Memory always holds what the first turns made
of it. A call that ended well tells whether it changed anything; if it did, and failing writes leave the file as it was, the file
is what memory was after its first turn or later. The file is then what was stored last. Whatever was stored was taken in the same
order. Once no call is under way and the last write was stored, the file is what is in memory. -/
theorem disk_agrees_with_memory (w : World τ) (changes : ι → Change) (schedule : List ι) :
    let pool := (Pool.start w changes).run schedule
    let memory := memoryAfter changes w.shelf.entries
    pool.world.shelf.path = w.shelf.path ∧ pool.world.shelf.entries = memory schedule ∧
    (∀ i result, (pool.calls i).ending? = some (.ok result) → ∃ before later, schedule = before ++ i :: later ∧
      i ∉ before ∧ result = ((changes i).applied? (memory before)).isSome ∧
      (result = true → KeepsFile w → ∃ between, between <+: later ∧
        onDisk pool.world = .ok (some (memory (before ++ i :: between)).file))) ∧
    (KeepsFile w → onDisk pool.world = lastStored (onDisk w) pool.log) ∧
    (stores pool.log).Sublist (takes pool.log) ∧
    ((∀ i ∈ schedule, (pool.calls i).hasEnded = true) →
      (∃ i content, pool.log.getLast? = some (.stored i content)) →
      onDisk pool.world = .ok (some pool.world.shelf.entries.file)) := by
  intro pool memory
  obtain ⟨s, hrun, hs⟩ := Situation.exists_sound_of_run changes w schedule
  have hpool : pool = s.pool changes := hrun
  clear_value pool
  subst hpool
  refine ⟨hs.accounted.path, hs.accounted.memory, fun i result hended => ?_, hs.ordered.disk, hs.ordered.kept,
    fun hall hlast => ?_⟩
  · have hphase : s.phases i = .ended (.ok result) := Situation.eq_ended_of_ending? hended
    have hi : i ∈ schedule := hs.accounted.mem_of_ne_fresh (by simp [hphase])
    obtain ⟨before, later, rfl, hbefore, hfits⟩ := hs.accounted.begun i hi
    rw [hphase] at hfits
    refine ⟨before, later, rfl, hbefore, hfits, ?_⟩
    rintro rfl hkeeps
    obtain ⟨covered, hcovers, hdisk⟩ := hs.backed.disk hkeeps i hphase
    obtain ⟨between, hbetween, rfl⟩ := exists_eq_append_of_prefix hcovers.1 (hcovers.2 i hphase) hbefore
    exact ⟨between, hbetween, hdisk⟩
  · obtain ⟨i, content, hlast⟩ := hlast
    rcases hs.current.disk i content hlast with hdisk | ⟨j, hj⟩
    · exact hdisk
    · have hmem : j ∈ schedule := hs.accounted.mem_of_ne_fresh (by simp [hj])
      have hended : (Phase.waiting.program (changes j) : Program (World τ) Bool).hasEnded = true := hj ▸ hall j hmem
      cases hended

/-- The first write fails, and the second makes up for it. -/
theorem disk_agrees_with_memory_after_failure :
    let w : World Unit :=
      { files := .empty, clock := (), replies := [], draws := [], shelf := ⟨FilePath.ofText "store.json", [], false⟩,
        lastChatter := none, refusals := [some (.opening .missing)] }
    let changes : Bool → Change := fun i => if i then .set "lobby" "hi" "hello" else .remove "lobby" "hi"
    let schedule := [true, false, false, false, true, true]
    (∀ i ∈ schedule, (((Pool.start w changes).run schedule).calls i).hasEnded = true) ∧
      (∃ i content, ((Pool.start w changes).run schedule).log.getLast? = some (.stored i content)) ∧
      onDisk ((Pool.start w changes).run schedule).world =
        .ok (some ((Pool.start w changes).run schedule).world.shelf.entries.file) := by
  intro w changes schedule
  have hended : ∀ i ∈ schedule, (((Pool.start w changes).run schedule).calls i).hasEnded = true := by decide +kernel
  have hlast : ∃ i content, ((Pool.start w changes).run schedule).log.getLast? = some (.stored i content) := by
    have hstored : (((Pool.start w changes).run schedule).log.getLast?.bind Event.stored?).isSome = true := by
      decide +kernel
    obtain ⟨⟨i, content⟩, hstored⟩ := Option.isSome_iff_exists.mp hstored
    obtain ⟨event, hevent, hstored⟩ := Option.bind_eq_some_iff.mp hstored
    cases event with
    | took _ _ => cases hstored
    | stored j content' => exact ⟨j, content', hevent⟩
    | failed _ => cases hstored
  exact ⟨hended, hlast, (disk_agrees_with_memory w changes schedule).2.2.2.2.2 hended hlast⟩

end ChatBot.Storage.Shelf
