import ChatBot.Proofs.Program.Workload

/-!
Errands come to an end. A plan lists moves without end. If in it every program of an errand has, again and again, a turn in which
it does not have to wait, and the report has its turns too, then the errand is over after some move, whatever others do meanwhile.
-/
set_option autoImplicit false

namespace ChatBot
variable {σ α : Type}

namespace Program
variable {q : ℕ → Program σ α}

theorem stays_or_goesOn (q : ℕ → Program σ α) {n : ℕ} (h : q (n + 1) = q n ∨ ∃ stops s, q (n + 1) = ((q n).slice stops s).rest) :
    q (n + 1) = q n ∨ GoesOn q n := by
  rcases h with hsame | ⟨stops, s, hnext⟩
  · exact .inl hsame
  · cases hheld : (q n).isHeldUp s with
    | true =>
      rw [slice_of_isHeldUp hheld] at hnext
      exact .inl hnext
    | false => exact .inr ⟨stops, s, hheld, hnext⟩

theorem hasEnded_of_le (hstay : ∀ n, q (n + 1) = q n ∨ GoesOn q n) {n k : ℕ} (hle : n ≤ k)
    (h : (q n).hasEnded = true) : (q k).hasEnded = true := by
  induction hle with
  | refl => exact h
  | @step k _ ih =>
    rcases hstay k with hsame | ⟨stops, s, -, hnext⟩
    · rwa [hsame]
    · rw [hnext, slice_of_hasEnded ih]
      exact ih

theorem exists_hasEnded_from (hstay : ∀ n, q (n + 1) = q n ∨ GoesOn q n) (hfair : ∀ n, ∃ k, n ≤ k ∧ GoesOn q k) :
    ∃ n, ∀ k, n ≤ k → (q k).hasEnded = true := by
  obtain ⟨n, hn⟩ := exists_hasEnded hstay hfair
  exact ⟨n, fun k hk => hasEnded_of_le hstay hk hn⟩

end Program

/-- What holds from some moment on for each of several things holds from some moment on for all of them. -/
theorem exists_moment_for_all {holds : ℕ → ℕ → Prop} (count : ℕ) (h : ∀ i < count, ∃ n, ∀ k, n ≤ k → holds i k) :
    ∃ n, ∀ i < count, ∀ k, n ≤ k → holds i k := by
  induction count with
  | zero => exact ⟨0, fun i hi => absurd hi (Nat.not_lt_zero i)⟩
  | succ count ih =>
    obtain ⟨n, hn⟩ := ih fun i hi => h i (Nat.lt_succ_of_lt hi)
    obtain ⟨n', hn'⟩ := h count (Nat.lt_succ_self count)
    refine ⟨max n n', fun i hi k hk => ?_⟩
    rcases Nat.lt_succ_iff_lt_or_eq.mp hi with hlt | rfl
    · exact hn i hlt k (Nat.le_trans (Nat.le_max_left n n') hk)
    · exact hn' k (Nat.le_trans (Nat.le_max_right n n') hk)

namespace Errand

def turns (t : Errand σ) : List Turn := .command :: t.passiveTurns ++ [.report]

theorem passive_mem_turns {t : Errand σ} {i : ℕ} (h : i < t.passives.length) : .passive i ∈ t.turns := by
  have hmem : Turn.passive i ∈ t.passiveTurns := List.mem_map.mpr ⟨i, List.mem_range.mpr h, rfl⟩
  exact List.mem_append_left _ (List.mem_cons_of_mem _ hmem)

theorem hasEnded_take_report {t : Errand σ} (hcommand : t.command.hasEnded = true)
    (hpassives : ∀ (i : ℕ) (p : Passive σ), t.passives[i]? = some p → p.program.hasEnded = true) (stops : Pause → Bool) (s : σ) :
    (t.take stops .report s).1.hasEnded = true := by
  have hall : t.passivesEnded = true := by
    refine List.all_eq_true.mpr fun p hp => ?_
    obtain ⟨i, hi⟩ := List.mem_iff_getElem?.mp hp
    exact hpassives i p hi
  rw [take_report, hasEnded]
  simp only [hcommand, hall, Bool.or_true, Bool.and_true]
  exact hall

def isHeldUp (t : Errand σ) (turn : Turn) (s : σ) : Bool :=
  match turn with
  | .command => t.command.isHeldUp s
  | .passive place => t.passives[place]?.any (·.program.isHeldUp s)
  | .report => false

theorem command_moved (t : Errand σ) (place : ℕ) (s : σ) (m : Move σ) :
    (t.moved place s m).command = t.command ∨
      ∃ stops, (t.moved place s m).command = (t.command.slice stops s).rest := by
  cases m with
  | change f => exact .inl rfl
  | turn place' stops turn =>
    rw [moved]
    split
    · rw [command_take]
      split
      · exact .inr ⟨stops, rfl⟩
      · exact .inl rfl
    · exact .inl rfl

theorem passives_moved (t : Errand σ) (place : ℕ) (s : σ) (m : Move σ) (i : ℕ) :
    (t.moved place s m).passives[i]? = t.passives[i]? ∨
      ∃ stops, (t.moved place s m).passives[i]? = t.passives[i]?.map (afterTurn stops s) := by
  cases m with
  | change f => exact .inl rfl
  | turn place' stops turn =>
    rw [moved]
    split
    · rw [passives_take]
      split
      · exact .inr ⟨stops, rfl⟩
      · exact .inl rfl
    · exact .inl rfl

end Errand

namespace Workload

def after (w : Workload σ) (plan : ℕ → Move σ) (n : ℕ) : Workload σ := w.run ((List.range n).map plan)

theorem after_succ (w : Workload σ) (plan : ℕ → Move σ) (n : ℕ) : w.after plan (n + 1) = (w.after plan n).move (plan n) := by
  rw [after, List.range_succ, List.map_append, run_append]
  rfl

/-- Again and again in the plan, the errand at a place has each of the turns that it needs, and does not have to wait in it. -/
def Fair (w : Workload σ) (plan : ℕ → Move σ) (place : ℕ) : Prop :=
  ∀ t, w.errands[place]? = some t → ∀ turn ∈ t.turns, ∀ n, ∃ k, n ≤ k ∧ (∃ stops, plan k = .turn place stops turn) ∧
    ∀ rest, (w.after plan k).errands[place]? = some rest → rest.isHeldUp turn (w.after plan k).state = false

variable {w : Workload σ} {plan : ℕ → Move σ} {place : ℕ} {t : Errand σ}

theorem exists_sequence (h : w.errands[place]? = some t) (plan : ℕ → Move σ) :
    ∃ e : ℕ → Errand σ, e 0 = t ∧ (∀ n, (w.after plan n).errands[place]? = some (e n)) ∧
      ∀ n, e (n + 1) = (e n).moved place (w.after plan n).state (plan n) := by
  let e : ℕ → Errand σ := fun n => n.rec t fun n rest => rest.moved place (w.after plan n).state (plan n)
  refine ⟨e, rfl, fun n => ?_, fun n => rfl⟩
  induction n with
  | zero => exact h
  | succ n ih =>
    rw [after_succ]
    exact errands_move_of_some ih (plan n)

section
variable {e : ℕ → Errand σ}

/-- A turn that the plan gives the errand, in which it does not have to wait. -/
theorem Fair.exists_turn (hfair : w.Fair plan place) (he : e 0 = t) (hat : ∀ n, (w.after plan n).errands[place]? = some (e n))
    (hnext : ∀ n, e (n + 1) = (e n).moved place (w.after plan n).state (plan n)) {turn : Turn} (hturn : turn ∈ t.turns) (n : ℕ) :
    ∃ k, n ≤ k ∧ (e k).isHeldUp turn (w.after plan k).state = false ∧
      ∃ stops, e (k + 1) = ((e k).take stops turn (w.after plan k).state).1 := by
  have hstart : w.errands[place]? = some t := by rw [← he]; exact hat 0
  obtain ⟨k, hk, ⟨stops, hplan⟩, hfree⟩ := hfair t hstart turn hturn n
  refine ⟨k, hk, hfree (e k) (hat k), stops, ?_⟩
  rw [hnext k, hplan]
  exact if_pos rfl

theorem exists_command_hasEnded (hnext : ∀ n, e (n + 1) = (e n).moved place (w.after plan n).state (plan n))
    (hturns : ∀ n, ∃ k, n ≤ k ∧ (e k).isHeldUp .command (w.after plan k).state = false ∧
      ∃ stops, e (k + 1) = ((e k).take stops .command (w.after plan k).state).1) :
    ∃ n, ∀ k, n ≤ k → (e k).command.hasEnded = true := by
  let q : ℕ → Program σ Bool := fun n => (e n).command
  have hstay : ∀ n, q (n + 1) = q n ∨ Program.GoesOn q n := by
    intro n
    refine Program.stays_or_goesOn q ?_
    have hmoved := (e n).command_moved place (w.after plan n).state (plan n)
    rw [← hnext n] at hmoved
    exact hmoved.imp_right fun ⟨stops, hslice⟩ => ⟨stops, _, hslice⟩
  refine Program.exists_hasEnded_from hstay fun n => ?_
  obtain ⟨k, hk, hfree, stops, htake⟩ := hturns n
  exact ⟨k, hk, stops, _, hfree, congrArg Errand.command htake⟩

theorem exists_passive_hasEnded {i : ℕ} (hi : i < (e 0).passives.length)
    (hnext : ∀ n, e (n + 1) = (e n).moved place (w.after plan n).state (plan n))
    (hturns : ∀ n, ∃ k, n ≤ k ∧ (e k).isHeldUp (.passive i) (w.after plan k).state = false ∧
      ∃ stops, e (k + 1) = ((e k).take stops (.passive i) (w.after plan k).state).1) :
    ∃ n, ∀ k, n ≤ k → ∃ p, (e k).passives[i]? = some p ∧ p.program.hasEnded = true := by
  have hmoved : ∀ n, (e (n + 1)).passives[i]? = (e n).passives[i]? ∨
      ∃ stops, (e (n + 1)).passives[i]? = (e n).passives[i]?.map (Errand.afterTurn stops (w.after plan n).state) := by
    intro n
    rw [hnext n]
    exact (e n).passives_moved place _ (plan n) i
  have hthere : ∀ n, ∃ p, (e n).passives[i]? = some p := by
    intro n
    induction n with
    | zero => exact ⟨_, List.getElem?_eq_getElem hi⟩
    | succ n ih =>
      obtain ⟨p, hp⟩ := ih
      rcases hmoved n with hsame | ⟨stops, hslice⟩
      · exact ⟨p, hsame.trans hp⟩
      · exact ⟨_, by rw [hslice, hp, Option.map_some]⟩
  obtain ⟨p, hp⟩ := Classical.skolem.mp hthere
  let q : ℕ → Program σ Unit := fun n => (p n).program
  have hstay : ∀ n, q (n + 1) = q n ∨ Program.GoesOn q n := by
    intro n
    refine Program.stays_or_goesOn q ?_
    rcases hmoved n with hsame | ⟨stops, hslice⟩
    · rw [hp, hp] at hsame
      exact .inl (congrArg Passive.program (Option.some.inj hsame))
    · rw [hp, hp, Option.map_some] at hslice
      exact .inr ⟨stops, _, congrArg Passive.program (Option.some.inj hslice)⟩
  have hgoes : ∀ n, ∃ k, n ≤ k ∧ Program.GoesOn q k := by
    intro n
    obtain ⟨k, hk, hfree, stops, htake⟩ := hturns n
    have hheld : (q k).isHeldUp (w.after plan k).state = false := by
      simpa only [Errand.isHeldUp, hp k, Option.any_some] using hfree
    have hslice := (e k).passives_take stops (.passive i) (w.after plan k).state i
    rw [← htake, if_pos rfl, hp, hp, Option.map_some] at hslice
    exact ⟨k, hk, stops, _, hheld, congrArg Passive.program (Option.some.inj hslice)⟩
  obtain ⟨n, hn⟩ := Program.exists_hasEnded_from hstay hgoes
  exact ⟨n, fun k hk => ⟨p k, hp k, hn k hk⟩⟩

theorem passives_getElem?_eq_none (hnext : ∀ n, e (n + 1) = (e n).moved place (w.after plan n).state (plan n)) {i : ℕ}
    (hi : (e 0).passives.length ≤ i) (n : ℕ) : (e n).passives[i]? = none := by
  induction n with
  | zero => exact List.getElem?_eq_none hi
  | succ n ih =>
    rw [hnext n]
    rcases (e n).passives_moved place (w.after plan n).state (plan n) i with hsame | ⟨stops, hslice⟩
    · rwa [hsame]
    · rw [hslice, ih, Option.map_none]

end

/-- In a fair plan an errand comes to its end, whatever the other moves are. -/
theorem Fair.exists_hasEnded (hfair : w.Fair plan place) (h : w.errands[place]? = some t) :
    ∃ n rest, (w.after plan n).errands[place]? = some rest ∧ rest.hasEnded = true := by
  obtain ⟨e, he, hat, hnext⟩ := exists_sequence h plan
  have hturns : ∀ turn ∈ t.turns, ∀ n, ∃ k, n ≤ k ∧ (e k).isHeldUp turn (w.after plan k).state = false ∧
      ∃ stops, e (k + 1) = ((e k).take stops turn (w.after plan k).state).1 :=
    fun turn hturn n => hfair.exists_turn he hat hnext hturn n
  have hlast : .report ∈ t.turns := List.mem_append_right _ List.mem_cons_self
  obtain ⟨a, ha⟩ := exists_command_hasEnded hnext (hturns .command (List.mem_append_left _ List.mem_cons_self))
  obtain ⟨b, hb⟩ := exists_moment_for_all (e 0).passives.length fun i hi =>
    exists_passive_hasEnded hi hnext (hturns (.passive i) (Errand.passive_mem_turns (he ▸ hi)))
  -- A report before this one may come too early; this one finds all programs at their ends.
  obtain ⟨k, hk, -, stops, hreport⟩ := hturns .report hlast (max a b)
  have hcommand : (e k).command.hasEnded = true := ha k (Nat.le_trans (Nat.le_max_left a b) hk)
  have hpassives : ∀ (i : ℕ) (p : Passive σ), (e k).passives[i]? = some p → p.program.hasEnded = true := by
    intro i p hp
    by_cases hlength : i < (e 0).passives.length
    · obtain ⟨p', hp', hended⟩ := hb i hlength k (Nat.le_trans (Nat.le_max_right a b) hk)
      rwa [Option.some.inj (hp.symm.trans hp')]
    · cases hp.symm.trans (passives_getElem?_eq_none hnext (Nat.le_of_not_lt hlength) k)
  refine ⟨k + 1, e (k + 1), hat (k + 1), ?_⟩
  rw [hreport]
  exact Errand.hasEnded_take_report hcommand hpassives stops _

end Workload

/-! ## Errands that wait for nothing -/

theorem Program.NeverWaits.hasEnded_slice {p : Program σ α} (h : p.NeverWaits) (s : σ) :
    (p.slice Program.nowhere s).rest.hasEnded = true := by
  induction p generalizing s with
  | done a => rfl
  | raise fault => rfl
  | read next ih => exact ih s (h s) s
  | write s' next ih => exact ih h s'
  | respond kind text next ih => exact ih h s
  | note n next ih => exact ih h s
  | pause p next ih => exact ih h s
  | await ready next ih => exact h.elim

namespace Errand

structure NeverWaits (t : Errand σ) : Prop where
  command : t.command.NeverWaits
  passive : ∀ (i : ℕ) (p : Passive σ), t.passives[i]? = some p → p.program.NeverWaits

variable {t : Errand σ}

theorem NeverWaits.isHeldUp (h : t.NeverWaits) (turn : Turn) (s : σ) : t.isHeldUp turn s = false := by
  cases turn with
  | command => exact h.command.isHeldUp s
  | report => rfl
  | passive i =>
    rw [Errand.isHeldUp]
    cases hp : t.passives[i]? with
    | none => rfl
    | some p => exact (h.passive i p hp).isHeldUp s

theorem NeverWaits.take (h : t.NeverWaits) (stops : Pause → Bool) (turn : Turn) (s : σ) :
    (t.take stops turn s).1.NeverWaits := by
  constructor
  · rw [command_take]
    split
    · exact h.command.slice stops s
    · exact h.command
  · intro i p hp
    rw [passives_take] at hp
    split at hp
    · obtain ⟨p', hp', rfl⟩ := Option.map_eq_some_iff.mp hp
      exact (h.passive i p' hp').slice stops s
    · exact h.passive i p hp

theorem NeverWaits.moved (h : t.NeverWaits) (place : ℕ) (s : σ) (m : Move σ) : (t.moved place s m).NeverWaits := by
  cases m with
  | change f => exact h
  | turn place' stops turn =>
    rw [Errand.moved]
    split
    · exact h.take stops turn s
    · exact h

def isOver (t : Errand σ) : Turn → Bool
  | .command => t.command.hasEnded
  | .passive i => t.passives[i]?.all (·.program.hasEnded)
  | .report => true

theorem isOver_take {turn : Turn} (h : t.isOver turn = true) (stops : Pause → Bool) (next : Turn) (s : σ) :
    (t.take stops next s).1.isOver turn = true := by
  cases turn with
  | report => rfl
  | command =>
    rw [isOver, command_take]
    split
    · rwa [Program.slice_of_hasEnded h]
    · exact h
  | passive i =>
    rw [isOver, passives_take]
    rw [isOver] at h
    split
    · cases hp : t.passives[i]? with
      | none => rfl
      | some p =>
        rw [hp, Option.all_some] at h
        rw [Option.map_some, Option.all_some, afterTurn, Program.slice_of_hasEnded h]
        exact h
    · exact h

theorem NeverWaits.isOver_take_self (h : t.NeverWaits) (turn : Turn) (s : σ) :
    (t.take Program.nowhere turn s).1.isOver turn = true := by
  cases turn with
  | report => rfl
  | command =>
    rw [isOver, command_take, if_pos rfl]
    exact h.command.hasEnded_slice s
  | passive i =>
    rw [isOver, passives_take, if_pos rfl]
    cases hp : t.passives[i]? with
    | none => rfl
    | some p => exact (h.passive i p hp).hasEnded_slice s

theorem NeverWaits.takeAll (h : t.NeverWaits) (stops : Pause → Bool) (turns : List Turn) (s : σ) :
    (t.takeAll stops turns s).1.NeverWaits := by
  induction turns generalizing t s with
  | nil => exact h
  | cons turn turns ih => exact ih (h.take stops turn s) _

theorem isOver_takeAll {turn : Turn} (h : t.isOver turn = true) (stops : Pause → Bool) (turns : List Turn) (s : σ) :
    (t.takeAll stops turns s).1.isOver turn = true := by
  induction turns generalizing t s with
  | nil => exact h
  | cons next turns ih => exact ih (isOver_take h stops next s) _

theorem NeverWaits.isOver_takeAll_of_mem (h : t.NeverWaits) {turn : Turn} {turns : List Turn} (hturn : turn ∈ turns) (s : σ) :
    (t.takeAll Program.nowhere turns s).1.isOver turn = true := by
  induction turns generalizing t s with
  | nil => cases hturn
  | cons next turns ih =>
    rcases List.mem_cons.mp hturn with rfl | hlater
    · exact isOver_takeAll (h.isOver_take_self turn s) Program.nowhere turns _
    · exact ih (h.take Program.nowhere next s) hlater _

theorem takeAll_concat (stops : Pause → Bool) (t : Errand σ) (turns : List Turn) (turn : Turn) (s : σ) :
    (t.takeAll stops (turns ++ [turn]) s).1 =
      ((t.takeAll stops turns s).1.take stops turn (t.takeAll stops turns s).2.1).1 := by
  induction turns generalizing t s with
  | nil => rfl
  | cons next turns ih => exact ih _ _

theorem passives_takeAll_eq_none_iff (stops : Pause → Bool) (t : Errand σ) (turns : List Turn) (s : σ) (i : ℕ) :
    (t.takeAll stops turns s).1.passives[i]? = none ↔ t.passives[i]? = none := by
  induction turns generalizing t s with
  | nil => rfl
  | cons turn turns ih =>
    refine (ih (t.take stops turn s).1 _).trans ?_
    rw [passives_take]
    split
    · exact Option.map_eq_none_iff
    · rfl

theorem NeverWaits.hasEnded_takeAll (h : t.NeverWaits) (s : σ) : (t.takeAll Program.nowhere t.turns s).1.hasEnded = true := by
  have hover : ∀ turn ∈ Turn.command :: t.passiveTurns,
      (t.takeAll Program.nowhere (.command :: t.passiveTurns) s).1.isOver turn = true :=
    fun turn hturn => h.isOver_takeAll_of_mem hturn s
  rw [turns, takeAll_concat]
  refine hasEnded_take_report (hover .command List.mem_cons_self) (fun i p hp => ?_) Program.nowhere _
  have hi : i < t.passives.length := by
    refine Nat.lt_of_not_le fun hlength => ?_
    have hnone : t.passives[i]? = none := List.getElem?_eq_none hlength
    rw [← passives_takeAll_eq_none_iff Program.nowhere t (.command :: t.passiveTurns) s, hp] at hnone
    cases hnone
  have hmem : Turn.passive i ∈ t.passiveTurns := List.mem_map.mpr ⟨i, List.mem_range.mpr hi, rfl⟩
  have hended := hover (.passive i) (List.mem_cons_of_mem _ hmem)
  rwa [isOver, hp] at hended

theorem exists_of_mem_sweep {stops : Pause → Bool} {turns : Errand σ → List Turn} {ts : List (Errand σ)} {s : σ}
    {rest : Errand σ} (h : rest ∈ (sweep stops turns ts s).1) :
    ∃ t ∈ ts, ∃ s', rest = (t.takeAll stops (turns t) s').1 := by
  induction ts generalizing s with
  | nil => cases h
  | cons t ts ih =>
    rcases List.mem_cons.mp h with rfl | hlater
    · exact ⟨t, List.mem_cons_self, s, rfl⟩
    · obtain ⟨t', ht', s', hrest⟩ := ih hlater
      exact ⟨t', List.mem_cons_of_mem t ht', s', hrest⟩

theorem hasEnded_of_mem_runAll {ts : List (Errand σ)} (h : ∀ t ∈ ts, t.NeverWaits) (stops : Pause → Bool) (s : σ) :
    ∀ rest ∈ (runAll stops ts s).1, rest.hasEnded = true := by
  have hsweep : ∀ turns (ts : List (Errand σ)) s, (∀ t ∈ ts, t.NeverWaits) → ∀ t ∈ (sweep stops turns ts s).1, t.NeverWaits := by
    intro turns ts s hts t ht
    obtain ⟨t', ht', s', rfl⟩ := exists_of_mem_sweep ht
    exact (hts t' ht').takeAll stops (turns t') s'
  intro rest hrest
  obtain ⟨t, ht, s', rfl⟩ := exists_of_mem_sweep hrest
  have hnever : t.NeverWaits := hsweep _ _ _ (hsweep _ _ _ (hsweep _ _ _ h)) t ht
  exact hnever.hasEnded_takeAll s'

end Errand

theorem Workload.fair_of_neverWaits {w : Workload σ} {plan : ℕ → Move σ} {place : ℕ} {t : Errand σ}
    (h : w.errands[place]? = some t) (hnever : t.NeverWaits)
    (hplan : ∀ turn ∈ t.turns, ∀ n, ∃ k, n ≤ k ∧ ∃ stops, plan k = .turn place stops turn) : w.Fair plan place := by
  obtain ⟨e, he, hat, hnext⟩ := exists_sequence h plan
  have hstill : ∀ n, (e n).NeverWaits := by
    intro n
    induction n with
    | zero => rwa [he]
    | succ n ih =>
      rw [hnext n]
      exact ih.moved place _ (plan n)
  intro t' ht' turn hturn n
  obtain rfl := Option.some.inj (h.symm.trans ht')
  obtain ⟨k, hk, hmove⟩ := hplan turn hturn n
  refine ⟨k, hk, hmove, fun rest hrest => ?_⟩
  rw [Option.some.inj (hrest.symm.trans (hat k))]
  exact (hstill k).isHeldUp turn _

end ChatBot
