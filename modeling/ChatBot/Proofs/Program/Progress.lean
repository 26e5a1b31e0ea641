import Mathlib.Data.Nat.Notation
import ChatBot.Program.Errand
import ChatBot.Proofs.Program.Runs

/-!
Turns of a program one after another. What is left of a program goes on where the turns before stopped, so all turns together make
one run. A program has no unbounded loop: if again and again it has a turn in which it does not have to wait, it ends.
-/
set_option autoImplicit false

namespace ChatBot.Program
variable {σ α β : Type}

/-! ## What is left of a program -/

/-- What a program still does is what `p` does after `outputs`. -/
def Continues (p : Program σ α) (outputs : List Output) (rest : Program σ α) : Prop :=
  ∀ more ending, rest.Yields more ending → p.Yields (outputs ++ more) ending

theorem Continues.refl (p : Program σ α) : p.Continues [] p := fun _ _ h => h

theorem Continues.trans {p q r : Program σ α} {first second : List Output} (hpq : p.Continues first q)
    (hqr : q.Continues second r) : p.Continues (first ++ second) r := by
  intro more ending h
  have hrun := hpq _ _ (hqr more ending h)
  rwa [← List.append_assoc] at hrun

theorem continues_slice (stops : Pause → Bool) (p : Program σ α) (s : σ) :
    p.Continues (p.slice stops s).outputs (p.slice stops s).rest := fun _ _ h => yields_of_slice h

theorem yields_of_ending? {p : Program σ α} {ending : Except Fault α} (h : p.ending? = some ending) : p.Yields [] ending := by
  cases p with
  | done a =>
    obtain rfl := Option.some.inj h
    exact .done a
  | raise fault =>
    obtain rfl := Option.some.inj h
    exact .raise fault
  | _ => cases h

/-- Once a program has ended, its turns make one complete run. -/
theorem Continues.yields {p rest : Program σ α} {outputs : List Output} (h : p.Continues outputs rest)
    {ending : Except Fault α} (hended : rest.ending? = some ending) : p.Yields outputs ending := by
  have hrun := h [] ending (yields_of_ending? hended)
  rwa [List.append_nil] at hrun

theorem slice_of_hasEnded {p : Program σ α} (h : p.hasEnded = true) (stops : Pause → Bool) (s : σ) :
    p.slice stops s = ⟨[], s, p⟩ := by
  cases p with
  | done a => rfl
  | raise fault => rfl
  | _ => cases h

/-! ## Waiting -/

def isHeldUp (p : Program σ α) (s : σ) : Bool :=
  match p with
  | await ready _ => !ready s
  | _ => false

theorem slice_of_isHeldUp {p : Program σ α} {s : σ} (h : p.isHeldUp s = true) (stops : Pause → Bool) :
    p.slice stops s = ⟨[], s, p⟩ := by
  cases p with
  | await ready next =>
    have hready : ready s = false := by simpa [isHeldUp] using h
    rw [slice, if_neg (by simp [hready])]
  | _ => cases h

/-- What is left of a program that waits for nothing never waits for anything. -/
def NeverWaits : Program σ α → Prop
  | done _ | raise _ => True
  | read next => ∀ s, (next s).NeverWaits
  | write _ next | respond _ _ next | note _ next | pause _ next => next.NeverWaits
  | await _ _ => False

theorem NeverWaits.slice {p : Program σ α} (h : p.NeverWaits) (stops : Pause → Bool) (s : σ) :
    (p.slice stops s).rest.NeverWaits := by
  induction p generalizing s with
  | done a => exact h
  | raise fault => exact h
  | read next ih => exact ih s (h s) s
  | write s' next ih => exact ih h s'
  | respond kind text next ih => exact ih h s
  | note n next ih => exact ih h s
  | pause p next ih =>
    rw [Program.slice]
    split
    · exact h
    · exact ih h s
  | await ready next ih => exact h.elim

theorem NeverWaits.isHeldUp {p : Program σ α} (h : p.NeverWaits) (s : σ) : p.isHeldUp s = false := by
  cases p with
  | await ready next => exact h.elim
  | _ => rfl

/-! ## Turns again and again -/

/-- The program that a sequence of moments leaves has a turn at this moment, and does not have to wait in it. -/
def GoesOn (q : ℕ → Program σ α) (n : ℕ) : Prop :=
  ∃ stops s, (q n).isHeldUp s = false ∧ q (n + 1) = ((q n).slice stops s).rest

section
variable {q : ℕ → Program σ α}

/-- Until the next moment at which it goes on, a program stays what it is. -/
theorem exists_goesOn (hstay : ∀ n, q (n + 1) = q n ∨ GoesOn q n) (hfair : ∀ n, ∃ k, n ≤ k ∧ GoesOn q k) (n : ℕ) :
    ∃ k, q k = q n ∧ GoesOn q k := by
  obtain ⟨k, hk, hgoes⟩ := hfair n
  obtain ⟨d, rfl⟩ := Nat.exists_eq_add_of_le hk
  clear hk
  induction d generalizing n with
  | zero => exact ⟨n, rfl, hgoes⟩
  | succ d ih =>
    rcases hstay n with hsame | hnow
    · have hlater : GoesOn q (n + 1 + d) := by rwa [Nat.add_right_comm]
      obtain ⟨k, hk, hgoes⟩ := ih (n + 1) hlater
      exact ⟨k, hk.trans hsame, hgoes⟩
    · exact ⟨n, rfl, hnow⟩

theorem exists_hasEnded_of_slice (hstay : ∀ n, q (n + 1) = q n ∨ GoesOn q n) (hfair : ∀ n, ∃ k, n ≤ k ∧ GoesOn q k)
    (p : Program σ α) (n : ℕ) (stops : Pause → Bool) (s : σ) (h : q n = (p.slice stops s).rest) :
    ∃ k, (q k).hasEnded = true := by
  -- On the program whose turn left what there is at n: a turn stops at a part of it, and the next turn goes on with that part.
  induction p generalizing n stops s with
  | done a => exact ⟨n, by rw [h]; rfl⟩
  | raise fault => exact ⟨n, by rw [h]; rfl⟩
  | read next ih => exact ih s n stops s h
  | write s' next ih => exact ih n stops s' h
  | respond kind text next ih => exact ih n stops s h
  | note m next ih => exact ih n stops s h
  | pause p next ih =>
    rw [slice] at h
    split at h
    · obtain ⟨k, hk, stops', s', -, hnext⟩ := exists_goesOn hstay hfair n
      rw [hk, h] at hnext
      exact ih (k + 1) stops' s' hnext
    · exact ih n stops s h
  | await ready next ih =>
    rw [slice] at h
    split at h
    · exact ih n stops s h
    · obtain ⟨k, hk, stops', s', hfree, hnext⟩ := exists_goesOn hstay hfair n
      rw [hk, h] at hfree hnext
      have hready : ready s' = true := by simpa [isHeldUp] using hfree
      rw [slice, if_pos hready] at hnext
      exact ih (k + 1) stops' s' hnext

theorem exists_hasEnded (hstay : ∀ n, q (n + 1) = q n ∨ GoesOn q n) (hfair : ∀ n, ∃ k, n ≤ k ∧ GoesOn q k) :
    ∃ k, (q k).hasEnded = true := by
  obtain ⟨k, -, stops, s, -, hnext⟩ := exists_goesOn hstay hfair 0
  exact exists_hasEnded_of_slice hstay hfair (q k) (k + 1) stops s hnext

end

/-! ## Failing at the end -/

/-- Two programs that differ in their notes and in how they end. -/
inductive Echoes : Program σ α → Program σ β → Prop
  | ended {p : Program σ α} {q : Program σ β} : p.hasEnded = true → q.hasEnded = true → Echoes p q
  | read {next : σ → Program σ α} {next' : σ → Program σ β} :
      (∀ s, Echoes (next s) (next' s)) → Echoes (read next) (read next')
  | write {next : Program σ α} {next' : Program σ β} (s : σ) : Echoes next next' → Echoes (write s next) (write s next')
  | respond {next : Program σ α} {next' : Program σ β} (kind : ResponseKind) (text : Text) :
      Echoes next next' → Echoes (respond kind text next) (respond kind text next')
  | noteLeft {next : Program σ α} {q : Program σ β} (n : Note) : Echoes next q → Echoes (note n next) q
  | noteRight {p : Program σ α} {next' : Program σ β} (n : Note) : Echoes p next' → Echoes p (note n next')
  | pause {next : Program σ α} {next' : Program σ β} (p : Pause) : Echoes next next' → Echoes (pause p next) (pause p next')
  | await {next : Program σ α} {next' : Program σ β} (ready : σ → Bool) :
      Echoes next next' → Echoes (await ready next) (await ready next')

theorem Echoes.refl (p : Program σ α) : p.Echoes p := by
  induction p with
  | done a => exact .ended rfl rfl
  | raise fault => exact .ended rfl rfl
  | read next ih => exact .read ih
  | write s next ih => exact .write s ih
  | respond kind text next ih => exact .respond kind text ih
  | note n next ih => exact .noteLeft n (.noteRight n ih)
  | pause p next ih => exact .pause p ih
  | await ready next ih => exact .await ready ih

/-- Turn by turn, programs that echo each other give the same responses and change the state in the same way. -/
theorem Echoes.slice {p : Program σ α} {q : Program σ β} (h : p.Echoes q) (m : Message) (stops : Pause → Bool) (s : σ) :
    (q.slice stops s).state = (p.slice stops s).state ∧
      (q.slice stops s).outputs.filterMap (Errand.responseOf? m) =
        (p.slice stops s).outputs.filterMap (Errand.responseOf? m) ∧
      (p.slice stops s).rest.Echoes (q.slice stops s).rest := by
  induction h generalizing s with
  | ended hp hq =>
    rw [slice_of_hasEnded hp, slice_of_hasEnded hq]
    exact ⟨rfl, rfl, .ended hp hq⟩
  | read _ ih => exact ih s s
  | write s' _ ih => exact ih s'
  | respond kind text _ ih =>
    obtain ⟨hstate, hresponses, hrest⟩ := ih s
    refine ⟨hstate, ?_, hrest⟩
    simp only [Program.slice, Slice.after, List.filterMap_cons, hresponses]
  | noteLeft n _ ih => exact ih s
  | noteRight n _ ih => exact ih s
  | pause p hnext ih =>
    simp only [Program.slice]
    split
    · exact ⟨rfl, rfl, hnext⟩
    · exact ih s
  | await ready hnext ih =>
    simp only [Program.slice]
    split
    · exact ih s
    · exact ⟨rfl, rfl, .await ready hnext⟩

/-- A program that goes on with something that only makes notes before it ends echoes the program itself. -/
theorem echoes_bind {p : Program σ α} {f : α → Program σ β} (hf : ∀ a, (done a : Program σ α).Echoes (f a)) :
    p.Echoes (p.bind f) := by
  induction p with
  | done a => exact hf a
  | raise fault => exact .ended rfl rfl
  | read next ih => exact .read ih
  | write s next ih => exact .write s ih
  | respond kind text next ih => exact .respond kind text ih
  | note n next ih => exact .noteLeft n (.noteRight n ih)
  | pause p next ih => exact .pause p ih
  | await ready next ih => exact .await ready ih

end ChatBot.Program
