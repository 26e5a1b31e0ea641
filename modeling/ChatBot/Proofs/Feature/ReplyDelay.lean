import Mathlib.Data.Nat.Notation
import ChatBot.Feature.Chatter
import ChatBot.Proofs.Program.Advance

/-!
The delay before chatter is sent. Whatever is drawn, it lies between its two bounds, or is the lower one where that is not below the upper
one, and every delay between the bounds may come up. No number is ever drawn from a range that has none.
-/
set_option autoImplicit false

namespace ChatBot
variable {τ : Type}
open Program

/-- A draw from a range that holds a number, which gives a number of the range. -/
def Draw.IsInRange (x : Draw) : Prop := ∃ low high n : ℕ, x = .within low high n ∧ low ≤ high ∧ low ≤ n ∧ n ≤ high

/-- What is noted of draws. -/
def notesOf (draws : List Draw) : List Output := draws.map fun x => .note (.draw x)

/-- The world after so many draws. -/
def World.afterDraws (w : World τ) (count : ℕ) : World τ := { w with draws := w.draws.drop count }

theorem World.snd_nextDraw (w : World τ) : w.nextDraw.2 = w.afterDraws 1 := by
  obtain ⟨files, clock, replies, draws, shelf, lastChatter, refusals, readings, runtime⟩ := w
  cases draws <;> rfl

theorem World.afterDraws_afterDraws (w : World τ) (first second : ℕ) :
    (w.afterDraws first).afterDraws second = w.afterDraws (first + second) := by
  rw [afterDraws, afterDraws, afterDraws, List.drop_drop]

/-- The program makes these draws in its next turn, does nothing besides, and ends with a number. -/
def Rolls (p : Program (World τ) ℕ) (w : World τ) (draws : List Draw) (n : ℕ) : Prop :=
  ∀ stops, p.advance stops w = ⟨notesOf draws, w.afterDraws draws.length, .ended (.ok n)⟩

theorem Rolls.slice {p : Program (World τ) ℕ} {w : World τ} {draws : List Draw} {n : ℕ} (h : Rolls p w draws n)
    (stops : Pause → Bool) : p.slice stops w = ⟨notesOf draws, w.afterDraws draws.length, .done n⟩ := by
  rw [slice_eq_advance, h stops]
  rfl

theorem rolls_pure (n : ℕ) (w : World τ) : Rolls (pure n) w [] n := fun _ => rfl

theorem Rolls.bind {p : Program (World τ) ℕ} {f : ℕ → Program (World τ) ℕ} {w : World τ} {first second : List Draw} {n m : ℕ}
    (hp : Rolls p w first n) (hf : Rolls (f n) (w.afterDraws first.length) second m) : Rolls (p >>= f) w (first ++ second) m := by
  intro stops
  rw [advance_bind_of_ended (hp stops), hf stops, Advance.following, World.afterDraws_afterDraws, notesOf, notesOf, notesOf,
    List.map_append, List.length_append]

theorem rolls_drawWithin (low high : ℕ) (w : World τ) :
    let n := low + w.nextDraw.1 % (high - low + 1)
    Rolls (Service.drawWithin low high) w [.within low high n] n := by
  intro n stops
  rw [List.length_singleton, ← World.snd_nextDraw]
  rfl

/-- What is drawn from a range that holds a number lies in it. -/
theorem exists_rolls_drawWithin {low high : ℕ} (h : low ≤ high) (w : World τ) :
    ∃ n x, Rolls (Service.drawWithin low high) w [x] n ∧ x.IsInRange ∧ low ≤ n ∧ n ≤ high := by
  have hlt : w.nextDraw.1 % (high - low + 1) < high - low + 1 := Nat.mod_lt _ (Nat.succ_pos _)
  have hlow : low ≤ low + w.nextDraw.1 % (high - low + 1) := Nat.le_add_right low _
  have hhigh : low + w.nextDraw.1 % (high - low + 1) ≤ high := by omega
  exact ⟨_, _, rolls_drawWithin low high w, ⟨low, high, _, rfl, h, hlow, hhigh⟩, hlow, hhigh⟩

/-- Any number of a range may be drawn from it. -/
theorem rolls_drawWithin_of_mem {low high n : ℕ} (hlow : low ≤ n) (hhigh : n ≤ high) {w : World τ} {script : List ℕ}
    (hdraws : w.draws = (n - low) :: script) : ∃ x, Rolls (Service.drawWithin low high) w [x] n := by
  have hnext : low + w.nextDraw.1 % (high - low + 1) = n := by
    have hfirst : w.nextDraw.1 = n - low := by rw [World.nextDraw, hdraws]
    rw [hfirst, Nat.mod_eq_of_lt (by omega)]
    omega
  have hrolls := rolls_drawWithin low high w
  rw [hnext] at hrolls
  exact ⟨_, hrolls⟩

namespace Feature.Chatter
variable (settings : Settings)

/-- The delay before chatter is sent is within its bounds. -/
def IsDelay (d : ℕ) : Prop := settings.delayLower ≤ d ∧ d ≤ max settings.delayLower settings.delayUpper

/-- The least ceiling is the lower bound or a tenth of the upper one, and so not above the upper one. -/
theorem leastCeiling_le (h : ¬ settings.delayUpper ≤ settings.delayLower) :
    max settings.delayLower (settings.delayUpper / 10) ≤ settings.delayUpper := by
  omega

theorem exists_rolls_drawDelay (w : World τ) :
    ∃ d draws, Rolls (drawDelay settings) w draws d ∧ IsDelay settings d ∧ ∀ x ∈ draws, x.IsInRange := by
  rw [drawDelay]
  split
  · exact ⟨_, [], rolls_pure _ w, ⟨Nat.le_refl _, Nat.le_max_left _ _⟩, by simp⟩
  · rename_i hbounds
    obtain ⟨ceiling, x, hfirst, hx, hlow, hhigh⟩ := exists_rolls_drawWithin (leastCeiling_le settings hbounds) w
    have hrange : settings.delayLower ≤ ceiling := Nat.le_trans (Nat.le_max_left _ _) hlow
    obtain ⟨d, y, hsecond, hy, hlower, hupper⟩ := exists_rolls_drawWithin hrange (w.afterDraws [x].length)
    exact ⟨d, [x] ++ [y], hfirst.bind hsecond, ⟨hlower, by omega⟩, by simp [hx, hy]⟩

theorem exists_script_of_isDelay {d : ℕ} (h : IsDelay settings d) (w : World τ) :
    ∃ script draws, Rolls (drawDelay settings) { w with draws := script } draws d := by
  obtain ⟨hlower, hupper⟩ := h
  rw [drawDelay]
  split
  · rename_i hbounds
    obtain rfl : settings.delayLower = d := by omega
    exact ⟨[], [], rolls_pure _ _⟩
  · rename_i hbounds
    -- The first draw makes the upper bound the ceiling, so that the second may give any delay.
    let script := [settings.delayUpper - max settings.delayLower (settings.delayUpper / 10), d - settings.delayLower]
    obtain ⟨x, hfirst⟩ := rolls_drawWithin_of_mem (w := { w with draws := script }) (leastCeiling_le settings hbounds)
      (Nat.le_refl _) rfl
    have hceiling : d ≤ settings.delayUpper := by omega
    obtain ⟨y, hsecond⟩ := rolls_drawWithin_of_mem (w := World.afterDraws { w with draws := script } [x].length) hlower hceiling
      rfl
    exact ⟨script, [x] ++ [y], hfirst.bind hsecond⟩

theorem advance_chooseDelay {w : World τ} {draws : List Draw} {d : ℕ} (h : Rolls (drawDelay settings) w draws d)
    (stops : Pause → Bool) :
    (chooseDelay settings : Program (World τ) ℕ).advance stops w =
      ⟨notesOf draws, w.afterDraws draws.length, .ended ((checkSeconds d).map fun _ => d)⟩ := by
  have hchecked : (do Program.ofExcept (checkSeconds d); return d : Program (World τ) ℕ) =
      .ofExcept ((checkSeconds d).map fun _ => d) := by
    cases checkSeconds d <;> rfl
  rw [chooseDelay, advance_bind_of_ended (h stops), hchecked, advance_ofExcept, Advance.following, List.append_nil]

/-- Whatever numbers come up, the draws for a delay are from ranges that hold a number, and the delay is within its bounds; only then it is
looked whether it can be waited for. Any delay within the bounds may come up. -/
theorem delay_stays_in_range (settings : Settings) :
    (∀ w : World τ, ∃ (d : ℕ) (draws : List Draw), IsDelay settings d ∧ (∀ x ∈ draws, x.IsInRange) ∧ ∀ stops,
      (drawDelay settings).slice stops w = ⟨notesOf draws, w.afterDraws draws.length, .done d⟩ ∧
        (chooseDelay settings).slice stops w =
          ⟨notesOf draws, w.afterDraws draws.length, .ofExcept ((checkSeconds d).map fun _ => d)⟩) ∧
      ∀ (w : World τ) (d : ℕ), IsDelay settings d →
        ∃ script, ∀ stops, ((drawDelay settings).slice stops { w with draws := script }).rest = .done d := by
  refine ⟨fun w => ?_, fun w d hd => ?_⟩
  · obtain ⟨d, draws, hrolls, hd, hdraws⟩ := exists_rolls_drawDelay settings w
    refine ⟨d, draws, hd, hdraws, fun stops => ⟨hrolls.slice stops, ?_⟩⟩
    rw [slice_eq_advance, advance_chooseDelay settings hrolls stops]
    rfl
  · obtain ⟨script, draws, hrolls⟩ := exists_script_of_isDelay settings hd w
    exact ⟨script, fun stops => by rw [hrolls.slice stops]⟩

end Feature.Chatter
end ChatBot
