import ChatBot.Text.Basic

/-!
What the machinery below the bot settles: how deep the values of a document may nest before reading it gives up, and what becomes
of the lone halves of characters that it lets into texts. A half is one of two code units that make a character together; alone it
is none, so some character has to stand for it. Which characters those are is settled here, for nothing can be encoded that holds
one of them.
-/
set_option autoImplicit false

namespace ChatBot

structure Runtime where
  /-- The greatest number of arrays and objects around a value of a document. -/
  deepestNesting : Nat := 980
  /-- A value can be read that is as deep in its document as a custom response. -/
  roomy : 3 ≤ deepestNesting := by decide
  /-- The character that stands for a lone half of a character, by the half's code unit. -/
  half : Nat → Char := fun _ => Char.ofNat 0xFFFD
  /-- The characters that stand for a lone half wherever they are met. -/
  isHalf : Char → Bool := fun _ => false

namespace Runtime

/-- All halves are the character for what is unreadable, so every text can be encoded. -/
def plain : Runtime := {}

/-- The character of a code point, or the one that stands for a half. -/
def character (runtime : Runtime) (code : Nat) : Char :=
  if 0xD800 ≤ code && code < 0xE000 then runtime.half code else Char.ofNat code

/-- The first of as many private characters as there are halves. -/
def firstStandIn : Nat := 0x10F800

/-- Each half has a private character to stand for it. These characters have no other use: a text that has one for its own sake is
taken for a text with the half. -/
def withHalves : Runtime where
  half unit := Char.ofNat (firstStandIn + (unit - 0xD800))
  isHalf c := firstStandIn ≤ c.toNat

variable (runtime : Runtime)

@[simp] theorem character_toNat (c : Char) : runtime.character c.toNat = c := by
  have hplain : ¬(decide (0xD800 ≤ c.toNat) && decide (c.toNat < 0xE000)) = true := by
    rw [Bool.and_eq_true, decide_eq_true_eq, decide_eq_true_eq]
    rcases c.valid with hbelow | ⟨habove, -⟩
    · have : c.toNat < 0xD800 := hbelow
      omega
    · have : 0xDFFF < c.toNat := habove
      omega
  rw [character, if_neg hplain, Char.ofNat_toNat]

theorem toNat_ofNat {n : Nat} (h : n.isValidChar) : (Char.ofNat n).toNat = n := by
  rw [Char.ofNat, dif_pos h]
  rfl

theorem toNat_half_withHalves {unit : Nat} (hfirst : 0xD800 ≤ unit) (hlast : unit < 0xE000) :
    (withHalves.half unit).toNat = firstStandIn + (unit - 0xD800) := by
  have hvalid : (firstStandIn + (unit - 0xD800)).isValidChar := by
    right
    simp only [firstStandIn]
    omega
  simp only [withHalves, toNat_ofNat hvalid]

theorem isHalf_withHalves_iff {c : Char} : withHalves.isHalf c = true ↔ firstStandIn ≤ c.toNat := by
  simp only [withHalves, decide_eq_true_eq]

/-- Halves are told from other characters and from each other. -/
theorem withHalves_half_eq_iff {unit : Nat} (hfirst : 0xD800 ≤ unit) (hlast : unit < 0xE000) :
    withHalves.isHalf (withHalves.half unit) = true ∧
      ∀ other, 0xD800 ≤ other → other < 0xE000 → (withHalves.half other = withHalves.half unit ↔ other = unit) := by
  have hunit := toNat_half_withHalves hfirst hlast
  refine ⟨?_, fun other hother hother' => ⟨fun heq => ?_, fun heq => by rw [heq]⟩⟩
  · rw [isHalf_withHalves_iff, hunit]
    exact Nat.le_add_right _ _
  · have hsame := congrArg Char.toNat heq
    rw [hunit, toNat_half_withHalves hother hother'] at hsame
    omega

end Runtime
end ChatBot
