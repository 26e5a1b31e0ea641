import ChatBot.World

/-!
Reading the world's clock. A clock can be set to an instant at which it cannot be read.
-/
set_option autoImplicit false

namespace ChatBot.Service
variable {τ : Type} [Instant τ]

/-- The present instant. -/
def readClock : Program (World τ) τ := do
  let now ← Program.update World.nextReading
  Program.ofExcept (Instant.check now)
  return now

/-- Notices the present instant as the time of the last chatter. -/
def noticeChatter : Program (World τ) Unit := do
  let _ ← readClock
  Program.modify World.noticeChatter

end ChatBot.Service
