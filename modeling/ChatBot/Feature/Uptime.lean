import ChatBot.Duration
import ChatBot.Feature.Basic
import ChatBot.Service.Clock
import ChatBot.Settings.Basic

/-!
How long the bot has been running.
-/
set_option autoImplicit false

namespace ChatBot.Feature.Uptime
variable {τ : Type} [Instant τ]

omit [Instant τ] in
/-- A number of whole seconds in words. -/
def inWords (seconds : Int) : Except Fault Text := do
  let elapsed ← Duration.words seconds
  return if elapsed.isEmpty then "less than a second" else elapsed

def handle (started : τ) : Command.Handler (World τ) := fun _ _ => do
  let now ← Service.readClock
  let seconds ← Program.ofExcept (Instant.secondsBetween started now)
  let elapsed ← Program.ofExcept (inWords seconds)
  Program.say ("I've been running for " ++ elapsed ++ ['.'])

def commands (settings : Settings) (started : τ) : List (Declaration (World τ)) :=
  [⟨settings.usage "uptime", false, handle started⟩]

end ChatBot.Feature.Uptime
