import ChatBot.World

/-!
Random draws. Every draw takes the next number of the world's script and leaves a note of what it was used for.
-/
set_option autoImplicit false

namespace ChatBot.Service
variable {τ : Type}

/-- A number of thousandths, from none to all. -/
def drawThousandths : Program (World τ) Nat := do
  let n ← Program.update World.nextDraw
  Program.record (.draw (.thousandths (n % 1001)))
  return n % 1001

/-- A number from `low` to `high`. -/
def drawWithin (low high : Nat) : Program (World τ) Nat := do
  let n ← Program.update World.nextDraw
  let result := low + n % (high - low + 1)
  Program.record (.draw (.within low high result))
  return result

/-- One of several texts; nothing is drawn when there are none. -/
def drawChoice (items : List Text) : Program (World τ) (Option Text) :=
  if items.isEmpty then return none
  else do
    let n ← Program.update World.nextDraw
    let place := n % items.length
    Program.record (.draw (.choice items place))
    return items[place]?

end ChatBot.Service
