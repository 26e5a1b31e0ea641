import ChatBot.Command.Registry
import ChatBot.World

/-!
A feature brings commands, each declared by a usage line, and passive handlers, which see every message.
-/
set_option autoImplicit false

namespace ChatBot.Feature

/-- A command as a feature declares it. -/
structure Declaration (σ : Type) where
  usage : Text
  elevated : Bool
  handler : Command.Handler σ

/-- A handler that sees every message. -/
structure PassiveHandler (σ : Type) where
  name : Text
  handle : Message → Program σ Unit

end ChatBot.Feature
