import ChatBot.Decimal.Written

/-!
Single values and the text they are shown as.
-/
set_option autoImplicit false

namespace ChatBot

inductive Scalar where
  | none
  | bool (b : Bool)
  | int (n : Int)
  | float (x : Float)
  | text (t : Text)

namespace Scalar

/-- The two words for truth values. -/
def boolText (b : Bool) : Text := if b then "True" else "False"

/-- The text that stands for a value; nothing stands for no value. -/
def toText : Scalar → Text
  | none => []
  | bool b => boolText b
  | int n => Text.ofInt n
  | float x => Decimal.write x
  | text t => t

end Scalar
end ChatBot
