import ChatBot.Assoc
import ChatBot.Scalar
import ChatBot.Template.Basic

/-!
What placeholders stand for. An environment binds keys to values, which are known at once or computed when a key is
resolved. Applying a template resolves each key of the body once, in order of first appearance, and replaces its
placeholders; a placeholder without a binding stays as it is.
-/
set_option autoImplicit false

namespace ChatBot.Template

/-- A value that is known or has to be computed. -/
inductive Resolvable (m : Type → Type) where
  | known (value : Scalar)
  | computed (value : m Scalar)

/-- Keys and what they are bound to. -/
abbrev Environment (m : Type → Type) := Assoc Text (Resolvable m)

variable {m : Type → Type} [Monad m]

def Resolvable.value : Resolvable m → m Scalar
  | known value => pure value
  | computed value => value

/-- The text a key stands for, if it is bound. -/
def Environment.resolve? (env : Environment m) (key : Text) : m (Option Text) :=
  match env.find? key with
  | none => pure none
  | some bound => do return some (← bound.value).toText

/-- Replaces the placeholders of the keys, one key after the other. -/
def Environment.fill (env : Environment m) : List Text → Text → m Text
  | [], body => pure body
  | key :: keys, body => do
    match ← env.resolve? key with
    | none => fill env keys body
    | some value => fill env keys (Text.replaceAll (placeholder key) value body)

/-- The body with its placeholders filled in. -/
def apply (template : Template) (env : Environment m) : Except TemplateError (m Text) :=
  (keys template.body).map fun keys => env.fill keys.eraseDups template.body

end ChatBot.Template
