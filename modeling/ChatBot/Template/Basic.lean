import ChatBot.Text.Basic

/-!
Templates with placeholders such as `${name}`. A body is well formed when every `${` opens a placeholder that a brace
closes, with a key between them that is not empty and holds no brace. `keys` reads the placeholders and refuses every
other body.
-/
set_option autoImplicit false

namespace ChatBot

/-- Why a body is not well formed. -/
inductive TemplateError where
  | nested
  | empty
  | unterminated
  deriving DecidableEq, Repr

def TemplateError.message : TemplateError → Text
  | nested => "nested templates are not allowed"
  | empty => "empty templates are not allowed"
  | unterminated => "non-terminated template found"

/-- A body under a name. -/
structure Template where
  name : Text
  body : Text
  deriving DecidableEq, Repr

namespace Template

/-- Reads the keys from here on. `opened` is the key read so far, backwards, when a placeholder is open. -/
def keysFrom (opened : Option Text) : Text → Except TemplateError (List Text)
  | [] => if opened.isSome then .error .unterminated else .ok []
  | '$' :: '\x7b' :: t => if opened.isSome then .error .nested else keysFrom (some []) t
  | c :: t =>
    match opened with
    | none => keysFrom none t
    | some key =>
      if c = '\x7b' then .error .nested
      else if c = '\x7d' then
        if key.isEmpty then .error .empty else (keysFrom none t).map (key.reverse :: ·)
      else keysFrom (some (c :: key)) t

/-- The placeholder keys of a body, in order of appearance. -/
def keys (body : Text) : Except TemplateError (List Text) := keysFrom none body

/-- The written form of a placeholder. -/
def placeholder (key : Text) : Text := '$' :: '\x7b' :: key ++ ['\x7d']

/-- The template with this name and body, if the body is well formed. -/
def compile (name body : Text) : Except TemplateError Template := (keys body).map fun _ => ⟨name, body⟩

end Template
end ChatBot
