import ChatBot.Json.Basic

/-!
The families of errors that the bot itself reports. Families nest: an error belongs to its own family and to every wider
one. A family of usage errors has a text of its own, which stands when an error is given none.
-/
set_option autoImplicit false

namespace ChatBot

inductive ErrorFamily where
  | application
  | value
  | usage
  | missingName
  | duplicateKey
  | badKey
  | requiredTooLate
  | optionalTooLate
  | secondFlexible
  | configuration
  | duplicateCommand
  | template
  deriving DecidableEq, Repr

namespace ErrorFamily

def all : List ErrorFamily :=
  [application, value, usage, missingName, duplicateKey, badKey, requiredTooLate, optionalTooLate, secondFlexible,
   configuration, duplicateCommand, template]

/-- The families directly above one. -/
def parents : ErrorFamily → List ErrorFamily
  | application | value => []
  | usage => [application, value]
  | configuration | template => [application]
  | duplicateCommand => [configuration]
  | missingName | duplicateKey | badKey | requiredTooLate | optionalTooLate | secondFlexible => [usage]

/-- The family itself and all wider ones; the nesting is at most three deep. -/
def lineage (f : ErrorFamily) : List ErrorFamily := f :: f.parents ++ f.parents.flatMap parents

/-- The text of an error that is given none. -/
def standingText : ErrorFamily → Text
  | usage => "invalid command"
  | missingName => "a command must be provided"
  | badKey => "only alphanumeric keys are allowed"
  | requiredTooLate => "required cannot follow optional or flexible"
  | optionalTooLate => "optional cannot follow flexible"
  | secondFlexible => "only a single flexible argument can exist"
  | _ => []

/-- The text of an error of this family that was given `text`; a repeated key is given as the text. -/
def describe (f : ErrorFamily) (text : Text) : Text :=
  match f with
  | duplicateKey => "duplicate key found: " ++ text
  | _ => if text.isEmpty then f.standingText else text

/-- The text of an error of this family that was given values, if the family takes so many: a repeated key is one value, any
other usage error takes one at most, and several values are listed. -/
def describeAll? (f : ErrorFamily) (values : List Json) : Option Text :=
  if f = duplicateKey then
    match values with
    | [key] => some (f.describe key.spoken)
    | _ => none
  else if f.lineage.contains usage then
    match values with
    | [] => some f.standingText
    | [v] => some (f.describe (if v.isGiven then v.spoken else []))
    | _ => none
  else
    match values with
    | [] => some []
    | [v] => some v.spoken
    | vs => some ('(' :: Json.quotedItems vs ++ [')'])

theorem lineage_closed (f g : ErrorFamily) (h : g ∈ f.lineage) : ∀ p ∈ g.parents, p ∈ f.lineage := by
  cases f <;> cases g <;> revert h <;> decide

end ErrorFamily
end ChatBot
