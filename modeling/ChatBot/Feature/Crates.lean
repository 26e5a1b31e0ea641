import ChatBot.Feature.Basic
import ChatBot.Service.Request
import ChatBot.Settings.Basic
import ChatBot.Text.Blank

/-!
Looking up crates in a package index. The index answers a query with a list of crates, of which the first is summed up in
chat.
-/
set_option autoImplicit false

namespace ChatBot.Feature

structure Crate where
  name : Text
  maxVersion : Text
  description : Option Text
  repository : Option Text
  deriving DecidableEq, Repr

namespace Crate

/-! ## Reading -/

/-- The text of a member, if it is a text. -/
def textMember? (members : List (Text × Json)) (name : Text) : Option Text :=
  match Json.member? members name with
  | some (.string t) => some t
  | _ => none

/-- A member that must be there, as it is said in chat. -/
def spokenMember (members : List (Text × Json)) (name : Text) : Except Fault Text :=
  match Json.member? members name with
  | some v => .ok v.spoken
  | none => .error (.missingKey name)

/-- The crate that an item of the answer describes. -/
def ofJson : Json → Except Fault Crate
  | .object members => do
    let name ← spokenMember members "name"
    let maxVersion ← spokenMember members "max_version"
    return ⟨name, maxVersion, textMember? members "description", textMember? members "repository"⟩
  | v => .error (.noMember v.kindName "get")

/-- The items of the answer, taken in order: an object has its names for items, a text its characters. -/
def itemsOf : Json → Except Fault (List Json)
  | .array items => .ok items
  | .object members => .ok (members.map fun m => .string m.1)
  | .string t => .ok (t.map fun c => .string [c])
  | v => .error (.wrongKind v.kindName)

/-- The crates in an answer; an answer without a list of them has none. -/
def ofAnswer : Json → Except Fault (List Crate)
  | .object members => do
    let items ← itemsOf ((Json.member? members "crates").getD (.array []))
    items.mapM ofJson
  | v => .error (.noMember v.kindName "get")

/-! ## Saying -/

/-- The longest description that is said in full. -/
def longestDescription : Int := 400

/-- The lines of a description that are not blank, trimmed, on one line. -/
def flatten (description : Text) : Text :=
  Text.join [' '] (((Text.lines description).filter fun line => !(Text.trim line).isEmpty).map Text.trim)

/-- Name and version, and the description if there is one. -/
def summary (c : Crate) : Text :=
  c.name ++ " = " ++ c.maxVersion ++
    match c.description with
    | none => []
    | some d => if d.isEmpty then [] else " | " ++ Text.shrink longestDescription (flatten d)

def docsUrl (c : Crate) : Text := "https://docs.rs/" ++ c.name ++ '/' :: c.maxVersion ++ '/' :: c.name

end Crate

namespace Crates
variable {τ : Type}

/-- The address that answers a query. -/
def address (query : Text) : Text :=
  "https://crates.io/api/v1/crates?" ++ Service.query [("page", ['1']), ("per_page", ['1']), (['q'], query)]

/-- The crates that the index finds. -/
def lookup (query : Text) (timeout : Scalar) : Program (World τ) (List Crate) := do
  let query ← Program.ofExcept (Service.encodable (← Program.get).runtime query)
  let answer ← (Service.getJson (address query) .null timeout).during .search
  (Program.ofExcept (Crate.ofAnswer answer)).during .listing

/-- Whether a failed lookup is answered in chat. -/
def isAnswered (fault : Fault) : Bool :=
  match fault.cause with
  | .request _ _ | .missingKey _ | .noMember _ _ => true
  | _ => false

/-- Says what was found. -/
def present (query : Text) : List Crate → Program (World τ) Unit
  | [] => Program.reply ("I cannot find anything for '" ++ query ++ ['\''])
  | found :: _ => do
    Program.say found.summary
    match found.repository with
    | some address => if address.isEmpty then pure () else Program.say ("repository: " ++ address)
    | none => pure ()
    Program.say ("documentation: " ++ found.docsUrl)

def handle (settings : Settings) : Command.Handler (World τ) := fun args _ => do
  let query ← args.get "crate"
  match ← ((lookup query (.float settings.httpTimeout)).during .lookup).attempt with
  | .ok crates => present query crates
  | .error fault =>
    if isAnswered fault then do
      Program.record (.error ("crates.lookup.error query=" ++ query ++ " error=" ++ fault.message) none)
      Program.reply "I cannot do a lookup on crates.io :("
    else Program.fail fault

def commands (settings : Settings) : List (Declaration (World τ)) :=
  ["crate <crate>", "crates <crate>", "lookup <crate>"].map fun (usage : String) =>
    ⟨settings.usage usage, false, handle settings⟩

end Crates
end ChatBot.Feature
