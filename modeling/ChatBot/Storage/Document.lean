import ChatBot.Json.Printer
import ChatBot.Json.Reader
import ChatBot.Note
import ChatBot.Storage.Entries
import ChatBot.Storage.FileSystem

/-!
The file that custom responses are kept in: a JSON object that gives each channel an object whose member `commands` maps
names to bodies. Members of any other shape are passed over when a file is read, and so are bodies that are not well formed;
the latter are noted.
-/
set_option autoImplicit false

namespace ChatBot.Storage

/-- A body that was passed over because it is not well formed. -/
structure Skipped where
  channel : Text
  name : Text
  error : TemplateError
  deriving DecidableEq, Repr

def Skipped.note (s : Skipped) : Note :=
  .warning ("store.load.skip channel=" ++ s.channel ++ " name=" ++ s.name ++ " error=" ++ s.error.message)

namespace Entries

/-! ## Writing -/

/-- The name of the member that holds a channel's responses. -/
def commandsMember : Text := "commands"

def channelDocument (templates : Assoc Text Template) : Json :=
  .object [(commandsMember, .object (templates.map fun (name, template) => (name, .string template.body)))]

def document (entries : Entries) : Json :=
  .object (entries.map fun (c, templates) => (c, channelDocument templates))

/-! ## Reading -/

/-- The responses among the members of a channel's `commands`, and what was passed over. -/
def ofCommands (c : Text) : List (Text × Json) → Assoc Text Template × List Skipped
  | [] => ([], [])
  | (name, .string body) :: members =>
    let (templates, skipped) := ofCommands c members
    match Template.compile name body with
    | .ok template => ((name, template) :: templates, skipped)
    | .error error => (templates, ⟨c, name, error⟩ :: skipped)
  | _ :: members => ofCommands c members

/-- The members of a channel's `commands`, if the channel has the shape of one. -/
def commandsOf? : Json → Option (List (Text × Json))
  | .object members =>
    match Json.member? members commandsMember with
    | some (.object commands) => some commands
    | _ => none
  | _ => none

def ofMembers : List (Text × Json) → Entries × List Skipped
  | [] => ([], [])
  | (c, value) :: members =>
    let (entries, skipped) := ofMembers members
    match commandsOf? value with
    | none => (entries, skipped)
    | some commands =>
      let (templates, passed) := ofCommands c commands
      ((c, templates) :: entries, passed ++ skipped)

/-- The responses in a document; none in one that is no object. -/
def ofDocument : Json → Entries × List Skipped
  | .object members => ofMembers members
  | _ => ([], [])

/-! ## Files -/

/-- The note about a file that could not be read. -/
def loadErrorNote (p : FilePath) (fault : Fault) : Note := .error ("store.load.error path=" ++ p.toText) (some fault)

/-- The responses in the text of a file. A text that is no JSON is noted and counts as empty. -/
def ofFileText (runtime : Runtime) (p : FilePath) (text : Text) : Except Fault (Entries × List Note) :=
  match Json.read runtime text with
  | .error failure =>
    match Fault.ofLimit? failure with
    | some fault => .error fault
    | none => .ok ([], [loadErrorNote p (.document (failure.message text))])
  | .ok document =>
    let (entries, skipped) := ofDocument document
    .ok (entries, skipped.map Skipped.note)

/-- The responses kept at a path, with the notes made on the way. Nothing is kept where there is no file; a directory is noted
and counts as empty; bytes that are no text are a failure. -/
def load (runtime : Runtime) (fs : FileSystem) (p : FilePath) : Except Fault (Entries × List Note) :=
  match fs.node? p with
  | .error fault => .error (.file fault)
  | .ok none => .ok ([], [])
  | .ok (some .directory) => .ok ([], [loadErrorNote p (.file .isDirectory)])
  | .ok (some (.file bytes)) =>
    match FileSystem.readText? bytes with
    | none => .error .encoding
    | some text => ofFileText runtime p text

/-- Writes the responses to a path and makes the directories above it. -/
def save (entries : Entries) (runtime : Runtime) (refusal : Option FileSystem.Refusal) (fs : FileSystem) (p : FilePath) :
    Except Fault Unit × FileSystem :=
  fs.writeText runtime p (Json.print entries.document) refusal

end Entries
end ChatBot.Storage
