import ChatBot.Assoc
import ChatBot.Fault
import ChatBot.Runtime
import ChatBot.Storage.FilePath

/-!
Files as far as the bot needs them: directories and files with their bytes. A path is walked part by part, so every part but
the last must lead to a directory, also one that the path steps back from. Text files hold UTF-8, and any of the usual line ends
is read as a line feed. A file is emptied when it is opened to be written, so a write that breaks off leaves it cut short.
-/
set_option autoImplicit false

namespace ChatBot.Storage

inductive FileNode where
  | directory
  | file (bytes : ByteArray)

/-- What stands at each path without steps back that can be undone. -/
structure FileSystem where
  nodes : Assoc FilePath FileNode

namespace FileSystem

def empty : FileSystem := ⟨[]⟩

def encode (t : Text) : ByteArray := (String.ofList t).toUTF8

/-! ## Looking up -/

/-- The greatest number of bytes in one part of a path, and one more than in a whole one. -/
def longestName : Nat := 255
def pathLimit : Nat := 4096

/-- Where a path leads and what stands there. -/
structure Place where
  path : FilePath
  node : Option FileNode

/-- Walks on from a directory. -/
def walk (fs : FileSystem) (here : FilePath) : List Text → Except FileFault Place
  | [] => .ok ⟨here, some .directory⟩
  | name :: names =>
    if name = FilePath.back then fs.walk here.above names
    else if longestName < (encode name).size then .error .nameTooLong
    else match fs.nodes.find? (here.child name) with
      | some .directory => fs.walk (here.child name) names
      | some node => if names.isEmpty then .ok ⟨here.child name, some node⟩ else .error .notDirectory
      | none => if names.isEmpty then .ok ⟨here.child name, none⟩ else .error .missing

/-- A path with a zero character in it is no path: it is refused before the files are asked. -/
def zeroCharacter : Fault := .value "embedded null byte"

/-- Where a path leads. The working directory and the roots are always there. -/
def locate (fs : FileSystem) (p : FilePath) : Except Fault Place :=
  if p.toText.contains (Char.ofNat 0) then .error zeroCharacter
  else if pathLimit ≤ (encode p.toText).size then .error (.file .nameTooLong)
  else (fs.walk p.start p.parts).mapError .file

/-- What stands at a path. A path that cannot lead anywhere has nothing at it, unless a name is too long to be looked up. -/
def node? (fs : FileSystem) (p : FilePath) : Except FileFault (Option FileNode) :=
  match fs.locate p with
  | .ok place => .ok place.node
  | .error (.file .nameTooLong) => .error .nameTooLong
  | .error _ => .ok none

/-! ## Changing -/

/-- Makes a directory, unless it is there. -/
def makeDirectory (fs : FileSystem) (p : FilePath) : Except Fault FileSystem := do
  let place ← fs.locate p
  match place.node with
  | some .directory => .ok fs
  | some (.file _) => .error (.file .alreadyExists)
  | none => .ok ⟨fs.nodes.insert place.path .directory⟩

/-- Makes the directory with the given parts, last one first, after the directories it needs. -/
def makeWithAbove (fs : FileSystem) (root : Text) : List Text → Except Fault FileSystem
  | [] => .ok fs
  | name :: names =>
    let p : FilePath := ⟨root, (name :: names).reverse⟩
    match fs.makeDirectory p with
    | .error (.file .missing) => do (← fs.makeWithAbove root names).makeDirectory p
    | made => made

/-- Makes a directory and those above it that are missing. -/
def makeDirectories (fs : FileSystem) (p : FilePath) : Except Fault FileSystem :=
  fs.makeWithAbove p.root p.parts.reverse

/-- Puts bytes into a file whose directory is there. -/
def writeBytes (fs : FileSystem) (p : FilePath) (bytes : ByteArray) : Except Fault FileSystem := do
  let place ← fs.locate p
  match place.node with
  | some .directory => .error (.file .isDirectory)
  | _ => .ok ⟨fs.nodes.insert place.path (.file bytes)⟩

/-! ## Text files -/

/-- Line ends of every kind as line feeds. -/
def unifyLineEnds : Text → Text
  | [] => []
  | '\r' :: '\n' :: t => '\n' :: unifyLineEnds t
  | c :: t => (if c = '\r' then '\n' else c) :: unifyLineEnds t

/-- The text that bytes stand for, if they are UTF-8. -/
def decode? (bytes : ByteArray) : Option Text := (String.fromUTF8? bytes).map String.toList

/-- The text of a file, line ends unified. -/
def readText? (bytes : ByteArray) : Option Text := (decode? bytes).map unifyLineEnds

/-- The text of the file at a path; nothing when no file of text stands there. -/
def textAt? (fs : FileSystem) (p : FilePath) : Option Text :=
  match fs.node? p with
  | .ok (some (.file bytes)) => readText? bytes
  | _ => none

/-! ## Putting things there -/

/-- Puts something at a path and makes the directories above it. -/
def put (fs : FileSystem) (p : FilePath) : FileNode → Except Fault FileSystem
  | .directory => fs.makeDirectories p
  | .file bytes => do (← fs.makeDirectories p.parent).writeBytes p bytes

/-- How a write fails for no fault of the bot: before the file is opened, or when so many bytes are in it. -/
inductive Refusal where
  | opening (fault : FileFault)
  | writing (fault : FileFault) (count : Nat)
  deriving DecidableEq, Repr

/-- How writing a text to a file ends that has been opened, and the bytes that are in the file then. A text with half a
character in it is not even begun. -/
def written (runtime : Runtime) (refusal : Option Refusal) (t : Text) : Except Fault Unit × ByteArray :=
  if t.any runtime.isHalf then (.error .unencodable, .empty)
  else match refusal with
    | some (.writing fault count) => (.error (.file fault), (encode t).extract 0 count)
    | _ => (.ok (), encode t)

/-- Writes a text to a path and makes the directories above it. When the file cannot be opened it is as it was, and directories
that were made for it are not told of. -/
def writeText (fs : FileSystem) (runtime : Runtime) (p : FilePath) (t : Text) (refusal : Option Refusal) :
    Except Fault Unit × FileSystem :=
  match refusal with
  | some (.opening fault) => (.error (.file fault), fs)
  | _ =>
    let (result, bytes) := written runtime refusal t
    match fs.put p (.file bytes) with
    | .ok files => (result, files)
    | .error fault => (.error fault, fs)

/-- A file system with a node at each path, as far as they can stand together. -/
def ofList (nodes : List (FilePath × FileNode)) : FileSystem :=
  nodes.foldl (fun fs (p, node) => (fs.put p node).toOption.getD fs) empty

end FileSystem
end ChatBot.Storage
