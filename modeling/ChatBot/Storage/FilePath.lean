import ChatBot.Text.Basic

/-!
File paths in their normal form: a root, which is empty for a relative path, and the parts between the slashes without
empty ones and without single dots. Two dots stay, for what they lead to depends on the files.
-/
set_option autoImplicit false

namespace ChatBot.Storage

structure FilePath where
  root : Text
  parts : List Text
  deriving DecidableEq, Repr

namespace FilePath

/-- The path a text stands for; exactly two slashes at its start are a root of their own. -/
def ofText (t : Text) : FilePath :=
  let slashes := (t.takeWhile (· == '/')).length
  ⟨List.replicate (if slashes = 2 then 2 else min slashes 1) '/',
    (Text.splitOn '/' t).filter fun part => !part.isEmpty && part != ['.']⟩

def toText (p : FilePath) : Text :=
  if p.root.isEmpty && p.parts.isEmpty then ['.'] else p.root ++ Text.join ['/'] p.parts

def isAbsolute (p : FilePath) : Bool := !p.root.isEmpty

/-- The second path as seen from the first. -/
def join (base p : FilePath) : FilePath := if p.isAbsolute then p else ⟨base.root, base.parts ++ p.parts⟩

/-- The directory that holds the path's last part. -/
def parent (p : FilePath) : FilePath := ⟨p.root, p.parts.dropLast⟩

/-! ## Steps -/

/-- The part that leads back to the directory above. -/
def back : Text := ['.', '.']

/-- The path that begins here, without any part. -/
def start (p : FilePath) : FilePath := ⟨p.root, []⟩

/-- What a name in the directory at a path is called from here. -/
def child (p : FilePath) (name : Text) : FilePath := ⟨p.root, p.parts ++ [name]⟩

/-- The directory above the one at a path without steps back that can be undone; a root is above itself. -/
def above (p : FilePath) : FilePath :=
  match p.parts.getLast? with
  | none => if p.isAbsolute then p else p.child back
  | some last => if last = back then p.child back else p.parent

/-- The paths to the directories that a path leads through, outermost first. -/
def passed (p : FilePath) : List FilePath :=
  (List.range p.parts.length).map fun n => ⟨p.root, p.parts.take n⟩

end FilePath
end ChatBot.Storage
