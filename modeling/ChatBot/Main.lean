import ChatBot.CommandLine.Execution

/-!
The program. It holds conversations line by line, so that responses appear as soon as there are any; files are read before the
first line and written after every line that changes them. Services are out of its reach.
-/
set_option autoImplicit false

namespace ChatBot.Main
open CommandLine Storage

/-! ## Surroundings -/

/-- The variables of the environment, as far as the system tells them. -/
def readEnvironment : IO (Assoc Text Text) := do
  try
    let bytes ← IO.FS.readBinFile "/proc/self/environ"
    let entries := Text.splitOn (Char.ofNat 0) ((FileSystem.decode? bytes).getD [])
    return entries.map fun entry =>
      let (name, value) := cutAtEquals entry
      (name, value.getD [])
  catch _ => return []

/-- What stands at a path; a directory can be opened but not read. -/
def readNode (p : FilePath) : IO (Option FileNode) := do
  let name := String.ofList p.toText
  try return some (.file (← IO.FS.readBinFile name))
  catch _ =>
    try
      let _ ← IO.FS.Handle.mk name .read
      return some .directory
    catch _ => return none

/-- What stands at paths and above them. -/
def readFiles (paths : List FilePath) : IO FileSystem := do
  let nodes ← (paths.flatMap fun p => p.passed ++ [p]).mapM fun p => do
    return (p, ← readNode p)
  return FileSystem.ofList (nodes.filterMap fun (p, node) => node.map fun n => (p, n))

/-- Writes a file if it has changed. -/
def writeChanged (p : FilePath) (before after : FileSystem) : IO Unit := do
  match after.textAt? p with
  | none => return ()
  | some text =>
    if before.textAt? p != some text then
      IO.FS.createDirAll (String.ofList p.parent.toText)
      IO.FS.writeBinFile (String.ofList p.toText) (FileSystem.encode text)

/-- How many random draws a single message may take. -/
def drawsPerMessage : Nat := 32

def makeDraws : IO (List Nat) := (List.range drawsPerMessage).mapM fun _ => IO.rand 0 1000000

/-- An id that no message bears yet. -/
def makeId : IO Text := do
  let halves ← (List.range 2).mapM fun _ => IO.rand 0 0xFFFFFFFFFFFFFFFF
  return halves.flatMap (Text.hexadecimal 16)

def readClock : IO Milliseconds := return ⟨(← IO.monoMsNow : Nat)⟩

/-! ## Conversations -/

def printText (t : Text) : IO Unit := do
  let output ← IO.getStdout
  output.putStr (String.ofList t)
  output.flush

def printEvents (c : Conversation Milliseconds) (t : Channel.Traffic Milliseconds) : IO Unit :=
  printText (t.events.flatMap (printEvent c))

/-- Handles lines until the input or the session ends. -/
partial def converse (c : Conversation Milliseconds) (input : IO.FS.Stream) (t : Channel.Traffic Milliseconds) :
    IO (Channel.Traffic Milliseconds) := do
  let line ← input.getLine
  if line.isEmpty then return t
  let world := { t.world with clock := ← readClock, draws := ← makeDraws }
  let id ← makeId
  let talk : Channel.Console.Talk Milliseconds := ⟨fun _ => id, { t with world }⟩
  match Channel.Console.hear c.bot.answering Channel.Console.manager.bus c.console line.toList talk with
  | none => return t
  | some ⟨_, heard⟩ =>
    printEvents c heard
    writeChanged c.bot.settings.commandsFile t.world.files heard.world.files
    converse c input { heard with events := [] }

def failWith (message : Text) (code : UInt32) : IO UInt32 := do
  (← IO.getStderr).putStrLn (String.ofList message)
  return code

/-- Holds a conversation on standard input. -/
def hold (options : RunOptions) : IO UInt32 := do
  let environment ← readEnvironment
  let directory := Settings.directoryOf (options.workspace.map FilePath.ofText)
  let assignments := (Settings.assignmentsPath environment directory).toOption.toList
  let files ← readFiles assignments
  let files ← match options.settings .plain environment files with
    | .error _ => pure files
    | .ok settings => readFiles (assignments ++ [settings.commandsFile])
  match prepare options
      { environment, files, clock := ← readClock, replies := [], draws := [], input := [] } with
  | .error crash => failWith crash.message 1
  | .ok c =>
    printText (c.started.flatMap (printRecord c))
    let opening := Channel.Console.opening c.console c.world
    printEvents c opening
    let t ← converse c (← IO.getStdin) { opening with events := [] }
    printEvents c (t.note Channel.Console.stoppedNote)
    return 0

/-- Prints an outcome that leaves the files alone. -/
def report (outcome : Outcome) : IO UInt32 := do
  printText outcome.output
  match outcome.ending with
  | .exits code => return code.toUInt32
  | .misused error => failWith error.message 2
  | .crashes crash => failWith crash.message 1

end ChatBot.Main

open ChatBot ChatBot.CommandLine in
def main (arguments : List String) : IO UInt32 := do
  IO.setRandSeed (← IO.monoNanosNow)
  let texts := arguments.map String.toList
  match Invocation.ofTexts texts with
  | .ok (.run options) => Main.hold options
  | _ =>
    Main.report (execute texts
      ({ environment := [], files := .empty, clock := ⟨0⟩, replies := [], draws := [], input := [] } :
        Surroundings Milliseconds))
