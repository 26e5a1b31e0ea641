import ChatBot.Json.Reader
import ChatBot.Settings.Basic
import ChatBot.Settings.EnvFile
import ChatBot.Settings.Field
import ChatBot.Storage.FileSystem
import ChatBot.Storage.Home
import ChatBot.Text.Casing

/-!
Where settings come from: values given directly come before the environment, the environment before a file of assignments in
the workspace, and the file before the standard settings. In the environment and the file a setting is found under its name
with `SHAKEN_` before it, in either case.
-/
set_option autoImplicit false

namespace ChatBot.Settings

/-! ## Sources -/

/-- A place where text for settings is looked up. -/
inductive Source where
  | environment
  | file
  deriving DecidableEq, Repr

/-- The name of a source in reports. -/
def Source.name : Source → Text
  | environment => "EnvSettingsSource"
  | file => "DotEnvSettingsSource"

/-- What is wrong with one setting. -/
structure FieldProblem where
  field : Text
  problem : Setting.Problem
  deriving DecidableEq, Repr

inductive Error where
  | unreadable (field : Text) (source : Source)
  | refused (problems : List FieldProblem)
  | fault (f : Fault)
  deriving DecidableEq, Repr

def Error.message : Error → Text
  | unreadable field source =>
    "error parsing value for field \"" ++ field ++ "\" from source \"" ++ source.name ++ ['"']
  | refused problems => Text.join "; " (problems.map fun p => p.field ++ ": " ++ p.problem.refusal.message)
  | fault f => f.message

/-- The settings that a source may give, in the order in which they are reported. -/
def fieldNames : List Text :=
  ["identity", "channels", "leader", "commands_file", "generate_host", "generate_timeout_ms", "delay_lower_ms",
   "delay_upper_ms", "ignore_chance", "http_timeout_seconds", "log_level"]

/-- What stands before the name of a setting. -/
def namePrelude : Text := "shaken_"

/-- Names in lower case; of names that differ only in case the last one counts. -/
def foldCase {β : Type} (values : Assoc Text β) : Assoc Text β := Assoc.ofList (values.map fun (name, v) => (Text.lower name, v))

/-- The value that a source's text gives a setting: the channels are written as JSON, where a null gives nothing. Values that
nest too deep are a fault of their own. -/
def valueOfText (runtime : Runtime) (source : Source) (field text : Text) : Except Error (Option Json) :=
  if field = ("channels" : Text) then
    match Json.read runtime text with
    | .error failure => .error (if failure.violation = .deepNesting then .fault .nesting else .unreadable field source)
    | .ok .null => .ok none
    | .ok v => .ok (some v)
  else .ok (some (.string text))

/-- The values that a source gives. -/
def valuesFrom (runtime : Runtime) (source : Source) (texts : Assoc Text (Option Text)) :
    List Text → Except Error (Assoc Text Json)
  | [] => .ok []
  | field :: fields => do
    let value ← match (foldCase texts).find? (namePrelude ++ field) with
      | some (some text) => valueOfText runtime source field text
      | _ => .ok none
    let rest ← valuesFrom runtime source texts fields
    return match value with
      | some v => (field, v) :: rest
      | none => rest

/-! ## Checking -/

/-- Reads a setting that was given, and takes the standard one otherwise. -/
def check {α : Type} (given : Assoc Text Json) (field : Text) (standard : α) (read : Json → Setting.Checked α) :
    Except (List FieldProblem) α :=
  match given.find? field with
  | none => .ok standard
  | some v => (read v).mapError fun ps => ps.map fun p => ⟨field, p⟩

/-- The problems of a checked setting. -/
def problemsOf {α : Type} : Except (List FieldProblem) α → List FieldProblem
  | .ok _ => []
  | .error ps => ps

/-- The settings that the given values make; all problems are reported together. -/
def ofValues (given : Assoc Text Json) : Except Error Settings :=
  let identity := check given "identity" standard.identity Setting.readText
  let channels := check given "channels" standard.channels Setting.readTextList
  let leader := check given "leader" standard.leader Setting.readLeader
  let commandsFile := check given "commands_file" standard.commandsFile Setting.readPath
  let generateHost := check given "generate_host" standard.generateHost Setting.readText
  let generateTimeout := check given "generate_timeout_ms" standard.generateTimeout Setting.readNatural
  let delayLower := check given "delay_lower_ms" standard.delayLower Setting.readNatural
  let delayUpper := check given "delay_upper_ms" standard.delayUpper Setting.readNatural
  let ignoreChance := check given "ignore_chance" standard.ignoreChance Setting.readFraction
  let httpTimeout := check given "http_timeout_seconds" standard.httpTimeout Setting.readPositive
  let logLevel := check given "log_level" standard.logLevel Setting.readText
  let problems := problemsOf identity ++ problemsOf channels ++ problemsOf leader ++ problemsOf commandsFile ++
    problemsOf generateHost ++ problemsOf generateTimeout ++ problemsOf delayLower ++ problemsOf delayUpper ++
    problemsOf ignoreChance ++ problemsOf httpTimeout ++ problemsOf logLevel
  let settings : Except (List FieldProblem) Settings := do
    return {
      identity := ← identity, channels := ← channels, leader := ← leader, commandsFile := ← commandsFile
      generateHost := ← generateHost, generateTimeout := ← generateTimeout, delayLower := ← delayLower
      delayUpper := ← delayUpper, ignoreChance := ← ignoreChance, httpTimeout := ← httpTimeout, logLevel := ← logLevel }
  match settings with
  | .ok s => .ok s
  | .error _ => .error (.refused problems)

/-! ## Loading -/

/-- The directory that settings are loaded for; without a workspace it is the current one. -/
def directoryOf (workspace : Option Storage.FilePath) : Storage.FilePath := workspace.getD ⟨[], []⟩

/-- The path to a directory's file of assignments; a tilde at its start is a home directory. -/
def assignmentsPath (environment : Assoc Text Text) (directory : Storage.FilePath) : Except Fault Storage.FilePath :=
  (directory.join (Storage.FilePath.ofText ".env")).expandHome environment

/-- The assignments of a file, if one stands at the path. -/
def fileValues (environment : Assoc Text Text) (files : Storage.FileSystem) (p : Storage.FilePath) :
    Except Fault (Assoc Text (Option Text)) :=
  match files.node? p with
  | .error fault => .error (.file fault)
  | .ok (some (.file bytes)) =>
    match Storage.FileSystem.readText? bytes with
    | some text => .ok (EnvFile.values environment text)
    | none => .error .encoding
  | .ok _ => .ok []

/-- Settings from values given directly, the environment, and what a file assigns. -/
def ofSources (runtime : Runtime) (given : Assoc Text Json) (environment : Assoc Text Text)
    (assigned : Assoc Text (Option Text)) : Except Error Settings := do
  let fromEnvironment ← valuesFrom runtime .environment (environment.map fun (name, text) => (name, some text)) fieldNames
  let fromFile ← valuesFrom runtime .file assigned fieldNames
  ofValues (given ++ fromEnvironment ++ fromFile)

/-- The settings for a workspace: its file counts, and the file of custom responses lies in it. -/
def load (runtime : Runtime) (environment : Assoc Text Text) (files : Storage.FileSystem)
    (workspace : Option Storage.FilePath) : Except Error Settings := do
  let directory := directoryOf workspace
  let path ← (assignmentsPath environment directory).mapError .fault
  let assigned ← (fileValues environment files path).mapError .fault
  let settings ← ofSources runtime [] environment assigned
  return { settings with commandsFile := directory.join settings.commandsFile }

end ChatBot.Settings
