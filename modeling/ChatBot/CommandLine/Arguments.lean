import ChatBot.Assoc
import ChatBot.Text.Basic

/-!
Arguments on a command line. Options may stand anywhere among the operands, until two dashes end them. An option has a long
name and perhaps a letter; its value stands after an equals sign, right after the letter, or in the next argument, whatever
that looks like. An option given twice has the value given last.
-/
set_option autoImplicit false

namespace ChatBot.CommandLine

/-- An option: its long name without the dashes, its letter, and whether it takes a value. -/
structure OptionSpec where
  name : Text
  letter : Option Char
  takesValue : Bool
  deriving DecidableEq, Repr

/-- Why arguments make no sense. -/
inductive ArgumentError where
  | unknownOption (argument : Text)
  | missingValue (name : Text)
  | unwantedValue (name : Text)
  | missingOperand (name : Text)
  | extraOperand (operand : Text)
  | missingCommand
  | unknownCommand (name : Text)
  deriving DecidableEq, Repr

namespace ArgumentError

def message : ArgumentError → Text
  | unknownOption argument => "no such option: " ++ argument
  | missingValue name => "the option --" ++ name ++ " requires a value"
  | unwantedValue name => "the option --" ++ name ++ " takes no value"
  | missingOperand name => "missing argument: " ++ name
  | extraOperand operand => "unexpected argument: " ++ operand
  | missingCommand => "missing command"
  | unknownCommand name => "no such command: " ++ name

end ArgumentError

structure Arguments where
  values : Assoc Text Text
  flags : List Text
  operands : List Text
  deriving DecidableEq, Repr

namespace Arguments

def empty : Arguments := ⟨[], [], []⟩

end Arguments

/-! ## Single arguments -/

/-- What one argument is on its own. -/
inductive Argument where
  | operand (text : Text)
  | flag (name : Text)
  | option (name : Text) (value : Option Text)
  | endOfOptions
  deriving DecidableEq, Repr

/-- The text before the first equals sign, and the text after it if there is one. -/
def cutAtEquals : Text → Text × Option Text
  | [] => ([], none)
  | c :: t =>
    if c = '=' then ([], some t)
    else
      let (name, value) := cutAtEquals t
      (c :: name, value)

/-- What an option with a long name is. -/
def longOption (specs : List OptionSpec) (text : Text) : Except ArgumentError Argument :=
  let (name, value) := cutAtEquals text
  match specs.find? (·.name = name) with
  | none => .error (.unknownOption ('-' :: '-' :: name))
  | some spec =>
    if spec.takesValue then .ok (.option name value)
    else if value.isSome then .error (.unwantedValue name)
    else .ok (.flag name)

/-- What an option with a letter is; only options that take a value have letters. -/
def letterOption (specs : List OptionSpec) (letter : Char) (rest : Text) : Except ArgumentError Argument :=
  match specs.find? (·.letter = some letter) with
  | none => .error (.unknownOption ['-', letter])
  | some spec => .ok (.option spec.name (if rest.isEmpty then none else some rest))

def Argument.ofText (specs : List OptionSpec) : Text → Except ArgumentError Argument
  | ['-', '-'] => .ok .endOfOptions
  | '-' :: '-' :: text => longOption specs text
  | '-' :: letter :: rest => letterOption specs letter rest
  | text => .ok (.operand text)

/-! ## All arguments -/

/-- Adds arguments to those read before them. -/
def Arguments.add (specs : List OptionSpec) (read : Arguments) : List Text → Except ArgumentError Arguments
  | [] => .ok read
  | argument :: rest =>
    match Argument.ofText specs argument with
    | .error e => .error e
    | .ok .endOfOptions => .ok { read with operands := read.operands ++ rest }
    | .ok (.operand text) => Arguments.add specs { read with operands := read.operands ++ [text] } rest
    | .ok (.flag name) => Arguments.add specs { read with flags := read.flags ++ [name] } rest
    | .ok (.option name (some value)) =>
      Arguments.add specs { read with values := read.values.insert name value } rest
    | .ok (.option name none) =>
      match rest with
      | [] => .error (.missingValue name)
      | value :: rest => Arguments.add specs { read with values := read.values.insert name value } rest

/-- Reads the arguments of a command that has the given options. -/
def Arguments.ofTexts (specs : List OptionSpec) (texts : List Text) : Except ArgumentError Arguments :=
  Arguments.add specs .empty texts

end ChatBot.CommandLine
