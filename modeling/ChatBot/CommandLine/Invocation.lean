import ChatBot.CommandLine.Arguments

/-!
What the program is called for: a conversation on standard input, a check of a usage line, or the extraction of arguments from
a line.
-/
set_option autoImplicit false

namespace ChatBot.CommandLine

/-- How to run a conversation. -/
structure RunOptions where
  /-- The directory that holds the settings and the custom responses. -/
  workspace : Option Text
  sender : Text
  channel : Option Text
  elevated : Bool
  deriving DecidableEq, Repr

inductive Invocation where
  | help
  | run (options : RunOptions)
  | check (leader usage : Text)
  | extract (leader usage line : Text)
  deriving DecidableEq, Repr

/-! ## Options -/

def helpOption : OptionSpec := ⟨"help", none, false⟩
def workspaceOption : OptionSpec := ⟨"workspace", some 'w', true⟩
def senderOption : OptionSpec := ⟨"sender", none, true⟩
def channelOption : OptionSpec := ⟨"channel", none, true⟩
def elevatedOption : OptionSpec := ⟨"elevated", none, false⟩
def leaderOption : OptionSpec := ⟨"leader", none, true⟩

/-- The leader of a usage line when none is given. -/
def standardLeader : Text := ['!']

/-- The sender of typed messages when none is given. -/
def standardSender : Text := "console_user"

namespace Invocation

/-! ## Commands -/

/-- Reads a command's arguments; a call for help comes before a look at the operands. -/
def withArguments (specs : List OptionSpec) (texts : List Text)
    (use : Arguments → Except ArgumentError Invocation) : Except ArgumentError Invocation :=
  match Arguments.ofTexts (helpOption :: specs) texts with
  | .error e => .error e
  | .ok arguments => if arguments.flags.contains helpOption.name then .ok .help else use arguments

def ofRunArguments (a : Arguments) : Except ArgumentError Invocation :=
  match a.operands with
  | [] => .ok (.run {
      workspace := a.values.find? workspaceOption.name
      sender := (a.values.find? senderOption.name).getD standardSender
      channel := a.values.find? channelOption.name
      elevated := a.flags.contains elevatedOption.name })
  | operand :: _ => .error (.extraOperand operand)

def leaderOf (a : Arguments) : Text := (a.values.find? leaderOption.name).getD standardLeader

def ofCheckArguments (a : Arguments) : Except ArgumentError Invocation :=
  match a.operands with
  | [] => .error (.missingOperand "USAGE")
  | [usage] => .ok (.check (leaderOf a) usage)
  | _ :: operand :: _ => .error (.extraOperand operand)

def ofExtractArguments (a : Arguments) : Except ArgumentError Invocation :=
  match a.operands with
  | [] => .error (.missingOperand "USAGE")
  | [_] => .error (.missingOperand "LINE")
  | [usage, line] => .ok (.extract (leaderOf a) usage line)
  | _ :: _ :: operand :: _ => .error (.extraOperand operand)

/-- The invocation of a command by its name. -/
def ofCommand (name : Text) (texts : List Text) : Except ArgumentError Invocation :=
  if name = ("run" : Text) then
    withArguments [workspaceOption, senderOption, channelOption, elevatedOption] texts ofRunArguments
  else if name = ("check" : Text) then withArguments [leaderOption] texts ofCheckArguments
  else if name = ("extract" : Text) then withArguments [leaderOption] texts ofExtractArguments
  else .error (.unknownCommand name)

/-- Reads what stands before the command's name, where only a call for help may stand. -/
def readCommand (helpWanted : Bool) : List Text → Except ArgumentError Invocation
  | [] => if helpWanted then .ok .help else .error .missingCommand
  | text :: texts =>
    match Argument.ofText [helpOption] text with
    | .error e => .error e
    | .ok (.flag _) => readCommand true texts
    | .ok (.option name _) => .error (.unwantedValue name)
    | .ok (.operand name) => if helpWanted then .ok .help else ofCommand name texts
    | .ok .endOfOptions =>
      if helpWanted then .ok .help
      else match texts with
        | [] => .error .missingCommand
        | name :: texts => ofCommand name texts

/-- The invocation that the arguments of the program make. -/
def ofTexts (texts : List Text) : Except ArgumentError Invocation := readCommand false texts

end Invocation
end ChatBot.CommandLine
