import ChatBot.Json.Reader
import ChatBot.Template.Basic

/-!
What can go wrong while the bot works: causes, not wordings. `Fault.message` gives the wording. On its way out a fault learns
what the bot was busy with; `Fault.account` tells the whole of it.
-/
set_option autoImplicit false

namespace ChatBot

/-- How a request failed. -/
inductive RequestFault where
  | connection
  | status
  | timeout
  | redirects
  | undecodable
  | named (name : Text)
  deriving DecidableEq, Repr

/-- Why the file system refuses an operation. -/
inductive FileFault where
  | missing
  | isDirectory
  | notDirectory
  | alreadyExists
  | nameTooLong
  | noSpace
  deriving DecidableEq, Repr

/-- What the bot may be busy with when something goes wrong. -/
inductive Activity where
  | command
  | chatterOnRequest
  | answerToMention
  | remark
  | chatter
  | question
  | answer
  | lookup
  | search
  | listing
  | request
  | exchange
  | status
  | document
  deriving DecidableEq, Repr

namespace Activity

def name : Activity → Text
  | command => "handling a command"
  | chatterOnRequest => "chattering on request"
  | answerToMention => "answering a mention"
  | remark => "remarking on a message"
  | chatter => "making up chatter"
  | question => "asking for a text"
  | answer => "reading the text"
  | lookup => "looking up a crate"
  | search => "searching the index"
  | listing => "reading what the index lists"
  | request => "making a request"
  | exchange => "waiting for the reply"
  | status => "checking the reply's status"
  | document => "reading the reply's document"

end Activity

inductive Fault where
  | template (error : TemplateError)
  | request (kind : RequestFault) (text : Text)
  | missingKey (key : Text)
  | noMember (kindName memberName : Text)
  | wrongKind (kindName : Text)
  | value (text : Text)
  | overflow (text : Text)
  | runtime (text : Text)
  | file (fault : FileFault)
  | document (text : Text)
  /-- Values of a document nest too deep. -/
  | nesting
  | encoding
  /-- A text holds half a character. -/
  | unencodable
  | cancelled
  /-- A fault that arose during an activity. -/
  | during (activity : Activity) (fault : Fault)
  deriving DecidableEq, Repr

namespace FileFault

def message : FileFault → Text
  | missing => "no such file or directory"
  | isDirectory => "is a directory"
  | notDirectory => "not a directory"
  | alreadyExists => "file exists"
  | nameTooLong => "file name too long"
  | noSpace => "no space left on device"

end FileFault

namespace Fault

def message : Fault → Text
  | template error => error.message
  | request _ text => text
  | missingKey key => Text.quote key
  | noMember kindName memberName =>
    Text.quote kindName ++ " object has no attribute " ++ Text.quote memberName
  | wrongKind kindName => "a value has the wrong kind: " ++ kindName
  | value text => text
  | overflow text => text
  | runtime text => text
  | file fault => fault.message
  | document text => text
  | nesting => Json.Violation.deepNesting.message
  | encoding => "the bytes are not text"
  | unencodable => "the text holds half a character"
  | cancelled => []
  | during _ fault => fault.message

/-- The fault itself, whatever the bot was busy with. -/
def cause : Fault → Fault
  | during _ fault => fault.cause
  | fault => fault

/-- What the bot was busy with when the fault arose, the widest activity first. -/
def trail : Fault → List Activity
  | during activity fault => activity :: fault.trail
  | _ => []

/-- One line of a trail. -/
def trailLine (activity : Activity) : Text := "while " ++ activity.name

/-- The trail and the wording of the cause, a line each. -/
def account (fault : Fault) : Text := Text.join ['\n'] (fault.trail.map trailLine ++ [fault.message])

/-- The fault of cutting a number that is not finite to whole units. -/
def ofNotFinite : Decimal.NotFinite → Fault
  | .notANumber => value Decimal.NotFinite.notANumber.message
  | .infinite => overflow Decimal.NotFinite.infinite.message

/-- The fault of a document that is beyond a limit. What a document means that is no JSON is for its readers to say. -/
def ofLimit? (failure : Json.Failure) : Option Fault :=
  match failure.violation with
  | .longNumber digits => some (value (Decimal.NotWhole.tooLong digits).message)
  | .deepNesting => some nesting
  | _ => none

/-- Whether the fault is a failed request. -/
def isRequest (fault : Fault) : Bool :=
  match fault.cause with
  | request _ _ => true
  | _ => false

end Fault
end ChatBot
