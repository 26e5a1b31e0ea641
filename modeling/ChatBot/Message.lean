import ChatBot.Text.Blank
import ChatBot.Text.Casing

/-!
Chat messages and the responses to them. A message comes from a channel of some adapter, its source; a response goes back
to the same channel and source. A reply answers one message and names its sender, a say goes to the channel as it is.
-/
set_option autoImplicit false

namespace ChatBot

structure Message where
  channel : Text
  sender : Text
  content : Text
  badges : List Text
  source : Text
  id : Text
  deriving DecidableEq, Repr

namespace Message

/-- The badges of those who may run privileged commands. -/
def elevatedBadges : List Text := ["broadcaster", "moderator", "vip"]

def isElevated (m : Message) : Bool := m.badges.any elevatedBadges.contains

/-- The marks that may follow a name in running text. -/
def isNameEnd (c : Char) : Bool := [',', '.', ':', '!', '?'].contains c

/-- Whether some word of the message is the name after an at sign, in either case and with marks after it. -/
def mentions (m : Message) (identity : Text) : Bool :=
  let name := Text.lower ('@' :: identity)
  (Text.words m.content).any fun word => Text.dropWhileEnd isNameEnd (Text.lower word) == name

end Message

inductive ResponseKind where
  | say
  | reply
  deriving DecidableEq, Repr

structure Response where
  kind : ResponseKind
  channel : Text
  content : Text
  replyTo : Option Text
  recipient : Option Text
  source : Text
  deriving DecidableEq, Repr

namespace Response

/-- The response of the given kind to a message. -/
def toMessage (m : Message) : ResponseKind → Text → Response
  | .say, content => ⟨.say, m.channel, content, none, none, m.source⟩
  | .reply, content => ⟨.reply, m.channel, content, some m.id, some m.sender, m.source⟩

/-- The text that is sent: a reply with a recipient begins with the recipient's name. -/
def render (r : Response) : Text :=
  match r.kind, r.recipient with
  | .reply, some name => if name.isEmpty then r.content else '@' :: name ++ ' ' :: r.content
  | _, _ => r.content

end Response
end ChatBot
