import ChatBot.Feature.Basic
import ChatBot.Service.Chance
import ChatBot.Service.Clock
import ChatBot.Service.Request
import ChatBot.Settings.Basic

/-!
Chatter from a text generation service: on request, when the bot is mentioned, and now and then unprompted. Between two
unprompted pieces lies a least time. The time is claimed before the request is made, so that messages handled meanwhile keep
quiet and a failed request counts too.
-/
set_option autoImplicit false

namespace ChatBot.Feature.Chatter
variable {τ : Type}

/-- The most words the service may answer with. -/
def mostWords : Int := 45

def address (settings : Settings) : Text := Text.dropWhileEnd (· == '/') settings.generateHost ++ "/generate"

/-- Whether a word may be given to the service: links and commands may not. -/
def isTopic (word : Text) : Bool :=
  !(Text.startsWith "http" word || Text.startsWith ['!'] word || Text.startsWith ['.'] word)

/-- Chatter as it is said. -/
def dress (text : Text) : Text := "~ " ++ text

/-! ## Asking the service -/

/-- The request for a text about a topic. -/
def question (fewest : Nat) (topic : Option Text) : Json :=
  .object [("min", .int fewest), ("max", .int mostWords), ("context", (topic.map Json.string).getD .null)]

/-- The text in the service's answer. -/
def answerText : Json → Except Fault Text
  | .object members =>
    match Json.member? members "data" with
    | some v => .ok v.spoken
    | none => .error (.missingKey "data")
  | v => .error (.wrongKind v.kindName)

def fetch (settings : Settings) (topic : Option Text) : Program (World τ) Text := do
  let fewest ← Service.drawWithin 1 3
  let answer ←
    (Service.getJson (address settings) (question fewest topic) (.float settings.httpTimeout)).during .question
  (Program.ofExcept (answerText answer)).during .answer

/-- One of the words of a text that may be a topic. -/
def chooseTopic (text : Text) : Program (World τ) (Option Text) := Service.drawChoice ((Text.words text).filter isTopic)

/-- How long to wait before chatter is sent, in milliseconds. -/
def drawDelay (settings : Settings) : Program (World τ) Nat :=
  let lower := settings.delayLower
  let upper := settings.delayUpper
  if upper ≤ lower then return lower
  else do
    let ceiling ← Service.drawWithin (max lower (upper / 10)) upper
    Service.drawWithin lower ceiling

/-- A delay that can be waited for. -/
def chooseDelay (settings : Settings) : Program (World τ) Nat := do
  let milliseconds ← drawDelay settings
  Program.ofExcept (checkSeconds milliseconds)
  return milliseconds

/-! ## Unprompted chatter -/

variable [Instant τ]

/-- Claims the time for a piece of chatter, unless it is too early or the bot prefers to keep quiet. -/
def claim (settings : Settings) : Program (World τ) Bool := do
  match (← Program.get).lastChatter with
  | none =>
    Service.noticeChatter
    return true
  | some last =>
    let now ← Service.readClock
    if Instant.isWithin last now settings.generateTimeout then return false
    else
      let n ← Service.drawThousandths
      if Decimal.ofInt n 3 ≤ settings.ignoreChance then return false
      else
        Service.noticeChatter
        return true

/-- A piece of chatter about a text, unless the bot keeps quiet. -/
def generate (settings : Settings) (text : Text) : Program (World τ) (Option Text) := do
  if ← claim settings then
    let topic ← chooseTopic text
    let response := dress (← (fetch settings topic).during .chatter)
    let milliseconds ← chooseDelay settings
    Program.record (.delay milliseconds)
    Program.yield .delay
    Service.noticeChatter
    Program.record (.debug ("speak.generated response=" ++ Text.quote response))
    return some response
  else return none

/-! ## Handlers -/

omit [Instant τ] in
/-- Chatter on request; a failed request is recorded. -/
def speak (settings : Settings) : Command.Handler (World τ) := fun _ _ => do
  match ← ((fetch settings none).during .chatterOnRequest).attempt with
  | .ok text => Program.say (dress text)
  | .error fault =>
    if fault.isRequest then Program.record (.error ("speak.fetch.error url=" ++ address settings) (some fault))
    else Program.fail fault

/-- Answers mentions, and speaks now and then about what others say. -/
def listen (settings : Settings) (m : Message) : Program (World τ) Unit :=
  if m.sender = settings.identity then return ()
  else if m.mentions settings.identity then do
    Program.say (dress (← (fetch settings none).during .answerToMention))
  else if Text.startsWith [settings.leader] m.content then return ()
  else do
    match ← (generate settings m.content).during .remark with
    | some response => Program.say response
    | none => return ()

omit [Instant τ] in
def commands (settings : Settings) : List (Declaration (World τ)) := [⟨settings.usage "speak", false, speak settings⟩]

def passives (settings : Settings) : List (PassiveHandler (World τ)) := [⟨"Speak.handle", listen settings⟩]

end ChatBot.Feature.Chatter
