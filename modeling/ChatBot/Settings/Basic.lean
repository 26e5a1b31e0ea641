import ChatBot.Storage.FilePath

/-!
What can be set about a bot.
-/
set_option autoImplicit false

namespace ChatBot

structure Settings where
  /-- The bot's own name in chat. -/
  identity : Text
  channels : List Text
  /-- The character that commands begin with. -/
  leader : Char
  /-- Where custom responses are kept. -/
  commandsFile : Storage.FilePath
  /-- The address of the service that generates chatter. -/
  generateHost : Text
  /-- The least time between two unprompted pieces of chatter, in milliseconds. -/
  generateTimeout : Nat
  /-- The bounds of the delay before chatter is sent, in milliseconds. -/
  delayLower : Nat
  delayUpper : Nat
  /-- How likely it is that the bot keeps quiet although it might speak. -/
  ignoreChance : Float
  /-- How long to wait for a service, in seconds. -/
  httpTimeout : Float
  logLevel : Text

namespace Settings

def standard : Settings where
  identity := "shaken_bot"
  channels := ["#shaken_bot"]
  leader := '!'
  commandsFile := Storage.FilePath.ofText "commands.json"
  generateHost := "http://localhost:54612"
  generateTimeout := 1000
  delayLower := 100
  delayUpper := 3000
  ignoreChance := 0.25
  httpTimeout := 10.0
  logLevel := "INFO"

/-- A usage line under the leader of these settings. -/
def usage (s : Settings) (text : Text) : Text := s.leader :: text

end Settings
end ChatBot
