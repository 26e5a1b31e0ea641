import ChatBot.Feature.Chatter
import ChatBot.Feature.Crates
import ChatBot.Feature.CustomResponses
import ChatBot.Feature.Help
import ChatBot.Feature.Uptime
import ChatBot.Proofs.Program.Frame

/-!
What most features leave alone. Only the commands for custom responses touch the files and the shelf; all other commands and
both passive handlers keep them, whatever others do meanwhile.
-/
set_option autoImplicit false

namespace ChatBot
variable {τ : Type}

/-- The part of the world in which custom responses are kept: the files, the shelf, which writes will fail, and the runtime. -/
def World.storage (w : World τ) : Storage.FileSystem × Shelf × List (Option Storage.FileSystem.Refusal) × Runtime :=
  (w.files, w.shelf, w.refusals, w.runtime)

/-! ## Services -/

namespace World

theorem storage_nextDraw (w : World τ) : w.nextDraw.2.storage = w.storage := by
  rw [nextDraw]
  split <;> rfl

theorem storage_nextReading (w : World τ) : w.nextReading.2.storage = w.storage := by
  rw [nextReading]
  split <;> rfl

theorem storage_nextReply (w : World τ) : w.nextReply.2.storage = w.storage := by
  rw [nextReply]
  split <;> rfl

theorem storage_nextDocument (url : Text) (w : World τ) : (Service.nextDocument url w).2.storage = w.storage :=
  storage_nextReply w

end World

open Program

namespace Service

theorem drawThousandths_keeps : (drawThousandths : Program (World τ) Nat).Keeps World.storage :=
  (keeps_update World.storage_nextDraw).bind fun _ => (keeps_record _).bind fun _ => keeps_pure _

theorem drawWithin_keeps (low high : Nat) : (drawWithin low high : Program (World τ) Nat).Keeps World.storage :=
  (keeps_update World.storage_nextDraw).bind fun _ => (keeps_record _).bind fun _ => keeps_pure _

theorem drawChoice_keeps (items : List Text) : (drawChoice items : Program (World τ) (Option Text)).Keeps World.storage := by
  rw [drawChoice]
  split
  · exact keeps_pure _
  · exact (keeps_update World.storage_nextDraw).bind fun _ => (keeps_record _).bind fun _ => keeps_pure _

theorem getJson_keeps (url : Text) (body : Json) (timeout : Scalar) :
    (getJson url body timeout : Program (World τ) Json).Keeps World.storage :=
  (keeps_record _).bind fun _ => (keeps_yield _).bind fun _ => (keeps_update (World.storage_nextDocument url)).bind
    fun _ => (keeps_ofExcept _).during .request

variable [Instant τ]

theorem readClock_keeps : (readClock : Program (World τ) τ).Keeps World.storage :=
  (keeps_update World.storage_nextReading).bind fun _ => (keeps_ofExcept _).bind fun _ => keeps_pure _

theorem noticeChatter_keeps : (noticeChatter : Program (World τ) Unit).Keeps World.storage :=
  readClock_keeps.bind fun _ => keeps_modify fun _ => rfl

end Service

namespace Feature

/-! ## Crates, help and uptime -/

theorem Crates.present_keeps (query : Text) (crates : List Crate) :
    (Crates.present query crates : Program (World τ) Unit).Keeps World.storage := by
  cases crates with
  | nil => exact keeps_reply _
  | cons found crates =>
    refine (keeps_say _).bind fun _ => ?_
    split
    · split
      · exact keeps_say _
      · exact (keeps_say _).bind fun _ => keeps_say _
    · exact keeps_say _

theorem Crates.handle_keeps (settings : Settings) (args : Command.Arguments) (m : Message) :
    (Crates.handle settings args m : Program (World τ) Unit).Keeps World.storage := by
  refine (keeps_ofExcept _).bind fun query => ?_
  have hlookup : (Crates.lookup query (.float settings.httpTimeout) : Program (World τ) (List Crate)).Keeps World.storage :=
    keeps_get.bind fun _ => (keeps_ofExcept _).bind fun _ =>
      ((Service.getJson_keeps _ _ _).during .search).bind fun _ => (keeps_ofExcept _).during .listing
  refine (hlookup.during .lookup).attempt.bind fun result => ?_
  cases result with
  | ok crates => exact Crates.present_keeps query crates
  | error fault =>
    dsimp only
    split
    · exact (keeps_record _).bind fun _ => keeps_reply _
    · exact keeps_fail fault

theorem Help.handle_keeps (leader : Char) (schemas : List Command.Schema) (args : Command.Arguments) (m : Message) :
    (Help.handle leader schemas args m : Program (World τ) Unit).Keeps World.storage := by
  refine keeps_get.bind fun w => ?_
  split
  · exact keeps_say _
  · exact keeps_reply _

theorem Uptime.handle_keeps [Instant τ] (started : τ) (args : Command.Arguments) (m : Message) :
    (Uptime.handle started args m : Program (World τ) Unit).Keeps World.storage :=
  Service.readClock_keeps.bind fun _ => (keeps_ofExcept _).bind fun _ => (keeps_ofExcept _).bind fun _ => keeps_say _

/-! ## Chatter -/

namespace Chatter

theorem fetch_keeps (settings : Settings) (topic : Option Text) :
    (fetch settings topic : Program (World τ) Text).Keeps World.storage :=
  (Service.drawWithin_keeps _ _).bind fun _ => ((Service.getJson_keeps _ _ _).during .question).bind fun _ =>
    (keeps_ofExcept _).during .answer

theorem speak_keeps (settings : Settings) (args : Command.Arguments) (m : Message) :
    (speak settings args m : Program (World τ) Unit).Keeps World.storage := by
  refine ((fetch_keeps settings none).during .chatterOnRequest).attempt.bind fun result => ?_
  cases result with
  | ok text => exact keeps_say _
  | error fault =>
    dsimp only
    split
    · exact keeps_record _
    · exact keeps_fail fault

theorem chooseDelay_keeps (settings : Settings) : (chooseDelay settings : Program (World τ) Nat).Keeps World.storage := by
  have hdraw : (drawDelay settings : Program (World τ) Nat).Keeps World.storage := by
    rw [drawDelay]
    split
    · exact keeps_pure _
    · exact (Service.drawWithin_keeps _ _).bind fun _ => Service.drawWithin_keeps _ _
  exact hdraw.bind fun _ => (keeps_ofExcept _).bind fun _ => keeps_pure _

variable [Instant τ]

theorem claim_keeps (settings : Settings) : (claim settings : Program (World τ) Bool).Keeps World.storage := by
  refine keeps_get.bind fun w => ?_
  split
  · exact Service.noticeChatter_keeps.bind fun _ => keeps_pure _
  · refine Service.readClock_keeps.bind fun now => ?_
    split
    · exact keeps_pure _
    · refine Service.drawThousandths_keeps.bind fun n => ?_
      split
      · exact keeps_pure _
      · exact Service.noticeChatter_keeps.bind fun _ => keeps_pure _

theorem generate_keeps (settings : Settings) (text : Text) :
    (generate settings text : Program (World τ) (Option Text)).Keeps World.storage := by
  refine (claim_keeps settings).bind fun claimed => ?_
  split
  · refine (Service.drawChoice_keeps _).bind fun topic => ((fetch_keeps settings topic).during .chatter).bind fun _ => ?_
    refine (chooseDelay_keeps settings).bind fun _ => (keeps_record _).bind fun _ => (keeps_yield _).bind fun _ => ?_
    exact Service.noticeChatter_keeps.bind fun _ => (keeps_record _).bind fun _ => keeps_pure _
  · exact keeps_pure _

theorem listen_keeps (settings : Settings) (m : Message) :
    (listen settings m : Program (World τ) Unit).Keeps World.storage := by
  rw [listen]
  split
  · exact keeps_pure _
  split
  · exact ((fetch_keeps settings none).during .answerToMention).bind fun _ => keeps_say _
  split
  · exact keeps_pure _
  refine ((generate_keeps settings m.content).during .remark).bind fun response => ?_
  cases response with
  | none => exact keeps_pure _
  | some text => exact keeps_say _

end Chatter

/-! ## Answers with custom responses -/

theorem CustomResponses.answer_keeps (leader : Char) (m : Message) :
    (CustomResponses.answer leader m : Program (World τ) Unit).Keeps World.storage := by
  rw [CustomResponses.answer]
  split
  · exact keeps_pure _
  · refine (keeps_get.bind fun _ => keeps_pure _).bind fun found => ?_
    cases found with
    | none => exact keeps_pure _
    | some template => exact (keeps_ofExcept _).bind fun _ => keeps_say _

end Feature
end ChatBot
