import ChatBot.Proofs.Bot.Operations
import ChatBot.Proofs.Template.Filling

/-!
The guard against chat commands in custom responses. A body that begins with one of their marks is refused, so none is ever
stored, and placeholders bring none to the front as long as senders and channels begin as names do. But the guard looks at a
body as it is, and answers are trimmed: what stands behind the blanks at the front of a body is not looked at.
-/
set_option autoImplicit false

namespace ChatBot
variable {τ : Type}

namespace Feature.CustomResponses
open Storage

/-- The marks that chat commands begin with. -/
def isChatMark (c : Char) : Bool := c = '.' || c = '/'

theorem isChatCommand_eq_any_head? (t : Text) : isChatCommand t = t.head?.any isChatMark := by
  cases t <;> rfl

/-- Only blanks can hide a chat command from the front of a text. -/
theorem head?_isBlank_of_trimLeft {t : Text} (h : isChatCommand t = false)
    (htrim : isChatCommand (Text.trimLeft t) = true) : t.head?.any Text.isBlank = true := by
  cases t with
  | nil => cases htrim
  | cons c t =>
    rw [List.head?_cons, Option.any_some]
    by_contra hblank
    rw [Text.trimLeft, List.dropWhile_cons_of_neg hblank, h] at htrim
    cases htrim

/-! ## Names in placeholders -/

/-- Whether a text begins as the names of senders and channels do. -/
def beginsAsName (t : Text) : Bool := t.head?.any fun c => Text.isAlphanumeric c || c = '#'

theorem exists_front?_of_beginsAsName {t : Text} (h : beginsAsName t = true) :
    ∃ c, Text.front? t = some c ∧ isChatMark c = false := by
  cases t with
  | nil => cases h
  | cons c rest =>
    have hname : Text.isAlphanumeric c = true ∨ c = '#' := by simpa [beginsAsName] using h
    rcases hname with halpha | rfl
    · have hblank : Text.isBlank c = false := by
        rw [← Bool.not_eq_true]
        intro hc
        rw [Text.isAlphanumeric_of_isBlank hc] at halpha
        cases halpha
      have hmark : isChatMark c = false := by
        rw [← Bool.not_eq_true]
        intro hc
        have hcases : c = '.' ∨ c = '/' := by simpa [isChatMark] using hc
        rcases hcases with rfl | rfl <;> exact absurd halpha (by decide)
      exact ⟨c, Text.front?_cons_of_not_blank rest hblank, hmark⟩
    · exact ⟨'#', Text.front?_cons_of_not_blank rest rfl, rfl⟩

theorem eq_of_resolve?_environment {m : Message} {key value : Text}
    (h : (environment m).resolve? key = some value) : value = m.sender ∨ value = m.channel := by
  by_cases hname : "name".toList = key
  · subst hname
    exact .inl (Option.some.inj h).symm
  by_cases hchannel : "channel".toList = key
  · subst hchannel
    exact .inr (Option.some.inj h).symm
  · have hnone : (environment m).find? key = none := by
      rw [environment, Assoc.find?_insert_of_ne _ _ hchannel, Assoc.find?_insert_of_ne _ _ hname, Assoc.find?_nil]
    rw [Template.Environment.resolve?, hnone] at h
    cases h

/-- A filled body begins with a chat command behind its blanks if and only if it did so before. -/
theorem any_front?_of_apply {template : Template} {m : Message} {filled : Text}
    (h : template.apply (environment m) = .ok filled) (hsender : beginsAsName m.sender = true)
    (hchannel : beginsAsName m.channel = true) :
    (Text.front? filled).any isChatMark = isChatCommand (Text.trimLeft template.body) := by
  have hvalues (key value : Text) (hvalue : (environment m).resolve? key = some value) :
      ∃ c, Text.front? value = some c ∧ isChatMark c = false := by
    rcases eq_of_resolve?_environment hvalue with rfl | rfl
    · exact exists_front?_of_beginsAsName hsender
    · exact exists_front?_of_beginsAsName hchannel
  rw [Template.apply] at h
  cases hkeys : Template.keys template.body with
  | error e =>
    rw [hkeys] at h
    cases h
  | ok keys =>
    rw [hkeys] at h
    obtain rfl := Except.ok.inj h
    rw [isChatCommand_eq_any_head?]
    exact Template.any_front?_fill rfl hvalues keys.eraseDups template.body

/-- What is said of a stored body begins as the body does behind its blanks. -/
theorem isChatCommand_of_said {leader : Char} {m : Message} {templates : Assoc Text Template} {r : Response}
    (h : r ∈ (saying (answerTo leader m templates)).filterMap (Errand.responseOf? m))
    (hsender : beginsAsName m.sender = true) (hchannel : beginsAsName m.channel = true) :
    ∃ name template, requestedName? leader m = some name ∧ templates.find? name = some template ∧
      isChatCommand r.content = isChatCommand (Text.trimLeft template.body) := by
  obtain ⟨output, houtput, hresponse⟩ := List.mem_filterMap.mp h
  cases hasked : (requestedName? leader m).bind templates.find? with
  | none =>
    rw [answerTo, hasked] at houtput
    cases houtput
  | some template =>
    obtain ⟨name, hname, hfind⟩ := Option.bind_eq_some_iff.mp hasked
    refine ⟨name, template, hname, hfind, ?_⟩
    rw [answerTo, hasked] at houtput
    cases happly : template.apply (environment m) with
    | error e =>
      simp only [happly] at houtput
      cases houtput
    | ok filled =>
      simp only [happly] at houtput
      obtain rfl := List.mem_singleton.mp houtput
      obtain ⟨content, hcontent, rfl⟩ := Option.map_eq_some_iff.mp hresponse
      have htrim : content = Text.trim filled := by
        rw [Errand.deliverable?] at hcontent
        split at hcontent
        · cases hcontent
        · exact (Option.some.inj hcontent).symm
      rw [← any_front?_of_apply happly hsender hchannel, ← Text.head?_trim, ← isChatCommand_eq_any_head?, ← htrim]
      rfl

/-! ## Stored bodies -/

def Guarded (templates : Assoc Text Template) : Prop := ∀ b ∈ templates, isChatCommand b.2.body = false

def Decision.Guards : Decision → Prop
  | fail _ | reply _ => True
  | change templates _ _ => Guarded templates

/-- The stored body is the one that has passed the guard, with nothing trimmed between. -/
theorem Operation.guards_decide (op : Operation) (args : Command.Arguments) (channel : Text) {templates : Assoc Text Template}
    (h : Guarded templates) : (op.decide args channel templates).Guards := by
  rcases op.decide_cases args channel templates with
    ⟨fault, hd⟩ | ⟨text, hd, -⟩ | ⟨name, body, note, -, -, hguard, -, hd⟩ | ⟨name, note, -, hd⟩
  · rw [hd]
    trivial
  · rw [hd]
    trivial
  · rw [hd]
    intro b hb
    rcases Assoc.mem_of_mem_insert hb with rfl | hb
    · exact hguard
    · exact h b hb
  · rw [hd]
    exact fun b hb => h b ((Assoc.erase_sublist templates name).subset hb)

theorem Decision.guarded_applied {d : Decision} {channel : Text} {entries : Entries} (hd : d.Guards)
    (h : ∀ c, Guarded (entries.channel c)) (c : Text) : Guarded ((d.applied channel entries).channel c) := by
  cases d with
  | fail fault => exact h c
  | reply text => exact h c
  | change templates note text =>
    by_cases hc : channel = c
    · subst hc
      rw [channel_applied_change]
      exact hd
    · rw [channel_applied_of_ne _ entries hc]
      exact h c

end Feature.CustomResponses

namespace Bot
open Command Feature
variable [Instant τ] {bot : Bot τ}

/-- Custom responses are read as they are once the message has been handled. -/
theorem IsFull.entries_course (hbot : bot.IsFull) (m : Message) (w : World τ) :
    (bot.course m w).command.state.shelf.entries = (bot.handle m w).2.1.shelf.entries := by
  rw [(hbot.handle_eq_course m w).2]
  rcases hbot.runs_operation_or_keeps m with ⟨s, bindings, op, hroute, -, -⟩ | ⟨-, hkeeps⟩
  · obtain ⟨-, hstorage, hentries⟩ := course_of_operation w hroute
    rw [hentries, (World.storage_eq_iff.mp hstorage).2.1]
  · obtain ⟨hcommand, hlast⟩ := course_of_keeps w hkeeps
    rw [(World.storage_eq_iff.mp hcommand).2.1, (World.storage_eq_iff.mp hlast).2.1]

theorem IsFull.guarded_handle (hbot : bot.IsFull) (m : Message) {w : World τ}
    (h : ∀ c, CustomResponses.Guarded (w.shelf.entries.channel c)) (c : Text) :
    CustomResponses.Guarded ((bot.handle m w).2.1.shelf.entries.channel c) := by
  rcases hbot.entries_handle m w with hsame | ⟨op, args, happlied⟩
  · rw [hsame]
    exact h c
  · rw [happlied]
    exact CustomResponses.Decision.guarded_applied (op.guards_decide args m.channel (h m.channel)) h c

theorem IsFull.guarded_after (hbot : bot.IsFull) (arrivals : List (Arrival τ)) {w : World τ}
    (h : ∀ c, CustomResponses.Guarded (w.shelf.entries.channel c)) (c : Text) :
    CustomResponses.Guarded ((bot.after arrivals w).shelf.entries.channel c) := by
  induction arrivals generalizing w with
  | nil => exact h c
  | cons a arrivals ih =>
    have hmeets : ∀ c, CustomResponses.Guarded ((a.meets w).shelf.entries.channel c) := h
    rw [after_cons]
    exact ih (hbot.guarded_handle a.message hmeets)

/-- Where no stored body begins with a chat command, an answer begins with one if and only if its body does so behind blanks. -/
theorem IsFull.answer_of_guarded (hbot : bot.IsFull) {m : Message} {w : World τ}
    (h : ∀ c, CustomResponses.Guarded (w.shelf.entries.channel c)) (hsender : CustomResponses.beginsAsName m.sender = true)
    (hchannel : CustomResponses.beginsAsName m.channel = true) {r : Response} (hr : r ∈ (bot.course m w).byFirst m) :
    r ∈ (bot.handle m w).1 ∧
      ∃ name template, CustomResponses.requestedName? bot.settings.leader m = some name ∧
        (bot.handle m w).2.1.shelf.entries.get? m.channel name = some template ∧
        CustomResponses.isChatCommand template.body = false ∧
        (CustomResponses.isChatCommand r.content = true ↔
          template.body.head?.any Text.isBlank = true ∧
            CustomResponses.isChatCommand (Text.trimLeft template.body) = true) := by
  have hsaid : r ∈ (bot.handle m w).1 := by
    rw [(hbot.handle_eq_course m w).1]
    exact (bot.course m w).byFirst_subset m hr
  obtain ⟨-, -, hanswer⟩ := course_around_command bot m w
  rw [hanswer, hbot.entries_course] at hr
  obtain ⟨name, template, hname, hfind, hcontent⟩ := CustomResponses.isChatCommand_of_said hr hsender hchannel
  have hbody : CustomResponses.isChatCommand template.body = false :=
    hbot.guarded_handle m h m.channel _ (Assoc.mem_of_find?_eq_some hfind)
  refine ⟨hsaid, name, template, hname, hfind, hbody, ?_⟩
  rw [hcontent]
  exact ⟨fun htrim => ⟨CustomResponses.head?_isBlank_of_trimLeft hbody htrim, htrim⟩, And.right⟩

/-- After any run from an empty shelf, the handler of custom responses answers a message with a stored body that does not begin
with a chat command itself; its answer begins with one if and only if the body does so behind blanks. -/
theorem answer_begins_with_chat_command_iff (settings : Settings) (started : τ) :
    ∃ bot, full settings started = .ok bot ∧ ∀ (arrivals : List (Arrival τ)) (w : World τ) (a : Arrival τ),
      w.shelf.entries = [] → CustomResponses.beginsAsName a.message.sender = true →
      CustomResponses.beginsAsName a.message.channel = true →
      let v := a.meets (bot.after arrivals w)
      ∀ r ∈ (bot.course a.message v).byFirst a.message, r ∈ (bot.handle a.message v).1 ∧
        ∃ name template, CustomResponses.requestedName? settings.leader a.message = some name ∧
          (bot.handle a.message v).2.1.shelf.entries.get? a.message.channel name = some template ∧
          CustomResponses.isChatCommand template.body = false ∧
          (CustomResponses.isChatCommand r.content = true ↔
            template.body.head?.any Text.isBlank = true ∧
              CustomResponses.isChatCommand (Text.trimLeft template.body) = true) := by
  refine ⟨_, full_eq_ok settings started, fun arrivals w a hempty hsender hchannel => ?_⟩
  obtain ⟨-, hbot⟩ := isFull_of_full (full_eq_ok settings started)
  have hnone : ∀ c, CustomResponses.Guarded (w.shelf.entries.channel c) := by
    rw [hempty]
    exact fun c b hb => absurd hb List.not_mem_nil
  intro v r hr
  have hguarded : ∀ c, CustomResponses.Guarded (v.shelf.entries.channel c) := hbot.guarded_after arrivals hnone
  exact hbot.answer_of_guarded hguarded hsender hchannel hr

/-- A moderator stores a body that names whoever asks, behind a second blank. -/
theorem answer_begins_with_chat_command_iff_of_timeout :
    let mod : Message := ⟨"#lobby", "mod", "!set hi  .timeout $\x7bname\x7d", ["moderator"], "console", "m0"⟩
    let ana : Arrival Milliseconds := ⟨⟨"#lobby", "ana", "!hi", [], "console", "m1"⟩, ⟨2⟩⟩
    let r : Response := ⟨.say, "#lobby", ".timeout ana", none, none, "console"⟩
    let w : World Milliseconds :=
      { files := ⟨[]⟩, clock := ⟨0⟩, replies := [], draws := [], shelf := ⟨.ofText "commands.json", [], false⟩,
        lastChatter := none }
    w.shelf.entries = [] ∧ CustomResponses.beginsAsName ana.message.sender = true ∧
      CustomResponses.beginsAsName ana.message.channel = true ∧
      ∃ bot, full Settings.standard ⟨0⟩ = .ok bot ∧
        let v := ana.meets (bot.after [⟨mod, ⟨1⟩⟩] w)
        r ∈ (bot.course ana.message v).byFirst ana.message ∧ r ∈ (bot.handle ana.message v).1 ∧
          ∃ name template, (bot.handle ana.message v).2.1.shelf.entries.get? ana.message.channel name = some template ∧
            template.body.head?.any Text.isBlank = true := by
  intro mod ana r w
  have hsender : CustomResponses.beginsAsName ana.message.sender = true := by decide
  have hchannel : CustomResponses.beginsAsName ana.message.channel = true := by decide
  obtain ⟨bot, hfull, hanswers⟩ := answer_begins_with_chat_command_iff Settings.standard (⟨0⟩ : Milliseconds)
  have hr : r ∈ (bot.course ana.message (ana.meets (bot.after [⟨mod, ⟨1⟩⟩] w))).byFirst ana.message := by
    have hbot := hfull
    rw [full_eq_ok] at hbot
    obtain rfl := Except.ok.inj hbot
    decide +kernel
  obtain ⟨hsaid, name, template, -, hfind, -, hiff⟩ := hanswers [⟨mod, ⟨1⟩⟩] w ana rfl hsender hchannel r hr
  have hmark : CustomResponses.isChatCommand r.content = true := rfl
  have hblank := (hiff.mp hmark).1
  exact ⟨rfl, hsender, hchannel, bot, hfull, hr, hsaid, name, template, hfind, hblank⟩

/-- A moderator stores a chat command behind a second blank, and everyone can have the bot say it. -/
theorem blank_hides_chat_command :
    let mod : Message := ⟨"#lobby", "mod", "!set hi  /ban ana", ["moderator"], "console", "m0"⟩
    let ana : Message := ⟨"#lobby", "ana", "!hi", [], "console", "m1"⟩
    let w : World Milliseconds :=
      { files := ⟨[]⟩, clock := ⟨0⟩, replies := [], draws := [], shelf := ⟨.ofText "commands.json", [], false⟩,
        lastChatter := none }
    (∀ m ∈ [mod, ana], CustomResponses.beginsAsName m.sender = true ∧ CustomResponses.beginsAsName m.channel = true) ∧
      ∃ bot, full Settings.standard ⟨0⟩ = .ok bot ∧
        ((bot.course ana (bot.after [⟨mod, ⟨1⟩⟩] w)).byFirst ana).map Response.content = [("/ban ana" : Text)] := by
  intro mod ana w
  have hfull := full_eq_ok Settings.standard (⟨0⟩ : Milliseconds)
  refine ⟨by decide, _, hfull, ?_⟩
  decide +kernel

end Bot
end ChatBot
