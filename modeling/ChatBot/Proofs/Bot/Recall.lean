import Mathlib.Data.List.TakeWhile
import ChatBot.Proofs.Bot.Guard
import ChatBot.Proofs.Bot.Storing
import ChatBot.Proofs.Text.Words

/-!
Whether a response that was confirmed can be called up. A command takes its name off the line at the first space, while a
message asks for a word, which ends at any blank. So a name is asked for by the leader and itself if no blank is in it, and by
no message at all if there is one.
-/
set_option autoImplicit false

namespace ChatBot
variable {τ : Type}

namespace Feature.CustomResponses
open Storage

theorem Operation.name_injective {op op' : Operation} (h : op.name = op'.name) : op = op' := by
  revert h
  cases op <;> cases op' <;> decide

/-! ## What is asked for -/

theorem requestedName?_of_content {leader : Char} {m : Message} {name : Text} {c : Char}
    (hcontent : m.content = leader :: name) (hhead : name.head? = some c) (hc : Text.isBlank c = false) :
    requestedName? leader m = some (name.takeWhile fun c => !Text.isBlank c) := by
  have hafter : Text.after? [leader] m.content = some name := by
    rw [hcontent]
    exact Text.after?_append [leader] name
  rw [requestedName?, hafter, Option.bind_some, Text.head?_words hhead hc]

theorem not_isBlank_of_requestedName? {leader : Char} {m : Message} {name : Text} (h : requestedName? leader m = some name)
    {c : Char} (hc : c ∈ name) : Text.isBlank c = false := by
  obtain ⟨rest, -, hword⟩ := Option.bind_eq_some_iff.mp h
  exact Text.isBlank_of_mem_words (List.mem_of_head? hword) hc

/-! ## What a decision leaves alone -/

theorem mem_outcome_of_change {channel : Text} {w : World τ} {templates : Assoc Text Template} {note : Note} {text : Text}
    {o : Program.Output} (h : o ∈ ((Decision.change templates note text).outcome channel w).1) :
    o = .note note ∨ o = .response .reply text := by
  rw [Decision.outcome] at h
  split at h
  · cases h
  · rw [written] at h
    split at h
    · simpa using h
    · cases h

/-- A command without a body takes at most the response away that it names. -/
theorem Operation.get?_applied_of_ne {op : Operation} {args : Command.Arguments} {channel name word : Text} {entries : Entries}
    (hword : args.get? "command" = some word) (hbody : args.getNonEmpty? "body" = none) (hne : word ≠ name) :
    ((op.decide args channel (entries.channel channel)).applied channel entries).get? channel name =
      entries.get? channel name := by
  rcases op.decide_cases args channel (entries.channel channel) with
    ⟨fault, hd⟩ | ⟨text, hd, -⟩ | ⟨given, body, note, -, hgiven, -, -, hd⟩ | ⟨given, note, hname, hd⟩
  · rw [hd]
    rfl
  · rw [hd]
    rfl
  · rw [hbody] at hgiven
    cases hgiven
  · obtain rfl : word = given := Option.some.inj (hword.symm.trans hname)
    rw [hd, Entries.get?, Decision.channel_applied_change, Assoc.find?_erase_of_ne _ hne]
    rfl

end Feature.CustomResponses

namespace Bot
open Command Feature Storage
variable [Instant τ] {bot : Bot τ} {m : Message} {w : World τ} {name body : Text}

/-! ## What a command is given -/

/-- A command for custom responses is given a name without spaces that does not begin with a blank, and nothing else if there is
no space in the line. -/
theorem IsFull.exists_name_of_route (hbot : bot.IsFull) {s : Schema} {bindings : Bindings} {op : CustomResponses.Operation}
    (h : bot.registry.route m = .call s bindings op.handler) (hname : s.name = op.name) :
    ∃ word, bindings.find? "command" = some word ∧ ' ' ∉ word ∧ (∃ c, word.head? = some c ∧ Text.isBlank c = false) ∧
      ∀ line, m.content = bot.settings.leader :: line → word.length < line.length ∧
        (' ' ∉ line → bindings = [("command".toList, word)]) := by
  obtain ⟨started, hregistry⟩ := hbot.registry
  obtain ⟨-, hextract, c, hc, rfl, -, -⟩ := Registry.exists_of_route_eq_call h
  rw [hregistry] at hc
  rcases operation_or_keeps hc with ⟨usage, op', rfl⟩ | ⟨hother, -⟩
  · obtain rfl : op' = op := CustomResponses.Operation.name_injective hname
    let s := schemaOf bot.settings usage op'.name op'.slots true
    obtain ⟨slots, hslots, hkeys⟩ : ∃ slots, s.slots = ⟨"command", .required⟩ :: slots ∧
        "command".toList ∉ slots.map Slot.key := by
      cases op' with
      | remove => exact ⟨[], rfl, by decide⟩
      | _ => exact ⟨[⟨"body", .flexible⟩], rfl, by decide⟩
    obtain ⟨word, hfind, hspace, hhead, hlength, hone⟩ := exists_word_of_extract hslots hkeys hextract
    refine ⟨word, hfind, hspace, hhead, fun line hcontent => ?_⟩
    have hline : Text.dropLeading s.leader m.content = line := by
      rw [hcontent]
      exact congrArg (Option.getD · _) (Text.after?_append [bot.settings.leader] line)
    have hpositive : 0 < op'.name.length := by
      cases op' <;> decide
    have hname : s.name.length = op'.name.length := rfl
    rw [hline] at hlength hone
    exact ⟨by omega, hone⟩
  · exact absurd hname (hother op)

/-! ## Confirmations -/

/-- The message runs a command for custom responses that reads this name and this body off the line and replies that the name
has the body now. -/
structure Confirms (bot : Bot τ) (m : Message) (w : World τ) (name body : Text) : Prop where
  read : ∃ s bindings op, bot.registry.route m = .call s bindings (CustomResponses.Operation.handler op) ∧
    s.name = op.name ∧ bindings.find? "command" = some name ∧ Arguments.getNonEmpty? ⟨s, bindings⟩ "body" = some body
  told : Response.toMessage m .reply (CustomResponses.updated name body) ∈ (bot.course m w).byCommand m

theorem Confirms.entries (h : bot.Confirms m w name body) (hbot : bot.IsFull) :
    (bot.handle m w).2.1.shelf.entries = w.shelf.entries.set m.channel name ⟨name, body⟩ := by
  obtain ⟨s, bindings, op, hroute, -, hname, hbody⟩ := h.read
  obtain ⟨hsaid, -, -⟩ := course_of_operation w hroute
  let d := op.decide ⟨s, bindings⟩ m.channel (w.shelf.entries.channel m.channel)
  -- The confirmation begins with a letter that no other reply begins with.
  have hfront : ∀ text, Program.Output.response .reply text ∈ (d.outcome m.channel w).1 →
      Errand.responseOf? m (.response .reply text) = some (Response.toMessage m .reply (CustomResponses.updated name body)) →
      Text.front? text = some 'u' := by
    intro text _ hresponse
    obtain ⟨content, hcontent, hsame⟩ := Option.map_eq_some_iff.mp hresponse
    have htext : content = CustomResponses.updated name body := congrArg Response.content hsame
    rw [Errand.deliverable?] at hcontent
    split at hcontent
    · cases hcontent
    · rw [← Text.head?_trim, Option.some.inj hcontent, htext]
      rfl
  have htold := h.told
  rw [hsaid] at htold
  obtain ⟨o, ho, hresponse⟩ := List.mem_filterMap.mp htold
  rcases op.decide_cases ⟨s, bindings⟩ m.channel (w.shelf.entries.channel m.channel) with
    ⟨fault, hd⟩ | ⟨text, hd, hother⟩ | ⟨given, body', note, hgiven, hbody', -, -, hd⟩ | ⟨given, note, -, hd⟩
  · rw [hd] at ho
    cases ho
  · have hmem := ho
    rw [hd] at hmem
    obtain rfl : o = .response .reply text := List.mem_singleton.mp hmem
    exact absurd (hfront text ho hresponse) hother
  · obtain rfl : name = given := Option.some.inj (hname.symm.trans hgiven)
    obtain rfl : body = body' := Option.some.inj (hbody.symm.trans hbody')
    rw [hbot.entries_handle_of_operation hroute, hd]
    rfl
  · have hmem := ho
    rw [hd] at hmem
    rcases CustomResponses.mem_outcome_of_change hmem with rfl | rfl
    · cases hresponse
    · have hremoved : Text.front? (CustomResponses.removed given) = some 'r' := rfl
      have hu := hfront _ ho hresponse
      rw [hremoved] at hu
      exact absurd hu (by decide)

theorem Confirms.name_spec (h : bot.Confirms m w name body) (hbot : bot.IsFull) :
    ' ' ∉ name ∧ ∃ c, name.head? = some c ∧ Text.isBlank c = false := by
  obtain ⟨s, bindings, op, hroute, hop, hname, -⟩ := h.read
  obtain ⟨word, hword, hspace, hhead, -⟩ := hbot.exists_name_of_route hroute hop
  obtain rfl : name = word := Option.some.inj (hname.symm.trans hword)
  exact ⟨hspace, hhead⟩

/-! ## Messages after a confirmation -/

theorem IsFull.channel_handle_of_ne (hbot : bot.IsFull) {c : Text} (hc : m.channel ≠ c) :
    (bot.handle m w).2.1.shelf.entries.channel c = w.shelf.entries.channel c := by
  rcases hbot.entries_handle m w with hsame | ⟨op, args, happlied⟩
  · rw [hsame]
  · rw [happlied, CustomResponses.Decision.channel_applied_of_ne _ _ hc]

theorem IsFull.channel_after_of_ne (hbot : bot.IsFull) {c : Text} (arrivals : List (Arrival τ))
    (h : ∀ a ∈ arrivals, a.message.channel ≠ c) :
    (bot.after arrivals w).shelf.entries.channel c = w.shelf.entries.channel c := by
  induction arrivals generalizing w with
  | nil => rfl
  | cons a arrivals ih =>
    have hfirst := hbot.channel_handle_of_ne (w := a.meets w) (h a List.mem_cons_self)
    have hrest := ih (w := (bot.handle a.message (a.meets w)).2.1) fun b hb => h b (List.mem_cons_of_mem a hb)
    rw [after_cons, hrest, hfirst]
    rfl

/-- A message of the leader and a name cannot touch the response of that name: what it could take out has a shorter name. -/
theorem IsFull.get?_handle_of_request (hbot : bot.IsFull) (hcontent : m.content = bot.settings.leader :: name)
    (hspace : ' ' ∉ name) :
    (bot.handle m w).2.1.shelf.entries.get? m.channel name = w.shelf.entries.get? m.channel name := by
  rcases hbot.runs_operation_or_keeps m with ⟨s, bindings, op, hroute, hname, -⟩ | ⟨-, hkeeps⟩
  · obtain ⟨word, hfind, -, -, hline⟩ := hbot.exists_name_of_route hroute hname
    obtain ⟨hshort, hone⟩ := hline name hcontent
    have hbody : Arguments.getNonEmpty? ⟨s, bindings⟩ "body" = none := by
      rw [hone hspace]
      rfl
    have hne : word ≠ name := by
      rintro rfl
      exact absurd hshort (Nat.lt_irrefl _)
    rw [hbot.entries_handle_of_operation hroute]
    exact CustomResponses.Operation.get?_applied_of_ne hfind hbody hne
  · rw [hbot.entries_handle_of_keeps w hkeeps]

/-- The custom response that the handler of custom responses finds for a message. -/
def found (bot : Bot τ) (m : Message) (w : World τ) : Option Template :=
  (CustomResponses.requestedName? bot.settings.leader m).bind
    ((bot.course m w).command.state.shelf.entries.get? m.channel)

def filledIn (m : Message) (template : Template) : List Response :=
  (CustomResponses.saying (((template.apply (CustomResponses.environment m)).mapError Fault.template).map some)).filterMap
    (Errand.responseOf? m)

theorem byFirst_of_found {template : Template} (h : bot.found m w = some template) :
    (bot.course m w).byFirst m = filledIn m template := by
  obtain ⟨-, -, hanswer⟩ := course_around_command bot m w
  have hlookup : (CustomResponses.requestedName? bot.settings.leader m).bind
      ((bot.course m w).command.state.shelf.entries.channel m.channel).find? = some template := h
  rw [hanswer, CustomResponses.answerTo, hlookup]
  rfl

/-- A response whose name has no blank in it is found for the leader and its name. -/
theorem IsFull.found_of_request (hbot : bot.IsFull) {template : Template} {c : Char}
    (hcontent : m.content = bot.settings.leader :: name) (hhead : name.head? = some c)
    (hname : ∀ c ∈ name, Text.isBlank c = false) (h : w.shelf.entries.get? m.channel name = some template) :
    bot.found m w = some template := by
  have hc : Text.isBlank c = false := hname c (List.mem_of_head? hhead)
  have hspace : ' ' ∉ name := fun hmem => absurd (hname ' ' hmem) (by decide)
  have hword : (name.takeWhile fun c => !Text.isBlank c) = name :=
    List.takeWhile_eq_self_iff.mpr fun d hd => by simp [hname d hd]
  have hasked := CustomResponses.requestedName?_of_content hcontent hhead hc
  rw [hword] at hasked
  rw [found, hasked, Option.bind_some, hbot.entries_course, hbot.get?_handle_of_request hcontent hspace, h]

theorem Confirms.get?_after (h : bot.Confirms m w name body) (hbot : bot.IsFull) (between : List (Arrival τ))
    (hbetween : ∀ b ∈ between, b.message.channel ≠ m.channel) :
    (bot.after between (bot.handle m w).2.1).shelf.entries.get? m.channel name = some ⟨name, body⟩ := by
  rw [Entries.get?, hbot.channel_after_of_ne between hbetween, h.entries hbot, Entries.channel_set_self,
    Assoc.find?_insert_self]

/-- A response that was confirmed is there when the next message on its channel arrives. If that is the leader and the name, the
handler looks up what stands in the name before its first blank. So it finds the response and says its body, filled in, when the
name has no blank; a name with a blank, which no space is, is looked up for no message at all. -/
theorem confirmed_response_is_found (settings : Settings) (started : τ) :
    ∃ bot, full settings started = .ok bot ∧ ∀ (a next : Arrival τ) (between : List (Arrival τ)) (w : World τ)
      (name body : Text),
      bot.Confirms a.message (a.meets w) name body →
      (∀ b ∈ between, b.message.channel ≠ a.message.channel) →
      next.message.channel = a.message.channel → next.message.content = settings.leader :: name →
      let v := next.meets (bot.after between (bot.handle a.message (a.meets w)).2.1)
      v.shelf.entries.get? next.message.channel name = some ⟨name, body⟩ ∧
      CustomResponses.requestedName? settings.leader next.message = some (name.takeWhile fun c => !Text.isBlank c) ∧
      ((∀ c ∈ name, Text.isBlank c = false) → bot.found next.message v = some ⟨name, body⟩ ∧
        (bot.course next.message v).byFirst next.message = filledIn next.message ⟨name, body⟩) ∧
      ((∃ c ∈ name, Text.isBlank c = true) → ∀ m, CustomResponses.requestedName? settings.leader m ≠ some name) := by
  obtain ⟨bot, hfull⟩ : ∃ bot, full settings started = .ok bot := ⟨_, full_eq_ok settings started⟩
  obtain ⟨rfl, hbot⟩ := isFull_of_full hfull
  refine ⟨bot, hfull, ?_⟩
  intro a next between w name body hconfirms hbetween hchannel hcontent v
  obtain ⟨-, c, hhead, hc⟩ := hconfirms.name_spec hbot
  have hthere : v.shelf.entries.get? next.message.channel name = some ⟨name, body⟩ := by
    rw [hchannel]
    exact hconfirms.get?_after hbot between hbetween
  refine ⟨hthere, CustomResponses.requestedName?_of_content hcontent hhead hc, ?_, ?_⟩
  · intro hname
    have hfound := hbot.found_of_request hcontent hhead hname hthere
    exact ⟨hfound, byFirst_of_found hfound⟩
  · rintro ⟨d, hd, hblank⟩ m hasked
    have hnot := CustomResponses.not_isBlank_of_requestedName? hasked hd
    rw [hblank] at hnot
    cases hnot

/-- A moderator sets a response, another takes one of that name out on another channel, and the first one is found. -/
theorem confirmed_response_is_found_of_set :
    let mod (channel content : Text) : Arrival Milliseconds := ⟨⟨channel, "mod", content, ["moderator"], "console", "m0"⟩, ⟨1⟩⟩
    let a := mod "#lobby" "!set hi hello $\x7bname\x7d"
    let between := [mod "#cellar" "!remove hi"]
    let next : Arrival Milliseconds := ⟨⟨"#lobby", "ana", "!hi", [], "console", "m1"⟩, ⟨2⟩⟩
    let w : World Milliseconds :=
      { files := ⟨[]⟩, clock := ⟨0⟩, replies := [], draws := [], shelf := ⟨.ofText "commands.json", [], false⟩,
        lastChatter := none }
    ∃ bot, full Settings.standard ⟨0⟩ = .ok bot ∧ bot.Confirms a.message (a.meets w) "hi" "hello $\x7bname\x7d" ∧
      (∀ b ∈ between, b.message.channel ≠ a.message.channel) ∧
      bot.found next.message (next.meets (bot.after between (bot.handle a.message (a.meets w)).2.1)) =
        some ⟨"hi", "hello $\x7bname\x7d"⟩ := by
  intro mod a between next w
  obtain ⟨bot, hfull, hfound⟩ := confirmed_response_is_found Settings.standard (⟨0⟩ : Milliseconds)
  obtain ⟨hsettings, hbot⟩ := isFull_of_full hfull
  have hcontent : a.message.content = bot.settings.leader ::
      (CustomResponses.Operation.set.name ++ ' ' :: ("hi".toList ++ ' ' :: "hello $\x7bname\x7d".toList)) := by
    rw [hsettings]
    rfl
  obtain ⟨s, hname, hroute⟩ := hbot.route_of_storing_line (by simp) rfl hcontent rfl (by decide) (by decide) (by decide)
  have hconfirms : bot.Confirms a.message (a.meets w) "hi" "hello $\x7bname\x7d" := by
    refine ⟨⟨s, _, .set, hroute, hname, rfl, rfl⟩, ?_⟩
    have hbot := hfull
    rw [full_eq_ok] at hbot
    obtain rfl := Except.ok.inj hbot
    decide +kernel
  have hbetween : ∀ b ∈ between, b.message.channel ≠ a.message.channel := by decide
  have hall : ("hi".toList.all fun c => !Text.isBlank c) = true := by decide
  have hblank : ∀ c ∈ "hi".toList, Text.isBlank c = false := fun c hc => by simpa using List.all_eq_true.mp hall c hc
  have hrequest : next.message.content = Settings.standard.leader :: "hi".toList := rfl
  obtain ⟨-, -, hrecalled, -⟩ := hfound a next between w _ _ hconfirms hbetween rfl hrequest
  exact ⟨bot, hfull, hconfirms, hbetween, (hrecalled hblank).1⟩

/-- A name with a tab is confirmed and never found. -/
theorem confirmed_name_with_tab_is_not_found :
    let a : Arrival Milliseconds := ⟨⟨"#lobby", "mod", "!set a\tb hello", ["moderator"], "console", "m0"⟩, ⟨1⟩⟩
    let next : Arrival Milliseconds := ⟨⟨"#lobby", "ana", "!a\tb", [], "console", "m1"⟩, ⟨2⟩⟩
    let w : World Milliseconds :=
      { files := ⟨[]⟩, clock := ⟨0⟩, replies := [], draws := [], shelf := ⟨.ofText "commands.json", [], false⟩,
        lastChatter := none }
    ∃ bot, full Settings.standard ⟨0⟩ = .ok bot ∧ bot.Confirms a.message (a.meets w) "a\tb" "hello" ∧
      bot.found next.message (next.meets (bot.handle a.message (a.meets w)).2.1) = none ∧
      (bot.handle next.message (next.meets (bot.handle a.message (a.meets w)).2.1)).1 = [] := by
  intro a next w
  have hfull := full_eq_ok Settings.standard (⟨0⟩ : Milliseconds)
  obtain ⟨hsettings, hbot⟩ := isFull_of_full hfull
  have hcontent : a.message.content = Settings.standard.leader ::
      (CustomResponses.Operation.set.name ++ ' ' :: ("a\tb".toList ++ ' ' :: "hello".toList)) := rfl
  obtain ⟨s, hname, hroute⟩ := hbot.route_of_storing_line (by simp) rfl hcontent rfl (by decide) (by decide) (by decide)
  refine ⟨_, hfull, ⟨⟨s, _, .set, hroute, hname, rfl, rfl⟩, ?_⟩, ?_, ?_⟩
  · decide +kernel
  · decide +kernel
  · decide +kernel

end Bot
end ChatBot
