import ChatBot.Proofs.Bot.Operations

/-!
Channels do not see each other's custom responses. In two runs that agree on the messages of a channel, whatever the messages
of other channels are, the channel ends with the same responses, and the commands for custom responses and the answers say the
same there.
-/
set_option autoImplicit false

namespace ChatBot
variable {τ : Type}

/-! ## Worlds in which writes succeed -/

/-- No write is under way, none of the coming ones is refused, the file can be written, and no character stands for a half of one,
so there is no text but can be encoded. -/
structure World.Writable (w : World τ) : Prop where
  free : w.shelf.writing = false
  unrefused : ∀ refusal ∈ w.refusals, refusal = none
  whole : ∀ c, w.runtime.isHalf c = false
  opens : ∃ (bytes : ByteArray) (files : Storage.FileSystem), w.files.put w.shelf.path (.file bytes) = .ok files

theorem World.Writable.of_storage {w w' : World τ} (h : w.Writable) (hstorage : w.storage = w'.storage) : w'.Writable := by
  obtain ⟨hfiles, hshelf, hrefusals, hruntime⟩ := World.storage_eq_iff.mp hstorage
  exact ⟨hshelf ▸ h.free, hrefusals ▸ h.unrefused, hruntime ▸ h.whole, hfiles ▸ hshelf ▸ h.opens⟩

theorem World.nextRefusal_eq_none {w : World τ} (h : ∀ refusal ∈ w.refusals, refusal = none) : w.nextRefusal.1 = none := by
  cases hnext : w.nextRefusal.1 with
  | none => rfl
  | some refusal => cases h _ (Storage.Shelf.mem_of_nextRefusal hnext)

/-- A write succeeds, and so can the next. -/
theorem World.Writable.finishWrite {w : World τ} (h : w.Writable) (entries : Storage.Entries) :
    (Storage.Shelf.finishWrite entries (w.withWriting true)).1 = .ok () ∧
      (Storage.Shelf.finishWrite entries (w.withWriting true)).2.Writable := by
  obtain ⟨_, _, hother⟩ := h.opens
  obtain ⟨files, hput⟩ := Storage.FileSystem.exists_put_of_put hother
    (Storage.FileSystem.encode (Json.print entries.document))
  have hwhole : (Json.print entries.document).any w.runtime.isHalf = false := by
    rw [List.any_eq_false]
    exact fun c _ => by simp [h.whole c]
  cases hrefusal : (w.withWriting true).nextRefusal with
  | mk refusal next =>
    obtain ⟨hshelf, hfiles, hruntime, hrefusals⟩ := Storage.Shelf.nextRefusal_keeps hrefusal
    have hnone : (w.withWriting true).nextRefusal.1 = none := World.nextRefusal_eq_none h.unrefused
    obtain rfl : refusal = none := (congrArg Prod.fst hrefusal).symm.trans hnone
    have hsave : next.files.writeText next.runtime next.shelf.path (Json.print entries.document) none = (.ok (), files) := by
      rw [hfiles, hruntime, hshelf]
      exact Storage.FileSystem.writeText_of_put hwhole hput
    simp only [Storage.Shelf.finishWrite, hrefusal, Storage.Entries.save, hsave]
    refine ⟨trivial, rfl, fun refusal hmem => h.unrefused refusal (hrefusals hmem), fun c => ?_, ?_⟩
    · change next.runtime.isHalf c = false
      rw [hruntime]
      exact h.whole c
    · have hagain : files.put next.shelf.path
          (.file (Storage.FileSystem.encode (Json.print entries.document))) = .ok files := by
        rw [hshelf]
        exact Storage.FileSystem.put_again hput
      exact ⟨_, files, hagain⟩

namespace Feature.CustomResponses

def Decision.told : Decision → List Program.Output
  | fail _ => []
  | reply text => [.response .reply text]
  | change _ note text => [.note note, .response .reply text]

theorem written_of_writable (note : Note) (text : Text) {w : World τ} (h : w.Writable) :
    (written note text w).1 = [.note note, .response .reply text] ∧ (written note text w).2.Writable := by
  obtain ⟨hresult, hwritable⟩ := h.finishWrite w.shelf.entries
  rw [written, hresult]
  exact ⟨rfl, hwritable⟩

theorem Decision.outcome_of_writable (d : Decision) (channel : Text) {w : World τ} (h : w.Writable) :
    (d.outcome channel w).1 = d.told ∧ (d.outcome channel w).2.Writable := by
  cases d with
  | fail fault => exact ⟨rfl, h⟩
  | reply text => exact ⟨rfl, h⟩
  | change templates note text =>
    have hchanged : (w.withEntries (w.shelf.entries.insert channel templates)).Writable := ⟨h.free, h.unrefused, h.whole, h.opens⟩
    rw [outcome, h.free]
    exact written_of_writable note text hchanged

theorem Decision.channel_applied_congr (d : Decision) {channel : Text} {entries entries' : Storage.Entries}
    (h : entries.channel channel = entries'.channel channel) :
    (d.applied channel entries).channel channel = (d.applied channel entries').channel channel := by
  cases d with
  | fail fault => exact h
  | reply text => exact h
  | change templates note text => rw [channel_applied_change, channel_applied_change]

end Feature.CustomResponses

namespace Bot
open Command Feature
variable [Instant τ]

def runsOperation (r : Registry (Handler (World τ))) (m : Message) : Bool :=
  match r.route m with
  | .call s _ _ => [.set, .add, .edit, .remove].any fun op : CustomResponses.Operation => s.name = op.name
  | _ => false

/-- What the commands for custom responses and the handler that answers with them say to a message. -/
def customSaid (bot : Bot τ) (m : Message) (w : World τ) : List Response × List Response :=
  (if runsOperation bot.registry m then (bot.course m w).byCommand m else [], (bot.course m w).byFirst m)

/-- What they say to the messages of a channel that are handled one after the other among others. -/
def customSaidOn (bot : Bot τ) (c : Text) : List (Arrival τ) → World τ → List (List Response × List Response)
  | [], _ => []
  | a :: arrivals, w =>
    let rest := customSaidOn bot c arrivals (bot.handle a.message (a.meets w)).2.1
    if a.message.channel = c then bot.customSaid a.message (a.meets w) :: rest else rest

/-! ## One message -/

omit [Instant τ] in
theorem runsOperation_of_call {r : Registry (Handler (World τ))} {m : Message} {s : Schema} {bindings : Bindings}
    {handler : Handler (World τ)} {op : CustomResponses.Operation} (h : r.route m = .call s bindings handler)
    (hname : s.name = op.name) : runsOperation r m = true := by
  rw [runsOperation, h]
  cases op <;> simp [hname]

omit [Instant τ] in
theorem runsOperation_eq_false {r : Registry (Handler (World τ))} {m : Message}
    (h : ∀ s bindings handler, r.route m = .call s bindings handler → ∀ op : CustomResponses.Operation, s.name ≠ op.name) :
    runsOperation r m = false := by
  rw [runsOperation]
  split
  · rename_i hroute
    simp [h _ _ _ hroute]
  · rfl

/-- What the handler of custom responses says to a message on a channel with these responses. -/
def answers (bot : Bot τ) (m : Message) (templates : Assoc Text Template) : List Response :=
  (CustomResponses.saying (CustomResponses.answerTo bot.settings.leader m templates)).filterMap (Errand.responseOf? m)

variable {bot : Bot τ} {m : Message} {w w' : World τ} {c : Text}

/-- What a command for custom responses does where writes succeed. -/
theorem IsFull.handle_of_operation (hbot : bot.IsFull) {s : Schema} {bindings : Bindings} {op : CustomResponses.Operation}
    (h : bot.registry.route m = .call s bindings op.handler) (hname : s.name = op.name) (hw : w.Writable) :
    let d := op.decide ⟨s, bindings⟩ m.channel (w.shelf.entries.channel m.channel)
    (bot.handle m w).2.1.Writable ∧ (bot.handle m w).2.1.shelf.entries = d.applied m.channel w.shelf.entries ∧
      bot.customSaid m w = (d.told.filterMap (Errand.responseOf? m),
        bot.answers m ((d.applied m.channel w.shelf.entries).channel m.channel)) := by
  intro d
  obtain ⟨hsaid, hstorage, hentries⟩ := course_of_operation w h
  obtain ⟨htold, hwritable⟩ := d.outcome_of_writable m.channel hw
  obtain ⟨-, -, hanswer⟩ := course_around_command bot m w
  have happlied : (d.outcome m.channel w).2.shelf.entries = d.applied m.channel w.shelf.entries := by
    rw [CustomResponses.Decision.outcome_shelf]
  rw [← (hbot.handle_eq_course m w).2] at hstorage
  refine ⟨hwritable.of_storage hstorage.symm, ?_, ?_⟩
  · rw [(World.storage_eq_iff.mp hstorage).2.1, happlied]
  · rw [hentries, happlied] at hanswer
    rw [htold] at hsaid
    rw [customSaid, if_pos (runsOperation_of_call h hname), hsaid, hanswer, answers]

theorem IsFull.handle_of_keeps (hbot : bot.IsFull)
    (hcalls : ∀ s bindings handler, bot.registry.route m = .call s bindings handler →
      ∀ op : CustomResponses.Operation, s.name ≠ op.name)
    (hkeeps : (bot.registry.dispatch m).Keeps World.storage) (w : World τ) :
    (bot.handle m w).2.1.storage = w.storage ∧
      bot.customSaid m w = ([], bot.answers m (w.shelf.entries.channel m.channel)) := by
  obtain ⟨hcommand, hlast⟩ := course_of_keeps w hkeeps
  obtain ⟨-, -, hanswer⟩ := course_around_command bot m w
  rw [(World.storage_eq_iff.mp hcommand).2.1] at hanswer
  rw [(hbot.handle_eq_course m w).2, customSaid, runsOperation_eq_false hcalls, hanswer]
  exact ⟨hlast, rfl⟩

/-- Two worlds in which writes succeed and a channel has the same custom responses. -/
structure AgreeOn (c : Text) (w w' : World τ) : Prop where
  channel : w.shelf.entries.channel c = w'.shelf.entries.channel c
  writable : w.Writable
  writable' : w'.Writable

/-- What a message does to the channel it is on, and what is said of it, depends on that channel's responses alone. -/
theorem IsFull.agree_handle (hbot : bot.IsFull) (h : AgreeOn m.channel w w') :
    AgreeOn m.channel (bot.handle m w).2.1 (bot.handle m w').2.1 ∧ bot.customSaid m w = bot.customSaid m w' := by
  rcases hbot.runs_operation_or_keeps m with ⟨s, bindings, op, hroute, hname, -⟩ | ⟨hcalls, hkeeps⟩
  · -- Both runs come to one decision, which says what the channel becomes.
    obtain ⟨hwritable, hentries, hsaid⟩ := hbot.handle_of_operation hroute hname h.writable
    obtain ⟨hwritable', hentries', hsaid'⟩ := hbot.handle_of_operation hroute hname h.writable'
    rw [← h.channel] at hentries' hsaid'
    let d := op.decide ⟨s, bindings⟩ m.channel (w.shelf.entries.channel m.channel)
    have hchannel : (d.applied m.channel w.shelf.entries).channel m.channel =
        (d.applied m.channel w'.shelf.entries).channel m.channel := d.channel_applied_congr h.channel
    exact ⟨⟨by rw [hentries, hentries', hchannel], hwritable, hwritable'⟩, by rw [hsaid, hsaid', hchannel]⟩
  · obtain ⟨hstorage, hsaid⟩ := hbot.handle_of_keeps hcalls hkeeps w
    obtain ⟨hstorage', hsaid'⟩ := hbot.handle_of_keeps hcalls hkeeps w'
    have hshelf := (World.storage_eq_iff.mp hstorage).2.1
    have hshelf' := (World.storage_eq_iff.mp hstorage').2.1
    refine ⟨⟨?_, h.writable.of_storage hstorage.symm, h.writable'.of_storage hstorage'.symm⟩, ?_⟩
    · rw [hshelf, hshelf', h.channel]
    · rw [hsaid, hsaid', h.channel]

theorem IsFull.agree_handle_elsewhere (hbot : bot.IsFull) (h : AgreeOn c w w') (hm : m.channel ≠ c) :
    AgreeOn c (bot.handle m w).2.1 w' := by
  rcases hbot.runs_operation_or_keeps m with ⟨s, bindings, op, hroute, hname, -⟩ | ⟨hcalls, hkeeps⟩
  · obtain ⟨hwritable, hentries, -⟩ := hbot.handle_of_operation hroute hname h.writable
    refine ⟨?_, hwritable, h.writable'⟩
    rw [hentries, CustomResponses.Decision.channel_applied_of_ne _ _ hm, h.channel]
  · obtain ⟨hstorage, -⟩ := hbot.handle_of_keeps hcalls hkeeps w
    refine ⟨?_, h.writable.of_storage hstorage.symm, h.writable'⟩
    rw [(World.storage_eq_iff.mp hstorage).2.1, h.channel]

/-! ## Runs -/

omit [Instant τ] in
theorem AgreeOn.meets (h : AgreeOn c w w') (a a' : Arrival τ) : AgreeOn c (a.meets w) (a'.meets w') :=
  ⟨h.channel, h.writable.of_storage rfl, h.writable'.of_storage rfl⟩

theorem IsFull.agree_after_filter (hbot : bot.IsFull) (arrivals : List (Arrival τ)) (h : AgreeOn c w w') :
    AgreeOn c (bot.after arrivals w) (bot.after (arrivals.filter (·.message.channel = c)) w') ∧
      bot.customSaidOn c arrivals w = bot.customSaidOn c (arrivals.filter (·.message.channel = c)) w' := by
  induction arrivals generalizing w w' with
  | nil => exact ⟨h, rfl⟩
  | cons a arrivals ih =>
    by_cases hc : a.message.channel = c
    · subst hc
      obtain ⟨hagree, hsaid⟩ := hbot.agree_handle (h.meets a a)
      obtain ⟨hruns, hrest⟩ := ih hagree
      rw [List.filter_cons, if_pos (by simp), after_cons, after_cons, customSaidOn, customSaidOn, if_pos rfl, if_pos rfl,
        hsaid, hrest]
      exact ⟨hruns, rfl⟩
    · have hmeets : AgreeOn c (a.meets w) w' := ⟨h.channel, h.writable.of_storage rfl, h.writable'⟩
      obtain ⟨hruns, hrest⟩ := ih (hbot.agree_handle_elsewhere hmeets hc)
      rw [List.filter_cons, if_neg (by simpa using hc), after_cons, customSaidOn, if_neg hc]
      exact ⟨hruns, hrest⟩

/-- On one channel it does not matter when the messages arrive. -/
theorem IsFull.agree_after_of_messages (hbot : bot.IsFull) {arrivals arrivals' : List (Arrival τ)} (h : AgreeOn c w w')
    (hc : ∀ a ∈ arrivals, a.message.channel = c)
    (hmessages : arrivals.map Arrival.message = arrivals'.map Arrival.message) :
    AgreeOn c (bot.after arrivals w) (bot.after arrivals' w') ∧
      bot.customSaidOn c arrivals w = bot.customSaidOn c arrivals' w' := by
  induction arrivals generalizing arrivals' w w' with
  | nil =>
    obtain rfl := List.map_eq_nil_iff.mp hmessages.symm
    exact ⟨h, rfl⟩
  | cons a arrivals ih =>
    obtain ⟨a', arrivals', rfl, hmessage, hrest⟩ := List.map_eq_cons_iff.mp hmessages.symm
    obtain rfl := hc a List.mem_cons_self
    obtain ⟨hagree, hsaid⟩ := hbot.agree_handle (h.meets a a')
    obtain ⟨hruns, hsaidOn⟩ := ih hagree (fun b hb => hc b (List.mem_cons_of_mem a hb)) hrest.symm
    rw [after_cons, after_cons, customSaidOn, customSaidOn, hmessage, if_pos rfl, if_pos rfl, hsaid, hsaidOn]
    exact ⟨hruns, rfl⟩

/-- In two runs from the same responses, in which writes succeed and the messages on a channel are the same, whatever arrives on
other channels and whenever anything arrives: the channel has the same responses at the end, and to each of its messages the
commands for custom responses and the handler that answers with them say the same. -/
theorem channel_is_isolated (settings : Settings) (started : τ) :
    ∃ bot, full settings started = .ok bot ∧ ∀ (c : Text) (arrivals arrivals' : List (Arrival τ)) (w w' : World τ),
      w.Writable → w'.Writable → w.shelf.entries = w'.shelf.entries →
      (arrivals.filter (·.message.channel = c)).map Arrival.message =
        (arrivals'.filter (·.message.channel = c)).map Arrival.message →
      let entries := (bot.after arrivals w).shelf.entries
      let entries' := (bot.after arrivals' w').shelf.entries
      entries.commands c = entries'.commands c ∧ (∀ name, entries.get? c name = entries'.get? c name) ∧
        bot.customSaidOn c arrivals w = bot.customSaidOn c arrivals' w' := by
  refine ⟨_, full_eq_ok settings started, fun c arrivals arrivals' w w' hw hw' hentries hmessages => ?_⟩
  obtain ⟨-, hbot⟩ := isFull_of_full (full_eq_ok settings started)
  obtain ⟨hleft, hsaidLeft⟩ := hbot.agree_after_filter arrivals (⟨rfl, hw, hw⟩ : AgreeOn c w w)
  obtain ⟨hright, hsaidRight⟩ := hbot.agree_after_filter arrivals' (⟨rfl, hw', hw'⟩ : AgreeOn c w' w')
  obtain ⟨hmiddle, hsaid⟩ := hbot.agree_after_of_messages (⟨by rw [hentries], hw, hw'⟩ : AgreeOn c w w')
    (fun a ha => by simpa using (List.mem_filter.mp ha).2) hmessages
  have hchannel := hleft.channel.trans (hmiddle.channel.trans hright.channel.symm)
  exact ⟨congrArg (List.map _) hchannel, fun name => congrArg (Assoc.find? · name) hchannel,
    hsaidLeft.trans (hsaid.trans hsaidRight.symm)⟩

/-- A moderator sets a response on one channel, in one run after setting another response of that name elsewhere. -/
theorem channel_is_isolated_of_one_name :
    let mod (channel content : Text) (time : Int) : Arrival Milliseconds :=
      ⟨⟨channel, "mod", content, ["moderator"], "console", "1"⟩, ⟨time⟩⟩
    let alone := [mod "#lobby" "!set hi hello" 1]
    let among := [mod "#cellar" "!set hi bye" 1, mod "#lobby" "!set hi hello" 2, mod "#cellar" "!remove hi" 3]
    let w : World Milliseconds :=
      { files := ⟨[]⟩, clock := ⟨0⟩, replies := [], draws := [], shelf := ⟨.ofText "commands.json", [], false⟩,
        lastChatter := none }
    w.Writable ∧
      (alone.filter (·.message.channel = "#lobby".toList)).map Arrival.message =
        (among.filter (·.message.channel = "#lobby".toList)).map Arrival.message ∧
      ∃ bot, full Settings.standard ⟨0⟩ = .ok bot ∧
        (bot.after alone w).shelf.entries.get? "#lobby" "hi" = (bot.after among w).shelf.entries.get? "#lobby" "hi" := by
  intro mod alone among w
  have hw : w.Writable := ⟨rfl, by simp [w], fun _ => rfl, .empty, _, rfl⟩
  have hmessages : (alone.filter (·.message.channel = "#lobby".toList)).map Arrival.message =
      (among.filter (·.message.channel = "#lobby".toList)).map Arrival.message := by decide
  obtain ⟨bot, hfull, hisolated⟩ := channel_is_isolated Settings.standard (⟨0⟩ : Milliseconds)
  exact ⟨hw, hmessages, bot, hfull, (hisolated "#lobby" alone among w w hw hw rfl hmessages).2.1 "hi"⟩

end Bot
end ChatBot
