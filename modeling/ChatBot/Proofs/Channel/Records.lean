import ChatBot.Proofs.Bot.Strands
import ChatBot.Proofs.Channel.Session

/-!
The channels of records. While a message is handled, its channel is bound in all strands that work for it, and their records are made
under it. The strand that reads the console stays bound to the channel when the message is handled, so that the record of the console's
stop is made under the channel of the last message.
-/
set_option autoImplicit false

namespace ChatBot

/-! ## One message after the other -/

namespace Bot
variable {τ : Type} {strands : Strands Post} {w : Workload (World τ)}

theorem handleEach_cons (bot : Bot τ) (m : Message) (messages : List Message) (world : World τ) :
    (bot.handleEach (m :: messages) world).1 =
      ((bot.handle m world).1, (bot.handle m world).2.2) :: (bot.handleEach messages (bot.handle m world).2.1).1 := by
  rw [handleEach]

/-- Messages that arrive in one strand one after the other. -/
theorem exists_leads_messages (hstaffed : Staffed strands w) (bot : Bot τ) (reader : ℕ) (messages : List Message)
    {latest : Option Message} (hreader : strands (.reader reader) = .resting latest) :
    ∃ (happenings : List (Happening (World τ))) (w' : Workload (World τ)),
      bot.Leads strands w happenings w' ((messages.zip (bot.handleEach messages w.state).1).flatMap fun handled =>
        handled.2.2.map (Strand.working handled.1, ·)) ∧
      happenings.filterMap Happening.arrival? = messages.map (reader, ·) ∧
      strands.run (bot.acts w happenings) (.reader reader) = .resting (messages.getLast?.or latest) := by
  induction messages generalizing strands w latest with
  | nil => exact ⟨[], w, ⟨rfl, rfl⟩, rfl, hreader⟩
  | cons m messages ih =>
    obtain ⟨happenings, rest, hfirst, harrivals, hresting⟩ := exists_leads_message hstaffed bot reader m
    obtain ⟨more, w', hlater, hmore, hlast⟩ := ih (hfirst.staffed hstaffed) hresting
    refine ⟨happenings ++ more, w', ?_, ?_, ?_⟩
    · rw [handleEach_cons, List.zip_cons_cons, List.flatMap_cons]
      dsimp only at hlater ⊢
      exact hfirst.append hlater
    · rw [List.filterMap_append, harrivals, hmore, List.map_cons, List.singleton_append]
    · rw [acts_append, Strands.run_append, hfirst.after, hlast]
      cases messages with
      | nil => rfl
      | cons m' messages =>
        rw [List.getLast?_cons_cons, List.getLast?_eq_some_getLast (List.cons_ne_nil m' messages)]
        rfl

end Bot

/-! ## Messages that arrive through a bus -/

namespace Channel
variable {τ : Type}

/-- What happened is followed by more, in which all records are under one channel. -/
def Event.Follow (channel : Text) (earlier later : List Event) : Prop :=
  ∃ events, later = earlier ++ events ∧ ∀ r ∈ events.filterMap Event.record?, r.channel = channel

namespace Event
variable {channel : Text} {first second third : List Event}

theorem Follow.refl (channel : Text) (events : List Event) : Follow channel events events :=
  ⟨[], (List.append_nil events).symm, nofun⟩

theorem Follow.trans (h : Follow channel first second) (h' : Follow channel second third) : Follow channel first third := by
  obtain ⟨events, rfl, hevents⟩ := h
  obtain ⟨more, rfl, hmore⟩ := h'
  refine ⟨events ++ more, List.append_assoc .., fun r hr => ?_⟩
  rw [List.filterMap_append] at hr
  exact (List.mem_append.mp hr).elim (hevents r) (hmore r)

theorem Follow.recorded (events : List Event) {records : List Record} (h : ∀ r ∈ records, r.channel = channel) :
    Follow channel events (events ++ records.map Event.recorded) := by
  refine ⟨_, rfl, fun r hr => h r ?_⟩
  have hall : (records.map Event.recorded).filterMap Event.record? = records := by
    rw [List.filterMap_map]
    exact List.filterMap_some
  rwa [hall] at hr

end Event

namespace Traffic
open Event (Follow)

/-- What every receipt brings about, as far as it can be repeated, is brought about by the whole delivery. -/
theorem deliver_rel {σ : Type} {R : σ → σ → Prop} (hrefl : ∀ s, R s s) (htrans : ∀ s s' s'', R s s' → R s' s'' → R s s'')
    {receive : Receiver → σ → Except Fault Unit × σ} (h : ∀ receiver s, R s (receive receiver s).2) (receivers : List Receiver)
    (s : σ) : R s (Bus.deliver receive receivers s).2 := by
  induction receivers generalizing s with
  | nil => exact hrefl s
  | cons receiver receivers ih =>
    have hfirst := h receiver s
    rw [Bus.deliver]
    rcases hreceipt : receive receiver s with ⟨fault | _, s'⟩ <;> rw [hreceipt] at hfirst
    · exact hfirst
    · exact htrans s s' _ hfirst (ih s')

theorem deliver_send (r : Response) (channel : Text) (receivers : List Receiver) (t : Traffic τ) :
    (Bus.deliver (send r) receivers t).2.bound = t.bound ∧
      Follow channel t.events (Bus.deliver (send r) receivers t).2.events := by
  refine deliver_rel (R := fun t t' : Traffic τ => t'.bound = t.bound ∧ Follow channel t.events t'.events)
    (fun t => ⟨rfl, .refl channel t.events⟩) (fun _ _ _ h h' => ⟨h'.1.trans h.1, h.2.trans h'.2⟩) (fun receiver t => ?_) receivers t
  cases receiver with
  | manager => exact ⟨rfl, .refl channel t.events⟩
  | adapter seat sendFault => exact ⟨rfl, [.sent seat r], rfl, nofun⟩

/-- Records of the publishing are made under what is bound then. -/
theorem publishAll_follow (bus : Bus Receiver) (responses : List Response) (t : Traffic τ) :
    Follow t.bound t.events (publishAll bus responses t).2.events := by
  induction responses generalizing t with
  | nil => exact .refl t.bound t.events
  | cons r responses ih =>
    have hsend := deliver_send r t.bound (bus.responseReceivers r.source) t
    rw [publishAll, Bus.publishResponse_asSubscribed]
    rcases hdelivered : Bus.deliver (send r) (bus.responseReceivers r.source) t with ⟨fault | _, t'⟩ <;>
      rw [hdelivered] at hsend <;> dsimp only
    · exact hsend.2
    · split
      · rename_i hresult
        obtain ⟨-, rfl⟩ := Prod.mk.inj hresult
        exact hsend.2.trans (hsend.1 ▸ ih t')
      · rename_i hresult
        obtain ⟨-, rfl⟩ := Prod.mk.inj hresult
        have hbound : ∀ r' ∈ [(Bus.unroutedNote r).on t'.bound], r'.channel = t.bound := fun r' hr' =>
          List.mem_singleton.mp hr' ▸ hsend.1
        have hnote : Follow t.bound t'.events (t'.note (Bus.unroutedNote r)).events := .recorded t'.events hbound
        exact (hsend.2.trans hnote).trans (hsend.1 ▸ ih (t'.note (Bus.unroutedNote r)))
      · rename_i hresult
        cases hresult

/-- Whoever listens to a bus, and whatever becomes of the responses: all records of a message that arrives are under its channel. -/
theorem arrive_follow (bot : Bot τ) (bus : Bus Receiver) (m : Message) (t : Traffic τ) :
    Follow m.channel t.events (arrive bot.answering bus m t).2.events := by
  -- Each listener has the bot handle the message anew, which binds its channel before any response is published.
  have hprocess : ∀ t : Traffic τ, Follow m.channel t.events (process bot.answering bus m t).2.events := by
    intro t
    have hrecords : ∀ r ∈ (bot.handle m t.world).2.2, r.channel = m.channel := fun _ => bot.channel_of_mem_handle
    have hanswer : bot.answering m t.world = (.ok (bot.handle m t.world).1, (bot.handle m t.world).2) := by
      rw [Bot.answering]
    generalize bot.handle m t.world = handled at hrecords hanswer
    have hpublished := publishAll_follow bus handled.1 ⟨handled.2.1, m.channel, t.events ++ handled.2.2.map Event.recorded⟩
    rw [process, hanswer]
    exact (Follow.recorded t.events hrecords).trans hpublished
  refine deliver_rel (R := fun t t' : Traffic τ => Follow m.channel t.events t'.events) (fun t => .refl m.channel t.events)
    (fun _ _ _ => .trans) (fun receiver t => ?_) bus.messageReceivers t
  cases receiver with
  | manager =>
    dsimp only
    exact hprocess t
  | adapter seat sendFault => exact .refl m.channel t.events

end Traffic

/-! ## Sessions at the console -/

namespace Console
variable {config : ConsoleConfig}

theorem records_flatMap_account (handled : List (List Response × List Record)) :
    (handled.flatMap account).filterMap Event.record? = handled.flatMap Prod.snd := by
  have hone : ∀ h : List Response × List Record, (account h).filterMap Event.record? = h.2 := by
    intro h
    have hsent : (h.1.map (Event.sent ⟨adapterName, 0⟩)).filterMap Event.record? = [] := by
      rw [List.filterMap_map]
      exact List.filterMap_eq_nil_iff.mpr fun _ _ => rfl
    rw [account, List.filterMap_append, hsent, List.append_nil, List.filterMap_map]
    exact List.filterMap_some
  induction handled with
  | nil => rfl
  | cons first handled ih => rw [List.flatMap_cons, List.filterMap_append, hone, ih, List.flatMap_cons]

/-- The records of a session: those of its start, those of the messages, and that of its stop. -/
theorem records_session (bot : Bot τ) (config : ConsoleConfig) (ids : ℕ → Text) (input : Text) (w : World τ) :
    let messages := asMessages config ids (typed (List.splitOn '\n' input))
    (session bot config ids (inputLines input) w).events.filterMap Event.record? =
      [manager.startNote.on noChannel, (startNote config).on noChannel] ++ (bot.handleEach messages w).1.flatMap Prod.snd ++
        [stoppedNote.on (if messages = [] then noChannel else config.channel)] := by
  intro messages
  rw [session_eq, publishEach_eq_handleEach, Traffic.note, List.filterMap_append, List.filterMap_append, records_flatMap_account]
  simp only [messages, asMessages_eq_nil_iff, List.isEmpty_iff]
  rfl

theorem length_handleEach (bot : Bot τ) (messages : List Message) (w : World τ) :
    (bot.handleEach messages w).1.length = messages.length := by
  induction messages generalizing w with
  | nil => rfl
  | cons m messages ih =>
    rw [Bot.handleEach_cons, List.length_cons, ih, List.length_cons]

/-- The channel under which a session ends. -/
theorem channel_getLast? (config : ConsoleConfig) (ids : ℕ → Text) (contents : List Text) :
    ((asMessages config ids contents).getLast?.map Message.channel).getD noChannel =
      if asMessages config ids contents = [] then noChannel else config.channel := by
  cases hlast : (asMessages config ids contents).getLast? with
  | none => rw [List.getLast?_eq_none_iff.mp hlast, if_pos rfl, Option.map_none, Option.getD_none]
  | some m =>
    have hmem := List.mem_of_getLast? hlast
    obtain ⟨i, hi, rfl⟩ := List.mem_mapIdx.mp hmem
    rw [if_neg (List.ne_nil_of_mem hmem), Option.map_some, Option.getD_some]
    rfl

/-- In a session one strand makes the first records and the last one, and handles all messages in between. -/
theorem exists_happenings_session (bot : Bot τ) (config : ConsoleConfig) (ids : ℕ → Text) (input : Text) (w : World τ) :
    let messages := asMessages config ids (typed (List.splitOn '\n' input))
    ∃ happenings : List (Happening (World τ)), happenings.filterMap Happening.arrival? = messages.map (0, ·) ∧
      Strands.atRest.made (bot.acts ⟨w, []⟩ happenings) =
        [manager.startNote, startNote config].map (fun n => (Strand.resting none, n.on noChannel)) ++
          (messages.zip (bot.handleEach messages w).1).flatMap (fun handled => handled.2.2.map (Strand.working handled.1, ·)) ++
          [(.resting messages.getLast?, stoppedNote.on ((messages.getLast?.map Message.channel).getD noChannel))] := by
  intro messages
  have hopening : bot.Leads Strands.atRest ⟨w, []⟩ [.note 0 manager.startNote, .note 0 (startNote config)] ⟨w, []⟩
      ([manager.startNote, startNote config].map fun n => (Strand.resting none, n.on noChannel)) := ⟨rfl, rfl⟩
  obtain ⟨happenings, w', hleads, harrivals, hresting⟩ :=
    Bot.exists_leads_messages (hopening.staffed (Bot.staffed_nil _ w)) bot 0 messages rfl
  have hall := hopening.append hleads
  refine ⟨[.note 0 manager.startNote, .note 0 (startNote config)] ++ happenings ++ [.note 0 stoppedNote], ?_, ?_⟩
  · rw [List.filterMap_append, List.filterMap_append, harrivals]
    exact List.append_nil _
  · -- The strand that stops is at rest again, but what the last message has bound is bound still.
    rw [Bot.acts_append, Strands.made_append, hall.made, hall.after, Bot.acts_append, Strands.run_append, hopening.after]
    refine congrArg _ ((Bot.made_note bot w' 0 stoppedNote).trans ?_)
    rw [hresting, Option.or_none]
    rfl

/-- Whatever messages arrive in whatever strands, and in whatever order their errands take turns: a record is made under the channel
of the message that its strand handles or works for, and under that of the last such message if there is none now. The strands of an
errand make the records of its turns, all of them for its message. A message that arrives through a bus makes records under its channel
alone. At the console the records of the start are under no channel, those of a message are under the message's, and that of the stop is
under the channel of the last message: it is under none just when nothing was typed, or when the console's channel looks like none. -/
theorem records_carry_the_channel_of_their_strand (bot : Bot τ) (w : World τ) :
    (∀ happenings : List (Happening (World τ)),
      let acts := bot.acts ⟨w, []⟩ happenings
      let crowd := bot.proceed ⟨w, []⟩ happenings
      (∀ s r, (s, r) ∈ Strands.atRest.made acts → r.channel = (s.latest.map Message.channel).getD noChannel ∧
        ∀ m, s.message? = some m → r.channel = m.channel) ∧
      ∀ place t stops turn, crowd.errands[place]? = some t →
        (Strands.atRest.run acts).made (bot.actsOf crowd (.move (.turn place stops turn))) =
          (t.take stops turn crowd.state).2.2.map (Strand.working t.message, ·)) ∧
    (∀ (bus : Bus Receiver) (m : Message) (t : Traffic τ),
      Event.Follow m.channel t.events (Traffic.arrive bot.answering bus m t).2.events) ∧
    ∀ (config : ConsoleConfig) (ids : ℕ → Text) (input : Text),
      let messages := asMessages config ids (typed (List.splitOn '\n' input))
      let handled := messages.zip (bot.handleEach messages w).1
      let records := (session bot config ids (inputLines input) w).events.filterMap Event.record?
      let last := stoppedNote.on (if messages = [] then noChannel else config.channel)
      (∃ happenings : List (Happening (World τ)), happenings.filterMap Happening.arrival? = messages.map (0, ·) ∧
        let made := Strands.atRest.made (bot.acts ⟨w, []⟩ happenings)
        made.map Prod.snd = records ∧
        made = [manager.startNote, startNote config].map (fun n => (Strand.resting none, n.on noChannel)) ++
          handled.flatMap (fun (m, _, records) => records.map (Strand.working m, ·)) ++ [(Strand.resting messages.getLast?, last)]) ∧
      (last.channel = noChannel ↔ messages = [] ∨ config.channel = noChannel) := by
  refine ⟨fun happenings => ?_, fun bus m t => Traffic.arrive_follow bot bus m t, fun config ids input => ?_⟩
  · intro acts crowd
    have hstaffed := (Bot.staffed_nil Strands.atRest w).run bot happenings
    refine ⟨fun s r hmade => ?_, fun place t stops turn ht => hstaffed.made_turn bot ht stops turn⟩
    obtain ⟨hfollows, hchannel⟩ := Strands.of_mem_made Strands.follows_atRest hmade
    exact ⟨hchannel.trans hfollows, fun m hm => hchannel.trans (hfollows.bound_of_message? hm)⟩
  · intro messages handled records last
    obtain ⟨happenings, harrivals, hmade⟩ := exists_happenings_session bot config ids input w
    refine ⟨⟨happenings, harrivals, ?_, ?_⟩, ?_⟩
    · have hmessages : handled.map Prod.snd = (bot.handleEach messages w).1 :=
        List.map_snd_zip (length_handleEach bot messages w).le
      have hmiddle : (handled.flatMap fun h => h.2.2.map (Strand.working h.1, ·)).map Prod.snd =
          (bot.handleEach messages w).1.flatMap Prod.snd := by
        rw [← hmessages, List.flatMap_map, List.map_flatMap]
        simp only [List.map_map, Function.comp_def, List.map_id']
      rw [hmade, List.map_append, List.map_append, hmiddle, channel_getLast?]
      exact (records_session bot config ids input w).symm
    · rw [hmade, channel_getLast?]
    · show (if messages = [] then noChannel else config.channel) = noChannel ↔ _
      split
      · rename_i hnothing
        exact ⟨fun _ => .inl hnothing, fun _ => rfl⟩
      · rename_i hsome
        exact ⟨.inr, fun h => h.resolve_left hsome⟩

/-- Two messages in strands of their own, and a passive handler whose turns for them come the other way round. -/
theorem records_carry_the_channel_of_their_strand_of_two :
    let echo : Feature.PassiveHandler (World Milliseconds) := ⟨"echo", fun m => .respond .say m.content (.done ())⟩
    let bot : Bot Milliseconds := ⟨Settings.standard, ⟨['!'], []⟩, [echo]⟩
    let ana : Message := ⟨"#lobby", "ana", "hello", [], "web", "m0"⟩
    let bob : Message := ⟨"#den", "bob", "hi", [], "web", "m1"⟩
    let w : World Milliseconds :=
      { files := ⟨[]⟩, clock := ⟨0⟩, replies := [], draws := [], shelf := ⟨.ofText "commands.json", [], false⟩,
        lastChatter := none }
    let happenings : List (Happening (World Milliseconds)) := [.arrive 0 ana, .arrive 1 bob,
      .move (.turn 1 Bot.quiet (.passive 0)), .move (.turn 0 Bot.quiet (.passive 0))]
    let crowd := bot.proceed ⟨w, []⟩ happenings
    ∃ first second t, Strands.atRest.made (bot.acts ⟨w, []⟩ happenings) = [first, second] ∧
      first.1.message? = some bob ∧ first.2.channel = "#den" ∧ second.1.message? = some ana ∧ second.2.channel = "#lobby" ∧
      crowd.errands[0]? = some t ∧
      (Strands.atRest.run (bot.acts ⟨w, []⟩ happenings)).made (bot.actsOf crowd (.move (.turn 0 Bot.quiet .report))) =
        (t.take Bot.quiet .report crowd.state).2.2.map (Strand.working t.message, ·) := by
  intro echo bot ana bob w happenings crowd
  obtain ⟨hinterleaved, -, -⟩ := records_carry_the_channel_of_their_strand bot w
  obtain ⟨hchannels, hturns⟩ := hinterleaved happenings
  have hmessages : (Strands.atRest.made (bot.acts ⟨w, []⟩ happenings)).map (·.1.message?) = [some bob, some ana] := by
    decide +kernel
  obtain ⟨first, rest, hmade, hfirst, hrest⟩ := List.map_eq_cons_iff.mp hmessages
  obtain ⟨second, last, rfl, hsecond, hlast⟩ := List.map_eq_cons_iff.mp hrest
  obtain rfl := List.map_eq_nil_iff.mp hlast
  have hthere : crowd.errands[0]?.isSome = true := by decide +kernel
  obtain ⟨t, ht⟩ := Option.isSome_iff_exists.mp hthere
  rw [hmade] at hchannels
  exact ⟨first, second, t, hmade, hfirst, (hchannels first.1 first.2 List.mem_cons_self).2 bob hfirst, hsecond,
    (hchannels second.1 second.2 (List.mem_cons_of_mem _ List.mem_cons_self)).2 ana hsecond, ht,
    hturns 0 t Bot.quiet .report ht⟩

/-- No message is handled when the console stops, but the record of it is under the channel of the one that was typed. -/
theorem stop_is_recorded_under_the_last_channel :
    let config : ConsoleConfig := ⟨"#console", "console_user", []⟩
    let w : World Milliseconds :=
      { files := ⟨[]⟩, clock := ⟨0⟩, replies := [], draws := [], shelf := ⟨.ofText "commands.json", [], false⟩,
        lastChatter := none }
    ∃ bot, Bot.full Settings.standard ⟨0⟩ = .ok bot ∧
      ((session bot config (fun _ => []) (inputLines ['!', 'u', 'p', 't', 'i', 'm', 'e', '\n']) w).events.filterMap Event.record?).getLast? =
        some (stoppedNote.on config.channel) ∧
      config.channel ≠ noChannel := by
  intro config w
  refine ⟨_, Bot.full_eq_ok Settings.standard (⟨0⟩ : Milliseconds), ?_, by decide⟩
  have htyped : typed (List.splitOn '\n' ['!', 'u', 'p', 't', 'i', 'm', 'e', '\n']) = [['!', 'u', 'p', 't', 'i', 'm', 'e']] := by
    decide +kernel
  rw [records_session, htyped, List.getLast?_concat, asMessages_cons, if_neg (List.cons_ne_nil _ _)]

end Console
end Channel
end ChatBot
