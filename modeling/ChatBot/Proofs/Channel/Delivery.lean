import ChatBot.Proofs.Bot.Provenance
import ChatBot.Proofs.Channel.Subscriptions

/-!
Where the responses to a message go. While its manager is started, a bot handles each message that arrives once, and the adapter under
the name of the message's source sends the responses, each once and in order; while it is stopped, nobody hears of the message.
-/
set_option autoImplicit false

namespace ChatBot.Channel

/-! ## Publishing -/

namespace Traffic
variable {τ : Type} {bus : Bus Receiver} {source : Text} {responses : List Response}

theorem publishResponse_of_nobody {σ : Type} (h : bus.responseReceivers source = [])
    (receive : Receiver → σ → Except Fault Unit × σ) (s : σ) : bus.publishResponse .asSubscribed receive source s = (.ok false, s) := by
  rw [Bus.publishResponse_asSubscribed, h]
  rfl

theorem publishAll_cons_of_ok {r : Response} {t t' : Traffic τ} (h : publishAll bus [r] t = (.ok (), t')) :
    publishAll bus (r :: responses) t = publishAll bus responses t' := by
  rw [publishAll] at h ⊢
  rcases hsent : bus.publishResponse .asSubscribed (send r) r.source t with ⟨fault | received, u⟩ <;> rw [hsent] at h
  · cases h
  · cases received with
    | true =>
      cases h
      rfl
    | false =>
      cases h
      rfl

/-- Responses each of which brings about one event bring about these events in their order. -/
theorem publishAll_of_each {bound : Text} {event : Response → Event} {t : Traffic τ} (ht : t.bound = bound)
    (h : ∀ r ∈ responses, ∀ t : Traffic τ, t.bound = bound →
      publishAll bus [r] t = (.ok (), { t with events := t.events ++ [event r] })) :
    publishAll bus responses t = (.ok (), { t with events := t.events ++ responses.map event }) := by
  induction responses generalizing t with
  | nil => simp [publishAll]
  | cons r responses ih =>
    have hfirst := h r List.mem_cons_self t ht
    rw [publishAll_cons_of_ok hfirst, List.map_cons, List.append_cons t.events _ (responses.map _)]
    exact ih ht fun r' hr' => h r' (List.mem_cons_of_mem r hr')

theorem publishAll_of_adapter {seat : Seat} (h : bus.responseReceivers source = [.adapter seat none])
    (hsource : ∀ r ∈ responses, r.source = source) (t : Traffic τ) :
    publishAll bus responses t = (.ok (), { t with events := t.events ++ responses.map (Event.sent seat) }) := by
  refine publishAll_of_each rfl fun r hr t _ => ?_
  rw [publishAll, Bus.publishResponse_asSubscribed, hsource r hr, h]
  rfl

theorem publishAll_of_nobody (h : bus.responseReceivers source = []) (hsource : ∀ r ∈ responses, r.source = source)
    (t : Traffic τ) : publishAll bus responses t = (.ok (), { t with
      events := t.events ++ responses.map fun r => .recorded ((Bus.unroutedNote r).on t.bound) }) := by
  refine publishAll_of_each rfl fun r hr t' ht' => ?_
  rw [publishAll, hsource r hr, publishResponse_of_nobody h, ← ht']
  rfl

theorem arrive_of_manager (h : bus.messageReceivers = [.manager]) (bot : Bot τ) (m : Message) (t : Traffic τ) :
    arrive bot.answering bus m t = publishAll bus (bot.handle m t.world).1
      ⟨(bot.handle m t.world).2.1, m.channel, t.events ++ (bot.handle m t.world).2.2.map Event.recorded⟩ := by
  have honce : arrive bot.answering bus m t = process bot.answering bus m t := by
    rw [arrive, Bus.publishMessage_asSubscribed, h, Bus.deliver]
    rcases process bot.answering bus m t with ⟨_ | _, t'⟩ <;> rfl
  have hanswer : bot.answering m t.world = (.ok (bot.handle m t.world).1, (bot.handle m t.world).2) := by
    rw [Bot.answering]
  rw [honce, process, hanswer]

theorem arrive_of_nobody (h : bus.messageReceivers = []) (answering : Answering τ) (m : Message) (t : Traffic τ) :
    arrive answering bus m t = (.ok (), t) := by
  rw [arrive, Bus.publishMessage_asSubscribed, h]
  rfl

end Traffic

/-! ## A bot and its manager at work -/

variable {τ : Type}

/-- What is done to a manager, the messages that arrive, and whatever else becomes of the world in between. -/
inductive Deed (τ : Type) where
  | start
  | stop
  | message (m : Message)
  | change (f : World τ → World τ)

/-- A manager, the world, and all that has happened; it is started until a stop returns. -/
structure Station (τ : Type) where
  manager : Manager
  world : World τ
  started : Bool
  events : List Event

namespace Station

def opening (adapters : List Adapter) (w : World τ) : Station τ := ⟨Manager.ofAdapters adapters, w, false, []⟩

/-- Does one deed as a whole: a message that arrives is handled and its responses are sent before the next deed. What other tasks make
of the world meanwhile counts as a change of its own. -/
def perform (bot : Bot τ) (s : Station τ) : Deed τ → Station τ
  | .start =>
    { s with
      manager := s.manager.start
      started := true
      events := s.events ++ [.recorded (s.manager.startNote.on noChannel)] }
  | .stop =>
    match s.manager.stop with
    | (.ok (), manager) => { s with manager, started := false }
    | (.error _, manager) => { s with manager }
  | .message m =>
    let t := (Traffic.arrive bot.answering s.manager.bus m ⟨s.world, noChannel, s.events⟩).2
    { s with world := t.world, events := t.events }
  | .change f => { s with world := f s.world }

def run (bot : Bot τ) (s : Station τ) (deeds : List (Deed τ)) : Station τ := deeds.foldl (perform bot) s

/-- Every start finds that the stop for the start before it has returned. -/
def Alternates (bot : Bot τ) : Station τ → List (Deed τ) → Prop
  | _, [] => True
  | s, d :: deeds => (d matches .start → s.started = false) ∧ Alternates bot (s.perform bot d) deeds

def sent (s : Station τ) : List (Seat × Response) := s.events.filterMap Event.response?

/-! ## Started and stopped -/

/-- The manager keeps its adapters, and has its subscriptions exactly while it is started. -/
structure Connected (s : Station τ) (outlets : Assoc Text Receiver) : Prop where
  wired : s.started = true → s.manager.Wired outlets
  idle : s.started = false → s.manager.Idle
  outlets : s.manager.outlets = outlets

variable {bot : Bot τ} {s : Station τ} {outlets : Assoc Text Receiver} {adapters : List Adapter}

theorem Connected.perform (h : s.Connected outlets) (hnames : outlets.keys.Nodup) (d : Deed τ)
    (halternates : d matches .start → s.started = false) : (s.perform bot d).Connected outlets := by
  cases d with
  | start =>
    obtain ⟨hwired, hkept⟩ := (h.idle (halternates rfl)).start (h.outlets ▸ hnames)
    exact ⟨fun _ => h.outlets ▸ hwired, nofun, hkept.trans h.outlets⟩
  | stop =>
    have hkept : s.manager.stop.2.outlets = outlets := s.manager.outlets_stop.trans h.outlets
    have hwired := fun hstarted => (h.wired hstarted).stop
    have hidle := fun hstopped => (h.idle hstopped).stop
    rw [Station.perform]
    rcases hstop : s.manager.stop with ⟨result, manager⟩
    rw [hstop] at hkept hwired hidle
    cases result with
    | ok _ =>
      refine ⟨nofun, fun _ => ?_, hkept⟩
      cases hstarted : s.started with
      | false => exact hidle hstarted
      | true =>
        rcases hwired hstarted with ⟨-, hidle⟩ | ⟨⟨fault, hfault⟩, -⟩
        · exact hidle
        · cases hfault
    | error fault =>
      -- No ticket has been given up, so the manager counts as started and is still subscribed.
      refine ⟨fun hstarted => ?_, hidle, hkept⟩
      rcases hwired hstarted with ⟨hok, -⟩ | ⟨-, hwired⟩
      · cases hok
      · exact hwired
  | message m => exact ⟨h.wired, h.idle, h.outlets⟩
  | change f => exact ⟨h.wired, h.idle, h.outlets⟩

theorem Connected.run (h : s.Connected outlets) (hnames : outlets.keys.Nodup) {deeds : List (Deed τ)}
    (halternates : s.Alternates bot deeds) : (s.run bot deeds).Connected outlets := by
  induction deeds generalizing s with
  | nil => exact h
  | cons d deeds ih => exact ih (h.perform hnames d halternates.1) halternates.2

theorem connected_run (hnames : (adapters.map Adapter.name).Nodup) (w : World τ) {deeds : List (Deed τ)}
    (halternates : (opening adapters w).Alternates bot deeds) :
    ((opening adapters w).run bot deeds).Connected (Manager.numbered adapters) := by
  have hopening : (opening adapters w).Connected (Manager.numbered adapters) := by
    refine ⟨nofun, fun _ => ?_, Manager.outlets_ofAdapters hnames⟩
    rw [opening, Manager.Idle, Manager.bus_ofAdapters]
    rfl
  exact hopening.run (Manager.nodup_keys_numbered hnames) halternates

theorem Alternates.of_append {earlier later : List (Deed τ)} (h : s.Alternates bot (earlier ++ later)) :
    s.Alternates bot earlier := by
  induction earlier generalizing s with
  | nil => exact trivial
  | cons d earlier ih => exact ⟨h.1, ih h.2⟩

/-! ## Messages -/

theorem perform_message_of_idle (h : s.manager.Idle) (m : Message) : s.perform bot (.message m) = s := by
  rw [perform, Traffic.arrive_of_nobody h.messageReceivers]

theorem perform_message_of_wired (h : s.manager.Wired outlets) (m : Message) {delivered : List Event}
    (hdelivered : ∀ t : Traffic τ, t.bound = m.channel →
      Traffic.publishAll s.manager.bus (bot.handle m s.world).1 t = (.ok (), { t with events := t.events ++ delivered })) :
    s.perform bot (.message m) = { s with
      world := (bot.handle m s.world).2.1
      events := s.events ++ (bot.handle m s.world).2.2.map Event.recorded ++ delivered } := by
  rw [perform, Traffic.arrive_of_manager h.listeners, hdelivered _ rfl]

theorem Connected.perform_message_of_adapter (h : s.Connected (Manager.numbered adapters))
    (hnames : (adapters.map Adapter.name).Nodup) (hstarted : s.started = true) {m : Message} {i : ℕ} {a : Adapter}
    (ha : adapters[i]? = some a) (hsend : a.sendFault = none) (hname : a.name = m.source) :
    s.perform bot (.message m) = { s with
      world := (bot.handle m s.world).2.1
      events := s.events ++ (bot.handle m s.world).2.2.map Event.recorded ++
        (bot.handle m s.world).1.map (Event.sent ⟨a.name, i⟩) } := by
  have hwired := h.wired hstarted
  have hadapter : s.manager.bus.responseReceivers m.source = [.adapter ⟨a.name, i⟩ none] := by
    rw [hwired.responseReceivers (Manager.nodup_keys_numbered hnames), ← hname, Manager.find?_numbered hnames ha, hsend,
      Option.toList_some]
  have hsource : ∀ r ∈ (bot.handle m s.world).1, r.source = m.source := fun r hr => (Bot.belongs_of_mem_handle hr).source
  exact perform_message_of_wired hwired m fun t _ => Traffic.publishAll_of_adapter hadapter hsource t

theorem Connected.perform_message_of_unknown (h : s.Connected (Manager.numbered adapters))
    (hnames : (adapters.map Adapter.name).Nodup) (hstarted : s.started = true) {m : Message}
    (hunknown : m.source ∉ adapters.map Adapter.name) :
    s.manager.bus.responseReceivers m.source = [] ∧ s.perform bot (.message m) = { s with
      world := (bot.handle m s.world).2.1
      events := s.events ++ (bot.handle m s.world).2.2.map Event.recorded ++
        (bot.handle m s.world).1.map fun r => .recorded ((Bus.unroutedNote r).on m.channel) } := by
  have hwired := h.wired hstarted
  have hnobody : s.manager.bus.responseReceivers m.source = [] := by
    rw [← Manager.keys_numbered] at hunknown
    rw [hwired.responseReceivers (Manager.nodup_keys_numbered hnames), Assoc.find?_eq_none_of_not_mem_keys hunknown,
      Option.toList_none]
  have hsource : ∀ r ∈ (bot.handle m s.world).1, r.source = m.source := fun r hr => (Bot.belongs_of_mem_handle hr).source
  refine ⟨hnobody, perform_message_of_wired hwired m fun t ht => ?_⟩
  rw [Traffic.publishAll_of_nobody hnobody hsource t, ht]

theorem sent_perform_of_not_message (s : Station τ) {d : Deed τ} (hd : ∀ m, d ≠ .message m) :
    (s.perform bot d).sent = s.sent := by
  cases d with
  | start =>
    rw [perform, sent, List.filterMap_append, sent]
    exact List.append_nil _
  | stop =>
    rw [perform]
    split <;> rfl
  | message m => exact absurd rfl (hd m)
  | change f => rfl

end Station

/-- Whatever is started, stopped and said before, as long as no start comes before the stop for the last one has returned: while the
manager is started, a message that arrives is handled by the bot once, and the adapter under the name of its source, and no other,
sends the responses, each once and in their order. Without an adapter of that name each response is dropped and recorded. While the
manager is stopped the message changes nothing. Nothing but a message makes an adapter send. -/
theorem responses_go_back_to_their_adapter (bot : Bot τ) {adapters : List Adapter}
    (hnames : (adapters.map Adapter.name).Nodup) (hsend : ∀ a ∈ adapters, a.sendFault = none) (w : World τ)
    {deeds : List (Deed τ)} (halternates : (Station.opening adapters w).Alternates bot deeds) :
    (∀ (s : Station τ) (d : Deed τ), (∀ m, d ≠ .message m) → (s.perform bot d).sent = s.sent) ∧
    ∀ earlier m later, deeds = earlier ++ .message m :: later →
      let s := (Station.opening adapters w).run bot earlier
      let handled := bot.handle m s.world
      let events := s.events ++ handled.2.2.map Event.recorded
      (s.started = true → s.manager.bus.messageReceivers = [.manager] ∧
        (∀ i a, adapters[i]? = some a → a.name = m.source → s.perform bot (.message m) =
          { s with world := handled.2.1, events := events ++ handled.1.map (Event.sent ⟨a.name, i⟩) }) ∧
        (m.source ∉ adapters.map Adapter.name →
          (∀ r ∈ handled.1, ∀ t : Traffic τ, s.manager.bus.publishResponse .asSubscribed (Traffic.send r) r.source t = (.ok false, t)) ∧
          s.perform bot (.message m) = { s with
            world := handled.2.1
            events := events ++ handled.1.map fun r => .recorded ((Bus.unroutedNote r).on m.channel) })) ∧
      (s.started = false → s.perform bot (.message m) = s ∧ s.manager.bus.messageReceivers = [] ∧
        ∀ source, s.manager.bus.responseReceivers source = []) := by
  refine ⟨fun s d hd => Station.sent_perform_of_not_message s hd, ?_⟩
  rintro earlier m later rfl
  intro s
  dsimp only
  -- The invariant is all that matters about the station from here on.
  have hconnected : s.Connected (Manager.numbered adapters) := Station.connected_run hnames w halternates.of_append
  clear_value s
  refine ⟨fun hstarted => ⟨(hconnected.wired hstarted).listeners, fun i a ha hname => ?_, fun hunknown => ?_⟩,
    fun hstopped => ?_⟩
  · exact hconnected.perform_message_of_adapter hnames hstarted ha (hsend a (List.mem_of_getElem? ha)) hname
  · obtain ⟨hnobody, hperform⟩ := hconnected.perform_message_of_unknown hnames hstarted hunknown
    refine ⟨fun r hr t => ?_, hperform⟩
    rw [(Bot.belongs_of_mem_handle hr).source]
    exact Traffic.publishResponse_of_nobody hnobody (Traffic.send r) t
  · have hidle := hconnected.idle hstopped
    exact ⟨Station.perform_message_of_idle hidle m, hidle.messageReceivers, hidle.responseReceivers⟩

/-- Two adapters, started a second time. Of three equal messages the one in between arrives while the manager is stopped; the other
two are answered by the adapter that they came from. -/
theorem responses_go_back_to_their_adapter_after_restart :
    let twice : Feature.PassiveHandler (World Milliseconds) :=
      ⟨"twice", fun _ => .respond .say "first" (.pause .delay (.respond .say "second" (.done ())))⟩
    let bot : Bot Milliseconds := ⟨Settings.standard, ⟨['!'], []⟩, [twice]⟩
    let adapters := [Adapter.make "console" .blocks none, Adapter.make "web" .returns none]
    let m : Message := ⟨"#lobby", "ana", "hello", [], "web", "m0"⟩
    let w : World Milliseconds :=
      { files := ⟨[]⟩, clock := ⟨0⟩, replies := [], draws := [], shelf := ⟨.ofText "commands.json", [], false⟩,
        lastChatter := none }
    let earlier : List (Deed Milliseconds) := [.start, .message m, .stop, .message m, .start]
    let s := (Station.opening adapters w).run bot earlier
    (adapters.map Adapter.name).Nodup ∧ (∀ a ∈ adapters, a.sendFault = none) ∧
      (Station.opening adapters w).Alternates bot (earlier ++ [.message m]) ∧ s.started = true ∧
      s.perform bot (.message m) = { s with
        world := (bot.handle m s.world).2.1
        events := s.events ++ (bot.handle m s.world).2.2.map Event.recorded ++
          (bot.handle m s.world).1.map (Event.sent ⟨"web", 1⟩) } ∧
      (s.perform bot (.message m)).sent.map (fun (seat, r) => (seat, r.content)) =
        [(⟨"web", 1⟩, ("first" : Text)), (⟨"web", 1⟩, "second"), (⟨"web", 1⟩, "first"), (⟨"web", 1⟩, "second")] := by
  intro twice bot adapters m w earlier s
  have hnames : (adapters.map Adapter.name).Nodup := by decide
  have hsend : ∀ a ∈ adapters, a.sendFault = none := by decide
  have halternates : (Station.opening adapters w).Alternates bot (earlier ++ [.message m]) :=
    ⟨fun _ => rfl, nofun, nofun, nofun, fun _ => rfl, nofun, trivial⟩
  have hstarted : s.started = true := rfl
  obtain ⟨-, hmessages⟩ := responses_go_back_to_their_adapter bot hnames hsend w halternates
  obtain ⟨-, hadapter, -⟩ := (hmessages earlier m [] rfl).1 hstarted
  have hanswered := hadapter 1 (Adapter.make "web" .returns none) rfl rfl
  exact ⟨hnames, hsend, halternates, hstarted, hanswered, by decide +kernel⟩

end ChatBot.Channel
