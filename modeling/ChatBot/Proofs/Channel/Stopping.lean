import ChatBot.Proofs.Channel.Delivery

/-!
What a stop takes back. A manager may share its bus with others and may have been through anything before. If nothing fails while it
stops, it takes back all it has on the bus and leaves to the others what is theirs; a start that failed, or an adapter that does not
stop, keeps it from taking back anything.
-/
set_option autoImplicit false

namespace ChatBot.Channel

/-! ## Subscriptions added to others -/

/-- What comes behind the old subscriptions has one of the tickets. -/
def Adds {ρ : Type} (tickets : List ℕ) (before after : List (Subscription ρ)) : Prop :=
  ∃ own, after = before ++ own ∧ ∀ s ∈ own, s.ticket ∈ tickets

namespace Adds
variable {ρ : Type} {tickets : List ℕ} {before after : List (Subscription ρ)}

theorem nothing (tickets : List ℕ) (before : List (Subscription ρ)) : Adds tickets before before :=
  ⟨[], (List.append_nil before).symm, nofun⟩

theorem more (h : Adds tickets before after) (ticket : ℕ) : Adds (ticket :: tickets) before after := by
  obtain ⟨own, hafter, hown⟩ := h
  exact ⟨own, hafter, fun s hs => List.mem_cons_of_mem ticket (hown s hs)⟩

theorem concat (h : Adds tickets before after) (s : Subscription ρ) : Adds (s.ticket :: tickets) before (after ++ [s]) := by
  obtain ⟨own, hafter, hown⟩ := h
  refine ⟨own ++ [s], by rw [hafter, List.append_assoc], fun s' hs' => ?_⟩
  rcases List.mem_append.mp hs' with hs' | hs'
  · exact List.mem_cons_of_mem s.ticket (hown s' hs')
  · rw [List.mem_singleton.mp hs']
    exact List.mem_cons_self

theorem filter_eq (h : Adds tickets before after) (hbefore : ∀ s ∈ before, s.ticket ∉ tickets) :
    after.filter (·.ticket ∉ tickets) = before := by
  obtain ⟨own, rfl, hown⟩ := h
  have hold : before.filter (·.ticket ∉ tickets) = before :=
    List.filter_eq_self.mpr fun s hs => decide_eq_true (hbefore s hs)
  have hnew : own.filter (·.ticket ∉ tickets) = [] :=
    List.filter_eq_nil_iff.mpr fun s hs => by simpa using hown s hs
  rw [List.filter_append, hold, hnew, List.append_nil]

end Adds

/-! ## What keeps a manager from stopping -/

/-- The fault a start has when the manager has cancelled it and waited for it. -/
def StartState.fault? : StartState → Option Fault
  | .failed fault => some fault
  | .resisting fault => some fault
  | .running => none
  | .returned => none
  | .cancelled => none

namespace Manager
variable {m m' : Manager} {others : Bus Receiver}

/-- The fault of the first adapter that does not stop, or else of the first start that fails. -/
def obstacle? (m : Manager) : Option Fault :=
  (m.adapters.findSome? fun b => b.2.stopFault).or (m.starts.findSome? StartState.fault?)

theorem result_stopEach (adapters : Assoc Text Adapter) :
    (stopEach adapters).1 = (adapters.findSome? fun b => b.2.stopFault).elim (.ok ()) .error := by
  induction adapters with
  | nil => rfl
  | cons b adapters ih =>
    rw [stopEach, List.findSome?_cons]
    cases b.2.stopFault with
    | some fault => rfl
    | none => exact ih

theorem failure?_cancel (starts : List StartState) :
    failure? (starts.map StartState.cancel) = starts.findSome? StartState.fault? := by
  rw [failure?, List.findSome?_map]
  congr 1
  funext s
  cases s <;> rfl

theorem result_stop (m : Manager) : m.stop.1 = m.obstacle?.elim (.ok ()) .error := by
  have hadapters := result_stopEach m.adapters
  have hstarts := failure?_cancel m.starts
  rw [stop, obstacle?]
  generalize stopEach m.adapters = stopped at hadapters
  obtain ⟨result, adapters⟩ := stopped
  dsimp only at hadapters
  cases hfault : m.adapters.findSome? fun b => b.2.stopFault with
  | some fault =>
    -- The starts are not even looked at.
    obtain rfl : result = .error fault := by rw [hadapters, hfault]; rfl
    rfl
  | none =>
    obtain rfl : result = .ok () := by rw [hadapters, hfault]; rfl
    rw [Option.none_or, ← hstarts]
    dsimp only
    cases failure? (m.starts.map StartState.cancel) <;> rfl

theorem stop_of_obstacle {fault : Fault} (h : m.obstacle? = some fault) :
    m.stop.1 = .error fault ∧ m.stop.2.bus = m.bus ∧ m.stop.2.tickets = m.tickets := by
  have hresult : m.stop.1 = .error fault := by rw [result_stop, h]; rfl
  rcases m.stop_cases with ⟨hok, -⟩ | ⟨-, hkept⟩
  · rw [hok] at hresult
    cases hresult
  · exact ⟨hresult, hkept⟩

theorem stop_of_no_obstacle (h : m.obstacle? = none) :
    m.stop.1 = .ok () ∧ m.stop.2.bus = m.tickets.foldl Bus.cancel m.bus ∧ m.stop.2.tickets = [] := by
  have hresult : m.stop.1 = .ok () := by rw [result_stop, h]; rfl
  rcases m.stop_cases with hstopped | ⟨⟨fault, hfault⟩, -⟩
  · exact hstopped
  · rw [hfault] at hresult
    cases hresult

/-! ## A manager on a bus that others use -/

/-- What happens to a manager; its starts come along on their own. -/
inductive Act where
  | register (a : Adapter)
  | start
  | settle (starts : List StartState)
  | stop

def on (bus : Bus Receiver) : Manager := { empty with bus }

def perform (m : Manager) : Act → Manager
  | .register a => m.register a
  | .start => m.start
  | .settle starts => { m with starts }
  | .stop => m.stop.2

def run (m : Manager) (acts : List Act) : Manager := acts.foldl perform m

/-- The manager holds a ticket for each subscription that is not one of the others'. -/
structure Beside (m : Manager) (others : Bus Receiver) : Prop where
  listeners : Adds m.tickets others.listeners m.bus.listeners
  routes : Adds m.tickets others.routes m.bus.routes
  tickets : ∀ ticket ∈ m.tickets, others.issued ≤ ticket
  issued : others.issued ≤ m.bus.issued

theorem beside_on (others : Bus Receiver) : (on others).Beside others :=
  ⟨.nothing [] others.listeners, .nothing [] others.routes, nofun, Nat.le_refl others.issued⟩

theorem Beside.of_eq (h : m.Beside others) (hbus : m'.bus = m.bus) (htickets : m'.tickets = m.tickets) : m'.Beside others := by
  refine ⟨?_, ?_, ?_, ?_⟩
  · rw [hbus, htickets]
    exact h.listeners
  · rw [hbus, htickets]
    exact h.routes
  · rw [htickets]
    exact h.tickets
  · rw [hbus]
    exact h.issued

theorem Beside.newer (h : m.Beside others) : ∀ ticket ∈ m.bus.issued :: m.tickets, others.issued ≤ ticket := by
  intro ticket hticket
  rcases List.mem_cons.mp hticket with rfl | hticket
  · exact h.issued
  · exact h.tickets ticket hticket

theorem Beside.listen (h : m.Beside others) : (m.subscribe (m.bus.onMessage .manager)).Beside others :=
  ⟨h.listeners.concat ⟨m.bus.issued, none, .manager⟩, h.routes.more m.bus.issued, h.newer, Nat.le_succ_of_le h.issued⟩

theorem Beside.startAdapter (h : m.Beside others) (name : Text) (a : Adapter) : (m.startAdapter name a).Beside others :=
  ⟨h.listeners.more m.bus.issued, h.routes.concat ⟨m.bus.issued, some name, a.outlet⟩, h.newer, Nat.le_succ_of_le h.issued⟩

theorem Beside.start (h : m.Beside others) : m.start.Beside others := by
  rw [Manager.start]
  refine List.foldlRecOn (motive := (Beside · others)) m.adapters _ h.listen fun m' h' b _ => ?_
  exact h'.startAdapter b.1 b.2

theorem Beside.stop_of_no_obstacle (h : m.Beside others) (hothers : ∀ s ∈ others.subscriptions, s.ticket < others.issued)
    (hobstacle : m.obstacle? = none) :
    m.stop.2.bus.listeners = others.listeners ∧ m.stop.2.bus.routes = others.routes ∧ m.stop.2.tickets = [] ∧
      m.stop.2.bus.issued = m.bus.issued := by
  obtain ⟨-, hbus, htickets⟩ := Manager.stop_of_no_obstacle hobstacle
  -- The others' tickets are older than any of the manager's, so none of them is cancelled.
  have hforeign : ∀ s ∈ others.subscriptions, s.ticket ∉ m.tickets := fun s hs hmem =>
    absurd (h.tickets s.ticket hmem) (Nat.not_le.mpr (hothers s hs))
  rw [Bus.foldl_cancel] at hbus
  refine ⟨?_, ?_, htickets, by rw [hbus]⟩
  · rw [hbus]
    exact h.listeners.filter_eq fun s hs => hforeign s (List.mem_append_left others.routes hs)
  · rw [hbus]
    exact h.routes.filter_eq fun s hs => hforeign s (List.mem_append_right others.listeners hs)

theorem Beside.perform (h : m.Beside others) (hothers : ∀ s ∈ others.subscriptions, s.ticket < others.issued) (act : Act) :
    (m.perform act).Beside others := by
  cases act with
  | register a => exact h.of_eq rfl rfl
  | start => exact h.start
  | settle starts => exact h.of_eq rfl rfl
  | stop =>
    cases hobstacle : m.obstacle? with
    | some fault =>
      obtain ⟨-, hbus, htickets⟩ := stop_of_obstacle hobstacle
      exact h.of_eq hbus htickets
    | none =>
      obtain ⟨hlisteners, hroutes, htickets, hissued⟩ := h.stop_of_no_obstacle hothers hobstacle
      rw [Manager.perform]
      refine ⟨?_, ?_, ?_, ?_⟩
      · rw [hlisteners]
        exact .nothing m.stop.2.tickets others.listeners
      · rw [hroutes]
        exact .nothing m.stop.2.tickets others.routes
      · rw [htickets]
        exact nofun
      · rw [hissued]
        exact h.issued

theorem beside_run (hothers : ∀ s ∈ others.subscriptions, s.ticket < others.issued) (acts : List Act) :
    ((on others).run acts).Beside others := by
  induction acts using List.reverseRecOn with
  | nil => exact beside_on others
  | append_singleton acts act ih =>
    rw [run, List.foldl_append]
    exact ih.perform hothers act

/-! ## What the manager has on the bus -/

/-- A subscription of the manager hands it every message. -/
def Hears (m : Manager) : Prop := ∃ s ∈ m.bus.listeners, s.ticket ∈ m.tickets ∧ s.receiver = .manager

/-- A subscription of the manager hands the responses for a name to an adapter. -/
def Serves (m : Manager) (name : Text) (a : Adapter) : Prop :=
  ∃ s ∈ m.bus.routes, s.ticket ∈ m.tickets ∧ s.source = some name ∧ s.receiver = a.outlet

structure Kept (m m' : Manager) : Prop where
  listeners : m.bus.listeners ⊆ m'.bus.listeners
  routes : m.bus.routes ⊆ m'.bus.routes
  tickets : m.tickets ⊆ m'.tickets

theorem Kept.of_eq (hbus : m'.bus = m.bus) (htickets : m'.tickets = m.tickets) : Kept m m' :=
  ⟨by rw [hbus]; exact List.Subset.refl _, by rw [hbus]; exact List.Subset.refl _,
    by rw [htickets]; exact List.Subset.refl _⟩

theorem Kept.refl (m : Manager) : Kept m m := .of_eq rfl rfl

theorem Kept.trans {m'' : Manager} (h : Kept m m') (h' : Kept m' m'') : Kept m m'' :=
  ⟨List.Subset.trans h.listeners h'.listeners, List.Subset.trans h.routes h'.routes, List.Subset.trans h.tickets h'.tickets⟩

theorem Kept.hears (h : Kept m m') (hears : m.Hears) : m'.Hears := by
  obtain ⟨s, hs, hticket, hreceiver⟩ := hears
  exact ⟨s, h.listeners hs, h.tickets hticket, hreceiver⟩

theorem Kept.serves {name : Text} {a : Adapter} (h : Kept m m') (serves : m.Serves name a) : m'.Serves name a := by
  obtain ⟨s, hs, hticket, hroute⟩ := serves
  exact ⟨s, h.routes hs, h.tickets hticket, hroute⟩

theorem hears_listen (m : Manager) : (m.subscribe (m.bus.onMessage .manager)).Hears :=
  ⟨⟨m.bus.issued, none, .manager⟩, List.mem_append_right _ List.mem_cons_self, List.mem_cons_self, rfl⟩

theorem serves_startAdapter (m : Manager) (name : Text) (a : Adapter) : (m.startAdapter name a).Serves name a :=
  ⟨⟨m.bus.issued, some name, a.outlet⟩, List.mem_append_right _ List.mem_cons_self, List.mem_cons_self, rfl, rfl⟩

theorem kept_listen (m : Manager) : Kept m (m.subscribe (m.bus.onMessage .manager)) :=
  ⟨List.subset_append_left _ _, List.Subset.refl _, List.subset_cons_self _ _⟩

theorem kept_startAdapter (m : Manager) (name : Text) (a : Adapter) : Kept m (m.startAdapter name a) :=
  ⟨List.Subset.refl _, List.subset_append_left _ _, List.subset_cons_self _ _⟩

theorem kept_foldl_startAdapter (adapters : Assoc Text Adapter) (m : Manager) :
    Kept m (adapters.foldl (fun m (name, a) => m.startAdapter name a) m) :=
  List.foldlRecOn adapters _ (.refl m) fun m' h b _ => h.trans (kept_startAdapter m' b.1 b.2)

theorem serves_foldl_startAdapter {adapters : Assoc Text Adapter} {name : Text} {a : Adapter} (h : (name, a) ∈ adapters)
    (m : Manager) : (adapters.foldl (fun m (name, a) => m.startAdapter name a) m).Serves name a := by
  induction adapters generalizing m with
  | nil => cases h
  | cons b adapters ih =>
    rcases List.mem_cons.mp h with rfl | h
    · exact (kept_foldl_startAdapter adapters _).serves (serves_startAdapter m name a)
    · exact ih h _

theorem subscribed_start (m : Manager) : m.start.Hears ∧ ∀ name a, (name, a) ∈ m.adapters → m.start.Serves name a :=
  ⟨(kept_foldl_startAdapter m.adapters _).hears (hears_listen m), fun _ _ h => serves_foldl_startAdapter h _⟩

theorem kept_run {acts : List Act} (h : .stop ∉ acts) (m : Manager) : Kept m (m.run acts) := by
  induction acts generalizing m with
  | nil => exact .refl m
  | cons act acts ih =>
    have hlater := ih (fun hmem => h (List.mem_cons_of_mem act hmem)) (m.perform act)
    cases act with
    | register a => exact ⟨hlater.listeners, hlater.routes, hlater.tickets⟩
    | start => exact ((kept_listen m).trans (kept_foldl_startAdapter m.adapters _)).trans hlater
    | settle starts => exact ⟨hlater.listeners, hlater.routes, hlater.tickets⟩
    | stop => exact absurd List.mem_cons_self h

theorem subscribed_run (others : Bus Receiver) {acts earlier later : List Act} (hacts : acts = earlier ++ .start :: later)
    (hlater : .stop ∉ later) :
    ((on others).run acts).Hears ∧
      ∀ name a, (name, a) ∈ ((on others).run earlier).adapters → ((on others).run acts).Serves name a := by
  have hsplit : (on others).run acts = ((on others).run earlier).start.run later := by
    rw [hacts, run, List.foldl_append, List.foldl_cons]
    rfl
  have hkept := kept_run hlater ((on others).run earlier).start
  obtain ⟨hears, hserves⟩ := subscribed_start ((on others).run earlier)
  rw [hsplit]
  exact ⟨hkept.hears hears, fun name a h => hkept.serves (hserves name a h)⟩

end Manager

/-! ## Stopping -/

theorem Traffic.arrive_congr {τ : Type} {bus others : Bus Receiver} (hlisteners : bus.listeners = others.listeners)
    (hroutes : bus.routes = others.routes) (answering : Answering τ) (message : Message) (t : Traffic τ) :
    arrive answering bus message t = arrive answering others message t := by
  have hpublish : ∀ (responses : List Response) (t : Traffic τ), publishAll bus responses t = publishAll others responses t := by
    intro responses
    induction responses with
    | nil => exact fun _ => rfl
    | cons r responses ih =>
      intro t
      simp only [publishAll, Bus.publishResponse_asSubscribed, Bus.responseReceivers, hroutes, ih]
  have hprocess : ∀ t : Traffic τ, process answering bus message t = process answering others message t := by
    intro t
    simp only [process, hpublish]
  rw [arrive, arrive, Bus.publishMessage_asSubscribed, Bus.publishMessage_asSubscribed, Bus.messageReceivers, Bus.messageReceivers, hlisteners]
  simp only [hprocess]

/-- Whatever a manager has been through on a bus that others use as well, a stop reports what stands against it, and takes back
everything if that is nothing: messages and responses then reach the others alone. Otherwise it takes back nothing, so that a
manager that was started still receives every message and still serves each adapter it has started. -/
theorem stop_takes_back_all_or_nothing {others : Bus Receiver}
    (hothers : ∀ s ∈ others.subscriptions, s.ticket < others.issued) (acts : List Manager.Act) :
    let m := (Manager.on others).run acts
    m.stop.1 = m.obstacle?.elim (.ok ()) .error ∧
      (m.obstacle? = none →
        m.stop.2.bus.listeners = others.listeners ∧ m.stop.2.bus.routes = others.routes ∧ m.stop.2.tickets = [] ∧
        (∀ (τ : Type) (answering : Answering τ) (message : Message) (t : Traffic τ),
          Traffic.arrive answering m.stop.2.bus message t = Traffic.arrive answering others message t) ∧
        ∀ source, m.stop.2.bus.responseReceivers source = others.responseReceivers source) ∧
      ∀ fault, m.obstacle? = some fault → m.stop.2.bus = m.bus ∧ m.stop.2.tickets = m.tickets ∧
        ∀ earlier later, acts = earlier ++ .start :: later → .stop ∉ later → m.stop.2.Hears ∧
          ∀ name a, (name, a) ∈ ((Manager.on others).run earlier).adapters → m.stop.2.Serves name a := by
  intro m
  refine ⟨m.result_stop, fun hobstacle => ?_, fun fault hobstacle => ?_⟩
  · have hbeside : m.Beside others := Manager.beside_run hothers acts
    obtain ⟨hlisteners, hroutes, htickets, -⟩ := hbeside.stop_of_no_obstacle hothers hobstacle
    refine ⟨hlisteners, hroutes, htickets, fun τ => Traffic.arrive_congr hlisteners hroutes, fun source => ?_⟩
    rw [Bus.responseReceivers, Bus.responseReceivers, hroutes]
  · obtain ⟨-, hbus, htickets⟩ := Manager.stop_of_obstacle hobstacle
    refine ⟨hbus, htickets, fun earlier later hacts hlater => ?_⟩
    have hkept : Manager.Kept m m.stop.2 := .of_eq hbus htickets
    obtain ⟨hears, hserves⟩ := Manager.subscribed_run others hacts hlater
    exact ⟨hkept.hears hears, fun name a h => hkept.serves (hserves name a h)⟩

/-- A start that returned and one that still runs do not stand against a stop; another manager's subscription is left alone. -/
theorem stop_takes_back_all_of_unfailing_starts :
    let others : Bus Receiver := (Bus.empty.onMessage .manager).2
    let acts : List Manager.Act :=
      [.register (Adapter.make "console" .blocks none), .register (Adapter.make "web" .returns none), .start]
    let m := (Manager.on others).run acts
    (∀ s ∈ others.subscriptions, s.ticket < others.issued) ∧ m.obstacle? = none ∧ m.tickets = [3, 2, 1] ∧
      m.stop.1 = .ok () ∧ m.stop.2.bus.listeners = others.listeners ∧ m.stop.2.bus.routes = others.routes := by
  intro others acts m
  have hothers : ∀ s ∈ others.subscriptions, s.ticket < others.issued := by decide
  have hobstacle : m.obstacle? = none := rfl
  obtain ⟨hresult, hnone, -⟩ := stop_takes_back_all_or_nothing hothers acts
  obtain ⟨hlisteners, hroutes, -⟩ := hnone hobstacle
  exact ⟨hothers, hobstacle, rfl, hresult, hlisteners, hroutes⟩

/-- After a start has failed, the stop reports it, and a message that arrives later is still answered through the adapter. -/
theorem failed_start_outlives_stop :
    let greet : Feature.PassiveHandler (World Milliseconds) := ⟨"greet", fun _ => .respond .say "welcome" (.done ())⟩
    let bot : Bot Milliseconds := ⟨Settings.standard, ⟨['!'], []⟩, [greet]⟩
    let web := Adapter.make "web" (.fails (.runtime "cannot start web")) none
    let m := (Manager.on Bus.empty).run [.register web, .start]
    let message : Message := ⟨"#lobby", "ana", "hello", [], "web", "m0"⟩
    let w : World Milliseconds :=
      { files := ⟨[]⟩, clock := ⟨0⟩, replies := [], draws := [], shelf := ⟨.ofText "commands.json", [], false⟩,
        lastChatter := none }
    let later := (Traffic.arrive bot.answering m.stop.2.bus message ⟨w, noChannel, []⟩).2
    m.stop.1 = .error (.runtime "cannot start web") ∧ m.stop.2.bus.messageReceivers = [.manager] ∧
      m.stop.2.bus.responseReceivers "web" = [.adapter ⟨"web", 0⟩ none] ∧
      (later.events.filterMap Event.response?).map (fun (seat, r) => (seat, r.content)) = [(⟨"web", 0⟩, ("welcome" : Text))] := by
  decide +kernel

end ChatBot.Channel
