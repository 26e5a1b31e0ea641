import Mathlib.Data.List.Induction
import ChatBot.Channel.Manager
import ChatBot.Proofs.Assoc

/-!
The subscriptions of a manager. A start that finds none listens once and routes each adapter once; a stop that returns takes back all
that starts have made, and one that fails takes back none.
-/
set_option autoImplicit false

namespace ChatBot.Channel

/-! ## Cancelling -/

namespace Bus
variable {ρ : Type}

def subscriptions (b : Bus ρ) : List (Subscription ρ) := b.listeners ++ b.routes

theorem foldl_cancel (tickets : List ℕ) (b : Bus ρ) :
    tickets.foldl cancel b = { b with
      listeners := b.listeners.filter (·.ticket ∉ tickets), routes := b.routes.filter (·.ticket ∉ tickets) } := by
  induction tickets generalizing b with
  | nil => simp
  | cons ticket tickets ih =>
    have hboth : ∀ s : Subscription ρ, (decide (s.ticket ∉ tickets) && (s.ticket != ticket)) =
        decide (s.ticket ∉ ticket :: tickets) := by
      intro s
      by_cases h : s.ticket = ticket <;> simp [h]
    rw [List.foldl_cons, ih, cancel]
    simp only [List.filter_filter, hboth]

theorem subscriptions_foldl_cancel {tickets : List ℕ} {b : Bus ρ} (h : ∀ s ∈ b.subscriptions, s.ticket ∈ tickets) :
    (tickets.foldl cancel b).subscriptions = [] := by
  rw [foldl_cancel, subscriptions, ← List.filter_append]
  refine List.filter_eq_nil_iff.mpr fun s hs => ?_
  simpa using h s hs

end Bus

/-! ## Outlets -/

/-- How an adapter receives responses, whether it runs or not. -/
def Adapter.outlet (a : Adapter) : Receiver := .adapter a.seat a.sendFault

namespace Manager
variable {m : Manager} {name : Text} {a : Adapter}

def outlets (m : Manager) : Assoc Text Receiver := m.adapters.map (Prod.map id Adapter.outlet)

def ofAdapters (adapters : List Adapter) : Manager := adapters.foldl register empty

theorem ofAdapters_concat (adapters : List Adapter) (a : Adapter) :
    ofAdapters (adapters ++ [a]) = (ofAdapters adapters).register a := by
  rw [ofAdapters, List.foldl_append, List.foldl_cons, List.foldl_nil, ofAdapters]

theorem registered_ofAdapters (adapters : List Adapter) : (ofAdapters adapters).registered = adapters.length := by
  induction adapters using List.reverseRecOn with
  | nil => rfl
  | append_singleton adapters a ih => rw [ofAdapters_concat, register, ih, List.length_append, List.length_singleton]

theorem bus_ofAdapters (adapters : List Adapter) : (ofAdapters adapters).bus = Bus.empty := by
  induction adapters using List.reverseRecOn with
  | nil => rfl
  | append_singleton adapters a ih => rw [ofAdapters_concat, register, ih]

/-- The adapters as outlets, each numbered by its place. -/
def numbered (adapters : List Adapter) : Assoc Text Receiver :=
  adapters.mapIdx fun i a => (a.name, .adapter ⟨a.name, i⟩ a.sendFault)

theorem keys_numbered (adapters : List Adapter) : (numbered adapters).keys = adapters.map Adapter.name :=
  List.ext_getElem? fun i => by simp [numbered, Assoc.keys, Function.comp_def]

theorem nodup_keys_numbered {adapters : List Adapter} (h : (adapters.map Adapter.name).Nodup) :
    (numbered adapters).keys.Nodup := by
  rwa [keys_numbered]

/-- Adapters of distinct names keep their places. -/
theorem outlets_ofAdapters {adapters : List Adapter} (h : (adapters.map Adapter.name).Nodup) :
    (ofAdapters adapters).outlets = numbered adapters := by
  induction adapters using List.reverseRecOn with
  | nil => rfl
  | append_singleton adapters a ih =>
    rw [List.map_append] at h
    obtain ⟨hadapters, -, hdisjoint⟩ := List.nodup_append.mp h
    have ih := ih hadapters
    have hfresh : a.name ∉ (ofAdapters adapters).outlets.keys := by
      rw [ih, keys_numbered]
      exact fun hmem => hdisjoint a.name hmem a.name List.mem_cons_self rfl
    rw [ofAdapters_concat, register, outlets, Assoc.map_insert, registered_ofAdapters, ← outlets,
      Assoc.insert_of_not_mem_keys hfresh, ih, numbered, numbered, List.mapIdx_append, List.mapIdx_singleton, Nat.zero_add]
    rfl

theorem find?_numbered {adapters : List Adapter} (h : (adapters.map Adapter.name).Nodup) {i : ℕ} {a : Adapter}
    (ha : adapters[i]? = some a) : (numbered adapters).find? a.name = some (.adapter ⟨a.name, i⟩ a.sendFault) := by
  refine Assoc.find?_of_mem (nodup_keys_numbered h) (List.mem_of_getElem? (i := i) ?_)
  rw [numbered, List.getElem?_mapIdx, ha, Option.map_some]

/-! ## Starting -/

/-- The manager has no subscription, and nobody else has any. -/
def Idle (m : Manager) : Prop := m.bus.subscriptions = []

/-- The manager listens to messages once and has routed each of the outlets once; it holds the tickets of all that, and there is
nothing else on the bus. -/
structure Wired (m : Manager) (outlets : Assoc Text Receiver) : Prop where
  listeners : m.bus.messageReceivers = [.manager]
  routes : m.bus.routes.map (fun s => (s.source, s.receiver)) = outlets.map (Prod.map some id)
  tickets : ∀ s ∈ m.bus.subscriptions, s.ticket ∈ m.tickets

theorem Idle.wired_subscribe (h : m.Idle) : (m.subscribe (m.bus.onMessage .manager)).Wired [] := by
  obtain ⟨hlisteners, hroutes⟩ := List.append_eq_nil_iff.mp h
  refine ⟨?_, ?_, fun s hs => ?_⟩
  · simp [subscribe, Bus.onMessage, Bus.messageReceivers, hlisteners]
  · simp [subscribe, Bus.onMessage, hroutes]
  · obtain rfl : s = ⟨m.bus.issued, none, .manager⟩ := by
      simpa [subscribe, Bus.onMessage, Bus.subscriptions, hlisteners, hroutes] using hs
    exact List.mem_cons_self

theorem Wired.startAdapter {outlets : Assoc Text Receiver} (h : m.Wired outlets) (name : Text) (a : Adapter) :
    (m.startAdapter name a).Wired (outlets ++ [(name, a.outlet)]) := by
  refine ⟨h.listeners, ?_, fun s hs => ?_⟩
  · simp [Manager.startAdapter, subscribe, Bus.route, h.routes, Adapter.outlet]
  · have hs : s ∈ m.bus.subscriptions ++ [⟨m.bus.issued, some name, a.outlet⟩] := by
      simpa [Manager.startAdapter, subscribe, Bus.route, Bus.subscriptions, Adapter.outlet] using hs
    rcases List.mem_append.mp hs with hold | hnew
    · exact List.mem_cons_of_mem _ (h.tickets s hold)
    · rw [List.mem_singleton.mp hnew]
      exact List.mem_cons_self

theorem outlets_startAdapter (h : m.outlets.find? name = some a.outlet) : (m.startAdapter name a).outlets = m.outlets := by
  have hinsert : (m.startAdapter name a).outlets = m.outlets.insert name a.outlet := Assoc.map_insert Adapter.outlet ..
  rw [hinsert, Assoc.insert_of_find?_eq_some h]

theorem wired_foldl_startAdapter {outlets : Assoc Text Receiver} (h : m.Wired outlets) (adapters : Assoc Text Adapter)
    (hfound : ∀ b ∈ adapters, m.outlets.find? b.1 = some b.2.outlet) :
    (adapters.foldl (fun m (name, a) => m.startAdapter name a) m).Wired
        (outlets ++ adapters.map (Prod.map id Adapter.outlet)) ∧
      (adapters.foldl (fun m (name, a) => m.startAdapter name a) m).outlets = m.outlets := by
  induction adapters generalizing m outlets with
  | nil => exact ⟨by simpa using h, rfl⟩
  | cons b adapters ih =>
    have hsame : (m.startAdapter b.1 b.2).outlets = m.outlets := outlets_startAdapter (hfound b List.mem_cons_self)
    obtain ⟨hwired, houtlets⟩ := ih (h.startAdapter b.1 b.2) fun c hc => by
      rw [hsame]
      exact hfound c (List.mem_cons_of_mem b hc)
    refine ⟨?_, houtlets.trans hsame⟩
    rw [List.append_assoc] at hwired
    exact hwired

/-- A start that finds no subscription makes one for messages and one for each outlet. -/
theorem Idle.start (h : m.Idle) (hnames : m.outlets.keys.Nodup) : m.start.Wired m.outlets ∧ m.start.outlets = m.outlets := by
  -- The walk over the adapters binds each of them again; being found under its own name, it keeps its place and its outlet.
  refine wired_foldl_startAdapter h.wired_subscribe m.adapters fun b hb => ?_
  exact Assoc.find?_of_mem hnames (List.mem_map_of_mem hb)

/-! ## Stopping -/

theorem outlets_stopEach (adapters : Assoc Text Adapter) :
    (stopEach adapters).2.map (Prod.map id Adapter.outlet) = adapters.map (Prod.map id Adapter.outlet) := by
  induction adapters with
  | nil => rfl
  | cons b adapters ih =>
    rw [stopEach]
    split
    · rfl
    · rw [List.map_cons, ih]
      rfl

/-- A stop gives up every ticket the manager has, or reports a fault and leaves the subscriptions alone. -/
theorem stop_cases (m : Manager) :
    (m.stop.1 = .ok () ∧ m.stop.2.bus = m.tickets.foldl Bus.cancel m.bus ∧ m.stop.2.tickets = []) ∨
      ((∃ fault, m.stop.1 = .error fault) ∧ m.stop.2.bus = m.bus ∧ m.stop.2.tickets = m.tickets) := by
  rw [stop]
  split
  · exact .inr ⟨⟨_, rfl⟩, rfl, rfl⟩
  · dsimp only
    split
    · exact .inr ⟨⟨_, rfl⟩, rfl, rfl⟩
    · exact .inl ⟨rfl, rfl, rfl⟩

theorem outlets_stop (m : Manager) : m.stop.2.outlets = m.outlets := by
  have hkept := outlets_stopEach m.adapters
  rw [stop]
  generalize stopEach m.adapters = stopped at hkept
  rcases stopped with ⟨fault | _, adapters⟩
  · exact hkept
  · dsimp only
    split
    · exact hkept
    · exact hkept

theorem Idle.stop (h : m.Idle) : m.stop.2.Idle := by
  rcases m.stop_cases with ⟨-, hbus, -⟩ | ⟨-, hbus, -⟩
  · rw [Idle, hbus]
    refine Bus.subscriptions_foldl_cancel fun s hs => ?_
    rw [h] at hs
    cases hs
  · rwa [Idle, hbus]

theorem Wired.stop {outlets : Assoc Text Receiver} (h : m.Wired outlets) :
    (m.stop.1 = .ok () ∧ m.stop.2.Idle) ∨ ((∃ fault, m.stop.1 = .error fault) ∧ m.stop.2.Wired outlets) := by
  rcases m.stop_cases with ⟨hok, hbus, -⟩ | ⟨hfault, hbus, htickets⟩
  · refine .inl ⟨hok, ?_⟩
    rw [Idle, hbus]
    exact Bus.subscriptions_foldl_cancel h.tickets
  · refine .inr ⟨hfault, ?_, ?_, ?_⟩
    · rw [hbus]
      exact h.listeners
    · rw [hbus]
      exact h.routes
    · rw [hbus, htickets]
      exact h.tickets

/-! ## Who receives -/

theorem Idle.messageReceivers (h : m.Idle) : m.bus.messageReceivers = [] := by
  rw [Bus.messageReceivers, (List.append_eq_nil_iff.mp h).1, List.map_nil]

theorem Idle.responseReceivers (h : m.Idle) (source : Text) : m.bus.responseReceivers source = [] := by
  rw [Bus.responseReceivers, (List.append_eq_nil_iff.mp h).2, List.filter_nil, List.map_nil]

theorem Wired.responseReceivers {outlets : Assoc Text Receiver} (h : m.Wired outlets) (hnames : outlets.keys.Nodup)
    (source : Text) : m.bus.responseReceivers source = (outlets.find? source).toList := by
  have hrouted : m.bus.responseReceivers source =
      ((outlets.map (Prod.map some id)).filter (·.1 = some source)).map Prod.snd := by
    rw [← h.routes, List.filter_map, List.map_map]
    rfl
  have hnamed : (outlets.map (Prod.map some id)).filter (·.1 = some source) =
      (outlets.filter (·.1 = source)).map (Prod.map some id) := by
    rw [List.filter_map]
    congr 1
    exact List.filter_congr fun b _ => by simp
  rw [hrouted, hnamed, List.map_map, ← Assoc.map_snd_filter hnames source]
  rfl

end Manager
end ChatBot.Channel
