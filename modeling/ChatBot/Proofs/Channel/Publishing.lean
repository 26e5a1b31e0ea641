import ChatBot.Proofs.Channel.Subscriptions

/-!
Publishing on a bus. Whatever was subscribed, taken back and published before, and in whatever order receivers are called, a message
reaches each subscription to messages that is still active once, a response each active route under its source, and an unsubscriber
takes back its own subscription and no other.
-/
set_option autoImplicit false

namespace ChatBot.Channel.Bus
variable {ρ σ : Type}

/-! ## A bus in use -/

/-- What is done with a bus. An unsubscriber is known by the number of those that were handed out before it; each time something is
published, receivers may be called in another order. -/
inductive Use (ρ : Type) where
  | listen (receiver : ρ)
  | route (source : Text) (receiver : ρ)
  | unsubscribe (place : ℕ)
  | message (m : Message) (order : Order ρ)
  | response (r : Response) (order : Order ρ)

/-- What receivers make of messages and responses; none of them fails. -/
structure Handlers (ρ σ : Type) where
  onMessage : ρ → Message → σ → σ
  onResponse : ρ → Response → σ → σ

/-- A bus, the tickets behind the unsubscribers it has handed out, and what the receivers work on. -/
structure Exchange (ρ σ : Type) where
  bus : Bus ρ
  tickets : List ℕ
  state : σ

namespace Exchange

def opening (s : σ) : Exchange ρ σ := ⟨empty, [], s⟩

def subscribe (x : Exchange ρ σ) (subscription : ℕ × Bus ρ) : Exchange ρ σ :=
  { x with bus := subscription.2, tickets := x.tickets ++ [subscription.1] }

/-- Calls an unsubscriber; one that was not handed out yet cannot be called. -/
def unsubscribe (x : Exchange ρ σ) (place : ℕ) : Exchange ρ σ :=
  match x.tickets[place]? with
  | some ticket => { x with bus := x.bus.cancel ticket }
  | none => x

def publishMessage (h : Handlers ρ σ) (x : Exchange ρ σ) (m : Message) (order : Order ρ) : Except Fault Unit × σ :=
  x.bus.publishMessage order (fun receiver s => (.ok (), h.onMessage receiver m s)) x.state

def publishResponse (h : Handlers ρ σ) (x : Exchange ρ σ) (r : Response) (order : Order ρ) : Except Fault Bool × σ :=
  x.bus.publishResponse order (fun receiver s => (.ok (), h.onResponse receiver r s)) r.source x.state

def perform (h : Handlers ρ σ) (x : Exchange ρ σ) : Use ρ → Exchange ρ σ
  | .listen receiver => x.subscribe (x.bus.onMessage receiver)
  | .route source receiver => x.subscribe (x.bus.route source receiver)
  | .unsubscribe place => x.unsubscribe place
  | .message m order => { x with state := (x.publishMessage h m order).2 }
  | .response r order => { x with state := (x.publishResponse h r order).2 }

def run (h : Handlers ρ σ) (uses : List (Use ρ)) (s : σ) : Exchange ρ σ := uses.foldl (perform h) (opening s)

theorem run_concat (h : Handlers ρ σ) (uses : List (Use ρ)) (use : Use ρ) (s : σ) :
    run h (uses ++ [use]) s = (run h uses s).perform h use := List.foldl_concat ..

end Exchange

/-! ## Active subscriptions -/

/-- What a use subscribes: a receiver, and the source that it is limited to. -/
def Use.subscribed? : Use ρ → Option (Option Text × ρ)
  | listen receiver => some (none, receiver)
  | route source receiver => some (some source, receiver)
  | unsubscribe _ => none
  | message _ _ => none
  | response _ _ => none

/-- How many subscriptions were made. -/
def made (uses : List (Use ρ)) : ℕ := (uses.filterMap Use.subscribed?).length

/-- The subscription was made, and its own unsubscriber was not called after that. -/
def IsActive (uses : List (Use ρ)) (s : Subscription ρ) : Prop :=
  ∃ before use after, uses = before ++ use :: after ∧ use.subscribed? = some (s.source, s.receiver) ∧
    made before = s.ticket ∧ .unsubscribe s.ticket ∉ after

variable {uses : List (Use ρ)} {use : Use ρ} {s : Subscription ρ}

theorem made_concat (uses : List (Use ρ)) (use : Use ρ) :
    made (uses ++ [use]) = made uses + use.subscribed?.toList.length := by
  rw [made, List.filterMap_append, List.length_append, ← made]
  cases hsub : use.subscribed? with
  | none => rw [List.filterMap_cons_none hsub]; rfl
  | some subscribed => rw [List.filterMap_cons_some hsub]; rfl

theorem isActive_concat_iff : IsActive (uses ++ [use]) s ↔
    (IsActive uses s ∧ use ≠ .unsubscribe s.ticket) ∨
      (use.subscribed? = some (s.source, s.receiver) ∧ made uses = s.ticket) := by
  constructor
  · rintro ⟨before, origin, after, hsplit, hsub, hticket, hkept⟩
    rcases List.eq_nil_or_concat' after with rfl | ⟨after, last, rfl⟩
    · obtain ⟨rfl, hlast⟩ := List.append_inj' hsplit rfl
      obtain rfl := List.singleton_inj.mp hlast
      exact .inr ⟨hsub, hticket⟩
    · rw [← List.cons_append, ← List.append_assoc] at hsplit
      obtain ⟨rfl, hlast⟩ := List.append_inj' hsplit rfl
      obtain rfl := List.singleton_inj.mp hlast
      rw [List.mem_append, List.mem_singleton, not_or] at hkept
      exact .inl ⟨⟨before, origin, after, rfl, hsub, hticket, hkept.1⟩, fun e => hkept.2 e.symm⟩
  · rintro (⟨⟨before, origin, after, rfl, hsub, hticket, hkept⟩, huse⟩ | ⟨hsub, hticket⟩)
    · refine ⟨before, origin, after ++ [use], by rw [List.append_assoc, List.cons_append], hsub, hticket, ?_⟩
      rw [List.mem_append, List.mem_singleton, not_or]
      exact ⟨hkept, fun e => huse e.symm⟩
    · exact ⟨uses, use, [], rfl, hsub, hticket, List.not_mem_nil⟩

theorem IsActive.ticket_lt (h : IsActive uses s) : s.ticket < made uses := by
  obtain ⟨before, use, after, rfl, hsub, hticket, -⟩ := h
  rw [made, List.filterMap_append, List.filterMap_cons_some hsub, List.length_append, List.length_cons, ← made, hticket]
  omega

/-! ## What is on the bus -/

/-- The bus holds the active subscriptions, each once, and the unsubscribers handed out are numbered in order. -/
structure Sound (uses : List (Use ρ)) (x : Exchange ρ σ) : Prop where
  issued : x.bus.issued = made uses
  tickets : x.tickets = List.range (made uses)
  listeners : ∀ s ∈ x.bus.listeners, s.source = none
  routes : ∀ s ∈ x.bus.routes, s.source ≠ none
  nodup : (x.bus.subscriptions.map Subscription.ticket).Nodup
  mem_iff : ∀ s, s ∈ x.bus.subscriptions ↔ IsActive uses s

theorem sound_opening (s : σ) : Sound ([] : List (Use ρ)) (Exchange.opening s) where
  issued := rfl
  tickets := rfl
  listeners := nofun
  routes := nofun
  nodup := List.nodup_nil
  mem_iff s := by
    refine iff_of_false List.not_mem_nil ?_
    rintro ⟨before, use, after, hsplit, -⟩
    exact absurd hsplit.symm (List.append_ne_nil_of_right_ne_nil before (List.cons_ne_nil use after))

theorem subscriptions_cancel (b : Bus ρ) (ticket : ℕ) :
    (b.cancel ticket).subscriptions = b.subscriptions.filter (·.ticket != ticket) :=
  (List.filter_append b.listeners b.routes).symm

namespace Sound
variable {x : Exchange ρ σ}

/-- A new subscription has a ticket that no other has. -/
theorem subscribe {source : Option Text} {receiver : ρ} {b : Bus ρ} (h : Sound uses x)
    (huse : use.subscribed? = some (source, receiver)) (hissued : b.issued = x.bus.issued + 1)
    (hlisteners : ∀ s ∈ b.listeners, s.source = none) (hroutes : ∀ s ∈ b.routes, s.source ≠ none)
    (hperm : b.subscriptions.Perm (⟨x.bus.issued, source, receiver⟩ :: x.bus.subscriptions)) :
    Sound (uses ++ [use]) (x.subscribe (x.bus.issued, b)) := by
  have hmade : made (uses ++ [use]) = made uses + 1 := by rw [made_concat, huse]; rfl
  refine ⟨?_, ?_, hlisteners, hroutes, ?_, fun s => ?_⟩
  · rw [hmade, ← h.issued]
    exact hissued
  · rw [hmade, List.range_succ, ← h.tickets, ← h.issued]
    rfl
  · refine (hperm.map Subscription.ticket).nodup_iff.mpr (List.nodup_cons.mpr ⟨fun hmem => ?_, h.nodup⟩)
    obtain ⟨old, hold, hticket⟩ := List.mem_map.mp hmem
    have hlt := ((h.mem_iff old).mp hold).ticket_lt
    rw [hticket, h.issued] at hlt
    exact Nat.lt_irrefl _ hlt
  · have hkeeps : use ≠ .unsubscribe s.ticket := by
      rintro rfl
      cases huse
    rw [isActive_concat_iff, huse, ← h.mem_iff, ← h.issued]
    refine hperm.mem_iff.trans (List.mem_cons.trans ?_)
    constructor
    · rintro (rfl | hold)
      · exact .inr ⟨rfl, rfl⟩
      · exact .inl ⟨hold, hkeeps⟩
    · rintro (⟨hold, -⟩ | ⟨hsame, hticket⟩)
      · exact .inr hold
      · cases hsame
        exact .inl (by rw [hticket])

/-- An unsubscriber takes back the subscription it was handed out for, and one that was not handed out takes back nothing. -/
theorem subscriptions_unsubscribe (h : Sound uses x) (place : ℕ) :
    (x.unsubscribe place).bus.subscriptions = x.bus.subscriptions.filter (·.ticket != place) := by
  rw [Exchange.unsubscribe, h.tickets]
  by_cases hplace : place < made uses
  · rw [List.getElem?_range hplace]
    exact subscriptions_cancel x.bus place
  · rw [List.getElem?_eq_none (by rw [List.length_range]; omega)]
    refine (List.filter_eq_self.mpr fun s hs => bne_iff_ne.mpr ?_).symm
    have hlt := ((h.mem_iff s).mp hs).ticket_lt
    omega

theorem unsubscribe (h : Sound uses x) (place : ℕ) : Sound (uses ++ [.unsubscribe place]) (x.unsubscribe place) := by
  have hmade : made (uses ++ [.unsubscribe place]) = made uses := made_concat uses _
  have hsubscriptions := h.subscriptions_unsubscribe place
  have hbus : (x.unsubscribe place).bus.issued = x.bus.issued ∧ (x.unsubscribe place).tickets = x.tickets ∧
      (x.unsubscribe place).bus.listeners ⊆ x.bus.listeners ∧ (x.unsubscribe place).bus.routes ⊆ x.bus.routes := by
    rw [Exchange.unsubscribe]
    split
    · exact ⟨rfl, rfl, List.filter_subset_self .., List.filter_subset_self ..⟩
    · exact ⟨rfl, rfl, List.Subset.refl _, List.Subset.refl _⟩
  obtain ⟨hissued, htickets, hlisteners, hroutes⟩ := hbus
  refine ⟨?_, ?_, fun s hs => h.listeners s (hlisteners hs), fun s hs => h.routes s (hroutes hs), ?_, fun s => ?_⟩
  · rw [hissued, hmade, h.issued]
  · rw [htickets, hmade, h.tickets]
  · rw [hsubscriptions]
    exact h.nodup.sublist (List.filter_sublist.map Subscription.ticket)
  · rw [hsubscriptions, List.mem_filter, h.mem_iff, isActive_concat_iff, bne_iff_ne]
    constructor
    · rintro ⟨hactive, hne⟩
      exact .inl ⟨hactive, fun e => hne (Use.unsubscribe.inj e).symm⟩
    · rintro (⟨hactive, hne⟩ | ⟨hsub, -⟩)
      · exact ⟨hactive, fun e => hne (by rw [e])⟩
      · cases hsub

/-- What is published changes nothing on the bus. -/
theorem publish (h : Sound uses x) (huse : use.subscribed? = none) (hkeeps : ∀ place, use ≠ .unsubscribe place) (state : σ) :
    Sound (uses ++ [use]) { x with state } := by
  have hmade : made (uses ++ [use]) = made uses := by rw [made_concat, huse]; rfl
  refine ⟨h.issued.trans hmade.symm, ?_, h.listeners, h.routes, h.nodup, fun s => (h.mem_iff s).trans ?_⟩
  · rw [hmade]
    exact h.tickets
  · rw [isActive_concat_iff, huse]
    simp [hkeeps s.ticket]

theorem perform (h : Sound uses x) (handlers : Handlers ρ σ) (use : Use ρ) : Sound (uses ++ [use]) (x.perform handlers use) := by
  cases use with
  | listen receiver =>
    let new : Subscription ρ := ⟨x.bus.issued, none, receiver⟩
    have hperm : (x.bus.listeners ++ [new] ++ x.bus.routes).Perm (new :: x.bus.subscriptions) := by
      rw [List.append_assoc]
      exact List.perm_middle
    refine h.subscribe rfl rfl (fun s hs => ?_) h.routes hperm
    rcases List.mem_append.mp hs with hs | hs
    · exact h.listeners s hs
    · rw [List.mem_singleton.mp hs]
  | route source receiver =>
    let new : Subscription ρ := ⟨x.bus.issued, some source, receiver⟩
    have hperm : (x.bus.listeners ++ (x.bus.routes ++ [new])).Perm (new :: x.bus.subscriptions) := by
      rw [← List.append_assoc]
      exact List.perm_append_singleton ..
    refine h.subscribe rfl rfl h.listeners (fun s hs => ?_) hperm
    rcases List.mem_append.mp hs with hs | hs
    · exact h.routes s hs
    · rw [List.mem_singleton.mp hs]
      exact Option.some_ne_none source
  | unsubscribe place => exact h.unsubscribe place
  | message m order => exact h.publish rfl (by nofun) _
  | response r order => exact h.publish rfl (by nofun) _

end Sound

theorem sound_run (h : Handlers ρ σ) (uses : List (Use ρ)) (s : σ) : Sound uses (Exchange.run h uses s) := by
  induction uses using List.reverseRecOn with
  | nil => exact sound_opening s
  | append_singleton uses use ih =>
    rw [Exchange.run_concat]
    exact ih.perform h use

/-! ## Publishing -/

theorem deliver_of_ok (f : ρ → σ → σ) (receivers : List ρ) (s : σ) :
    deliver (fun receiver s => (.ok (), f receiver s)) receivers s =
      (.ok (), receivers.foldl (fun s receiver => f receiver s) s) := by
  induction receivers generalizing s with
  | nil => rfl
  | cons receiver receivers ih => exact ih (f receiver s)

namespace Sound
variable {x : Exchange ρ σ}

theorem listeners_eq (h : Sound uses x) : x.bus.listeners = x.bus.subscriptions.filter (·.source = none) := by
  have hlisteners : x.bus.listeners.filter (·.source = none) = x.bus.listeners :=
    List.filter_eq_self.mpr fun s hs => decide_eq_true (h.listeners s hs)
  have hroutes : x.bus.routes.filter (·.source = none) = [] :=
    List.filter_eq_nil_iff.mpr fun s hs hnone => h.routes s hs (of_decide_eq_true hnone)
  rw [subscriptions, List.filter_append, hlisteners, hroutes, List.append_nil]

theorem routes_filter_eq (h : Sound uses x) (source : Text) :
    x.bus.routes.filter (·.source = some source) = x.bus.subscriptions.filter (·.source = some source) := by
  have hlisteners : x.bus.listeners.filter (·.source = some source) = [] := by
    refine List.filter_eq_nil_iff.mpr fun s hs hsome => ?_
    rw [h.listeners s hs] at hsome
    cases of_decide_eq_true hsome
  rw [subscriptions, List.filter_append, hlisteners, List.nil_append]

theorem publishMessage (h : Sound uses x) (handlers : Handlers ρ σ) (m : Message) (order : Order ρ) :
    x.publishMessage handlers m order = (.ok (), (order.arrange (x.bus.subscriptions.filter (·.source = none))).foldl
      (fun s subscription => handlers.onMessage subscription.receiver m s) x.state) := by
  rw [Exchange.publishMessage, Bus.publishMessage, deliver_of_ok, h.listeners_eq, List.foldl_map]

theorem publishResponse (h : Sound uses x) (handlers : Handlers ρ σ) (r : Response) (order : Order ρ) :
    x.publishResponse handlers r order =
      (.ok (!(x.bus.subscriptions.filter (·.source = some r.source)).isEmpty),
        (order.arrange (x.bus.subscriptions.filter (·.source = some r.source))).foldl
          (fun s subscription => handlers.onResponse subscription.receiver r s) x.state) := by
  have hempty : (order.arrange (x.bus.subscriptions.filter (·.source = some r.source))).isEmpty =
      (x.bus.subscriptions.filter (·.source = some r.source)).isEmpty := by
    rw [Bool.eq_iff_iff, List.isEmpty_iff, List.isEmpty_iff, ← List.length_eq_zero_iff, ← List.length_eq_zero_iff,
      (order.perm _).length_eq]
  rw [Exchange.publishResponse, Bus.publishResponse, deliver_of_ok, h.routes_filter_eq]
  rw [List.foldl_map, List.isEmpty_map, hempty]

end Sound

/-- The bus holds exactly the active subscriptions, each once. Receivers are called in whatever order: a message goes to every active
subscription to messages, once, whatever its source; a response goes to every active route under its source, once, and the answer
tells whether there is one. An unsubscriber, called once or again, takes its own subscription off the bus and leaves all others. -/
theorem bus_serves_active_subscriptions (h : Handlers ρ σ) (uses : List (Use ρ)) (s : σ) :
    let x := Exchange.run h uses s
    let active := x.bus.subscriptions
    (active.map Subscription.ticket).Nodup ∧ (∀ subscription, subscription ∈ active ↔ IsActive uses subscription) ∧
      (∀ m order, ∃ called : List (Subscription ρ), called.Perm (active.filter (·.source = none)) ∧
        x.publishMessage h m order = (.ok (), called.foldl
          (fun s subscription => h.onMessage subscription.receiver m s) x.state)) ∧
      (∀ r order, ∃ (called : List (Subscription ρ)) (delivered : Bool), called.Perm (active.filter (·.source = some r.source)) ∧
        x.publishResponse h r order = (.ok delivered, called.foldl
          (fun s subscription => h.onResponse subscription.receiver r s) x.state) ∧
        (delivered = true ↔ ∃ subscription, IsActive uses subscription ∧ subscription.source = some r.source)) ∧
      ∀ place, (x.unsubscribe place).bus.subscriptions = active.filter (·.ticket != place) := by
  intro x active
  have hsound : Sound uses x := sound_run h uses s
  refine ⟨hsound.nodup, hsound.mem_iff, fun m order => ⟨_, order.perm _, hsound.publishMessage h m order⟩,
    fun r order => ⟨_, _, order.perm _, hsound.publishResponse h r order, ?_⟩, hsound.subscriptions_unsubscribe⟩
  rw [Bool.not_eq_true', List.isEmpty_eq_false_iff_exists_mem]
  simp only [List.mem_filter, decide_eq_true_eq, hsound.mem_iff]

/-- One receiver is subscribed twice, and its first subscription is taken back twice; the last message reaches the later of two
receivers first. -/
example :
    let h : Handlers ℕ (List (ℕ × Text)) :=
      ⟨fun receiver m s => s ++ [(receiver, m.content)], fun receiver r s => s ++ [(receiver, r.content)]⟩
    let m : Message := ⟨"#lobby", "ana", "hi", [], "web", "m0"⟩
    let uses := [.listen 7, .route "console" 8, .listen 7, .unsubscribe 0, .message m .asSubscribed, .unsubscribe 0, .listen 9,
      .response (.toMessage m .say "one") .asSubscribed, .message m ⟨List.reverse, List.reverse_perm⟩,
      .response ⟨.say, "#lobby", "two", none, none, "console"⟩ .asSubscribed]
    (Exchange.run h uses []).state = [(7, "hi".toList), (9, "hi".toList), (7, "hi".toList), (8, "two".toList)] := by
  decide

end ChatBot.Channel.Bus
