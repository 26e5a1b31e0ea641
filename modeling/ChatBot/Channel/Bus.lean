import ChatBot.Fault
import ChatBot.Message
import ChatBot.Note

/-!
The message bus. Subscribers to messages receive every message, whatever its source; a route receives the responses that go
back to its source. A subscription is known by its ticket, which cancels it and no other. Nothing is promised about the order in
which those who receive something are called.
-/
set_option autoImplicit false

namespace ChatBot.Channel

/-- A receiver `ρ` under a ticket; a source limits what it receives. -/
structure Subscription (ρ : Type) where
  ticket : Nat
  source : Option Text
  receiver : ρ
  deriving Repr

structure Bus (ρ : Type) where
  issued : Nat
  listeners : List (Subscription ρ)
  routes : List (Subscription ρ)
  deriving Repr

namespace Bus
variable {ρ σ : Type}

def empty : Bus ρ := ⟨0, [], []⟩

/-! ## Subscribing -/

/-- Subscribes to all messages. -/
def onMessage (b : Bus ρ) (receiver : ρ) : Nat × Bus ρ :=
  (b.issued, { b with issued := b.issued + 1, listeners := b.listeners ++ [⟨b.issued, none, receiver⟩] })

/-- Subscribes to the responses that go back to a source. -/
def route (b : Bus ρ) (source : Text) (receiver : ρ) : Nat × Bus ρ :=
  (b.issued, { b with issued := b.issued + 1, routes := b.routes ++ [⟨b.issued, some source, receiver⟩] })

/-- Cancels the subscription with a ticket, if it is still there. -/
def cancel (b : Bus ρ) (ticket : Nat) : Bus ρ :=
  { b with listeners := b.listeners.filter (·.ticket != ticket), routes := b.routes.filter (·.ticket != ticket) }

/-! ## Publishing -/

/-- An order in which receivers may be called, whoever has subscribed. -/
structure Order (ρ : Type) where
  arrange : List (Subscription ρ) → List (Subscription ρ)
  perm : ∀ subscriptions, (arrange subscriptions).Perm subscriptions

/-- Receivers are called in the order in which they have subscribed. -/
def Order.asSubscribed : Order ρ := ⟨id, List.Perm.refl⟩

/-- Those who receive a message. -/
def messageReceivers (b : Bus ρ) : List ρ := b.listeners.map Subscription.receiver

/-- Those who receive a response that goes back to a source. -/
def responseReceivers (b : Bus ρ) (source : Text) : List ρ :=
  (b.routes.filter (·.source = some source)).map Subscription.receiver

/-- Hands something to receivers one after the other; the first failure ends it. -/
def deliver (receive : ρ → σ → Except Fault Unit × σ) : List ρ → σ → Except Fault Unit × σ
  | [], s => (.ok (), s)
  | r :: rs, s =>
    match receive r s with
    | (.ok (), s) => deliver receive rs s
    | (.error fault, s) => (.error fault, s)

/-- Hands a message to all who receive messages. -/
def publishMessage (b : Bus ρ) (order : Order ρ) (receive : ρ → σ → Except Fault Unit × σ) (s : σ) : Except Fault Unit × σ :=
  deliver receive ((order.arrange b.listeners).map Subscription.receiver) s

/-- Hands a response to those who receive responses for its source; tells whether there are any. -/
def publishResponse (b : Bus ρ) (order : Order ρ) (receive : ρ → σ → Except Fault Unit × σ) (source : Text) (s : σ) :
    Except Fault Bool × σ :=
  let receivers := (order.arrange (b.routes.filter (·.source = some source))).map Subscription.receiver
  match deliver receive receivers s with
  | (.ok (), s) => (.ok (!receivers.isEmpty), s)
  | (.error fault, s) => (.error fault, s)

theorem publishMessage_asSubscribed (b : Bus ρ) (receive : ρ → σ → Except Fault Unit × σ) (s : σ) :
    b.publishMessage .asSubscribed receive s = deliver receive b.messageReceivers s := rfl

theorem publishResponse_asSubscribed (b : Bus ρ) (receive : ρ → σ → Except Fault Unit × σ) (source : Text) (s : σ) :
    b.publishResponse .asSubscribed receive source s =
      match deliver receive (b.responseReceivers source) s with
      | (.ok (), s) => (.ok (!(b.responseReceivers source).isEmpty), s)
      | (.error fault, s) => (.error fault, s) := rfl

/-- The record of a response that nobody receives. -/
def unroutedNote (r : Response) : Note :=
  .warning ("bus.outbound.unrouted source=" ++ r.source ++ " channel=" ++ r.channel)

end Bus
end ChatBot.Channel
