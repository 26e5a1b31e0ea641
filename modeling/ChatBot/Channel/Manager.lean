import ChatBot.Assoc
import ChatBot.Channel.Bus
import ChatBot.World

/-!
The manager runs the adapters and feeds their messages through a bot. Each adapter is routed under its name, so that the
responses to a message find their way back to the adapter it came from. An adapter that has given up its name to another one
stays routed until the manager stops. What the manager publishes is received in the order of subscription.
-/
set_option autoImplicit false

namespace ChatBot.Channel

/-! ## Adapters -/

/-- What becomes of an adapter once it has started. -/
inductive Startup where
  | returns
  | blocks
  | fails (fault : Fault)
  /-- Runs until it is cancelled, and fails then. -/
  | resists (fault : Fault)
  deriving DecidableEq, Repr

/-- What tells adapters apart: the name, and how many were registered before. -/
structure Seat where
  name : Text
  number : Nat
  deriving DecidableEq, Repr

structure Adapter where
  name : Text
  startup : Startup
  /-- Why sending a response fails after the response went out, if it does. -/
  sendFault : Option Fault
  /-- Why stopping fails once the adapter has stopped, if it does. -/
  stopFault : Option Fault
  running : Bool
  /-- How many adapters were registered before this one. -/
  number : Nat
  deriving DecidableEq, Repr

def Adapter.seat (a : Adapter) : Seat := ⟨a.name, a.number⟩

/-- An adapter that is not registered yet and stops without fail. -/
def Adapter.make (name : Text) (startup : Startup) (sendFault : Option Fault) : Adapter :=
  ⟨name, startup, sendFault, none, false, 0⟩

/-- How far the start of an adapter has come. -/
inductive StartState where
  | running
  /-- Still running, and about to fail when it is cancelled. -/
  | resisting (fault : Fault)
  | returned
  | failed (fault : Fault)
  | cancelled
  deriving DecidableEq, Repr

def Startup.state : Startup → StartState
  | returns => .returned
  | blocks => .running
  | fails fault => .failed fault
  | resists fault => .resisting fault

/-- Who receives from the bus: the manager itself, for the bot, or an adapter. -/
inductive Receiver where
  | manager
  | adapter (seat : Seat) (sendFault : Option Fault)
  deriving DecidableEq, Repr

structure Manager where
  adapters : Assoc Text Adapter
  /-- How many adapters were registered so far. -/
  registered : Nat
  starts : List StartState
  /-- The tickets of the manager's subscriptions, newest first. -/
  tickets : List Nat
  bus : Bus Receiver

namespace Manager

def empty : Manager := ⟨[], 0, [], [], Bus.empty⟩

/-- Takes an adapter in; one with the same name gives up its place to it. -/
def register (m : Manager) (a : Adapter) : Manager :=
  { m with adapters := m.adapters.insert a.name { a with number := m.registered }, registered := m.registered + 1 }

def names (m : Manager) : List Text := m.adapters.keys

/-- The seats of the adapters that have not given up their place. -/
def seats (m : Manager) : List Seat := m.adapters.map fun (_, a) => a.seat

/-! ## Starting and stopping -/

/-- The record of a start. -/
def startNote (m : Manager) : Note := .info ("channel.manager.start channels=" ++ Text.join [','] m.names)

/-- Adds a subscription of the manager. -/
def subscribe (m : Manager) (subscription : Nat × Bus Receiver) : Manager :=
  { m with tickets := subscription.1 :: m.tickets, bus := subscription.2 }

/-- Routes an adapter and starts it. -/
def startAdapter (m : Manager) (name : Text) (a : Adapter) : Manager :=
  let m := m.subscribe (m.bus.route name (.adapter a.seat a.sendFault))
  { m with
    adapters := m.adapters.insert name { a with running := true }
    starts := m.starts ++ [a.startup.state] }

/-- Subscribes to messages, and routes and starts every adapter. -/
def start (m : Manager) : Manager :=
  m.adapters.foldl (fun m (name, a) => m.startAdapter name a) (m.subscribe (m.bus.onMessage .manager))

/-- The first start that failed, which is what waiting for the starts reports. -/
def wait (m : Manager) : Except Fault Unit :=
  match m.starts.findSome? fun s => match s with
    | .failed fault => some fault
    | .cancelled => some .cancelled
    | _ => none
  with
  | some fault => .error fault
  | none => .ok ()

/-- A start that is still running is cancelled. -/
def StartState.cancel : StartState → StartState
  | .running => .cancelled
  | .resisting fault => .failed fault
  | s => s

/-- The first start that failed of its own. -/
def failure? (starts : List StartState) : Option Fault :=
  starts.findSome? fun s => match s with
    | .failed fault => some fault
    | _ => none

/-- Stops adapters one after the other; the first failure ends it. -/
def stopEach : Assoc Text Adapter → Except Fault Unit × Assoc Text Adapter
  | [] => (.ok (), [])
  | (name, a) :: adapters =>
    let stopped := (name, { a with running := false })
    match a.stopFault with
    | some fault => (.error fault, stopped :: adapters)
    | none =>
      let (result, adapters) := stopEach adapters
      (result, stopped :: adapters)

/-- Stops every adapter and cancels the starts that still run. If an adapter does not stop, or a start failed, its fault is reported
and everything else stays; otherwise the manager gives up its subscriptions. -/
def stop (m : Manager) : Except Fault Unit × Manager :=
  match stopEach m.adapters with
  | (.error fault, adapters) => (.error fault, { m with adapters })
  | (.ok (), adapters) =>
    let m := { m with adapters, starts := m.starts.map StartState.cancel }
    match failure? m.starts with
    | some fault => (.error fault, m)
    | none => (.ok (), { m with starts := [], tickets := [], bus := m.tickets.foldl Bus.cancel m.bus })

end Manager

/-! ## Messages -/

/-- What happened, in order: records made and responses sent by an adapter. -/
inductive Event where
  | recorded (r : Record)
  | sent (seat : Seat) (r : Response)

def Event.record? : Event → Option Record
  | recorded r => some r
  | sent _ _ => none

def Event.response? : Event → Option (Seat × Response)
  | recorded _ => none
  | sent seat r => some (seat, r)

/-- What each of the manager's adapters sent, in order. -/
def Manager.sentTexts (m : Manager) (events : List Event) : Assoc Text (List Text) :=
  ((events.filterMap Event.response?).filter fun (seat, _) => m.seats.contains seat).foldl (fun sent (seat, r) =>
    Assoc.insert sent seat.name ((Assoc.find? sent seat.name).getD [] ++ [r.render])) []

/-- How a bot answers a message; a bot that fails does so before the message's channel is bound. -/
abbrev Answering (τ : Type) := Message → World τ → Except Fault (List Response) × World τ × List Record

/-- The world, the channel that records are made under, and what has happened. -/
structure Traffic (τ : Type) where
  world : World τ
  bound : Text
  events : List Event

namespace Traffic
variable {τ : Type}

def note (t : Traffic τ) (n : Note) : Traffic τ := { t with events := t.events ++ [.recorded (n.on t.bound)] }

/-- An adapter sends a response, and then fails if that is its way. -/
def send (r : Response) : Receiver → Traffic τ → Except Fault Unit × Traffic τ
  | .manager, t => (.ok (), t)
  | .adapter seat sendFault, t =>
    (match sendFault with
      | some fault => .error fault
      | none => .ok (),
      { t with events := t.events ++ [.sent seat r] })

/-- Publishes responses in order; one that nobody receives is recorded, and a failure ends it. -/
def publishAll (bus : Bus Receiver) : List Response → Traffic τ → Except Fault Unit × Traffic τ
  | [], t => (.ok (), t)
  | r :: rs, t =>
    match bus.publishResponse .asSubscribed (send r) r.source t with
    | (.ok true, t) => publishAll bus rs t
    | (.ok false, t) => publishAll bus rs (t.note (Bus.unroutedNote r))
    | (.error fault, t) => (.error fault, t)

/-- The record of a message that the bot could not handle. -/
def inboundErrorNote (m : Message) (fault : Fault) : Note :=
  .error ("channel.inbound.error channel=" ++ m.channel) (some fault)

/-- Has the bot answer a message and publishes its responses. -/
def process (answering : Answering τ) (bus : Bus Receiver) (m : Message) (t : Traffic τ) :
    Except Fault Unit × Traffic τ :=
  match answering m t.world with
  | (.error fault, world, records) =>
    (.ok (), { t with world, events := t.events ++ records.map Event.recorded }.note (inboundErrorNote m fault))
  | (.ok responses, world, records) =>
    publishAll bus responses { world, bound := m.channel, events := t.events ++ records.map Event.recorded }

/-- A message arrives: whoever listens to messages receives it. -/
def arrive (answering : Answering τ) (bus : Bus Receiver) (m : Message) (t : Traffic τ) : Except Fault Unit × Traffic τ :=
  bus.publishMessage .asSubscribed (fun receiver t => match receiver with
    | .manager => process answering bus m t
    | .adapter _ _ => (.ok (), t)) t

end Traffic
end ChatBot.Channel
