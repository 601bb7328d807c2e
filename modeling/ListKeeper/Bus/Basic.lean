import ListKeeper.Event

/-!
The parts of the event bus, and what registering a channel does.

A subscriber owns the receiving end of a bounded channel. The bus keeps, for each topic, the
registered channels in the order of their registration. An envelope that finds its channel full
waits in the channel's backlog, and a drain task feeds the channel from there. All registrations
of one channel, on whatever topics, share one backlog, so they cannot overtake each other.
-/
namespace ListKeeper

/-- A channel is named by its place among the bus's channels. -/
abbrev ChannelId := Nat

/-- A backlog is named by its place among the bus's backlogs. -/
abbrev BacklogId := Nat

/-- A bounded queue of envelopes, oldest first, and whether its receiver still exists. -/
structure Channel where
  capacity : Nat
  slots : List Envelope
  isOpen : Bool
  deriving DecidableEq

/-- The largest capacity of a channel. -/
def Channel.maxCapacity : Nat := 2305843009213693951

/-- A channel has room while fewer envelopes than its capacity are in it. -/
def Channel.hasRoom (channel : Channel) : Bool :=
  channel.slots.length < channel.capacity

/-- Envelopes that wait for room in a full channel, oldest first, and whether a drain task has
been started for them that has not yet ended. -/
structure Backlog where
  queue : List Envelope
  draining : Bool
  deriving DecidableEq

structure Registration where
  channel : ChannelId
  backlog : BacklogId
  deriving DecidableEq

/-- A task that feeds a channel from a backlog. It holds the envelope that it has taken from the
backlog and not yet placed. -/
structure DrainTask where
  channel : ChannelId
  backlog : BacklogId
  held : Option Envelope
  deriving DecidableEq

/-- The state of a bus with its channels and drain tasks. Each envelope in a backlog or in the
hands of a drain task has one permit; `permits` counts those that are free. -/
structure Bus where
  registry : Topic → List Registration
  channels : List Channel
  backlogs : List Backlog
  tasks : List DrainTask
  permits : Nat
  dropped : UInt64
  /-- Somebody can still publish, so the bus still holds a sender of each registered channel. -/
  hasHandle : Bool

/-- The largest limit that a bus takes. -/
def Bus.maxInflight : Nat := 2305843009213693951

/-- A bus on which at most `maxInflight` envelopes wait at a time, that limit being brought into
the range from one to `Bus.maxInflight`. -/
def Bus.new (maxInflight : Nat) : Bus where
  registry _ := []
  channels := []
  backlogs := []
  tasks := []
  permits := min (max maxInflight 1) Bus.maxInflight
  dropped := 0
  hasHandle := true

namespace Bus

def channel (bus : Bus) (id : ChannelId) : Channel :=
  bus.channels.getD id ⟨0, [], false⟩

def backlog (bus : Bus) (id : BacklogId) : Backlog :=
  bus.backlogs.getD id ⟨[], false⟩

def modifyChannel (bus : Bus) (id : ChannelId) (change : Channel → Channel) : Bus :=
  { bus with channels := bus.channels.modify id change }

def modifyBacklog (bus : Bus) (id : BacklogId) (change : Backlog → Backlog) : Bus :=
  { bus with backlogs := bus.backlogs.modify id change }

/-- Adds an open channel that nobody has registered yet. -/
def openChannel (bus : Bus) (capacity : Nat) : ChannelId × Bus :=
  (bus.channels.length, { bus with channels := bus.channels ++ [⟨capacity, [], true⟩] })

def registrations (bus : Bus) : List Registration :=
  Topic.all.flatMap bus.registry

/-- The backlog that registrations of a channel share, if there are any. -/
def backlogOf? (bus : Bus) (channel : ChannelId) : Option BacklogId :=
  (bus.registrations.find? fun registration => registration.channel == channel).map
    Registration.backlog

def register (bus : Bus) (topic : Topic) (registration : Registration) : Bus :=
  { bus with
    registry := fun t => if t = topic then bus.registry t ++ [registration] else bus.registry t }

/-- Registers a channel for every later envelope on a topic. A channel that is registered
already, on any topic, keeps its backlog. -/
def subscribe (bus : Bus) (topic : Topic) (channel : ChannelId) : Bus :=
  match bus.backlogOf? channel with
  | some backlog => bus.register topic ⟨channel, backlog⟩
  | none =>
    let fresh := { bus with backlogs := bus.backlogs ++ [⟨[], false⟩] }
    register fresh topic ⟨channel, bus.backlogs.length⟩

def subscriberCount (bus : Bus) (topic : Topic) : Nat :=
  (bus.registry topic).length

/-- Ends the last use of the bus from outside; nothing can be published any more. -/
def dropHandle (bus : Bus) : Bus :=
  { bus with hasHandle := false }

end Bus

/-- The registrations per topic, in the order of `Topic.all`, and the number of drops. -/
structure BusStatus where
  subscribers : List Nat
  dropped : UInt64
  deriving DecidableEq

def Bus.status (bus : Bus) : BusStatus where
  subscribers := Topic.all.map bus.subscriberCount
  dropped := bus.dropped

end ListKeeper
