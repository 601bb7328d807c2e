import ListKeeper.Bus.Publish

namespace ListKeeper

inductive Received where
  | envelope (envelope : Envelope)
  | empty
  /-- The channel is empty and no sender of it is left. -/
  | disconnected
  /-- The receiver itself is gone. -/
  | closed
  deriving DecidableEq

inductive DrainOutcome where
  /-- The task took an envelope from the backlog, or placed the one that it held. -/
  | moved
  /-- The channel is full, so the task goes on holding its envelope. -/
  | waiting
  | ended
  deriving DecidableEq

namespace Bus

/-- A channel has a sender while somebody can publish or a drain task feeds it. -/
def hasSender (bus : Bus) (id : ChannelId) : Bool :=
  bus.hasHandle || bus.tasks.any fun task => task.channel == id

def recv (bus : Bus) (id : ChannelId) : Received × Bus :=
  let channel := bus.channel id
  if !channel.isOpen then (.closed, bus)
  else
    match channel.slots with
    | envelope :: rest =>
      (.envelope envelope, bus.modifyChannel id fun channel => { channel with slots := rest })
    | [] => (if bus.hasSender id then .empty else .disconnected, bus)

/-- Gives up a channel's receiver, and with it the envelopes in the channel. -/
def close (bus : Bus) (id : ChannelId) : Bus :=
  bus.modifyChannel id fun channel => { channel with slots := [], isOpen := false }

/-- Ends the drain task at `index`, giving back the permits of `released` envelopes. -/
def endDrain (bus : Bus) (index : Nat) (task : DrainTask) (released : Nat) : Bus :=
  modifyBacklog { bus with
    tasks := bus.tasks.eraseIdx index
    permits := bus.permits + released } task.backlog fun _ => ⟨[], false⟩

/-- One step of the drain task at `index`. A task that holds nothing takes the oldest envelope of
its backlog, and ends when there is none. A task that holds an envelope places it when there is
room, and then gives back its permit; when the receiver is gone it discards that envelope and the
backlog, and ends. -/
def drainStep (bus : Bus) (index : Nat) : DrainOutcome × Bus :=
  match bus.tasks[index]? with
  | none => (.ended, bus)
  | some task =>
    match task.held with
    | none =>
      match (bus.backlog task.backlog).queue with
      | [] => (.ended, bus.endDrain index task 0)
      | envelope :: rest =>
        (.moved, modifyBacklog { bus with
            tasks := bus.tasks.set index { task with held := some envelope } }
          task.backlog fun backlog => { backlog with queue := rest })
    | some envelope =>
      let channel := bus.channel task.channel
      if !channel.isOpen then
        (.ended, bus.endDrain index task ((bus.backlog task.backlog).queue.length + 1))
      else if channel.hasRoom then
        (.moved, modifyChannel { bus with
            tasks := bus.tasks.set index { task with held := none }
            permits := bus.permits + 1 }
          task.channel fun channel => { channel with slots := channel.slots ++ [envelope] })
      else (.waiting, bus)

/-- Steps the drain task at `index` until it waits or ends, `fuel` times at most. -/
def drainSteps (bus : Bus) (index : Nat) : (fuel : Nat) → Bus
  | 0 => bus
  | fuel + 1 =>
    match bus.drainStep index with
    | (.moved, bus) => bus.drainSteps index fuel
    | (_, bus) => bus

/-- Lets the drain task at `index` run as far as it can. Each envelope of its backlog is taken
and placed once, and one more step ends the task. -/
def drain (bus : Bus) (index : Nat) : Bus :=
  match bus.tasks[index]? with
  | none => bus
  | some task => bus.drainSteps index (2 * (bus.backlog task.backlog).queue.length + 2)

/-- Lets the drain tasks before `index` run as far as they can, the last of them first, so that
a task that ends moves none of those still to be run. -/
def drainBelow (bus : Bus) : (index : Nat) → Bus
  | 0 => bus
  | index + 1 => (bus.drain index).drainBelow index

def settle (bus : Bus) : Bus :=
  bus.drainBelow bus.tasks.length

/-- Receives from a channel until it is empty, `fuel` times at most. -/
def recvSteps (bus : Bus) (id : ChannelId) : (fuel : Nat) → List Envelope × Bus
  | 0 => ([], bus)
  | fuel + 1 =>
    match bus.recv id with
    | (.envelope envelope, bus) =>
      let (later, bus) := bus.recvSteps id fuel
      (envelope :: later, bus)
    | (_, bus) => ([], bus)

def recvAll (bus : Bus) (id : ChannelId) : List Envelope × Bus :=
  bus.recvSteps id (bus.channel id).slots.length

/-- Alternately settles and receives everything from one channel, `fuel` times at most and until
a round brings nothing. -/
def flushSteps (bus : Bus) (id : ChannelId) : (fuel : Nat) → List Envelope × Bus
  | 0 => ([], bus)
  | fuel + 1 =>
    match bus.settle.recvAll id with
    | ([], bus) => ([], bus)
    | (received, bus) =>
      let (later, bus) := bus.flushSteps id fuel
      (received ++ later, bus)

/-- How many envelopes wait in backlogs, in the hands of drain tasks and in channels. -/
def pending (bus : Bus) : Nat :=
  (bus.backlogs.flatMap fun backlog => backlog.queue).length +
    (bus.tasks.filter fun task => task.held.isSome).length +
    (bus.channels.flatMap fun channel => channel.slots).length

/-- Alternately settles and receives from one channel until nothing is left for it. -/
def flush (bus : Bus) (id : ChannelId) : List Envelope × Bus :=
  bus.flushSteps id (bus.pending + 1)

end Bus

end ListKeeper
