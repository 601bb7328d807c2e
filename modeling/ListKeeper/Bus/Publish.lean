import ListKeeper.Bus.Basic
import ListKeeper.Notice

namespace ListKeeper

inductive Offer where
  | delivered
  | skipped
  | queued
  /-- The `total`th drop of this bus. -/
  | dropped (reason : DropReason) (total : UInt64)
  deriving DecidableEq

def Offer.notice? (topic : Topic) : Offer → Option Notice
  | .dropped reason total => some (.deliveryDropped topic reason total)
  | _ => none

namespace Bus

def countDrop (bus : Bus) (reason : DropReason) : Offer × Bus :=
  let total := if bus.dropped = UInt64.ofNat (UInt64.size - 1) then bus.dropped else bus.dropped + 1
  (.dropped reason total, { bus with dropped := bus.dropped + 1 })

/-- Appends an envelope to a backlog at the price of one permit. -/
def enqueue (bus : Bus) (registration : Registration) (envelope : Envelope) : Bus :=
  modifyBacklog { bus with permits := bus.permits - 1 } registration.backlog fun backlog =>
    { backlog with queue := backlog.queue ++ [envelope] }

def startDrain (bus : Bus) (registration : Registration) : Bus :=
  let task : DrainTask := ⟨registration.channel, registration.backlog, none⟩
  modifyBacklog { bus with tasks := bus.tasks ++ [task] } registration.backlog fun backlog =>
    { backlog with draining := true }

/-- Offers one copy to one registration. `canSpawn` says whether a drain task can be started. While
a channel is being drained, every copy for it joins the backlog, even when it has room again. -/
def offer (bus : Bus) (canSpawn : Bool) (registration : Registration) (envelope : Envelope) :
    Offer × Bus :=
  let channel := bus.channel registration.channel
  if (bus.backlog registration.backlog).draining then
    if bus.permits = 0 then bus.countDrop .backlogFull
    else (.queued, bus.enqueue registration envelope)
  else if !channel.isOpen then (.skipped, bus)
  else if channel.hasRoom then
    (.delivered, bus.modifyChannel registration.channel fun channel =>
      { channel with slots := channel.slots ++ [envelope] })
  else if bus.permits = 0 then bus.countDrop .backlogFull
  else if !canSpawn then bus.countDrop .nobodyToDrain
  else (.queued, (bus.startDrain registration).enqueue registration envelope)

/-- Offers a copy of an envelope to each registration, in order. -/
def offerAll (bus : Bus) (canSpawn : Bool) (envelope : Envelope) :
    List Registration → List Offer × Bus
  | [] => ([], bus)
  | registration :: rest =>
    let (first, bus) := bus.offer canSpawn registration envelope
    let (others, bus) := bus.offerAll canSpawn envelope rest
    (first :: others, bus)

def publish (bus : Bus) (canSpawn : Bool) (envelope : Envelope) : List Offer × Bus :=
  bus.offerAll canSpawn envelope (bus.registry envelope.topic)

end Bus

end ListKeeper
