import ListKeeper.Bus.Deliver
import ListKeeper.Handler

/-!
Workers: each owns one channel of the bus and hands its envelopes to a handler, one at a time and
in their order.

Whatever comes of an envelope, also a panic, goes to a completion callback, after which the
worker is idle again; nothing is tried twice. A worker stops when its channel is empty and has no
sender any more.
-/
namespace ListKeeper

structure Completion where
  handler : String
  envelope : Envelope
  result : Except ProjectionFault Unit
  /-- Whether a failure is to be reported. -/
  forward : Bool

/-- What a completion callback does: notices, reports of failures with their context, and
whether it then panics. -/
structure CallbackEffect where
  notices : List Notice
  reports : List (String × ProjectionFault)
  panics : Bool

abbrev Callback := Completion → CallbackEffect

/-- The callback that tells the operators of each failure, and reports those of handlers that ask
for it. -/
def Callback.logging : Callback := fun completion =>
  match completion.result with
  | .ok () => ⟨[], [], false⟩
  | .error fault =>
    ⟨[.eventFailed completion.handler completion.envelope fault],
      if completion.forward then [(completion.handler, fault)] else [], false⟩

/-- The reporter that passes a report on to the operators. -/
def Notice.ofReport (context : String) (fault : ProjectionFault) : Notice :=
  .failureReported context fault

inductive Status where
  | idle
  | processing
  deriving DecidableEq

def Status.name : Status → String
  | .idle => "Idle"
  | .processing => "Processing"

inductive Phase (I : Interface) where
  | idle
  /-- The handler has `rest` left to do for the envelope. -/
  | processing (envelope : Envelope) (rest : Program I (Except ProjectionFault Unit))
  /-- The worker has ended, and this is the last that was seen of it. -/
  | stopped (last : Status)

def Phase.status {I : Interface} : Phase I → Status
  | .idle => .idle
  | .processing .. => .processing
  | .stopped last => last

def Phase.isStopped {I : Interface} : Phase I → Bool
  | .stopped _ => true
  | _ => false

structure Worker (I : Interface) where
  handler : Handler I
  topics : List Topic
  channel : ChannelId
  phase : Phase I

namespace Worker

/-- The topics of a worker: the first one and each other one once, in order. -/
def topicsFrom (first : Topic) (others : List Topic) : List Topic :=
  others.foldl (fun topics topic => if topic ∈ topics then topics else topics ++ [topic]) [first]

/-- The capacity of a worker's channel: what is wanted, and one slot at least. No channel is
larger than `Channel.maxCapacity`. -/
def capacity? (wanted : Nat) : Option Nat :=
  if max wanted 1 ≤ Channel.maxCapacity then some (max wanted 1) else none

/-- Opens a channel and registers it for every topic of a new worker. -/
def start? {I : Interface} (bus : Bus) (handler : Handler I) (topics : List Topic)
    (wanted : Nat) : Option (Worker I × Bus) :=
  (capacity? wanted).map fun capacity =>
    let (channel, bus) := bus.openChannel capacity
    (⟨handler, topics, channel, .idle⟩,
      topics.foldl (fun bus topic => bus.subscribe topic channel) bus)

inductive Event where
  /-- The handler is called while observers see the given status. -/
  | handling (handler : String) (envelope : Envelope) (status : Status)
  | completed (completion : Completion)
  | reported (context : String) (fault : ProjectionFault)
  | noticed (notice : Notice)

def completionEvents (callback : Callback) (completion : Completion) : List Event :=
  let effect := callback completion
  .completed completion :: effect.notices.map .noticed ++
    effect.reports.map (fun (context, fault) => .reported context fault) ++
    if effect.panics then [.noticed (.callbackPanicked completion.handler)] else []

/-- What the handler's work on an envelope came to, once it is over. A panic is a failure. -/
def result? {I : Interface} :
    Program I (Except ProjectionFault Unit) → Option (Except ProjectionFault Unit)
  | .done result => some result
  | .panic reason => some (.error (.panicked reason.message))
  | _ => none

variable {I : Interface}

/-- Takes the next envelope, if the worker is idle and there is one. -/
def take (worker : Worker I) (bus : Bus) : Worker I × Bus × List Event :=
  match worker.phase with
  | .idle =>
    match bus.recv worker.channel with
    | (.envelope envelope, bus) =>
      let work := worker.handler.handle envelope
      ({ worker with phase := .processing envelope work }, bus,
        [.handling worker.handler.name envelope .processing])
    | (.empty, bus) => (worker, bus, [])
    | (_, bus) => ({ worker with phase := .stopped .idle }, bus, [])
  | _ => (worker, bus, [])

/-- Becomes idle when the handler is done with the envelope, which the callback is told. -/
def finish (callback : Callback) (worker : Worker I) : Worker I × List Event :=
  match worker.phase with
  | .processing envelope rest =>
    match result? rest with
    | some result =>
      ({ worker with phase := .idle },
        completionEvents callback
          ⟨worker.handler.name, envelope, result, worker.handler.forwards⟩)
    | none => (worker, [])
  | _ => (worker, [])

/-- Ends a worker from outside. Its channel has no receiver any more. -/
def abort (worker : Worker I) (bus : Bus) : Worker I × Bus :=
  ({ worker with phase := .stopped worker.phase.status }, bus.close worker.channel)

/-- The worker as diagnostic text, before and after it is registered. The topics are followed by
the handler and, once there is one, the status. -/
def diagnosticText (topics : List Topic) (handler : String) (status : Option Status) : String :=
  let name := if status.isSome then "SubscribedProcessor" else "Processor"
  name ++ " \x7b topics: [" ++ ", ".intercalate (topics.map Topic.tag) ++ "], handler: " ++
    handler ++ (status.elim "" fun status => ", state: " ++ status.name) ++ ", .. \x7d"

end Worker

end ListKeeper
