import ListKeeper.Bus.Publish
import ListKeeper.Index
import ListKeeper.Program
import ListKeeper.Store

namespace ListKeeper

/-- The calls that a job can make, each of them atomic. -/
inductive Call where
  | store (call : StoreCall)
  | saveDocuments (documents : List Document)
  | deleteDocument (objectId : String)
  /-- Publishes an event; the answer is the number of subscribers addressed. -/
  | publish (envelope : Envelope)
  | busStatus
  | clock
  | tell (notice : Notice)

abbrev Call.Answer : Call → Type
  | .store call => call.Answer
  | .saveDocuments _ => Except SearchFault Unit
  | .deleteDocument _ => Except SearchFault Unit
  | .publish _ => Nat
  | .busStatus => BusStatus
  | .clock => Timestamp
  | .tell _ => Unit

abbrev Call.interface : Interface :=
  ⟨Call, Call.Answer⟩

/-- A program that works on the backend. -/
abbrev Job (α : Type) := Program Call.interface α

/-- A job that can fail with a fault of type `ε`. -/
abbrev Attempt (ε α : Type) := ExceptT ε (Program Call.interface) α

def Job.ask (call : Call) : Job call.Answer :=
  .call call .done .stalled

namespace Attempt

variable {ε : Type}

/-- Makes a call on the store and turns its faults into faults of the attempt. -/
def store (call : StoreCall) (fault : StorageFault → ε) : Attempt ε call.Result :=
  ExceptT.mk (do
    let answer ← Job.ask (.store call)
    pure (answer.mapError fault))

def saveDocuments (documents : List Document) (fault : SearchFault → ε) : Attempt ε Unit :=
  ExceptT.mk (do
    let answer ← Job.ask (.saveDocuments documents)
    pure (answer.mapError fault))

def deleteDocument (objectId : String) (fault : SearchFault → ε) : Attempt ε Unit :=
  ExceptT.mk (do
    let answer ← Job.ask (.deleteDocument objectId)
    pure (answer.mapError fault))

end Attempt

def Job.publish (topic : Topic) (payload : Payload) : Job Nat :=
  Job.ask (.publish ⟨topic, payload⟩)

def Job.tell (notice : Notice) : Job Unit :=
  Job.ask (.tell notice)

/-- The state of everything that jobs work on, and the notices given so far. -/
structure Backend where
  store : Store
  index : Index
  bus : Bus
  notices : List Notice

namespace Backend

/-- Publishes an event and tells of the copies that were dropped. Drain tasks can be started. -/
def publish (backend : Backend) (envelope : Envelope) : Nat × Backend :=
  let (offers, bus) := backend.bus.publish true envelope
  (offers.length, { backend with
    bus
    notices := backend.notices ++ offers.filterMap (Offer.notice? envelope.topic) })

/-- Answers a call made at the instant `now`. -/
def perform (backend : Backend) (now : Timestamp) : (call : Call) → call.Answer × Backend
  | .store call =>
    let (answer, store) := backend.store.perform now call
    (answer, { backend with store })
  | .saveDocuments documents => (.ok (), { backend with index := backend.index.save documents })
  | .deleteDocument objectId => (.ok (), { backend with index := backend.index.delete objectId })
  | .publish envelope => backend.publish envelope
  | .busStatus => (backend.bus.status, backend)
  | .clock => (now, backend)
  | .tell notice => ((), { backend with notices := backend.notices ++ [notice] })

/-- Surroundings that answer every call, at the instant `now`. -/
def treat (now : Timestamp) : Program.Surroundings Call.interface Backend := fun call backend =>
  let (answer, backend) := backend.perform now call
  (.answer answer, backend)

/-- Lets a job run to its end, with nothing else going on. -/
def run {α : Type} (backend : Backend) (now : Timestamp) (job : Job α) :
    Program.Progress Call.interface Backend α :=
  job.advance (treat now) backend

end Backend

end ListKeeper
