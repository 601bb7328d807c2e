import ListKeeper.Crew
import ListKeeper.Proofs.Session.Run
import ListKeeper.Proofs.Shift.Task

/-!
Requests and workers at the same time. Every call of a request and every call of a worker is a step
of its own, and the steps follow each other in any order. A record is kept of the documents that a
worker has made of lists, and of what other workers have stored or removed before it stores them.
-/
namespace ListKeeper

/-- Documents that one worker has made when another one stores or removes the document of the same
list, by their keys. -/
structure Crossings where
  /-- The worker for all lists has made a document and not stored it yet, and the worker for single
  lists has stored another one since. -/
  overtaken : List String
  /-- The worker for all lists has stored its document all the same, and none has been stored since. -/
  outdated : List String
  /-- A worker had made a document and not stored it yet when the document was removed. -/
  stranded : List String

namespace Crossings

/-- The worker for single lists stores documents, when the one for all lists has made some. -/
def storeSome (crossings : Crossings) (made documents : List Document) : Crossings where
  overtaken := crossings.overtaken ++ (made.filter fun mine =>
    documents.any fun document => document.objectId = mine.objectId ∧ document ≠ mine).map
      Document.objectId
  outdated := crossings.outdated.filter (· ∉ documents.map Document.objectId)
  stranded := crossings.stranded

/-- The worker for all lists stores the documents that it has made. -/
def storeAll (crossings : Crossings) (documents : List Document) : Crossings where
  overtaken := []
  outdated := crossings.outdated.filter (· ∉ documents.map Document.objectId) ++
    crossings.overtaken.filter (· ∈ documents.map Document.objectId)
  stranded := crossings.stranded

/-- A document is removed, when workers have made some. -/
def remove (crossings : Crossings) (made : List Document) (key : String) : Crossings where
  overtaken := crossings.overtaken
  outdated := crossings.outdated
  stranded := crossings.stranded ++ (made.map Document.objectId).filter (· = key)

variable {crossings : Crossings} {made documents : List Document} {key : String}

theorem mem_outdated_storeSome : key ∈ (crossings.storeSome made documents).outdated ↔
    key ∈ crossings.outdated ∧ key ∉ documents.map Document.objectId := by
  rw [storeSome, List.mem_filter, decide_eq_true_iff]

theorem mem_overtaken_storeSome {mine document : Document} (known : mine ∈ made)
    (stored : document ∈ documents) (same : document.objectId = mine.objectId)
    (other : document ≠ mine) : mine.objectId ∈ (crossings.storeSome made documents).overtaken := by
  refine List.mem_append_right _ (List.mem_map_of_mem (List.mem_filter.mpr ⟨known, ?_⟩))
  exact List.any_eq_true.mpr ⟨document, stored, decide_eq_true ⟨same, other⟩⟩

theorem mem_outdated_storeAll : key ∈ (crossings.storeAll documents).outdated ↔
    key ∈ crossings.outdated ∧ key ∉ documents.map Document.objectId ∨
      key ∈ crossings.overtaken ∧ key ∈ documents.map Document.objectId := by
  rw [storeAll, List.mem_append, List.mem_filter, List.mem_filter, decide_eq_true_iff,
    decide_eq_true_iff]

theorem mem_stranded_remove {removed : String} : key ∈ (crossings.remove made removed).stranded ↔
    key ∈ crossings.stranded ∨ key ∈ made.map Document.objectId ∧ key = removed := by
  rw [remove, List.mem_append, List.mem_filter, decide_eq_true_iff]

end Crossings

/-- Requests that are being served, and the workers of a pipeline. -/
structure Shift where
  session : Session
  workers : List (Worker Call.interface)
  /-- Which worker, by its place in the pipeline, has made which document and not stored documents
  since. -/
  made : List (Nat × Document)
  crossings : Crossings

namespace Shift

inductive Step where
  /-- A request makes its next call. -/
  | request (index : Nat) (now : Timestamp)
  /-- A worker that is idle takes its next event. -/
  | take (place : Nat)
  /-- A worker makes its next call. -/
  | work (place : Nat) (now : Timestamp)
  /-- A worker that is done with its event becomes idle. -/
  | finish (place : Nat)
  /-- A drain task moves on. -/
  | drain (task : Nat)

/-- What workers have made and not yet stored, after a call of one of them. -/
def note (shift : Shift) (place : Nat) : Call → List (Nat × Document)
  | .store (.loadList list) =>
    ((shift.session.backend.store.lists.get? list).toList.map fun found =>
      (place, Document.ofList found)) ++ shift.made
  | .saveDocuments _ => shift.made.filter fun (other, _) => other ≠ place
  | _ => shift.made

/-- What has crossed after a call of a worker. The one for all lists is in the last place. -/
def cross (shift : Shift) (place : Nat) : Call → Crossings
  | .saveDocuments documents =>
    if place = 3 then shift.crossings.storeAll documents
    else
      let others := shift.made.filter fun (other, _) => other = 3
      shift.crossings.storeSome (others.map Prod.snd) documents
  | .deleteDocument key => shift.crossings.remove (shift.made.map Prod.snd) key
  | _ => shift.crossings

def work (shift : Shift) (place : Nat) (worker : Worker Call.interface) (now : Timestamp) : Shift :=
  match worker.phase with
  | .processing event (.call call next _) =>
    let (answer, backend) := shift.session.backend.perform now call
    { session := { shift.session with backend }
      workers := shift.workers.set place { worker with phase := .processing event (next answer) }
      made := shift.note place call
      crossings := shift.cross place call }
  | _ => shift

def act (callback : Callback) (shift : Shift) : Step → Shift
  | .request index now => { shift with session := shift.session.step index now }
  | .take place =>
    match shift.workers[place]? with
    | none => shift
    | some worker =>
      let (worker, bus, _) := worker.take shift.session.backend.bus
      { shift with
        session := { shift.session with backend := { shift.session.backend with bus } }
        workers := shift.workers.set place worker }
  | .work place now =>
    match shift.workers[place]? with
    | none => shift
    | some worker => shift.work place worker now
  | .finish place =>
    match shift.workers[place]? with
    | none => shift
    | some worker =>
      { shift with workers := shift.workers.set place (worker.finish callback).1 }
  | .drain task =>
    let (_, bus) := shift.session.backend.bus.drainStep task
    { shift with
      session := { shift.session with backend := { shift.session.backend with bus } } }

def run (callback : Callback) (shift : Shift) (steps : List Step) : Shift :=
  steps.foldl (act callback) shift

/-- Requests and workers before their first step. -/
def opening (workers : List (Worker Call.interface)) (backend : Backend)
    (jobs : List (Job Request.Result)) : Shift :=
  ⟨⟨backend, jobs⟩, workers, [], ⟨[], [], []⟩⟩

end Shift

end ListKeeper
