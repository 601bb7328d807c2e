import ListKeeper.Crew
import ListKeeper.Proofs.Pipeline.Started
import ListKeeper.Proofs.Store.Filled

namespace ListKeeper

instance : HasBus Backend where
  bus := Backend.bus
  setBus backend bus := { backend with bus }

namespace Pipeline

inductive Step where
  /-- A request is answered. -/
  | request (request : Request) (now : Timestamp)
  /-- A worker, counted from zero, takes its next event and handles it. -/
  | process (worker : Nat) (now : Timestamp)
  /-- A drain task, counted from zero, moves on. -/
  | drain (task : Nat)

/-- A worker takes its next event, if there is one, and handles it. -/
def process (callback : Callback) (crew : Crew Call.interface Backend) (index : Nat)
    (now : Timestamp) : Crew Call.interface Backend :=
  match crew.workers[index]? with
  | none => crew
  | some worker =>
    let (worker, bus, _) := worker.take crew.state.bus
    let (worker, state, _) :=
      Crew.work (Backend.treat now) callback worker { crew.state with bus }
    ⟨crew.workers.set index worker, state⟩

def act (callback : Callback) (crew : Crew Call.interface Backend) :
    Step → Crew Call.interface Backend
  | .request request now => { crew with state := (crew.state.run now request.job).state }
  | .process index now => process callback crew index now
  | .drain task =>
    { crew with state := { crew.state with bus := (crew.state.bus.drainStep task).2 } }

def run (callback : Callback) (crew : Crew Call.interface Backend) (steps : List Step) :
    Crew Call.interface Backend :=
  steps.foldl (act callback) crew

variable {callback : Callback} {crew : Crew Call.interface Backend} {batch index : Nat}
  {now : Timestamp} {handler : Handler Call.interface} {topics : List Topic} {id : ChannelId}

theorem set_eq_self {α : Type} {xs : List α} {i : Nat} {x : α} (there : xs[i]? = some x) :
    xs.set i x = xs := by
  obtain ⟨inside, rfl⟩ := List.getElem?_eq_some_iff.mp there
  exact List.set_getElem_self inside

theorem process_of_empty (there : crew.workers[index]? = some ⟨handler, topics, id, .idle⟩)
    (empty : crew.state.bus.recv id = (.empty, crew.state.bus)) :
    process callback crew index now = crew := by
  simp only [process, there, Worker.take, empty, Crew.work]
  rw [set_eq_self there]

theorem process_of_event (there : crew.workers[index]? = some ⟨handler, topics, id, .idle⟩)
    {event : Envelope} {bus : Bus} (received : crew.state.bus.recv id = (.envelope event, bus))
    {result : Except ProjectionFault Unit} {after : Backend}
    (brings : Backend.Brings { crew.state with bus } now (handler.handle event) result after) :
    process callback crew index now = ⟨crew.workers, after⟩ := by
  have rest := brings.rest
  have state := brings.state
  rw [Backend.run] at rest state
  simp only [process, there, Worker.take, received, Crew.work, rest, state, Worker.finish,
    Worker.result?]
  rw [set_eq_self there]

/-- The event that a worker, counted from zero, is to handle next. -/
def next? (crew : Crew Call.interface Backend) (index : Nat) : Option Envelope :=
  crew.workers[index]?.bind fun worker =>
    match (crew.state.bus.recv worker.channel).1 with
    | .envelope event => some event
    | _ => none

/-- What a worker, by its place in the crew, does about an event to the store and the index. -/
inductive Handled (store : Store) (index : Index) (now : Timestamp) :
    Nat → Envelope → Store → Index → Prop where
  | counted (event : Envelope) (list : ListId) (about : event.payload.list? = some list) :
    Handled store index now 0 event (store.perform now (.setItemCount list
      ((store.lists.get? list).elim 0 ItemList.countOfItems))).2 index
  | saved (event : Envelope) :
    Handled store index now 1 event store
      (index.save (Handler.documentsOf store event.payload.list?.toList))
  | removed (event : Envelope) (list : ListId) (about : event.payload.list? = some list) :
    Handled store index now 2 event store (index.delete (Document.keyOf list))
  | rebuilt (event : Envelope) (empty : event.payload = .empty) (ids : List ListId)
      (all : ∀ k, (store.lists.get? k).isSome → k ∈ ids) :
    Handled store index now 3 event store (index.save (Handler.documentsOf store ids))
  | misdirected (event : Envelope) (named : event.payload ≠ .empty) :
    Handled store index now 3 event store index
  | ignored (worker : Nat) (single : worker < 3) (event : Envelope)
      (about : event.payload.list? = none) :
    Handled store index now worker event store index

theorem Handled.sound {store after : Store} {documents left : Index} {event : Envelope}
    (handled : Handled store documents now index event after left) (sound : store.Sound) :
    after.Sound := by
  cases handled with
  | counted => exact sound.recount
  | saved | removed | rebuilt | misdirected | ignored => exact sound

/-- The handler of each worker comes to its end, and this is what it has done. -/
theorem brings_handled {batch : Nat}
    (there : (Pipeline.crew batch)[index]? = some ⟨handler, topics, id, .idle⟩)
    (backend : Backend) (now : Timestamp) (event : Envelope) :
    index = id ∧ id < 4 ∧ ∃ result store documents,
      backend.Brings now (handler.handle event) result { backend with store, index := documents } ∧
        Handled backend.store backend.index now index event store documents := by
  match index with
  | 0 =>
    cases there
    refine ⟨rfl, by decide, ?_⟩
    obtain ⟨result, brings⟩ : ∃ result, backend.Brings now (Handler.itemCount.handle event) result _ :=
      Handler.brings_itemCount event
    cases about : event.payload.list? with
    | none =>
      rw [about] at brings
      exact ⟨result, _, _, brings, .ignored 0 (by decide) event about⟩
    | some list =>
      rw [about] at brings
      exact ⟨result, _, _, brings, .counted event list about⟩
  | 1 =>
    cases there
    refine ⟨rfl, by decide, ?_⟩
    obtain ⟨result, brings⟩ : ∃ result, backend.Brings now (Handler.searchIndex.handle event) result _ :=
      Handler.brings_searchIndex event
    exact ⟨result, _, _, brings, .saved event⟩
  | 2 =>
    cases there
    refine ⟨rfl, by decide, ?_⟩
    obtain ⟨result, brings⟩ : ∃ result,
        backend.Brings now (Handler.searchDeindex.handle event) result _ :=
      Handler.brings_searchDeindex event
    cases about : event.payload.list? with
    | none =>
      rw [about] at brings
      exact ⟨result, _, _, brings, .ignored 2 (by decide) event about⟩
    | some list =>
      rw [about] at brings
      exact ⟨result, _, _, brings, .removed event list about⟩
  | 3 =>
    cases there
    refine ⟨rfl, by decide, ?_⟩
    by_cases empty : event.payload = .empty
    · obtain ⟨result, ids, brings, all⟩ : ∃ result ids,
          backend.Brings now ((Handler.searchReindex batch).handle event) result _ ∧ _ :=
        Handler.brings_searchReindex batch event empty
      exact ⟨result, _, _, brings, .rebuilt event empty ids all⟩
    · exact ⟨_, _, _, Handler.brings_searchReindex_of_list batch event empty, .misdirected event empty⟩
  | index + 4 => cases there

/-- A worker does nothing when no event is there, and else it handles the next one. -/
theorem process_handled {batch : Nat} (workers : crew.workers = Pipeline.crew batch)
    (wired : Wired crew.state.bus) (index : Nat) :
    next? crew index = none ∧ process callback crew index now = crew ∨
      ∃ event bus store documents, next? crew index = some event ∧ Wired bus ∧
        Taken crew.state.bus.inTransit bus.inTransit index event ∧
        Handled crew.state.store crew.state.index now index event store documents ∧
        process callback crew index now =
          ⟨crew.workers, { crew.state with store, index := documents, bus }⟩ := by
  cases there : crew.workers[index]? with
  | none =>
    left
    simp only [next?, process, there]
    exact ⟨rfl, trivial⟩
  | some worker =>
    have idle : worker.phase = .idle := by
      rw [workers] at there
      match index with
      | 0 => cases there; rfl
      | 1 => cases there; rfl
      | 2 => cases there; rfl
      | 3 => cases there; rfl
      | index + 4 => cases there
    obtain ⟨handler, topics, id, phase⟩ := worker
    obtain rfl : phase = .idle := idle
    have place : (Pipeline.crew batch)[index]? = some ⟨handler, topics, id, .idle⟩ := by
      rw [← workers, there]
    obtain ⟨rfl, inside, _⟩ := brings_handled place crew.state now default
    rcases wired.recv inside with empty | ⟨event, bus, received, still, taken⟩
    · left
      refine ⟨?_, process_of_empty there empty⟩
      simp only [next?, there, Option.bind_some, empty]
    · right
      obtain ⟨_, _, result, store, documents, brings, handled⟩ :=
        brings_handled place { crew.state with bus } now event
      refine ⟨event, bus, store, documents, ?_, still, taken, handled,
        process_of_event there received brings⟩
      simp only [next?, there, Option.bind_some, received]

/-- A request whose events are not dropped has an effect on the store, and its events are on their
way to their audience. -/
theorem Wired.request {backend : Backend} (wired : Wired backend.bus) (request : Request)
    (now : Timestamp)
    (undropped : (backend.run now request.job).state.bus.dropped = backend.bus.dropped) :
    ∃ result store events, backend.store.Effect request result store events ∧
      (backend.run now request.job).state.store = store ∧
      (backend.run now request.job).state.index = backend.index ∧
      Wired (backend.run now request.job).state.bus ∧
      Delivered events backend.bus.inTransit
        (backend.run now request.job).state.bus.inTransit := by
  obtain ⟨result, store, events, _, state, effect⟩ := request.run_job now backend
  rw [state] at undropped ⊢
  have before : Wired (Backend.bus { backend with store }) := wired
  obtain ⟨stays, delivered⟩ := before.delivered effect.length_events_le undropped
  exact ⟨result, store, events, effect, Backend.store_publishAll _ _, Backend.index_publishAll _ _,
    stays, delivered⟩

end Pipeline

end ListKeeper
