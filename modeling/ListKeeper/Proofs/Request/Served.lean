import ListKeeper.Proofs.Request
import ListKeeper.Proofs.Store.Sound

namespace ListKeeper

def Program.Progress.after {I : Interface} {σ α : Type} (progress : Program.Progress I σ α)
    (call : I.Call) : Program.Progress I σ α :=
  { progress with calls := call :: progress.calls }

/-- The events that a job has published. -/
def Call.published (calls : List Call) : List Envelope :=
  calls.filterMap fun
    | .publish envelope => some envelope
    | _ => none

namespace Backend

/-- Publishes events, one after the other. -/
def publishAll (backend : Backend) (events : List Envelope) : Backend :=
  events.foldl (fun backend event => (backend.publish event).2) backend

/-- Surroundings that count the calls on the store, from zero, and answer each at its own instant.
The call that is cut off, if there is one, has no effect and no answer. -/
def serve (clock : Nat → Timestamp) (cut : Option Nat) :
    Program.Surroundings Call.interface (Backend × Nat) := fun call (backend, served) =>
  match call with
  | .store call =>
    if cut = some served then (.never, backend, served + 1)
    else
      let (answer, backend) := backend.perform (clock served) (.store call)
      (.answer answer, backend, served + 1)
  | call =>
    let (answer, backend) := backend.perform (clock served) call
    (.answer answer, backend, served)

/-- Surroundings like these without a cut, in which calls on the store fail as the script says. A
call that fails has no effect. -/
def script (clock : Nat → Timestamp) (failure : Nat → Option StorageFault) :
    Program.Surroundings Call.interface (Backend × Nat) := fun call (backend, served) =>
  match call with
  | .store call =>
    match failure served with
    | some fault => (.answer (.error fault), backend, served + 1)
    | none => serve clock none (.store call) (backend, served)
  | call => serve clock none call (backend, served)

theorem serve_eq_script (clock : Nat → Timestamp) : serve clock none = script clock fun _ => none := by
  funext call state
  cases call <;> rfl

section

variable {α : Type} {clock : Nat → Timestamp} {cut : Option Nat} {served : Nat} {backend : Backend}

theorem advance_store {call : StoreCall} {next : call.Answer → Job α} {meanwhile : Job α}
    (answered : cut ≠ some served) :
    Program.advance (serve clock cut) (.call (.store call) next meanwhile) (backend, served) =
      ((next (backend.store.perform (clock served) call).1).advance (serve clock cut)
        ({ backend with store := (backend.store.perform (clock served) call).2 },
          served + 1)).after (.store call) := by
  have here : serve clock cut (.store call) (backend, served) =
      (.answer (backend.store.perform (clock served) call).1,
        { backend with store := (backend.store.perform (clock served) call).2 }, served + 1) := by
    simp only [serve, if_neg answered]
    rfl
  simp only [Program.advance, here, Program.Progress.after]

theorem advance_cut {call : StoreCall} {next : call.Answer → Job α} {meanwhile : Job α} :
    Program.advance (serve clock (some served)) (.call (.store call) next meanwhile)
        (backend, served) =
      (meanwhile.advance (serve clock (some served)) (backend, served + 1)).after
        (.store call) := by
  have here : serve clock (some served) (.store call) (backend, served) =
      (.never, backend, served + 1) := by
    simp only [serve, if_pos]
  simp only [Program.advance, here, Program.Progress.after]

theorem advance_publish {event : Envelope} {next : Nat → Job α} {meanwhile : Job α} :
    Program.advance (serve clock cut) (.call (.publish event) next meanwhile) (backend, served) =
      ((next (backend.publish event).1).advance (serve clock cut)
        ((backend.publish event).2, served)).after (.publish event) := by
  have here : serve clock cut (.publish event) (backend, served) =
      (.answer (backend.publish event).1, (backend.publish event).2, served) := rfl
  simp only [Program.advance, here, Program.Progress.after]

variable {failure : Nat → Option StorageFault}

theorem advance_fails {call : StoreCall} {fault : StorageFault} {next : call.Answer → Job α}
    {meanwhile : Job α} (fails : failure served = some fault) :
    Program.advance (script clock failure) (.call (.store call) next meanwhile) (backend, served) =
      ((next (.error fault)).advance (script clock failure) (backend, served + 1)).after
        (.store call) := by
  have here : script clock failure (.store call) (backend, served) =
      (.answer (.error fault), backend, served + 1) := by
    simp only [script, fails]
  simp only [Program.advance, here, Program.Progress.after]

theorem advance_answers {call : StoreCall} {next : call.Answer → Job α} {meanwhile : Job α}
    (answers : failure served = none) :
    Program.advance (script clock failure) (.call (.store call) next meanwhile) (backend, served) =
      ((next (backend.store.perform (clock served) call).1).advance (script clock failure)
        ({ backend with store := (backend.store.perform (clock served) call).2 },
          served + 1)).after (.store call) := by
  have here : script clock failure (.store call) (backend, served) =
      (.answer (backend.store.perform (clock served) call).1,
        { backend with store := (backend.store.perform (clock served) call).2 }, served + 1) := by
    simp only [script, answers]
    rfl
  simp only [Program.advance, here, Program.Progress.after]

theorem advance_tells {notice : Notice} {next : Unit → Job α} {meanwhile : Job α} :
    Program.advance (script clock failure) (.call (.tell notice) next meanwhile) (backend, served) =
      ((next ()).advance (script clock failure)
        ({ backend with notices := backend.notices ++ [notice] }, served)).after (.tell notice) :=
  rfl

theorem advance_publishes {event : Envelope} {next : Nat → Job α} {meanwhile : Job α} :
    Program.advance (script clock failure) (.call (.publish event) next meanwhile)
        (backend, served) =
      ((next (backend.publish event).1).advance (script clock failure)
        ((backend.publish event).2, served)).after (.publish event) :=
  rfl

end

end Backend

namespace Backend

theorem store_publishAll (backend : Backend) (events : List Envelope) :
    (backend.publishAll events).store = backend.store := by
  unfold publishAll
  induction events generalizing backend with
  | nil => rfl
  | cons event rest ih => exact ih _

theorem index_publishAll (backend : Backend) (events : List Envelope) :
    (backend.publishAll events).index = backend.index := by
  unfold publishAll
  induction events generalizing backend with
  | nil => rfl
  | cons event rest ih => exact ih _

end Backend

namespace Request

open Operation (noList)

/-- A course has come to its end, and this is what it leaves. -/
structure Ends (progress : Program.Progress Call.interface (Backend × Nat) Result)
    (backend : Backend) (result : Result) (store : Store) (events : List Envelope) : Prop where
  rest : progress.rest = .done result
  published : Call.published progress.calls = events
  state : progress.state.1 = Backend.publishAll { backend with store } events

section

variable {clock : Nat → Timestamp} {failure : Nat → Option StorageFault} {backend : Backend}
  {served : Nat} {result : Result} {store : Store} {events : List Envelope}

theorem ends_done : Ends (Program.advance (Backend.script clock failure) (.done result) (backend, served))
    backend result backend.store [] :=
  ⟨rfl, rfl, rfl⟩

theorem ends_call {call : StoreCall} {answer : call.Answer} {changed : Store}
    {next : call.Answer → Job Result} {meanwhile : Job Result}
    (answers : failure served = none)
    (given : backend.store.perform (clock served) call = (answer, changed))
    (later : Ends ((next answer).advance (Backend.script clock failure)
      ({ backend with store := changed }, served + 1)) { backend with store := changed } result
      store events) :
    Ends (Program.advance (Backend.script clock failure) (.call (.store call) next meanwhile)
      (backend, served)) backend result store events := by
  rw [Backend.advance_answers answers, given]
  exact ⟨later.rest, later.published, later.state⟩

theorem ends_storing {call : StoreCall} {value : call.Result} {changed : Store}
    {fault : StorageFault → RequestFault} {next : call.Result → Job Result}
    (answers : failure served = none)
    (given : backend.store.perform (clock served) call = (.ok value, changed))
    (later : Ends ((next value).advance (Backend.script clock failure)
      ({ backend with store := changed }, served + 1)) { backend with store := changed } result
      store events) :
    Ends ((storing call fault next).advance (Backend.script clock failure) (backend, served))
      backend result store events :=
  ends_call answers given later

theorem ends_telling {topic : Topic} {list : ListId} {next : Job Result}
    (later : Ends (next.advance (Backend.script clock failure)
      ((backend.publish ⟨topic, .list list⟩).2, served)) (backend.publish ⟨topic, .list list⟩).2 result
      store events) :
    Ends ((telling topic list next).advance (Backend.script clock failure) (backend, served))
      backend result store (⟨topic, .list list⟩ :: events) := by
  rw [telling, calling, Backend.advance_publishes]
  exact ⟨later.rest, congrArg (_ :: ·) later.published, later.state⟩

theorem ends_finding {list : ListId} {user : UserId} {found : ItemList}
    {next : ItemList → Job Result} (answers : failure served = none)
    (owned : backend.store.findList list user = some found)
    (later : Ends ((next found).advance (Backend.script clock failure) (backend, served + 1)) backend
      result store events) :
    Ends ((finding list user next).advance (Backend.script clock failure) (backend, served))
      backend result store events := by
  have answer : backend.store.perform (clock served) (.findList list user) =
      (.ok (some found), backend.store) := by rw [← owned]; rfl
  exact ends_storing answers answer later

end

end Request

end ListKeeper
