import ListKeeper.Proofs.Request.Served

namespace ListKeeper

namespace Store

theorem perform_putItem_of_apart {store : Store} {origin destination : ListId} {target : ItemList}
    {moved : Item} (apart : origin ≠ destination)
    (there : store.lists.get? destination = some target) (home : moved.list = destination)
    (now later : Timestamp) (item : ItemId) :
    ((store.perform now (.deleteItem origin item)).2.perform later (.putItem moved)).1 = .ok () := by
  have found : (store.perform now (.deleteItem origin item)).2.lists.get? moved.list =
      some target := by
    rw [get?_deleteItem, home, if_neg (Ne.symm apart), there]
  rw [perform, found]

theorem perform_deleteItem_of_found {store : Store} {origin : ListId} {source : ItemList}
    {item : ItemId} {stored : Item} (there : store.lists.get? origin = some source)
    (here : source.item? item = some stored) (now : Timestamp) :
    (store.perform now (.deleteItem origin item)).1 = .ok true := by
  simp only [perform, there, here, Option.isSome_some]

end Store

namespace Request

open Operation (noList stopped)

/-- The answer to a request, the store that it leaves and the events that it publishes. -/
structure Outcome where
  result : Result
  store : Store
  events : List Envelope

namespace Outcome

variable (store : Store)

def refused (fault : RequestFault) : Outcome :=
  ⟨.error fault, store, []⟩

/-- Trims a text, which must not be blank. -/
def trimming (field value : String) (next : String → Outcome) : Outcome :=
  if (Text.trim value).isEmpty then refused store (.badRequest (field ++ " must not be blank"))
  else next (Text.trim value)

/-- Looks for a list of the user. -/
def finding (list : ListId) (user : UserId) (next : ItemList → Outcome) : Outcome :=
  match store.findList list user with
  | some found => next found
  | none => refused store (noList list)

variable {store} in
theorem trimming_induction {motive : Outcome → Prop} {field value : String}
    {next : String → Outcome} (fault : ∀ fault, motive (refused store fault))
    (later : ∀ text, motive (next text)) : motive (trimming store field value next) := by
  unfold trimming
  split
  · exact fault _
  · exact later _

variable {store} in
theorem finding_induction {motive : Outcome → Prop} {list : ListId} {user : UserId}
    {next : ItemList → Outcome} (fault : ∀ fault, motive (refused store fault))
    (later : ∀ found, store.findList list user = some found → motive (next found)) :
    motive (finding store list user next) := by
  unfold finding
  cases owned : store.findList list user with
  | none => exact fault _
  | some found => exact later found owned

variable (clock : Nat → Timestamp)

def createList (user : UserId) (name : String) : Outcome :=
  trimming store "name" name fun name =>
    ⟨.ok (.list (store.createList (clock 0) user name).1),
      (store.perform (clock 0) (.createList user name)).2,
      [⟨.listCreated, .list (store.createList (clock 0) user name).1.id⟩]⟩

def getList (list : ListId) (user : UserId) : Outcome :=
  finding store list user fun found => ⟨.ok (.list found), store, []⟩

def renameList (list : ListId) (user : UserId) (name : String) : Outcome :=
  trimming store "name" name fun name => finding store list user fun found =>
    ⟨.ok (.list { found with name, updatedAt := clock 1 }),
      (store.perform (clock 1) (.renameList list name)).2, [⟨.listUpdated, .list list⟩]⟩

def deleteList (list : ListId) (user : UserId) : Outcome :=
  finding store list user fun _ =>
    ⟨.ok .done, (store.perform (clock 0) (.deleteList list user)).2,
      [⟨.listDeleted, .list list⟩]⟩

def addItem (list : ListId) (user : UserId) (title description : String) : Outcome :=
  trimming store "title" title fun title => finding store list user fun found =>
    ⟨.ok (.item (Item.new (clock 1) ⟨store.nextItem⟩ list title (Text.trim description)
        found.nextPosition)),
      (store.perform (clock 1)
        (.insertItem list title (Text.trim description) found.nextPosition)).2,
      [⟨.listUpdated, .list list⟩]⟩

def deleteItem (list : ListId) (item : ItemId) (user : UserId) : Outcome :=
  finding store list user fun found =>
    if (found.item? item).isSome then
      ⟨.ok .done, (store.perform (clock 1) (.deleteItem list item)).2,
        [⟨.listUpdated, .list list⟩]⟩
    else refused store (.notFound ("item " ++ item.text ++ " in list " ++ list.text))

def moveItem (origin : ListId) (item : ItemId) (destination : ListId) (user : UserId) : Outcome :=
  if origin = destination then
    refused store (.badRequest ("item " ++ item.text ++ " is already in list " ++ origin.text))
  else
    match store.findList destination user with
    | none =>
      refused store (.badRequest ("destination list " ++ destination.text ++ " does not exist"))
    | some target =>
      match store.findList origin user with
      | none => refused store (.badRequest ("origin list " ++ origin.text ++ " does not exist"))
      | some source =>
        match source.item? item with
        | none =>
          refused store
            (.badRequest ("item " ++ item.text ++ " does not exist in list " ++ origin.text))
        | some stored =>
          let moved := { stored with list := destination, position := target.nextPosition }
          ⟨.ok (.item moved),
            ((store.perform (clock 2) (.deleteItem origin item)).2.perform (clock 3)
              (.putItem moved)).2,
            [⟨.listUpdated, .list origin⟩, ⟨.listUpdated, .list destination⟩]⟩

end Outcome

open Outcome (refused)

def outcome (backend : Backend) (clock : Nat → Timestamp) : Request → Outcome
  | .createList user name => .createList backend.store clock user name
  | .getList list user => .getList backend.store list user
  | .renameList list user name => .renameList backend.store clock list user name
  | .deleteList list user => .deleteList backend.store clock list user
  | .addItem list user title description =>
    .addItem backend.store clock list user title description
  | .deleteItem list item user => .deleteItem backend.store clock list item user
  | .moveItem origin item destination user =>
    .moveItem backend.store clock origin item destination user
  | .reindex =>
    ⟨.ok (.reached (backend.publish ⟨.indexAllListsRequested, .empty⟩).1), backend.store,
      [⟨.indexAllListsRequested, .empty⟩]⟩

/-- What can be stored after a request that failed on a store: what was stored before, or, when the
fourth call fails, what is stored when a move has taken an item out of its list and put it back. -/
inductive Undone (store : Store) (clock : Nat → Timestamp) (failure : Nat → Option StorageFault) :
    Request → Store → Prop where
  | untouched (request : Request) : Undone store clock failure request store
  | putBack (origin : ListId) (item : ItemId) (destination : ListId) (user : UserId)
      (source target : ItemList) (stored : Item) (apart : origin ≠ destination)
      (owned : store.findList origin user = some source)
      (other : store.findList destination user = some target)
      (here : source.item? item = some stored) (fails : (failure 3).isSome) :
    Undone store clock failure (.moveItem origin item destination user)
      ((store.perform (clock 2) (.deleteItem origin item)).2.perform (clock 4) (.putItem stored)).2

/-- A list has been renamed, and then the call that finds it again fails. -/
inductive Rereads (store : Store) (failure : Nat → Option StorageFault) : Request → Prop where
  | intro (list : ListId) (user : UserId) (name : String) (text : (Text.trim name).isEmpty = false)
      (owned : (store.findList list user).isSome) (fails : (failure 2).isSome) :
    Rereads store failure (.renameList list user name)

theorem Rereads.fails {store : Store} {failure : Nat → Option StorageFault} {request : Request}
    (rereads : Rereads store failure request) : (failure 2).isSome := by
  cases rereads
  assumption

/-- A course has come to the outcome of its request, or a call on the store has failed, the
request has failed too, nothing is published and the store is as `undone` says. -/
inductive Resolved (failure : Nat → Option StorageFault)
    (progress : Program.Progress Call.interface (Backend × Nat) Result) (backend : Backend)
    (undone : Store → Prop) (outcome : Outcome) : Prop where
  | failed (call : Nat) (fails : (failure call).isSome) (fault : RequestFault)
      (rest : progress.rest = .done (.error fault)) (store : undone progress.state.1.store)
      (published : Call.published progress.calls = [])
  | complete (ends : Ends progress backend outcome.result outcome.store outcome.events)

/-- A course resolves when it is run in this way. -/
def Resolves (failure : Nat → Option StorageFault) (clock : Nat → Timestamp) (served : Nat)
    (job : Job Result) (backend : Backend) (request : Request) (outcome : Outcome) : Prop :=
  Resolved failure (job.advance (Backend.script clock failure) (backend, served)) backend
    (Undone backend.store clock failure request) outcome

section

variable {failure : Nat → Option StorageFault} {clock : Nat → Timestamp} {served : Nat}
  {backend : Backend} {request : Request} {outcome : Outcome}

theorem resolves_failing (fault : RequestFault) :
    Resolves failure clock served (failing fault) backend request (refused backend.store fault) :=
  .complete ends_done

theorem resolves_call {call : StoreCall} {answer : call.Answer} {next : call.Answer → Job Result}
    {meanwhile : Job Result} (answers : failure served = none)
    (given : backend.store.perform (clock served) call = (answer, backend.store))
    (later : Resolves failure clock (served + 1) (next answer) backend request outcome) :
    Resolves failure clock served (.call (.store call) next meanwhile) backend request outcome := by
  cases later with
  | failed call' fails fault rest store published =>
    unfold Resolves
    rw [Backend.advance_answers answers, given]
    exact .failed call' fails fault rest store published
  | complete ends => exact .complete (ends_call answers given ends)

theorem resolves_fails {call : StoreCall} {cause : StorageFault} {fault : RequestFault}
    {next : call.Answer → Job Result} {meanwhile : Job Result}
    (fails : failure served = some cause) (stops : next (.error cause) = failing fault) :
    Resolves failure clock served (.call (.store call) next meanwhile) backend request outcome := by
  unfold Resolves
  rw [Backend.advance_fails fails, stops]
  exact .failed served (by rw [fails]; rfl) fault rfl (.untouched request) rfl

/-- A call that reads, and whose failure ends the request. -/
theorem resolves_reading {call : StoreCall} {value : call.Result}
    {fault : StorageFault → RequestFault} {next : call.Result → Job Result}
    (given : backend.store.perform (clock served) call = (.ok value, backend.store))
    (later : Resolves failure clock (served + 1) (next value) backend request outcome) :
    Resolves failure clock served (storing call fault next) backend request outcome := by
  cases answers : failure served with
  | none => exact resolves_call answers given later
  | some cause => exact resolves_fails answers rfl

/-- A call that writes, and whose failure ends the request. -/
theorem resolves_writing {call : StoreCall} {value : call.Result} {changed : Store}
    {fault : StorageFault → RequestFault} {next : call.Result → Job Result}
    (given : backend.store.perform (clock served) call = (.ok value, changed))
    (later : failure served = none →
      Ends ((next value).advance (Backend.script clock failure)
        ({ backend with store := changed }, served + 1)) { backend with store := changed }
        outcome.result outcome.store outcome.events) :
    Resolves failure clock served (storing call fault next) backend request outcome := by
  cases answers : failure served with
  | none => exact .complete (ends_storing answers given (later answers))
  | some cause => exact resolves_fails answers rfl

theorem resolves_trimming {field value : String} {next : String → Job Result}
    {goal : String → Outcome}
    (later : (Text.trim value).isEmpty = false →
      Resolves failure clock served (next (Text.trim value)) backend request
        (goal (Text.trim value))) :
    Resolves failure clock served (trimming field value next) backend request
      (.trimming backend.store field value goal) := by
  unfold trimming Outcome.trimming
  split
  next => exact resolves_failing _
  next text => exact later (by simpa using text)

theorem resolves_finding {list : ListId} {user : UserId} {next : ItemList → Job Result}
    {goal : ItemList → Outcome}
    (later : ∀ found, backend.store.findList list user = some found →
      Resolves failure clock (served + 1) (next found) backend request (goal found)) :
    Resolves failure clock served (finding list user next) backend request
      (.finding backend.store list user goal) := by
  unfold Outcome.finding
  cases owned : backend.store.findList list user with
  | none =>
    have answer : backend.store.perform (clock served) (.findList list user) =
        (.ok none, backend.store) := by rw [← owned]; rfl
    exact resolves_reading answer (resolves_failing _)
  | some found =>
    have answer : backend.store.perform (clock served) (.findList list user) =
        (.ok (some found), backend.store) := by rw [← owned]; rfl
    exact resolves_reading answer (later found owned)

theorem resolves_findingBoth {first second : ListId} {user : UserId}
    {fault : StorageFault → RequestFault} {next : Option ItemList → Option ItemList → Job Result}
    (later : Resolves failure clock (served + 2)
      (next (backend.store.findList first user) (backend.store.findList second user)) backend
      request outcome) :
    Resolves failure clock served (findingBoth first second user fault next) backend request
      outcome := by
  have answer : backend.store.perform (clock served) (.findList first user) =
      (.ok (backend.store.findList first user), backend.store) := rfl
  cases answers : failure served with
  | none => exact resolves_call answers answer (resolves_reading rfl later)
  | some cause => exact resolves_fails answers rfl

theorem resolves_createList (user : UserId) (name : String) :
    Resolves failure clock 0 (createList user name).job backend (.createList user name)
      (.createList backend.store clock user name) := by
  rw [job_createList]
  exact resolves_trimming fun _ => resolves_writing rfl fun _ => ends_telling ends_done

theorem resolves_getList (list : ListId) (user : UserId) :
    Resolves failure clock 0 (getList list user).job backend (.getList list user)
      (.getList backend.store list user) := by
  rw [job_getList]
  exact resolves_finding fun found _ => .complete ends_done

/-- A list of the user that is renamed is still one of the user's. -/
theorem findList_renameList {store : Store} {list : ListId} {user : UserId} {found : ItemList}
    (owned : store.findList list user = some found) (now : Timestamp) (name : String) :
    (store.perform now (.renameList list name)).1 = .ok () ∧
      (store.perform now (.renameList list name)).2.findList list user =
        some { found with name, updatedAt := now } := by
  obtain ⟨stored, owner⟩ := Store.findList_eq_some.mp owned
  constructor
  · simp only [Store.perform, stored]
  · refine Store.findList_eq_some.mpr ⟨?_, owner⟩
    rw [Store.get?_renameList, if_pos rfl, stored]
    rfl

theorem resolves_renameList (list : ListId) (user : UserId) (name : String)
    (spared : ¬Rereads backend.store failure (.renameList list user name)) :
    Resolves failure clock 0 (renameList list user name).job backend (.renameList list user name)
      (.renameList backend.store clock list user name) := by
  rw [job_renameList]
  refine resolves_trimming fun text => resolves_finding fun found owned => ?_
  have answers : failure 2 = none := by
    refine Option.not_isSome_iff_eq_none.mp fun fails => spared ?_
    exact .intro list user name text (by rw [owned]; rfl) fails
  obtain ⟨answer, again⟩ := findList_renameList owned (clock 1) (Text.trim name)
  exact resolves_writing (Prod.ext answer rfl) fun _ =>
    ends_telling (ends_finding answers again ends_done)

/-- A rename whose list cannot be found again fails, after all that it writes has been stored and
its event published. -/
theorem Rereads.ends {list : ListId} {user : UserId} {name : String} {cause : StorageFault}
    (rereads : Rereads backend.store failure (.renameList list user name))
    (first : failure 0 = none) (second : failure 1 = none) (fails : failure 2 = some cause) :
    Ends ((renameList list user name).job.advance (Backend.script clock failure) (backend, 0))
      backend (.error (stopped ("loading list " ++ list.text) cause))
      (Outcome.renameList backend.store clock list user name).store
      [⟨.listUpdated, .list list⟩] := by
  obtain ⟨_, _, _, text, owned, _⟩ := rereads
  obtain ⟨found, owned⟩ := Option.isSome_iff_exists.mp owned
  obtain ⟨answer, _⟩ := findList_renameList owned (clock 1) (Text.trim name)
  rw [job_renameList]
  simp only [trimming, Outcome.renameList, Outcome.trimming, Outcome.finding, text, owned,
    Bool.false_eq_true, if_false]
  refine ends_finding first owned (ends_storing second (Prod.ext answer rfl) (ends_telling ?_))
  rw [finding, storing, calling, Backend.advance_fails fails]
  exact ⟨rfl, rfl, rfl⟩

theorem resolves_deleteList (list : ListId) (user : UserId) :
    Resolves failure clock 0 (deleteList list user).job backend (.deleteList list user)
      (.deleteList backend.store clock list user) := by
  rw [job_deleteList]
  unfold Outcome.deleteList Outcome.finding
  cases owned : backend.store.findList list user with
  | none =>
    have answer : backend.store.perform (clock 0) (.deleteList list user) =
        (.ok false, backend.store) := by simp only [Store.perform, owned]
    exact resolves_reading answer (resolves_failing _)
  | some found =>
    have answer : (backend.store.perform (clock 0) (.deleteList list user)).1 = .ok true := by
      simp only [Store.perform, owned]
    exact resolves_writing (Prod.ext answer rfl) fun _ => ends_telling ends_done

theorem resolves_addItem (list : ListId) (user : UserId) (title description : String) :
    Resolves failure clock 0 (addItem list user title description).job backend
      (.addItem list user title description)
      (.addItem backend.store clock list user title description) := by
  rw [job_addItem]
  refine resolves_trimming fun _ => resolves_finding fun found owned => ?_
  have stored := (Store.findList_eq_some.mp owned).1
  have answer : (backend.store.perform (clock 1) (.insertItem list (Text.trim title)
      (Text.trim description) found.nextPosition)).1 =
        .ok (Item.new (clock 1) ⟨backend.store.nextItem⟩ list (Text.trim title)
          (Text.trim description) found.nextPosition) := by
    simp only [Store.perform, stored, Store.insertItem]
  exact resolves_writing (Prod.ext answer rfl) fun _ => ends_telling ends_done

theorem resolves_deleteItem (list : ListId) (item : ItemId) (user : UserId) :
    Resolves failure clock 0 (deleteItem list item user).job backend (.deleteItem list item user)
      (.deleteItem backend.store clock list item user) := by
  rw [job_deleteItem]
  refine resolves_finding fun found owned => ?_
  have stored := (Store.findList_eq_some.mp owned).1
  cases here : (found.item? item).isSome with
  | false =>
    rw [if_neg Bool.false_ne_true]
    have answer : backend.store.perform (clock 1) (.deleteItem list item) =
        (.ok false, backend.store) :=
      Store.perform_deleteItem_of_absent _ _ _ stored here
    exact resolves_reading answer (resolves_failing _)
  | true =>
    rw [if_pos rfl]
    have answer : (backend.store.perform (clock 1) (.deleteItem list item)).1 = .ok true := by
      simp only [Store.perform, stored, here]
    exact resolves_writing (Prod.ext answer rfl) fun _ => ends_telling ends_done

/-- An item that cannot be stored in its new list is put back, whatever the answer to that. -/
theorem restoring_advance (clock : Nat → Timestamp) (backend : Backend) (item : Item)
    (fault : RequestFault) (answers : failure served = none) :
    ((restoring item fault).advance (Backend.script clock failure) (backend, served)).rest =
        .done (.error fault) ∧
      ((restoring item fault).advance (Backend.script clock failure)
        (backend, served)).state.1.store =
        (backend.store.perform (clock served) (.putItem item)).2 ∧
      Call.published ((restoring item fault).advance (Backend.script clock failure)
        (backend, served)).calls = [] := by
  rw [restoring, calling, Backend.advance_answers answers]
  rcases (backend.store.perform (clock served) (.putItem item)).1 with cause | _
  · simp only [calling]
    rw [Backend.advance_tells]
    exact ⟨rfl, rfl, rfl⟩
  · simp only [calling]
    rw [Backend.advance_tells]
    exact ⟨rfl, rfl, rfl⟩

theorem resolves_moveItem (origin : ListId) (item : ItemId) (destination : ListId) (user : UserId)
    (once : ∀ first second, (failure first).isSome → (failure second).isSome → first = second) :
    Resolves failure clock 0 (moveItem origin item destination user).job backend
      (.moveItem origin item destination user)
      (.moveItem backend.store clock origin item destination user) := by
  rw [job_moveItem]
  unfold Outcome.moveItem
  by_cases apart : origin = destination
  · simp only [if_pos apart]
    exact resolves_failing _
  simp only [if_neg apart]
  refine resolves_findingBoth ?_
  unfold taking
  cases other : backend.store.findList destination user with
  | none => exact resolves_failing _
  | some target =>
  cases owned : backend.store.findList origin user with
  | none => exact resolves_failing _
  | some source =>
  cases here : source.item? item with
  | none =>
    simp only [here]
    exact resolves_failing _
  | some stored =>
    simp only [here]
    obtain ⟨first, _⟩ := Store.findList_eq_some.mp owned
    obtain ⟨second, _⟩ := Store.findList_eq_some.mp other
    let moved : Item := { stored with list := destination, position := target.nextPosition }
    have taken := Store.perform_deleteItem_of_found first here (clock 2)
    have home : moved.list = destination := rfl
    have placed := Store.perform_putItem_of_apart apart second home (clock 2) (clock 3) item
    cases removes : failure 2 with
    | some cause => exact resolves_fails removes rfl
    | none =>
    cases places : failure 3 with
    | none =>
      exact .complete (ends_storing removes (Prod.ext taken rfl)
        (ends_call places (Prod.ext placed rfl) (ends_telling (ends_telling ends_done))))
    | some cause =>
      have answers : failure 4 = none := by
        refine Option.not_isSome_iff_eq_none.mp fun fails => ?_
        have same := once 3 4 (by rw [places]; rfl) fails
        omega
      unfold Resolves
      rw [storing, calling, Backend.advance_answers removes, taken]
      simp only [↓reduceIte, placing, calling]
      rw [Backend.advance_fails places]
      obtain ⟨rest, store, published⟩ := restoring_advance clock
        { backend with store := (backend.store.perform (clock 2) (.deleteItem origin item)).2 }
        stored (stopped ("storing item " ++ item.text ++ " in list " ++ destination.text) cause)
        answers
      have fails : (failure 3).isSome := by rw [places]; rfl
      refine .failed 3 fails _ rest ?_ published
      exact store ▸ .putBack origin item destination user source target stored apart owned other
        here fails

theorem resolves_reindex :
    Resolves failure clock 0 reindex.job backend .reindex (Request.reindex.outcome backend clock) :=
  .complete ⟨rfl, rfl, rfl⟩

/-- When one call on the store fails at most, a request comes to its outcome, or it fails too and
leaves no more behind than an item that was put back. -/
theorem resolves_job (request : Request)
    (once : ∀ first second, (failure first).isSome → (failure second).isSome → first = second)
    (spared : ¬Rereads backend.store failure request) :
    Resolves failure clock 0 request.job backend request (request.outcome backend clock) := by
  cases request with
  | createList user name => exact resolves_createList user name
  | getList list user => exact resolves_getList list user
  | renameList list user name => exact resolves_renameList list user name spared
  | deleteList list user => exact resolves_deleteList list user
  | addItem list user title description => exact resolves_addItem list user title description
  | deleteItem list item user => exact resolves_deleteItem list item user
  | moveItem origin item destination user =>
    exact resolves_moveItem origin item destination user once
  | reindex => exact resolves_reindex

/-- When no call fails, a request comes to its outcome. -/
theorem ends_job (request : Request) :
    Ends (request.job.advance (Backend.serve clock none) (backend, 0)) backend
      (request.outcome backend clock).result (request.outcome backend clock).store
      (request.outcome backend clock).events := by
  have spared : ¬Rereads backend.store (fun _ => none) request := by
    rintro ⟨list, user, name, text, owned, fails⟩
    cases fails
  have resolves : Resolves (fun _ => none) clock 0 request.job backend request
      (request.outcome backend clock) :=
    resolves_job request (fun _ _ fails => by cases fails) spared
  rw [Backend.serve_eq_script]
  cases resolves with
  | failed call fails => cases fails
  | complete ends => exact ends

end

end Request

end ListKeeper
