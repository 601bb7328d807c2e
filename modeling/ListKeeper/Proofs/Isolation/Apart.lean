import ListKeeper.Proofs.Isolation.Reached

namespace ListKeeper

namespace Request

/-- Two outcomes that a user cannot tell apart. -/
structure Outcome.Alike (read : Timestamp → Timestamp) (user : UserId) (outcome outcome' : Outcome) :
    Prop where
  result : outcome.result.retimed read = outcome'.result.retimed read
  events : outcome.events = outcome'.events
  store : outcome.store.Alike read user outcome'.store

section

variable {read : Timestamp → Timestamp} {user : UserId} {store store' : Store}
  {clock clock' : Nat → Timestamp}

theorem alike_refused (alike : store.Alike read user store') (fault : RequestFault) :
    (Outcome.refused store fault).Alike read user (.refused store' fault) :=
  ⟨rfl, rfl, alike⟩

theorem alike_trimming (alike : store.Alike read user store') {field value : String}
    {next next' : String → Outcome} (later : ∀ text, (next text).Alike read user (next' text)) :
    (Outcome.trimming store field value next).Alike read user
      (.trimming store' field value next') := by
  unfold Outcome.trimming
  split
  · exact alike_refused alike _
  · exact later _

theorem alike_finding (alike : store.Alike read user store') {list : ListId}
    {next next' : ItemList → Outcome}
    (later : ∀ found found', store.findList list user = some found →
      store'.findList list user = some found' → found.retimed read = found'.retimed read →
        (next found).Alike read user (next' found')) :
    (Outcome.finding store list user next).Alike read user (.finding store' list user next') := by
  unfold Outcome.finding
  rcases Store.findList_cases (alike.seen list) with ⟨none, none'⟩ | ⟨found, found', owned, owned', shown⟩
  · rw [none, none']
    exact alike_refused alike _
  · rw [owned, owned']
    exact later found found' owned owned' shown

theorem alike_createList (alike : store.Alike read user store')
    (clocks : ∀ call, read (clock call) = read (clock' call)) (name : String) :
    (Outcome.createList store clock user name).Alike read user
      (.createList store' clock' user name) := by
  refine alike_trimming alike fun text => ?_
  have made : (ItemList.new (clock 0) ⟨store.nextList⟩ user text).retimed read =
      (ItemList.new (clock' 0) ⟨store'.nextList⟩ user text).retimed read := by
    simp only [ItemList.new, ItemList.retimed, List.map_nil, clocks, alike.nextList]
  refine ⟨congrArg (Except.ok ∘ Answer.list) made, ?_, ?_, ?_, alike.nextItem⟩
  · simp only [Store.createList, ItemList.new, alike.nextList]
  · intro k
    rw [Store.seen_createList, Store.seen_createList, made, alike.nextList, alike.seen]
  · exact congrArg (· + 1) alike.nextList

theorem alike_getList (alike : store.Alike read user store') (list : ListId) :
    (Outcome.getList store list user).Alike read user (.getList store' list user) :=
  alike_finding alike fun _ _ _ _ shown => ⟨congrArg (Except.ok ∘ Answer.list) shown, rfl, alike⟩

theorem alike_renameList (alike : store.Alike read user store')
    (clocks : ∀ call, read (clock call) = read (clock' call)) (list : ListId) (name : String) :
    (Outcome.renameList store clock list user name).Alike read user
      (.renameList store' clock' list user name) := by
  refine alike_trimming alike fun text => alike_finding alike fun found found' _ _ shown => ?_
  let renamed (now : Timestamp) (found : ItemList) : ItemList :=
    { found with name := text, updatedAt := now }
  have shows (now : Timestamp) (found : ItemList) :
      (renamed now found).retimed read = renamed (read now) (found.retimed read) := rfl
  have same : (renamed (clock 1) found).retimed read = (renamed (clock' 1) found').retimed read := by
    rw [shows, shows, clocks, shown]
  have seen := Store.seen_change alike.seen (store.get?_renameList (clock 1) list · text)
    (store'.get?_renameList (clock' 1) list · text) (fun _ => rfl) (fun _ => rfl)
    fun found found' shown => by rw [shows, shows, clocks, shown]
  have left := alike.perform seen (by simp) (by simp) (by simp)
  exact ⟨congrArg (Except.ok ∘ Answer.list) same, rfl, left⟩

theorem alike_deleteList (alike : store.Alike read user store') (list : ListId) :
    (Outcome.deleteList store clock list user).Alike read user
      (.deleteList store' clock' list user) := by
  refine alike_finding alike fun _ _ _ _ _ => ⟨rfl, rfl, ?_⟩
  refine alike.perform (fun k => ?_) (by simp) (by simp) (by simp)
  rw [Store.seen_deleteList, Store.seen_deleteList, alike.seen]

theorem alike_addItem (alike : store.Alike read user store')
    (clocks : ∀ call, read (clock call) = read (clock' call)) (list : ListId)
    (title description : String) :
    (Outcome.addItem store clock list user title description).Alike read user
      (.addItem store' clock' list user title description) := by
  refine alike_trimming alike fun text => alike_finding alike fun found found' owned owned' shown => ?_
  have position : found.nextPosition = found'.nextPosition := by
    rw [← found.nextPosition_retimed read, shown, found'.nextPosition_retimed]
  have made : (Item.new (clock 1) ⟨store.nextItem⟩ list text (Text.trim description)
      found.nextPosition).retimed read = (Item.new (clock' 1) ⟨store'.nextItem⟩ list text
        (Text.trim description) found'.nextPosition).retimed read := by
    simp only [Item.new, Item.retimed, clocks, position, alike.nextItem]
  have shows (now : Timestamp) (item : Item) (list : ItemList) :
      ({ list with items := list.items ++ [item], updatedAt := now } : ItemList).retimed read =
        { list.retimed read with
          items := (list.retimed read).items ++ [item.retimed read], updatedAt := read now } := by
    simp only [ItemList.retimed, List.map_append, List.map_singleton]
  have seen := Store.seen_change alike.seen
    (store.get?_insertItem (clock 1) list · text (Text.trim description) found.nextPosition)
    (store'.get?_insertItem (clock' 1) list · text (Text.trim description) found'.nextPosition)
    (fun _ => rfl) (fun _ => rfl) fun found found' shown => by rw [shows, shows, clocks, made, shown]
  have next {store : Store} {found : ItemList} (owned : store.findList list user = some found)
      (now : Timestamp) (position : Int32) : (store.perform now (.insertItem list text
        (Text.trim description) position)).2.nextItem = store.nextItem + 1 := by
    simp only [Store.perform, (Store.findList_eq_some.mp owned).1, Store.insertItem]
  refine ⟨congrArg (Except.ok ∘ Answer.item) made, rfl, seen, ?_, ?_⟩
  · rw [Store.nextList_perform (by simp), Store.nextList_perform (by simp), alike.nextList]
  · rw [next owned, next owned', alike.nextItem]

theorem alike_deleteItem (alike : store.Alike read user store')
    (clocks : ∀ call, read (clock call) = read (clock' call)) (list : ListId) (item : ItemId) :
    (Outcome.deleteItem store clock list item user).Alike read user
      (.deleteItem store' clock' list item user) := by
  refine alike_finding alike fun found found' _ _ shown => ?_
  have stands : (found.item? item).isSome = (found'.item? item).isSome := by
    have same := congrArg (fun list => (list.item? item).isSome) shown
    rwa [ItemList.item?_retimed, ItemList.item?_retimed, Option.isSome_map, Option.isSome_map] at same
  rw [stands]
  split
  · have seen := Store.seen_change alike.seen (store.get?_deleteItem (clock 1) list · item)
      (store'.get?_deleteItem (clock' 1) list · item) (fun found => found.without_owner _ item)
      (fun found => found.without_owner _ item)
      fun found found' shown => by
        rw [ItemList.without_retimed, ItemList.without_retimed, shown, clocks]
    exact ⟨rfl, rfl, alike.perform seen (by simp) (by simp) (by simp)⟩
  · exact alike_refused alike _

theorem alike_moveItem (alike : store.Alike read user store')
    (clocks : ∀ call, read (clock call) = read (clock' call)) (unique : store.Unique)
    (unique' : store'.Unique) (origin : ListId) (item : ItemId) (destination : ListId) :
    (Outcome.moveItem store clock origin item destination user).Alike read user
      (.moveItem store' clock' origin item destination user) := by
  unfold Outcome.moveItem
  by_cases apart : origin = destination
  · rw [if_pos apart, if_pos apart]
    exact alike_refused alike _
  rw [if_neg apart, if_neg apart]
  rcases Store.findList_cases (alike.seen destination) with
    ⟨none, none'⟩ | ⟨target, target', other, other', shown⟩
  · rw [none, none']
    exact alike_refused alike _
  rcases Store.findList_cases (alike.seen origin) with
    ⟨none, none'⟩ | ⟨source, source', owned, owned', shown'⟩
  · rw [other, other', none, none']
    exact alike_refused alike _
  rw [other, other', owned, owned']
  rcases ItemList.item?_cases shown' item with ⟨none, none'⟩ | ⟨stored, stored', here, here', same⟩
  · simp only [none, none']
    exact alike_refused alike _
  simp only [here, here']
  let moved : Item := { stored with list := destination, position := target.nextPosition }
  let moved' : Item := { stored' with list := destination, position := target'.nextPosition }
  have position : target.nextPosition = target'.nextPosition := by
    rw [← target.nextPosition_retimed read, shown, target'.nextPosition_retimed]
  have looks : moved.retimed read = moved'.retimed read := by
    have placed := congrArg
      (fun item : Item => { item with list := destination, position := target.nextPosition }) same
    refine Eq.trans placed ?_
    rw [position]
    rfl
  have number : moved.id = moved'.id :=
    show (moved.retimed read).id = (moved'.retimed read).id by rw [looks]
  obtain ⟨lists, nextList, nextItem⟩ :=
    unique.moving apart owned other here target.nextPosition (clock 2) (clock 3)
  obtain ⟨lists', nextList', nextItem'⟩ :=
    unique'.moving apart owned' other' here' target'.nextPosition (clock' 2) (clock' 3)
  refine ⟨congrArg (Except.ok ∘ Answer.item) looks, rfl, ?_, ?_, ?_⟩
  · exact Store.seen_map alike.seen lists lists' (Store.owner_moving origin _ _ moved)
      (Store.owner_moving origin _ _ moved') (Store.agree_moving (clocks 2) (clocks 3) looks)
  · exact nextList.trans (alike.nextList.trans nextList'.symm)
  · refine nextItem.trans (Eq.trans ?_ nextItem'.symm)
    rw [alike.nextItem]
    exact congrArg (fun id : ItemId => max store'.nextItem (saturatingNext id.number)) number

/-- A request of the user comes to the same in both stores, as far as the user can tell. -/
theorem alike_outcome {backend backend' : Backend}
    (alike : backend.store.Alike read user backend'.store)
    (bus : backend.bus = backend'.bus) (clocks : ∀ call, read (clock call) = read (clock' call))
    (unique : backend.store.Unique) (unique' : backend'.store.Unique) {request : Request}
    (own : request.IsBy user) :
    (request.outcome backend clock).Alike read user (request.outcome backend' clock') := by
  cases request with
  | createList maker name =>
    obtain rfl : maker = user := own
    exact alike_createList alike clocks name
  | getList list maker =>
    obtain rfl : maker = user := own
    exact alike_getList alike list
  | renameList list maker name =>
    obtain rfl : maker = user := own
    exact alike_renameList alike clocks list name
  | deleteList list maker =>
    obtain rfl : maker = user := own
    exact alike_deleteList alike list
  | addItem list maker title description =>
    obtain rfl : maker = user := own
    exact alike_addItem alike clocks list title description
  | deleteItem list item maker =>
    obtain rfl : maker = user := own
    exact alike_deleteItem alike clocks list item
  | moveItem origin item destination maker =>
    obtain rfl : maker = user := own
    exact alike_moveItem alike clocks unique unique' origin item destination
  | reindex =>
    refine ⟨?_, rfl, alike⟩
    simp only [outcome, Backend.publish, bus]

end

end Request

namespace Backend

/-- What is left of each request and the events that it publishes, when requests are run one after
the other, each to its end, and the backend that they leave. -/
def serveAll (backend : Backend) :
    List (Request × (Nat → Timestamp)) → List (Job Request.Result × List Envelope) × Backend
  | [] => ([], backend)
  | (request, clock) :: rest =>
    let progress := request.job.advance (serve clock none) (backend, 0)
    let (later, backend) := progress.state.1.serveAll rest
    ((progress.rest, Call.published progress.calls) :: later, backend)

theorem serveAll_cons (backend : Backend) (request : Request) (clock : Nat → Timestamp)
    (rest : List (Request × (Nat → Timestamp))) :
    backend.serveAll ((request, clock) :: rest) =
      let progress := request.job.advance (serve clock none) (backend, 0)
      ((progress.rest, Call.published progress.calls) :: (progress.state.1.serveAll rest).1,
        (progress.state.1.serveAll rest).2) := rfl

theorem bus_publishAll {backend backend' : Backend} (same : backend.bus = backend'.bus)
    (events : List Envelope) : (backend.publishAll events).bus = (backend'.publishAll events).bus := by
  unfold publishAll
  induction events generalizing backend backend' with
  | nil => exact same
  | cons event rest ih =>
    refine ih ?_
    simp only [publish, same]

end Backend

/-- The same request, each of its calls at an instant that is read in the same way. -/
def AskedAlike (read : Timestamp → Timestamp) (asked asked' : Request × (Nat → Timestamp)) : Prop :=
  asked.1 = asked'.1 ∧ ∀ call, read (asked.2 call) = read (asked'.2 call)

/-- Two requests that have both come to their end, with results that look the same and the same
events. -/
def RepliedAlike (read : Timestamp → Timestamp)
    (reply reply' : Job Request.Result × List Envelope) : Prop :=
  ∃ result result', reply.1 = .done result ∧ reply'.1 = .done result' ∧
    result.retimed read = result'.retimed read ∧ reply.2 = reply'.2

/-- Two backends that a user cannot tell apart, with stores that calls have filled. -/
structure Backend.Alike (read : Timestamp → Timestamp) (user : UserId) (backend backend' : Backend) :
    Prop where
  reached : backend.store.Reached
  reached' : backend'.store.Reached
  store : backend.store.Alike read user backend'.store
  bus : backend.bus = backend'.bus

section

variable {read : Timestamp → Timestamp} {user : UserId} {backend backend' : Backend}

/-- One request in both backends. -/
theorem Backend.Alike.serve (alike : backend.Alike read user backend') {request : Request}
    (own : request.IsBy user) {clock clock' : Nat → Timestamp}
    (clocks : ∀ call, read (clock call) = read (clock' call)) :
    let progress := request.job.advance (Backend.serve clock none) (backend, 0)
    let progress' := request.job.advance (Backend.serve clock' none) (backend', 0)
    let after := progress.state.1
    let after' := progress'.state.1
    RepliedAlike read (progress.rest, Call.published progress.calls)
        (progress'.rest, Call.published progress'.calls) ∧
      after.store.Alike read user after'.store ∧
      Store.Untouched user backend.store after.store ∧
      Store.Untouched user backend'.store after'.store ∧
      (Store.Unwrapped backend.store after.store → after.Alike read user after') := by
  intro progress progress' after after'
  have ends : Request.Ends progress backend _ _ _ := Request.ends_job request
  have ends' : Request.Ends progress' backend' _ _ _ := Request.ends_job request
  have effect := Request.fits_outcome request clock backend
  have effect' := Request.fits_outcome request clock' backend'
  have same := Request.alike_outcome alike.store alike.bus clocks alike.reached.sound.unique
    alike.reached'.sound.unique own
  have left : after.store = (request.outcome backend clock).store := by
    rw [show after = _ from ends.state, Backend.store_publishAll]
  have left' : after'.store = (request.outcome backend' clock').store := by
    rw [show after' = _ from ends'.state, Backend.store_publishAll]
  have store : after.store.Alike read user after'.store := by
    rw [left, left']
    exact same.store
  refine ⟨⟨_, _, ends.rest, ends'.rest, same.result, ?_⟩, store, ?_, ?_, fun unwrapped => ?_⟩
  · exact ends.published.trans (same.events.trans ends'.published.symm)
  · rw [left]
    exact effect.untouched alike.reached own
  · rw [left']
    exact effect'.untouched alike.reached' own
  · have unwrapped' : Store.Unwrapped backend'.store after'.store := by
      rw [Store.Unwrapped, ← store.nextList, ← store.nextItem, ← alike.store.nextList,
        ← alike.store.nextItem]
      exact unwrapped
    refine ⟨?_, ?_, store, ?_⟩
    · rw [left] at unwrapped ⊢
      exact effect.reached alike.reached unwrapped
    · rw [left'] at unwrapped' ⊢
      exact effect'.reached alike.reached' unwrapped'
    · rw [show after = _ from ends.state, show after' = _ from ends'.state, same.events]
      refine Backend.bus_publishAll ?_ _
      exact alike.bus

/-- A user makes requests, one after the other, in two backends whose stores have the same lists of
the user and give out the same numbers next; what other lists there are can differ. Then each
request gets the same answer in both and publishes the same events, the stores go on to have the
same lists of the user and to give out the same numbers, and in each of them every list of another
user stays as it is, in all its fields. Clock readings are left out of the comparison as far as
`read` does not tell them apart. No number may wrap around before the last request. -/
theorem isolated_serveAll (alike : backend.Alike read user backend')
    {served served' : List (Request × (Nat → Timestamp))}
    (asked : List.Forall₂ (AskedAlike read) served served')
    (own : ∀ request ∈ served.map Prod.fst, request.IsBy user)
    (unwrapped : ∀ k, k + 1 < served.length →
      Store.Unwrapped (backend.serveAll (served.take k)).2.store
        (backend.serveAll (served.take (k + 1))).2.store) :
    List.Forall₂ (RepliedAlike read) (backend.serveAll served).1 (backend'.serveAll served').1 ∧
      (backend.serveAll served).2.store.Alike read user (backend'.serveAll served').2.store ∧
      Store.Untouched user backend.store (backend.serveAll served).2.store ∧
      Store.Untouched user backend'.store (backend'.serveAll served').2.store := by
  induction asked generalizing backend backend' with
  | nil => exact ⟨.nil, alike.store, fun _ _ _ => rfl, fun _ _ _ => rfl⟩
  | @cons head head' rest rest' same others ih =>
    obtain ⟨request, clock⟩ := head
    obtain ⟨request', clock'⟩ := head'
    obtain ⟨rfl, clocks⟩ := same
    obtain ⟨replied, store, kept, kept', next⟩ :=
      alike.serve (own request (List.mem_cons_self ..)) clocks
    rw [Backend.serveAll_cons, Backend.serveAll_cons]
    cases others with
    | nil => exact ⟨.cons replied .nil, store, kept, kept'⟩
    | @cons second second' rest rest' same' others' =>
      have first := unwrapped 0 (by rw [List.length_cons, List.length_cons]; omega)
      obtain ⟨replies, store', kept₂, kept₂'⟩ := ih (next first)
        (fun request member => own request (List.mem_cons_of_mem _ member))
        fun k within => unwrapped (k + 1) (Nat.succ_lt_succ within)
      exact ⟨.cons replied replies, store', kept.trans kept₂, kept'.trans kept₂'⟩

end

/-- A list of one user with milk, and one of another user with a secret. -/
def Store.neighbours : Store :=
  let first := (Store.empty.perform default (.createList ⟨1⟩ "groceries")).2
  let second := (first.perform default (.createList ⟨2⟩ "diary")).2
  let third := (second.perform default (.insertItem ⟨1⟩ "milk" "" 0)).2
  (third.perform default (.insertItem ⟨2⟩ "secret" "" 0)).2

theorem Store.reached_neighbours : Store.neighbours.Reached :=
  Reached.empty.call default (.createList ⟨1⟩ "groceries") ⟨by decide, by decide⟩
    |>.call default (.createList ⟨2⟩ "diary") ⟨by decide, by decide⟩
    |>.call default (.insertItem ⟨1⟩ "milk" "" 0) ⟨by decide, by decide⟩
    |>.call default (.insertItem ⟨2⟩ "secret" "" 0) ⟨by decide, by decide⟩

/-- Whether the other user has deleted the list makes no difference to a user who guesses its number
and that of the item in it. -/
theorem isolated_serveAll_neighbours :
    let backend : Backend := ⟨.neighbours, .empty, .new 1, []⟩
    let backend' := { backend with
      store := (Store.neighbours.perform default (.deleteList ⟨2⟩ ⟨2⟩)).2 }
    let read (instant : Timestamp) : Timestamp := if 100 ≤ instant.seconds then default else instant
    let requests : List Request := [.moveItem ⟨1⟩ ⟨2⟩ ⟨2⟩ ⟨1⟩, .getList ⟨2⟩ ⟨1⟩,
      .deleteItem ⟨1⟩ ⟨2⟩ ⟨1⟩, .createList ⟨1⟩ "errands", .addItem ⟨3⟩ ⟨1⟩ "bread" "",
      .moveItem ⟨3⟩ ⟨3⟩ ⟨1⟩ ⟨1⟩]
    let served := requests.map fun request => (request, fun call : Nat => (⟨100 + call, 0⟩ : Timestamp))
    let served' := requests.map fun request => (request, fun _ : Nat => (⟨200, 0⟩ : Timestamp))
    backend.Alike read ⟨1⟩ backend' ∧
      List.Forall₂ (AskedAlike read) served served' ∧
      (∀ request ∈ served.map Prod.fst, request.IsBy ⟨1⟩) ∧
      (∀ k, k + 1 < served.length → Store.Unwrapped (backend.serveAll (served.take k)).2.store
        (backend.serveAll (served.take (k + 1))).2.store) ∧
      List.Forall₂ (RepliedAlike read) (backend.serveAll served).1 (backend'.serveAll served').1 := by
  intro backend backend' read requests served served'
  have gone : Store.Unwrapped .neighbours backend'.store := ⟨by decide, by decide⟩
  have untouched : Store.Untouched ⟨2⟩ .neighbours backend'.store := by
    have effect : Store.neighbours.Effect (.deleteList ⟨2⟩ ⟨2⟩) _ _ _ :=
      .deleted ⟨2⟩ ⟨2⟩ default (by decide)
    exact effect.untouched Store.reached_neighbours rfl
  have alike : backend.Alike read ⟨1⟩ backend' := by
    refine ⟨Store.reached_neighbours, Store.reached_neighbours.call default _ gone, ⟨?_, rfl, rfl⟩, rfl⟩
    intro id
    exact congrArg (Option.map _) (untouched ⟨1⟩ (by decide) id).symm
  have asked : List.Forall₂ (AskedAlike read) served served' := by
    refine List.forall₂_map_left_iff.mpr (List.forall₂_map_right_iff.mpr ?_)
    refine List.forall₂_same.mpr fun request _ => ⟨rfl, fun call => ?_⟩
    have late : (100 : Int) ≤ 100 + call := by omega
    exact (if_pos late).trans (if_pos (by decide : (100 : Int) ≤ 200)).symm
  have own : ∀ request ∈ served.map Prod.fst, request.IsBy ⟨1⟩ := by decide
  have unwrapped : ∀ k, k + 1 < served.length →
      Store.Unwrapped (backend.serveAll (served.take k)).2.store
        (backend.serveAll (served.take (k + 1))).2.store := by
    intro k within
    have few : k < 5 := Nat.lt_of_succ_lt_succ within
    interval_cases k <;> decide
  exact ⟨alike, asked, own, unwrapped, (isolated_serveAll alike asked own unwrapped).1⟩

end ListKeeper
