import ListKeeper.Proofs.Session.Places
import ListKeeper.Proofs.Store.Ledger

namespace ListKeeper

namespace Request

variable {result : Result} {job : Job Result}

theorem Ending.step (ending : Ending result job) (now : Timestamp) (backend : Backend) :
    Ending result (job.step (Backend.treat now) backend).1 := by
  cases ending with
  | done => exact .done
  | telling topic list job later => exact later

theorem Ending.eq_of_done (ending : Ending result job) {other : Result}
    (ended : job = .done other) : result = other := by
  cases ending with
  | done => exact Program.done.inj ended
  | telling => cases ended

end Request

namespace Session

/-- Why an item may be missing that nobody has asked to delete. -/
inductive Excused (session : Session) (requests : List Request)
    (schedule : List (Nat × Timestamp)) (id : ItemId) : Prop where
  /-- The list that has the item is deleted. -/
  | listDeleted (t : Nat) (list : ListId) (held : (session.store schedule t).Holds list id)
      (gone : (session.store schedule (t + 1)).lists.get? list = none)
  /-- A move has taken the item out of its list, and while it is served both its lists are
  deleted. -/
  | bothDeleted (index : Nat) (origin destination : ListId) (user : UserId)
      (asked : requests[index]? = some (.moveItem origin id destination user))
      (taken : ∃ t item, (session.moment schedule t).carried index = some item ∧ item.id = id)
      (first : ∃ t, session.Deletes schedule index t origin)
      (second : ∃ t, session.Deletes schedule index t destination)

/-- A move gives up an item that it cannot put back: the item has stood in the origin from the
beginning without naming it, and the list that it names is not there. -/
structure GivesUp (session : Session) (schedule : List (Nat × Timestamp)) (index t : Nat)
    (origin : ListId) (item : Item) : Prop where
  initial : session.backend.store.Has origin item
  elsewhere : item.list ≠ origin
  homeless : (session.store schedule t).lists.get? item.list = none
  before : (session.moment schedule t).carried index = some item
  after : (session.moment schedule (t + 1)).carried index = none

/-- A move whose destination is deleted while it is served gives up the item. -/
def Strayed (session : Session) (requests : List Request) (schedule : List (Nat × Timestamp))
    (id : ItemId) : Prop :=
  ∃ (index : Nat) (origin destination : ListId) (user : UserId) (t : Nat) (item : Item),
    requests[index]? = some (.moveItem origin id destination user) ∧ item.id = id ∧
      session.GivesUp schedule index t origin item ∧
        ∃ t', session.Deletes schedule index t' destination

/-- A request to delete the item has succeeded, or is about to. -/
def Removed (session : Session) (requests : List Request) (schedule : List (Nat × Timestamp))
    (t : Nat) (id : ItemId) : Prop :=
  ∃ (index : Nat) (list : ListId) (user : UserId) (job : Job Request.Result),
    requests[index]? = some (.deleteItem list id user) ∧
      (session.moment schedule t).jobs[index]? = some job ∧ Request.Ending (.ok .done) job

/-- Why an item may not be stored. -/
inductive Gone (session : Session) (requests : List Request) (schedule : List (Nat × Timestamp))
    (t : Nat) (id : ItemId) : Prop where
  | removed (removed : session.Removed requests schedule t id)
  | excused (excused : session.Excused requests schedule id)
  | strayed (strayed : session.Strayed requests schedule id)

variable {session : Session} {schedule : List (Nat × Timestamp)} {requests : List Request}
  {index t : Nat} {request : Request} {job job' : Job Request.Result} {card : Card}

theorem Removed.succ {id : ItemId} (removed : session.Removed requests schedule t id) :
    session.Removed requests schedule (t + 1) id := by
  obtain ⟨index, list, user, job, asked, there, ending⟩ := removed
  rcases session.moment_succ_or schedule t with idle | ⟨within, next⟩
  · exact ⟨index, list, user, job, asked, idle ▸ there, ending⟩
  · rw [Removed, next]
    by_cases here : index = schedule[t].1
    · subst here
      exact ⟨_, list, user, _, asked, jobs_step_self there, ending.step _ _⟩
    · exact ⟨index, list, user, job, asked, (jobs_step_other here).trans there, ending⟩

theorem Gone.succ {id : ItemId} (gone : session.Gone requests schedule t id) :
    session.Gone requests schedule (t + 1) id := by
  cases gone with
  | removed removed => exact .removed removed.succ
  | excused excused => exact .excused excused
  | strayed strayed => exact .strayed strayed

/-- A call leaves a stored item in some place, or there is a reason why not. -/
theorem Turn.kept_of_has (turn : session.Turn requests schedule t index request job job')
    (serves : session.Serves requests schedule) {list : ListId} {item : Item}
    (has : (session.store schedule t).Has list item) :
    (∃ place, (session.moment schedule (t + 1)).Keeps item.card place) ∨
      session.Gone requests schedule (t + 1) item.id := by
  cases turn.deed with
  | apart same => exact .inl ⟨.store, list, item, (same _ _).mpr has, rfl⟩
  | lost _ _ _ _ _ _ _ same => exact .inl ⟨.store, list, item, (same _ _).mpr has, rfl⟩
  | inserted _ _ _ same => exact .inl ⟨.store, list, item, (same _ _).mpr (.inl has), rfl⟩
  | dropped dropped gone same =>
    by_cases here : list = dropped
    · subst here
      exact .inr (.excused (.listDeleted t list ⟨item, has, rfl⟩ gone))
    · exact .inl ⟨.store, list, item, (same _ _).mpr ⟨has, here⟩, rfl⟩
  | removed origin id user asked ending same =>
    by_cases here : item.id = id
    · subst here
      exact .inr (.removed ⟨index, origin, user, job', asked ▸ turn.asked, turn.after, ending⟩)
    · exact .inl ⟨.store, list, item, (same _ _).mpr ⟨has, here⟩, rfl⟩
  | lifted out _ same _ carries =>
    by_cases here : item.id = out.id
    · -- The request has read the item earlier; it is this one because it has its number.
      have kept : (session.moment schedule (t + 1)).Keeps out.card (.hands index) :=
        ⟨out, turn.carried_succ.trans carries, rfl⟩
      have before : session.Seen schedule (t + 1) item.card :=
        (seen_of_has has).mono (Nat.le_succ t)
      have card := (serves.orderly (t + 1)).agree _ _ before (serves.seen_of_keeps kept) here
      exact .inl ⟨.hands index, card ▸ kept⟩
    · exact .inl ⟨.store, list, item, (same _ _).mpr ⟨has, here⟩, rfl⟩
  | put new same carries =>
    by_cases here : item.id = new.id
    · have known := serves.seen_of_keeps (turn.keeps_carried carries)
      have card := (serves.orderly t).agree _ _ (seen_of_has has) known here
      exact .inl ⟨.store, new.list, new, (same _ _).mpr (.inr ⟨rfl, rfl⟩), card.symm⟩
    · exact .inl ⟨.store, list, item, (same _ _).mpr (.inl ⟨has, here⟩), rfl⟩

/-- The call of a request that carries an item stores it, or there is a reason why not. -/
theorem Turn.kept_of_carried (turn : session.Turn requests schedule t index request job job')
    {item : Item} (carried : Request.carried job = some item) :
    (∃ place, (session.moment schedule (t + 1)).Keeps item.card place) ∨
      session.Gone requests schedule (t + 1) item.id := by
  have empty {P : Prop} (free : Request.carried job = none) : P := by
    rw [carried] at free
    cases free
  cases turn.deed with
  | apart _ same =>
    rw [carried] at same
    obtain ⟨item', carries, card⟩ := Option.map_eq_some_iff.mp same
    exact .inl ⟨.hands index, item', turn.carried_succ.trans carries, card⟩
  | dropped _ _ _ free => exact empty free
  | inserted _ _ _ _ free => exact empty free
  | removed _ _ _ _ _ _ free => exact empty free
  | lifted _ _ _ free => exact empty free
  | put new same carries =>
    obtain rfl : item = new := Option.some.inj (carried.symm.trans carries)
    exact .inl ⟨.store, item.list, item, (same _ _).mpr (.inr ⟨rfl, rfl⟩), rfl⟩
  | lost lost origin destination user asked gone home _ carries free' =>
    obtain rfl : item = lost := Option.some.inj (carried.symm.trans carries)
    obtain ⟨t₂, _, second⟩ := gone
    have taken : (session.moment schedule t).carried index = some item :=
      turn.carried.trans carried
    have asked' := asked ▸ turn.asked
    rcases home with ⟨_, t₁, _, first⟩ | ⟨elsewhere, initial, homeless⟩
    · exact .inr (.excused (.bothDeleted index origin destination user asked'
        ⟨t, item, taken, rfl⟩ ⟨t₁, first⟩ ⟨t₂, second⟩))
    · exact .inr (.strayed ⟨index, origin, destination, user, t, item, asked', rfl,
        ⟨initial, elsewhere, homeless, taken, turn.carried_succ.trans free'⟩, t₂, second⟩)

theorem Turn.kept (turn : session.Turn requests schedule t index request job job')
    (serves : session.Serves requests schedule) {place : Place}
    (kept : (session.moment schedule t).Keeps card place) :
    (∃ place, (session.moment schedule (t + 1)).Keeps card place) ∨
      session.Gone requests schedule (t + 1) card.id := by
  cases place with
  | store =>
    obtain ⟨list, item, has, rfl⟩ := kept
    exact turn.kept_of_has serves has
  | hands other =>
    obtain ⟨item, inHands, rfl⟩ := kept
    by_cases here : other = index
    · subst here
      exact turn.kept_of_carried (turn.carried.symm.trans inHands)
    · exact .inl ⟨.hands other, item, (turn.carried_other here).trans inHands, rfl⟩

theorem Serves.kept (serves : session.Serves requests schedule) {later : Nat} (order : t ≤ later)
    {place : Place} (kept : (session.moment schedule t).Keeps card place) :
    (∃ place, (session.moment schedule later).Keeps card place) ∨
      session.Gone requests schedule later card.id := by
  induction later, order using Nat.le_induction with
  | base => exact .inl ⟨place, kept⟩
  | succ later _ ih =>
    rcases ih with ⟨place', kept'⟩ | gone
    · rcases serves.turn later with idle | ⟨index, request, job, job', turn⟩
      · exact .inl ⟨place', idle ▸ kept'⟩
      · exact turn.kept serves kept'
    · exact .inr gone.succ

/-- An item that is stored when a session begins, or is added in it, is stored once when all
requests have come to their end, with the same title, description and instant of creation, unless a
request to delete it has succeeded, the session excuses it, or it has not named its list from the
beginning and a move has given it up. -/
theorem kept_once (serves : session.Serves requests schedule)
    (finished : ∀ job ∈ (session.run schedule).jobs, ∃ result, job = .done result) {item : Item}
    (stored : (∃ list, session.backend.store.Has list item) ∨
      ∃ (index : Nat) (list : ListId) (user : UserId) (title description : String),
        requests[index]? = some (.addItem list user title description) ∧
          (session.run schedule).jobs[index]? = some (.done (.ok (.item item))))
    (wanted : ∀ (index : Nat) (list : ListId) (user : UserId),
      requests[index]? = some (.deleteItem list item.id user) →
        (session.run schedule).jobs[index]? ≠ some (.done (.ok .done))) :
    (session.run schedule).backend.store.HoldsOnce item.card ∨
      session.Excused requests schedule item.id ∨ session.Strayed requests schedule item.id := by
  have last : session.moment schedule schedule.length = session.run schedule := moment_length
  have seen : session.Seen schedule schedule.length item.card := by
    rcases stored with ⟨list, has⟩ | ⟨index, list, user, title, description, asked, ended⟩
    · exact ⟨0, Nat.zero_le _, list, item, has, rfl⟩
    · obtain ⟨job, there, standing⟩ := serves.stands asked schedule.length
      rw [last, ended] at there
      exact standing.truthful (Option.some.inj there).symm
  obtain ⟨t, within, list, item', has, card⟩ := seen
  have kept : (session.moment schedule t).Keeps item.card .store := ⟨list, item', has, card⟩
  have formed := serves.formed_store schedule.length
  rcases serves.kept within kept with ⟨place, kept⟩ | gone
  · rw [last] at kept
    cases place with
    | store =>
      obtain ⟨list, item', has, card⟩ := kept
      rw [store, last] at formed
      exact .inl (card ▸ formed.unique.holdsOnce has)
    | hands index =>
      obtain ⟨item', inHands, _⟩ := kept
      obtain ⟨job, there, carries⟩ := Option.bind_eq_some_iff.mp inHands
      obtain ⟨result, rfl⟩ := finished job (List.mem_of_getElem? there)
      cases carries
  · cases gone with
    | excused excused => exact .inr (.inl excused)
    | strayed strayed => exact .inr (.inr strayed)
    | removed removed =>
      obtain ⟨index, list, user, job, asked, there, ending⟩ := removed
      rw [last] at there
      obtain ⟨result, ended⟩ := finished job (List.mem_of_getElem? there)
      have success := ending.eq_of_done ended
      rw [ended, ← success] at there
      exact absurd there (wanted index list user asked)

/-- While the item of the first list is moved to the second, that is deleted. -/
def crossingRequests : List Request :=
  [.moveItem ⟨1⟩ ⟨1⟩ ⟨2⟩ ⟨1⟩, .deleteList ⟨2⟩ ⟨1⟩]

/-- The list is deleted when the item is out of its own list and not yet in the other. -/
def crossingSchedule : List (Nat × Timestamp) :=
  [0, 0, 0, 1, 0, 0, 0, 1].map (·, default)

def crossing (store : Store) : Session :=
  ⟨⟨store, .empty, .new 1, []⟩, crossingRequests.map Request.job⟩

theorem opened_crossing (store : Store) :
    List.Forall₂ Request.Course crossingRequests (crossing store).jobs :=
  .cons (.job _) (.cons (.job _) .nil)

theorem not_deleteItem_crossing (index : Nat) (list : ListId) (item : ItemId) (user : UserId) :
    crossingRequests[index]? ≠ some (.deleteItem list item user) := by
  intro asked
  have member := List.mem_of_getElem? asked
  rw [crossingRequests] at member
  rcases List.mem_pair.mp member with move | delete
  · cases move
  · cases delete

theorem finished_of_jobs {session : Session} {fault : RequestFault} {result : Request.Result}
    (jobs : session.jobs = [.done (.error fault), .done result]) :
    ∀ job ∈ session.jobs, ∃ result, job = .done result := by
  intro job member
  rw [jobs] at member
  rcases List.mem_pair.mp member with rfl | rfl
  · exact ⟨_, rfl⟩
  · exact ⟨_, rfl⟩

theorem kept_once_crossing :
    ((crossing Store.twoLists).run crossingSchedule).backend.store.HoldsOnce
        ⟨⟨1⟩, "milk", "", default⟩ ∨
      (crossing Store.twoLists).Excused crossingRequests crossingSchedule ⟨1⟩ ∨
        (crossing Store.twoLists).Strayed crossingRequests crossingSchedule ⟨1⟩ := by
  have serves : (crossing Store.twoLists).Serves crossingRequests crossingSchedule :=
    ⟨opened_crossing _, Store.sound_twoLists.formed, by decide +kernel⟩
  have ended : ∃ fault, ((crossing Store.twoLists).run crossingSchedule).jobs =
      [.done (.error fault), .done (.ok .done)] := ⟨_, rfl⟩
  have here : (crossing Store.twoLists).backend.store.Has ⟨1⟩
      ⟨⟨1⟩, ⟨1⟩, "milk", "", 0, default, default⟩ := ⟨_, rfl, List.mem_singleton_self _⟩
  obtain ⟨fault, jobs⟩ := ended
  exact kept_once serves (finished_of_jobs jobs) (.inl ⟨⟨1⟩, here⟩) fun index list user asked =>
    absurd asked (not_deleteItem_crossing index list ⟨1⟩ user)

/-- Two lists of one user that have been stored as they are. The item of the first names a list that
is not there. -/
def lostHome : List Store.Deed :=
  [.seed ⟨⟨1⟩, ⟨1⟩, "groceries", 1, [⟨⟨1⟩, ⟨3⟩, "milk", "", 0, default, default⟩], default, default⟩,
    .seed ⟨⟨2⟩, ⟨1⟩, "errands", 0, [], default, default⟩]

theorem serves_lostHome :
    (crossing (Store.empty.fill lostHome)).Serves crossingRequests crossingSchedule :=
  ⟨opened_crossing _, Store.wellFormed_fill lostHome (by decide +kernel)
    (Store.unique_of_nodup_numbers (by decide)), by decide +kernel⟩

/-- The first list is there at every moment, and no other list ever has an item. -/
theorem lostHome_stays (t : Nat) :
    ((crossing (Store.empty.fill lostHome)).store crossingSchedule t).lists.get? ⟨1⟩ ≠ none ∧
      ∀ list found,
        ((crossing (Store.empty.fill lostHome)).store crossingSchedule t).lists.get? list =
          some found → list = ⟨1⟩ ∨ found.items = [] := by
  have early : ∀ t < 9,
      ((crossing (Store.empty.fill lostHome)).store crossingSchedule t).lists.get? ⟨1⟩ ≠ none ∧
        ∀ entry ∈ ((crossing (Store.empty.fill lostHome)).store crossingSchedule t).lists.entries,
          entry.1 = ⟨1⟩ ∨ entry.2.items = [] := by decide +kernel
  have length : crossingSchedule.length = 8 := rfl
  obtain ⟨t', within, same⟩ : ∃ t' < 9, crossingSchedule.take t = crossingSchedule.take t' := by
    by_cases within : t < 9
    · exact ⟨t, within, rfl⟩
    · refine ⟨8, by decide, ?_⟩
      rw [List.take_of_length_le (by omega), List.take_of_length_le (by omega)]
  rw [store, moment, same]
  obtain ⟨there, others⟩ := early t' within
  exact ⟨there, fun list found stored => others (list, found) (Table.get?_eq_some.mp stored)⟩

/-- The item is lost although its list is not deleted: the move cannot put it back into a list that
is not there. -/
theorem not_kept_once :
    ¬∀ (session : Session) (requests : List Request) (schedule : List (Nat × Timestamp))
      (item : Item), session.Serves requests schedule →
      (∀ job ∈ (session.run schedule).jobs, ∃ result, job = .done result) →
      (∃ list, session.backend.store.Has list item) →
      (∀ (index : Nat) (list : ListId) (user : UserId),
        requests[index]? ≠ some (.deleteItem list item.id user)) →
      (session.run schedule).backend.store.HoldsOnce item.card ∨
        session.Excused requests schedule item.id := by
  intro always
  have ended : ∃ fault, ((crossing (Store.empty.fill lostHome)).run crossingSchedule).jobs =
      [.done (.error fault), .done (.ok .done)] := ⟨_, rfl⟩
  have here : (crossing (Store.empty.fill lostHome)).backend.store.Has ⟨1⟩
      ⟨⟨1⟩, ⟨3⟩, "milk", "", 0, default, default⟩ := ⟨_, rfl, List.mem_singleton_self _⟩
  obtain ⟨fault, jobs⟩ := ended
  rcases always _ _ _ _ serves_lostHome (finished_of_jobs jobs) ⟨⟨1⟩, here⟩
    fun index list user => not_deleteItem_crossing index list ⟨1⟩ user with held | excused
  · obtain ⟨list, found, item, there, single, _⟩ := held
    have empty : ∀ entry ∈ ((crossing (Store.empty.fill lostHome)).run
        crossingSchedule).backend.store.lists.entries, entry.2.items = [] := by decide +kernel
    rw [empty (list, found) (Table.get?_eq_some.mp there)] at single
    cases single
  · cases excused with
    | listDeleted t list held gone =>
      obtain ⟨item, ⟨found, there, member⟩, _⟩ := held
      rcases (lostHome_stays t).2 list found there with rfl | empty
      · exact (lostHome_stays (t + 1)).1 gone
      · rw [empty] at member
        cases member
    | bothDeleted index origin destination user asked _ first =>
      obtain ⟨t, deletes⟩ := first
      have member := List.mem_of_getElem? asked
      rw [crossingRequests] at member
      rcases List.mem_pair.mp member with move | delete
      · cases move
        exact (lostHome_stays (t + 1)).1 deletes.gone
      · cases delete

end Session

end ListKeeper
