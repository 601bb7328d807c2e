import ListKeeper.Proofs.Request.Effect
import ListKeeper.Proofs.Store.Items

namespace ListKeeper.Request

/-- This is stored, and no event has been published. -/
structure Quiet (progress : Program.Progress Call.interface (Backend × Nat) Result)
    (store : Store) : Prop where
  store : progress.state.1.store = store
  published : Call.published progress.calls = []

/-- The same has been stored and the same events published. -/
structure Alike (progress whole : Program.Progress Call.interface (Backend × Nat) Result) :
    Prop where
  store : progress.state.1.store = whole.state.1.store
  published : Call.published progress.calls = Call.published whole.calls

section

variable (exempt : Nat → Prop) (clock : Nat → Timestamp) (served : Nat) (job : Job Result)
  (backend : Backend)

/-- A cut at any call that is not exempt makes no difference to the store and the events. -/
def Firm : Prop :=
  ∀ cut, ¬exempt cut →
    Alike (job.advance (Backend.serve clock (some cut)) (backend, served))
      (job.advance (Backend.serve clock none) (backend, served))

/-- A cut at any call that is not exempt leaves all undone, or makes no difference. -/
def AllOrNothing : Prop :=
  ∀ cut, ¬exempt cut →
    Quiet (job.advance (Backend.serve clock (some cut)) (backend, served)) backend.store ∨
      Alike (job.advance (Backend.serve clock (some cut)) (backend, served))
        (job.advance (Backend.serve clock none) (backend, served))

end

variable {exempt : Nat → Prop} {clock : Nat → Timestamp} {served : Nat} {backend : Backend}

theorem Alike.storing {progress whole : Program.Progress Call.interface (Backend × Nat) Result}
    (alike : Alike progress whole) (call : StoreCall) :
    Alike (progress.after (.store call)) (whole.after (.store call)) :=
  ⟨alike.store, alike.published⟩

theorem Quiet.storing {progress : Program.Progress Call.interface (Backend × Nat) Result}
    {store : Store} (quiet : Quiet progress store) (call : StoreCall) :
    Quiet (progress.after (.store call)) store :=
  ⟨quiet.store, quiet.published⟩

theorem quiet_stalled (cut : Option Nat) :
    Quiet (Program.advance (Backend.serve clock cut) .stalled (backend, served))
      backend.store :=
  ⟨rfl, rfl⟩

theorem firm_done (result : Result) : Firm exempt clock served (.done result) backend :=
  fun _ _ => ⟨rfl, rfl⟩

theorem firm_telling {topic : Topic} {list : ListId} {next : Job Result}
    (later : Firm exempt clock served next (backend.publish ⟨topic, .list list⟩).2) :
    Firm exempt clock served (telling topic list next) backend := by
  intro cut covered
  obtain ⟨store, published⟩ := later cut covered
  rw [telling, calling, Backend.advance_publish, Backend.advance_publish]
  exact ⟨store, congrArg (_ :: ·) published⟩

theorem firm_finding_last {list : ListId} {user : UserId} (result : ItemList → Result) :
    Firm exempt clock served (finding list user fun found => .done (result found)) backend := by
  intro cut covered
  rw [finding, storing, calling, Backend.advance_store (Option.some_ne_none served).symm]
  simp only [Store.perform]
  by_cases here : cut = served
  · subst here
    rw [Backend.advance_cut]
    cases backend.store.findList list user <;> exact ⟨rfl, rfl⟩
  · rw [Backend.advance_store (by simpa using here)]
    simp only [Store.perform]
    cases backend.store.findList list user <;> exact ⟨rfl, rfl⟩

theorem firm_exempt {call : StoreCall} {next : call.Answer → Job Result} {meanwhile : Job Result}
    (here : exempt served)
    (later : Firm exempt clock (served + 1)
      (next (backend.store.perform (clock served) call).1)
      { backend with store := (backend.store.perform (clock served) call).2 }) :
    Firm exempt clock served (.call (.store call) next meanwhile) backend := by
  intro cut covered
  have different : cut ≠ served := fun same => covered (same ▸ here)
  rw [Backend.advance_store (by simpa using different),
    Backend.advance_store (Option.some_ne_none served).symm]
  exact (later cut covered).storing call

theorem allOrNothing_write {call : StoreCall} {next : call.Answer → Job Result}
    (later : Firm exempt clock (served + 1)
      (next (backend.store.perform (clock served) call).1)
      { backend with store := (backend.store.perform (clock served) call).2 }) :
    AllOrNothing exempt clock served (calling (.store call) next) backend := by
  intro cut covered
  by_cases here : cut = served
  · subst here
    left
    rw [calling, Backend.advance_cut]
    exact (quiet_stalled _).storing call
  · right
    rw [calling, Backend.advance_store (by simpa using here),
      Backend.advance_store (Option.some_ne_none served).symm]
    exact (later cut covered).storing call

theorem allOrNothing_read {call : StoreCall} {next : call.Answer → Job Result}
    {meanwhile : Job Result}
    (reads : (backend.store.perform (clock served) call).2 = backend.store)
    (aside : Quiet (meanwhile.advance (Backend.serve clock (some served))
      (backend, served + 1)) backend.store)
    (later : AllOrNothing exempt clock (served + 1)
      (next (backend.store.perform (clock served) call).1) backend) :
    AllOrNothing exempt clock served (.call (.store call) next meanwhile) backend := by
  intro cut covered
  by_cases here : cut = served
  · subst here
    left
    rw [Backend.advance_cut]
    exact aside.storing call
  · rw [Backend.advance_store (by simpa using here),
      Backend.advance_store (Option.some_ne_none served).symm, reads]
    exact (later cut covered).imp (·.storing call) (·.storing call)

theorem allOrNothing_done (result : Result) :
    AllOrNothing exempt clock served (.done result) backend :=
  fun _ _ => Or.inl ⟨rfl, rfl⟩

theorem allOrNothing_trimming {field value : String} {next : String → Job Result}
    (later : ∀ text, AllOrNothing exempt clock served (next text) backend) :
    AllOrNothing exempt clock served (trimming field value next) backend := by
  unfold trimming
  split
  · exact allOrNothing_done _
  · exact later _

theorem allOrNothing_finding {list : ListId} {user : UserId} {next : ItemList → Job Result}
    (later : ∀ found, AllOrNothing exempt clock (served + 1) (next found) backend) :
    AllOrNothing exempt clock served (finding list user next) backend := by
  refine allOrNothing_read rfl (quiet_stalled _) ?_
  simp only [Store.perform]
  cases backend.store.findList list user with
  | none => exact allOrNothing_done _
  | some found => exact later found

theorem allOrNothing_findingBoth {first second : ListId} {user : UserId}
    {fault : StorageFault → RequestFault} {next : Option ItemList → Option ItemList → Job Result}
    (later : AllOrNothing exempt clock (served + 2)
      (next (backend.store.findList first user) (backend.store.findList second user)) backend) :
    AllOrNothing exempt clock served (findingBoth first second user fault next) backend := by
  refine allOrNothing_read rfl ?_ ?_
  · have later : some served ≠ some (served + 1) := by simp
    rw [storing, calling, Backend.advance_store later]
    exact (quiet_stalled _).storing _
  · exact allOrNothing_read rfl (quiet_stalled _) later

theorem allOrNothing_createList (user : UserId) (name : String) :
    AllOrNothing exempt clock served (createList user name).job backend := by
  rw [job_createList]
  exact allOrNothing_trimming fun text => allOrNothing_write (firm_telling (firm_done _))

theorem allOrNothing_getList (list : ListId) (user : UserId) :
    AllOrNothing exempt clock served (getList list user).job backend := by
  rw [job_getList]
  exact allOrNothing_finding fun found => allOrNothing_done _

theorem allOrNothing_renameList (list : ListId) (user : UserId) (name : String) :
    AllOrNothing exempt clock served (renameList list user name).job backend := by
  rw [job_renameList]
  refine allOrNothing_trimming fun text => allOrNothing_finding fun found => ?_
  refine allOrNothing_write ?_
  rcases (backend.store.perform (clock (served + 1)) (.renameList list text)).1 with cause | _
  · exact firm_done _
  · exact firm_telling (firm_finding_last _)

theorem allOrNothing_deleteList (list : ListId) (user : UserId) :
    AllOrNothing exempt clock served (deleteList list user).job backend := by
  rw [job_deleteList]
  refine allOrNothing_write ?_
  rcases (backend.store.perform (clock served) (.deleteList list user)).1 with cause | (_ | _)
  · exact firm_done _
  · exact firm_done _
  · exact firm_telling (firm_done _)

theorem allOrNothing_addItem (list : ListId) (user : UserId) (title description : String) :
    AllOrNothing exempt clock served (addItem list user title description).job backend := by
  rw [job_addItem]
  refine allOrNothing_trimming fun text => allOrNothing_finding fun found => ?_
  refine allOrNothing_write ?_
  rcases (backend.store.perform (clock (served + 1))
    (.insertItem list text (Text.trim description) found.nextPosition)).1 with cause | item
  · exact firm_done _
  · exact firm_telling (firm_done _)

theorem allOrNothing_deleteItem (list : ListId) (item : ItemId) (user : UserId) :
    AllOrNothing exempt clock served (deleteItem list item user).job backend := by
  rw [job_deleteItem]
  refine allOrNothing_finding fun found => allOrNothing_write ?_
  rcases (backend.store.perform (clock (served + 1)) (.deleteItem list item)).1 with
    cause | (_ | _)
  · exact firm_done _
  · exact firm_done _
  · exact firm_telling (firm_done _)

/-- The cuts that lose an item: the fourth call of a move, which stores the item in its new list
after it has been taken out of the old one. -/
inductive Loses (store : Store) : Request → Nat → Prop where
  | intro (origin : ListId) (item : ItemId) (destination : ListId) (user : UserId)
      (source target : ItemList) (stored : Item) (apart : origin ≠ destination)
      (owned : store.findList origin user = some source)
      (other : store.findList destination user = some target)
      (here : source.item? item = some stored) :
    Loses store (.moveItem origin item destination user) 3

theorem allOrNothing_moveItem (origin : ListId) (item : ItemId) (destination : ListId)
    (user : UserId) :
    AllOrNothing (Loses backend.store (.moveItem origin item destination user)) clock 0
      (moveItem origin item destination user).job backend := by
  rw [job_moveItem]
  by_cases apart : origin = destination
  · rw [if_pos apart]
    exact allOrNothing_done _
  rw [if_neg apart]
  refine allOrNothing_findingBoth ?_
  unfold taking
  cases other : backend.store.findList destination user with
  | none => exact allOrNothing_done _
  | some target =>
  cases owned : backend.store.findList origin user with
  | none => exact allOrNothing_done _
  | some source =>
  cases here : source.item? item with
  | none =>
    simp only [here]
    exact allOrNothing_done _
  | some stored =>
    simp only [here]
    obtain ⟨first, _⟩ := Store.findList_eq_some.mp owned
    obtain ⟨second, _⟩ := Store.findList_eq_some.mp other
    refine allOrNothing_write ?_
    rw [Store.perform_deleteItem_of_found first here]
    refine firm_exempt (.intro origin item destination user source target stored apart owned other here) ?_
    rw [Store.perform_putItem_of_apart apart second rfl]
    exact firm_telling (firm_telling (firm_done _))

/-- A request that is cut off, but not at a call that loses an item, leaves all undone or makes
no difference. -/
theorem allOrNothing_job (request : Request) :
    AllOrNothing (Loses backend.store request) clock 0 request.job backend := by
  cases request with
  | createList user name => exact allOrNothing_createList user name
  | getList list user => exact allOrNothing_getList list user
  | renameList list user name => exact allOrNothing_renameList list user name
  | deleteList list user => exact allOrNothing_deleteList list user
  | addItem list user title description => exact allOrNothing_addItem list user title description
  | deleteItem list item user => exact allOrNothing_deleteItem list item user
  | moveItem origin item destination user => exact allOrNothing_moveItem origin item destination user
  | reindex => exact fun _ _ => Or.inr ⟨rfl, rfl⟩

theorem quiet_call {cut : Nat} {call : StoreCall} {answer : call.Answer} {changed store : Store}
    {next : call.Answer → Job Result} {meanwhile : Job Result} (answered : cut ≠ served)
    (given : backend.store.perform (clock served) call = (answer, changed))
    (later : Quiet ((next answer).advance (Backend.serve clock (some cut))
      ({ backend with store := changed }, served + 1)) store) :
    Quiet (Program.advance (Backend.serve clock (some cut)) (.call (.store call) next meanwhile)
      (backend, served)) store := by
  rw [Backend.advance_store (by simpa using answered), given]
  exact later.storing call

/-- When a cut loses an item, it has been taken out of its list and no event published. -/
theorem quiet_moveItem (clock : Nat → Timestamp) {origin : ListId} {item : ItemId}
    {destination : ListId} {user : UserId}
    {cut : Nat} (loses : Loses backend.store (.moveItem origin item destination user) cut) :
    Quiet ((moveItem origin item destination user).job.advance
      (Backend.serve clock (some cut)) (backend, 0))
      (backend.store.perform (clock 2) (.deleteItem origin item)).2 := by
  obtain ⟨_, _, _, _, source, target, stored, apart, owned, other, here⟩ := loses
  have first := (Store.findList_eq_some.mp owned).1
  have taken := Store.perform_deleteItem_of_found first here (clock 2)
  have answerFirst : backend.store.perform (clock 0) (.findList origin user) =
      (.ok (some source), backend.store) := by rw [← owned]; rfl
  have answerSecond : backend.store.perform (clock 1) (.findList destination user) =
      (.ok (some target), backend.store) := by rw [← other]; rfl
  rw [job_moveItem, if_neg apart]
  refine quiet_call (by decide) answerFirst (quiet_call (by decide) answerSecond ?_)
  simp only [taking, here]
  refine quiet_call (by decide) (Prod.ext taken rfl) ?_
  simp only [↓reduceIte, placing, calling]
  rw [Backend.advance_cut]
  exact (quiet_stalled _).storing _

theorem Loses.quiet {request : Request} {cut : Nat} (loses : Loses backend.store request cut)
    (clock : Nat → Timestamp) :
    ∃ origin item destination user, request = .moveItem origin item destination user ∧
      Quiet (request.job.advance (Backend.serve clock (some cut)) (backend, 0))
        (backend.store.perform (clock 2) (.deleteItem origin item)).2 := by
  have again := loses
  obtain ⟨origin, item, destination, user, _⟩ := loses
  exact ⟨origin, item, destination, user, rfl, quiet_moveItem clock again⟩

theorem holds_iff_of_unique {store : Store} (unique : store.Unique) {origin list : ListId}
    {item : ItemId} (held : store.Holds origin item) : store.Holds list item ↔ list = origin := by
  constructor
  · rintro ⟨x, has, same⟩
    obtain ⟨other, there, number⟩ := held
    exact unique.list_eq has there (same.trans number.symm)
  · rintro rfl
    exact held

theorem holds_putItem {store : Store} (unique : store.Unique) {item : Item}
    (home : (store.lists.get? item.list).isSome) (now : Timestamp) (list : ListId) :
    (store.perform now (.putItem item)).2.Holds list item.id ↔ list = item.list := by
  constructor
  · rintro ⟨x, has, same⟩
    rcases (Store.has_putItem unique home).mp has with ⟨_, different⟩ | ⟨here, _⟩
    · exact absurd same different
    · exact here
  · rintro rfl
    exact ⟨item, (Store.has_putItem unique home).mpr (Or.inr ⟨rfl, rfl⟩), rfl⟩

theorem holds_of_effect {store after : Store} {origin : ListId} {item : ItemId}
    {destination : ListId} {user : UserId} {result : Result} {events : List Envelope}
    (unique : store.Unique) (held : store.Holds origin item)
    (effect : store.Effect (.moveItem origin item destination user) result after events) :
    ∃ home, (home = origin ∨ home = destination) ∧ ∀ list, after.Holds list item ↔ list = home := by
  cases effect with
  | refused _ fault => exact ⟨origin, Or.inl rfl, fun list => holds_iff_of_unique unique held⟩
  | moved _ _ _ _ now later source target stored apart owned other here =>
    refine ⟨destination, Or.inr rfl, fun list => ?_⟩
    have there := (Store.findList_eq_some.mp other).1
    have number : stored.id = item := (ItemList.item?_some here).2
    generalize joins : ({ stored with list := destination, position := target.nextPosition } : Item) =
      moved
    have goes : moved.list = destination := by rw [← joins]
    have same : moved.id = item := by rw [← joins, ← number]
    have home : ((store.perform now (.deleteItem origin item)).2.lists.get? moved.list).isSome := by
      rw [Store.get?_deleteItem, goes, if_neg (Ne.symm apart), there]
      rfl
    rw [← same, holds_putItem (same ▸ unique.deleteItem item) (same ▸ home), goes]

/-- A request that is cut off at a call on the store, which then has no effect, has changed nothing
or has done all its work, with one exception: a move that is cut off when it stores the item has
taken it out of its list. The item of a move is in one of the two lists, but for that cut. -/
theorem cut_off_job (request : Request) (clock : Nat → Timestamp) (cut : Nat) (backend : Backend)
    (unique : backend.store.Unique) :
    let part := request.job.advance (Backend.serve clock (some cut)) (backend, 0)
    let whole := request.job.advance (Backend.serve clock none) (backend, 0)
    (Quiet part backend.store ∨
      (∃ answer, whole.rest = .done (.ok answer)) ∧ Alike part whole ∨
      ∃ origin item destination user, request = .moveItem origin item destination user ∧
        Loses backend.store request cut ∧
        Quiet part (backend.store.perform (clock 2) (.deleteItem origin item)).2) ∧
    ∀ origin item destination user, request = .moveItem origin item destination user →
      backend.store.Holds origin item →
        (Loses backend.store request cut → ∀ list, ¬part.state.1.store.Holds list item) ∧
        (¬Loses backend.store request cut →
          ∃ home, (home = origin ∨ home = destination) ∧
            ∀ list, part.state.1.store.Holds list item ↔ list = home) := by
  intro part whole
  obtain ⟨result, store, events, ends, effect⟩ :
    Takes request clock 0 request.job backend := takes_job request
  have final : whole.state.1.store = store := by
    rw [ends.state, Backend.store_publishAll]
  by_cases loses : Loses backend.store request cut
  · obtain ⟨origin, item, destination, user, rfl, left⟩ := loses.quiet clock
    refine ⟨Or.inr (Or.inr ⟨origin, item, destination, user, rfl, loses, left⟩), ?_⟩
    rintro _ _ _ _ ⟨⟩ held
    refine ⟨fun _ list => ?_, fun spared => absurd loses spared⟩
    rw [left.store]
    exact Store.free_deleteItem unique held list
  · have fate : Quiet part backend.store ∨ Alike part whole := allOrNothing_job request cut loses
    constructor
    · rcases fate with quiet | alike
      · exact Or.inl quiet
      cases result with
      | ok answer => exact Or.inr (Or.inl ⟨⟨answer, ends.rest⟩, alike⟩)
      | error fault =>
        cases effect
        exact Or.inl ⟨alike.store.trans final, alike.published.trans ends.published⟩
    · rintro origin item destination user rfl held
      refine ⟨fun lost => absurd lost loses, fun _ => ?_⟩
      rcases fate with quiet | alike
      · rw [quiet.store]
        exact ⟨origin, Or.inl rfl, fun list => holds_iff_of_unique unique held⟩
      · rw [alike.store, final]
        exact holds_of_effect unique held effect

/-- A backend that has two lists and nothing else. -/
def bareLists : Backend :=
  ⟨Store.twoLists, .empty, .new 1, []⟩

theorem unique_bareLists : bareLists.store.Unique :=
  Store.sound_twoLists.unique

theorem loses_bareLists : Loses bareLists.store (.moveItem ⟨1⟩ ⟨1⟩ ⟨2⟩ ⟨1⟩) 3 :=
  .intro _ _ _ _ _ _ _ (by decide) rfl rfl rfl

theorem holds_bareLists : bareLists.store.Holds ⟨1⟩ ⟨1⟩ :=
  ⟨_, ⟨_, rfl, List.mem_singleton_self _⟩, rfl⟩

theorem cut_off_job_twoLists :
    bareLists.store.Unique ∧ bareLists.store.Holds ⟨1⟩ ⟨1⟩ ∧
      ∀ list, ¬((moveItem ⟨1⟩ ⟨1⟩ ⟨2⟩ ⟨1⟩).job.advance
        (Backend.serve (fun _ => default) (some 3)) (bareLists, 0)).state.1.store.Holds list ⟨1⟩ :=
  ⟨unique_bareLists, holds_bareLists,
    ((cut_off_job (.moveItem ⟨1⟩ ⟨1⟩ ⟨2⟩ ⟨1⟩) (fun _ => default) 3 bareLists unique_bareLists).2
      _ _ _ _ rfl holds_bareLists).1 loses_bareLists⟩

/-- The exception is real: a move that is cut off when it stores the item neither has changed
nothing nor has done all its work. -/
theorem not_undone_or_complete :
    ¬∀ (request : Request) (clock : Nat → Timestamp) (cut : Nat) (backend : Backend),
      backend.store.Unique →
      let part := request.job.advance (Backend.serve clock (some cut)) (backend, 0)
      let whole := request.job.advance (Backend.serve clock none) (backend, 0)
      Quiet part backend.store ∨ (∃ answer, whole.rest = .done (.ok answer)) ∧ Alike part whole := by
  intro safe
  rcases safe (.moveItem ⟨1⟩ ⟨1⟩ ⟨2⟩ ⟨1⟩) (fun _ => default) 3 bareLists unique_bareLists with
    undone | ⟨_, complete⟩
  · have lost := (quiet_moveItem (fun _ => default) loses_bareLists).store
    rw [undone.store] at lost
    exact Store.free_deleteItem unique_bareLists holds_bareLists ⟨1⟩ (lost ▸ holds_bareLists)
  · have silent := complete.published
    revert silent
    decide

end ListKeeper.Request
