import ListKeeper.Proofs.Pipeline.Handling
import ListKeeper.Proofs.Request.Transfer

namespace ListKeeper

namespace Backend

variable {clock : Nat → Timestamp}

theorem served_le_advance {α : Type} (job : Job α) (backend : Backend) (served : Nat) :
    served ≤ (job.advance (serve clock none) (backend, served)).state.2 := by
  induction job generalizing backend served with
  | call request next meanwhile ih =>
    cases request with
    | store call =>
      rw [advance_store (by rintro ⟨⟩)]
      exact (Nat.le_succ served).trans (ih _ _ _)
    | _ => exact ih _ _ _
  | _ => exact Nat.le_refl served

end Backend

namespace Request

/-- A course that succeeds has made at least this many calls on the store. -/
def Spends (calls : Nat) (job : Job Result) : Prop :=
  ∀ clock backend served answer,
    (job.advance (Backend.serve clock none) (backend, served)).rest = .done (.ok answer) →
      served + calls ≤ (job.advance (Backend.serve clock none) (backend, served)).state.2

section

variable {calls : Nat}

theorem spends_zero (job : Job Result) : Spends 0 job :=
  fun _ backend served _ _ => Backend.served_le_advance job backend served

theorem spends_failing (fault : RequestFault) : Spends calls (failing fault) := by
  rintro _ _ _ _ ⟨⟩

theorem spends_call {call : StoreCall} {next : call.Answer → Job Result} {meanwhile : Job Result}
    (later : ∀ answer, Spends calls (next answer)) :
    Spends (calls + 1) (.call (.store call) next meanwhile) := by
  intro clock backend served answer rest
  rw [Backend.advance_store (by rintro ⟨⟩)] at rest ⊢
  have spent := later _ clock _ _ answer rest
  rw [Nat.add_right_comm] at spent
  exact spent

theorem spends_storing {call : StoreCall} {fault : StorageFault → RequestFault}
    {next : call.Result → Job Result} (later : ∀ result, Spends calls (next result)) :
    Spends (calls + 1) (storing call fault next) := by
  refine spends_call fun answer => ?_
  cases answer with
  | error cause => exact spends_failing _
  | ok result => exact later result

theorem spends_finding {list : ListId} {user : UserId} {next : ItemList → Job Result}
    (later : ∀ found, Spends calls (next found)) : Spends (calls + 1) (finding list user next) := by
  refine spends_storing fun found => ?_
  cases found with
  | none => exact spends_failing _
  | some found => exact later found

theorem spends_trimming {field value : String} {next : String → Job Result}
    (later : ∀ text, Spends calls (next text)) : Spends calls (trimming field value next) := by
  unfold trimming
  split
  · exact spends_failing _
  · exact later _

theorem spends_taking (origin : ListId) (item : ItemId) (destination : ListId)
    (source target : Option ItemList) : Spends 2 (taking origin item destination source target) := by
  unfold taking
  cases target with
  | none => exact spends_failing _
  | some target =>
  cases source with
  | none => exact spends_failing _
  | some source =>
  cases here : source.item? item with
  | none =>
    simp only [here]
    exact spends_failing _
  | some stored =>
    simp only [here]
    refine spends_storing fun removed => ?_
    split
    · exact spends_call fun _ => spends_zero _
    · exact spends_failing _

/-- The number of calls that a request makes on the store up to the last one that changes it. -/
def writes : Request → Nat
  | createList .. | deleteList .. => 1
  | renameList .. | addItem .. | deleteItem .. => 2
  | moveItem .. => 4
  | getList .. | reindex => 0

theorem spends_job (request : Request) : Spends request.writes request.job := by
  cases request with
  | createList user name =>
    rw [job_createList]
    exact spends_trimming fun _ => spends_storing fun _ => spends_zero _
  | getList list user =>
    exact spends_zero _
  | renameList list user name =>
    rw [job_renameList]
    exact spends_trimming fun _ => spends_finding fun _ => spends_storing fun _ => spends_zero _
  | deleteList list user =>
    rw [job_deleteList]
    exact spends_storing fun _ => spends_zero _
  | addItem list user title description =>
    rw [job_addItem]
    exact spends_trimming fun _ => spends_finding fun _ => spends_storing fun _ => spends_zero _
  | deleteItem list item user =>
    rw [job_deleteItem]
    exact spends_finding fun _ => spends_storing fun _ => spends_zero _
  | moveItem origin item destination user =>
    rw [job_moveItem]
    by_cases same : origin = destination
    · rw [if_pos same]
      exact spends_failing _
    · rw [if_neg same]
      refine spends_call fun answer => ?_
      cases answer with
      | error cause => exact spends_failing _
      | ok source =>
        exact spends_storing fun target => spends_taking origin item destination source target
  | reindex => exact spends_zero _

end

/-- The request has created this list, and is answered with it. -/
def Creates : Request → Answer → ItemList → Prop
  | createList .., .list created, list => created = list
  | _, _, _ => False

/-- The request has added this item, and is answered with it. -/
def Adds : Request → Answer → Item → Prop
  | addItem .., .item added, item => added = item
  | _, _, _ => False

def Renames (request : Request) (list : ListId) : Prop :=
  ∃ user name, request = renameList list user name

/-- How the instants of a list compare with those that it had: it was created when it was, and the
instant of its last change is new just if the list has changed. -/
structure Ages (reading : Timestamp → Prop) (changed : Prop) (old new : ItemList) : Prop where
  created : new.createdAt = old.createdAt
  updated : changed → reading new.updatedAt
  still : ¬changed → new.updatedAt = old.updatedAt

/-- The instants that are stored after a request has succeeded, compared with those before it. -/
structure Stamped (request : Request) (answer : Answer) (before after : Store)
    (reading : Timestamp → Prop) : Prop where
  /-- A list is new, and so are its instants, or it was there. It has changed if it has been renamed
  or has other items. -/
  lists : ∀ k new, after.lists.get? k = some new →
    (request.Creates answer new ∧ reading new.createdAt ∧ reading new.updatedAt) ∨
      ∃ old, before.lists.get? k = some old ∧
        Ages reading (request.Renames k ∨ ¬new.items.Perm old.items) old new
  /-- An item is new, and so are its instants, or it was there and has the instants that it had. -/
  items : ∀ k item, after.Has k item →
    (request.Adds answer item ∧ reading item.createdAt ∧ reading item.updatedAt) ∨
      ∃ origin old, before.Has origin old ∧ item.id = old.id ∧ item.createdAt = old.createdAt ∧
        item.updatedAt = old.updatedAt

section

variable {request : Request} {answer : Answer} {before after : Store} {reading : Timestamp → Prop}

theorem ages_same {k : ListId} {list : ItemList} (still : ¬request.Renames k) :
    Ages reading (request.Renames k ∨ ¬list.items.Perm list.items) list list where
  created := rfl
  updated changed := (changed.elim still fun other => other (.refl _)).elim
  still _ := rfl

theorem ages_new {old new : ItemList} {changed : Prop} (created : new.createdAt = old.createdAt)
    (updated : reading new.updatedAt) (other : changed) : Ages reading changed old new where
  created := created
  updated _ := updated
  still same := (same other).elim

theorem item_kept {k : ListId} {item : Item} (has : before.Has k item) :
    ∃ origin old, before.Has origin old ∧ item.id = old.id ∧ item.createdAt = old.createdAt ∧
      item.updatedAt = old.updatedAt :=
  ⟨k, item, has, rfl, rfl, rfl⟩

theorem stamped_refl (still : ∀ k, ¬request.Renames k) :
    Stamped request answer before before reading where
  lists k list there := Or.inr ⟨list, there, ages_same (still k)⟩
  items _ _ has := Or.inr (item_kept has)

/-- One list has been changed. -/
theorem stamped_change {list : ListId} {old : ItemList} {change : ItemList → ItemList}
    (lists : ∀ k, after.lists.get? k =
      if k = list then (before.lists.get? k).map change else before.lists.get? k)
    (there : before.lists.get? list = some old) (created : (change old).createdAt = old.createdAt)
    (updated : reading (change old).updatedAt)
    (changed : request.Renames list ∨ ¬(change old).items.Perm old.items)
    (only : ∀ k, request.Renames k → k = list)
    (items : ∀ k item, after.Has k item →
      (request.Adds answer item ∧ reading item.createdAt ∧ reading item.updatedAt) ∨
        before.Has k item) :
    Stamped request answer before after reading where
  lists k new found := by
    rw [lists] at found
    by_cases here : k = list
    · subst here
      rw [if_pos rfl, there, Option.map_some] at found
      cases Option.some.inj found
      exact Or.inr ⟨old, there, ages_new created updated changed⟩
    · rw [if_neg here] at found
      exact Or.inr ⟨new, found, ages_same fun renamed => here (only k renamed)⟩
  items k item has := (items k item has).imp_right item_kept

theorem not_perm_append_singleton (items : List Item) (item : Item) :
    ¬(items ++ [item]).Perm items := by
  intro same
  have length := same.length_eq
  rw [List.length_append] at length
  exact absurd length (by simp)

end

variable {store : Store} {reading : Timestamp → Prop} {now later : Timestamp}

theorem stamped_createList (read : reading now) (user : UserId) (name text : String) :
    Stamped (createList user name) (.list (store.createList now user text).1) store
      (store.perform now (.createList user text)).2 reading where
  lists k new there := by
    rw [Store.get?_createList] at there
    split at there
    next =>
      cases Option.some.inj there
      exact Or.inl ⟨rfl, read, read⟩
    next => exact Or.inr ⟨new, there, ages_same (by rintro ⟨_, _, ⟨⟩⟩)⟩
  items k item has := by
    obtain ⟨found, there, member⟩ := has
    rw [Store.get?_createList] at there
    split at there
    next =>
      cases Option.some.inj there
      cases member
    next => exact Or.inr (item_kept ⟨found, there, member⟩)

theorem stamped_renameList (read : reading now) {list : ListId} {found : ItemList}
    (there : store.lists.get? list = some found) (user : UserId) (name text : String)
    (answer : Answer) :
    Stamped (renameList list user name) answer store
      (store.perform now (.renameList list text)).2 reading := by
  refine stamped_change (fun k => store.get?_renameList now list k text) there rfl read
    (Or.inl ⟨user, name, rfl⟩) ?_ fun k item has => Or.inr (Store.has_renameList.mp has)
  rintro k ⟨_, _, same⟩
  cases same
  rfl

theorem stamped_deleteList (list : ListId) (user : UserId) (answer : Answer) :
    Stamped (deleteList list user) answer store (store.perform now (.deleteList list user)).2
      reading where
  lists k new there := by
    rw [Store.get?_deleteList] at there
    split at there
    next => cases there
    next => exact Or.inr ⟨new, there, ages_same (by rintro ⟨_, _, ⟨⟩⟩)⟩
  items k item has := Or.inr (item_kept (Store.has_deleteList.mp has).1)

theorem stamped_addItem (read : reading now) {list : ListId} {found : ItemList}
    (there : store.lists.get? list = some found) (user : UserId)
    (title description text about : String) (position : Int32) :
    Stamped (addItem list user title description)
      (.item (Item.new now ⟨store.nextItem⟩ list text about position)) store
      (store.perform now (.insertItem list text about position)).2 reading := by
  refine stamped_change (fun k => store.get?_insertItem now list k text about position) there rfl
    read (Or.inr (not_perm_append_singleton _ _)) (by rintro _ ⟨_, _, ⟨⟩⟩) fun k item has => ?_
  rcases Store.has_insertItem.mp has with before | ⟨_, _, rfl⟩
  · exact Or.inr before
  · exact Or.inl ⟨rfl, read, read⟩

theorem stamped_deleteItem (unique : store.Unique) (read : reading now) {list : ListId}
    {found : ItemList} {item : ItemId} (there : store.lists.get? list = some found)
    (here : (found.item? item).isSome) (user : UserId) (answer : Answer) :
    Stamped (deleteItem list item user) answer store
      (store.perform now (.deleteItem list item)).2 reading := by
  obtain ⟨stored, first⟩ := Option.isSome_iff_exists.mp here
  obtain ⟨member, rfl⟩ := ItemList.item?_some first
  have gone : found.without now stored.id = { found with
      items := found.items.filter (·.id ≠ stored.id)
      updatedAt := now } :=
    found.without_of_distinct (unique.distinct list found there) member now
  refine stamped_change (fun k => store.get?_deleteItem now list k stored.id) there ?_ ?_
    (Or.inr fun same => ?_) (by rintro _ ⟨_, _, ⟨⟩⟩) fun k item has =>
      Or.inr ((Store.has_deleteItem unique).mp has).1
  · rw [gone]
  · rw [gone]
    exact read
  · rw [gone] at same
    simpa using (List.mem_filter.mp (same.mem_iff.mpr member)).2

/-- An item that is moved keeps its instants, and both lists get new ones. -/
theorem stamped_moveItem {origin destination : ListId} {stored moved : Item} {after : Store}
    (change : Store.Moved store after origin destination stored moved now later)
    (apart : origin ≠ destination) (left : reading now) (arrived : reading later) (item : ItemId)
    (user : UserId) (answer : Answer) :
    Stamped (moveItem origin item destination user) answer store after reading where
  lists k new there := by
    refine Or.inr ?_
    obtain ⟨source, first, member, leaves⟩ := change.leaves
    obtain ⟨target, items, second, _, perm, arrives⟩ := change.arrives
    by_cases here : k = origin
    · subst here
      cases Option.some.inj (leaves.symm.trans there)
      refine ⟨source, first, ages_new rfl left (Or.inr fun same => ?_)⟩
      simpa using (List.mem_filter.mp (same.mem_iff.mpr member)).2
    by_cases here' : k = destination
    · subst here'
      cases Option.some.inj (arrives.symm.trans there)
      refine ⟨target, second, ages_new rfl arrived (Or.inr fun same => ?_)⟩
      exact absurd (perm.symm.trans same).length_eq (by simp)
    · rw [change.others k here here'] at there
      exact ⟨new, there, ages_same (by rintro ⟨_, _, ⟨⟩⟩)⟩
  items k item has := by
    refine Or.inr ?_
    rcases (change.items k item).mp has with ⟨before, _⟩ | ⟨_, rfl⟩
    · exact item_kept before
    · obtain ⟨source, first, member, _⟩ := change.leaves
      refine ⟨origin, stored, ⟨source, first, member⟩, ?_⟩
      rw [change.card]
      exact ⟨rfl, rfl, rfl⟩

/-- An outcome that is a success has stamped what it should. -/
def Outcome.Stamps (outcome : Outcome) (store : Store) (request : Request)
    (reading : Timestamp → Prop) : Prop :=
  ∀ answer, outcome.result = .ok answer → Stamped request answer store outcome.store reading

theorem stamps_refused {request : Request} (fault : RequestFault) :
    (Outcome.refused store fault).Stamps store request reading := by
  rintro _ ⟨⟩

theorem stamps_ok {request : Request} {answer : Answer} {after : Store} {events : List Envelope}
    (stamped : Stamped request answer store after reading) :
    (Outcome.mk (.ok answer) after events).Stamps store request reading := by
  rintro _ ⟨⟩
  exact stamped

theorem stamps_trimming {request : Request} {field value : String} {next : String → Outcome}
    (later : ∀ text, (next text).Stamps store request reading) :
    (Outcome.trimming store field value next).Stamps store request reading :=
  Outcome.trimming_induction (motive := (·.Stamps store request reading)) stamps_refused later

theorem stamps_finding {request : Request} {list : ListId} {user : UserId}
    {next : ItemList → Outcome} (later : ∀ found, store.lists.get? list = some found →
      (next found).Stamps store request reading) :
    (Outcome.finding store list user next).Stamps store request reading :=
  Outcome.finding_induction (motive := (·.Stamps store request reading)) stamps_refused
    fun found owned => later found (Store.findList_eq_some.mp owned).1

theorem stamps_outcome {backend : Backend} {clock : Nat → Timestamp}
    (unique : backend.store.Unique) (request : Request)
    (read : ∀ call < request.writes, reading (clock call)) :
    (request.outcome backend clock).Stamps backend.store request reading := by
  cases request with
  | createList user name =>
    simp only [outcome, Outcome.createList]
    exact stamps_trimming fun text =>
      stamps_ok (stamped_createList (read 0 (Nat.lt_succ_self _)) user name text)
  | getList list user =>
    exact stamps_finding fun found _ => stamps_ok (stamped_refl (by rintro _ ⟨_, _, ⟨⟩⟩))
  | renameList list user name =>
    simp only [outcome, Outcome.renameList]
    exact stamps_trimming fun text => stamps_finding fun found there =>
      stamps_ok (stamped_renameList (read 1 (Nat.lt_succ_self _)) there user name text _)
  | deleteList list user =>
    exact stamps_finding fun found _ => stamps_ok (stamped_deleteList list user _)
  | addItem list user title description =>
    simp only [outcome, Outcome.addItem]
    exact stamps_trimming fun text => stamps_finding fun found there =>
      stamps_ok (stamped_addItem (read 1 (Nat.lt_succ_self _)) there user title description text
        (Text.trim description) found.nextPosition)
  | deleteItem list item user =>
    refine stamps_finding fun found there => ?_
    split
    next here =>
      exact stamps_ok (stamped_deleteItem unique (read 1 (Nat.lt_succ_self _)) there here user _)
    next => exact stamps_refused _
  | moveItem origin item destination user =>
    by_cases can : backend.store.CanMove origin item destination user
    · obtain ⟨source, target, stored, there, member, rfl, other, result⟩ :=
        outcome_of_canMove clock unique can
      have moved := unique.moved can.1 there member other (clock 2) (clock 3)
      have left := read 2 (Nat.lt_of_succ_le (Nat.le_succ 3))
      simp only [outcome, result]
      exact stamps_ok
        (stamped_moveItem moved can.1 left (read 3 (Nat.lt_succ_self _)) stored.id user _)
    · obtain ⟨message, result⟩ := outcome_of_not_canMove clock can
      simp only [outcome, result]
      exact stamps_refused _
  | reindex => exact stamps_ok (stamped_refl (by rintro _ ⟨_, _, ⟨⟩⟩))

/-- When a request that runs alone succeeds, the list or item that is new and the lists that have
changed have instants of its own calls. All other instants are as they were, also those of an item
that has been moved. To count the items of a list changes nothing of it but the count. -/
theorem stamps_what_changes (clock : Nat → Timestamp) (backend : Backend)
    (unique : backend.store.Unique) :
    (∀ request answer,
      let progress := request.job.advance (Backend.serve clock none) (backend, 0)
      progress.rest = .done (.ok answer) →
        Stamped request answer backend.store progress.state.1.store
          fun instant => ∃ call < progress.state.2, instant = clock call) ∧
    ∀ list now k,
      ((backend.run now (Projection.recount list)).state.store.lists.get? k).map
          (fun found => { found with itemCount := 0 }) =
        (backend.store.lists.get? k).map fun found => { found with itemCount := 0 } := by
  constructor
  · intro request answer progress rest
    have ends : Ends progress backend _ _ _ := ends_job request
    have spent : 0 + request.writes ≤ progress.state.2 :=
      spends_job request clock backend 0 answer rest
    have kept : progress.state.1.store = (request.outcome backend clock).store := by
      rw [ends.state, Backend.store_publishAll]
    rw [kept]
    refine stamps_outcome unique request (fun call before => ⟨call, by omega, rfl⟩) answer ?_
    exact Program.done.inj (ends.rest.symm.trans rest)
  · intro list now k
    rw [(Handler.brings_recount list).choose_spec.state, Store.get?_setItemCount]
    split
    · rw [Option.map_map]
      rfl
    · rfl

/-- Instants that are all later than those of `scattered`. -/
def ticks (call : Nat) : Timestamp :=
  ⟨call + 1, 0⟩

theorem stamps_what_changes_scattered :
    scattered.store.Unique ∧
    let request : Request := moveItem ⟨1⟩ ⟨2⟩ ⟨2⟩ ⟨1⟩
    let progress := request.job.advance (Backend.serve ticks none) (scattered, 0)
    ∃ answer, progress.rest = .done (.ok answer) ∧
      Stamped request answer scattered.store progress.state.1.store
        fun instant => ∃ call < progress.state.2, instant = ticks call := by
  have unique : scattered.store.Unique := Store.unique_of_nodup_numbers (by decide)
  exact ⟨unique, _, rfl,
    (stamps_what_changes ticks scattered unique).1 (moveItem ⟨1⟩ ⟨2⟩ ⟨2⟩ ⟨1⟩) _ rfl⟩

/-- An item that has been moved was last changed, as it is stored, before it was moved. -/
theorem not_stamps_moved :
    ¬∀ (clock : Nat → Timestamp) (backend : Backend), backend.store.Unique →
      ∀ (request : Request) (answer : Answer),
      let progress := request.job.advance (Backend.serve clock none) (backend, 0)
      progress.rest = .done (.ok answer) → ∀ (origin list : ListId) (old item : Item),
        backend.store.Has origin old → progress.state.1.store.Has list item → item.id = old.id →
          item.list ≠ old.list ∨ item.position ≠ old.position →
            ∃ call < progress.state.2, item.updatedAt = clock call := by
  intro stamps
  obtain ⟨call, -, same⟩ := stamps ticks scattered (Store.unique_of_nodup_numbers (by decide))
    (moveItem ⟨1⟩ ⟨2⟩ ⟨2⟩ ⟨1⟩) _ rfl ⟨1⟩ ⟨2⟩
    ⟨⟨2⟩, ⟨1⟩, "bread", "rye", -7, default, default⟩
    ⟨⟨2⟩, ⟨2⟩, "bread", "rye", 2147483647, default, default⟩
    ⟨_, rfl, by decide⟩ ⟨_, rfl, by decide⟩ rfl (Or.inl (by decide))
  have seconds : (0 : Int) = call + 1 := congrArg Timestamp.seconds same
  omega

end Request

end ListKeeper
