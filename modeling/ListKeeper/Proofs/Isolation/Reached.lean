import ListKeeper.Proofs.Isolation.View
import ListKeeper.Proofs.Request.Effect

namespace ListKeeper

namespace Store

/-- The stores that calls make of an empty one, whosever requests the calls are for and in whatever
order they follow each other, as long as no number wraps around. -/
inductive Reached : Store → Prop where
  | empty : Reached .empty
  | call {store : Store} (reached : store.Reached) (now : Timestamp) (call : StoreCall)
      (unwrapped : Unwrapped store (store.perform now call).2) : Reached (store.perform now call).2

section

variable {store after : Store}

theorem Reached.sound (reached : store.Reached) : store.Sound := by
  induction reached with
  | empty => exact sound_empty
  | call reached now call unwrapped ih => exact ih.perform now call unwrapped

/-- The numbers of the lists are below the next one, which is thus free. -/
theorem Reached.number_lt (reached : store.Reached) {id : ListId}
    (there : (store.lists.get? id).isSome) : id.number < store.nextList := by
  induction reached with
  | empty => cases there
  | @call before reached now call unwrapped ih =>
    have order : before.nextList ≤ (before.perform now call).2.nextList := unwrapped.1
    obtain ⟨found, there⟩ := Option.isSome_iff_exists.mp there
    rcases perform_origin there with ⟨list, stored, _⟩ | ⟨next, rfl, _⟩
    · exact Int32.lt_of_lt_of_le (ih (by rw [stored]; rfl)) order
    · rw [next] at order ⊢
      change before.nextList < before.nextList + 1
      rw [Int32.lt_iff_toInt_lt, toInt_add_one (ne_maxValue_of_le_add_one order)]
      omega

theorem Reached.get?_nextList (reached : store.Reached) :
    store.lists.get? ⟨store.nextList⟩ = none := by
  rw [← Option.not_isSome_iff_eq_none]
  intro there
  have below := reached.number_lt there
  dsimp only at below
  exact Int32.lt_irrefl below

/-- A request leads from a store that has been reached to another one. -/
theorem Effect.reached {request : Request} {result : Request.Result} {events : List Envelope}
    (effect : store.Effect request result after events) (reached : store.Reached)
    (unwrapped : Unwrapped store after) : after.Reached :=
  effect.keeps (fun _ now call reached => reached.call now call) reached unwrapped

end

end Store

/-- A user makes this request. Anybody can ask for all documents to be rebuilt. -/
def Request.IsBy (user : UserId) : Request → Prop
  | .createList maker _ => maker = user
  | .getList _ maker => maker = user
  | .renameList _ maker _ => maker = user
  | .deleteList _ maker => maker = user
  | .addItem _ maker _ _ => maker = user
  | .deleteItem _ _ maker => maker = user
  | .moveItem _ _ _ maker => maker = user
  | .reindex => True

instance (user : UserId) : (request : Request) → Decidable (request.IsBy user)
  | .createList maker _ => inferInstanceAs (Decidable (maker = user))
  | .getList _ maker => inferInstanceAs (Decidable (maker = user))
  | .renameList _ maker _ => inferInstanceAs (Decidable (maker = user))
  | .deleteList _ maker => inferInstanceAs (Decidable (maker = user))
  | .addItem _ maker _ _ => inferInstanceAs (Decidable (maker = user))
  | .deleteItem _ _ maker => inferInstanceAs (Decidable (maker = user))
  | .moveItem _ _ _ maker => inferInstanceAs (Decidable (maker = user))
  | .reindex => inferInstanceAs (Decidable True)

namespace Store

theorem Effect.untouched {store after : Store} {request : Request} {result : Request.Result}
    {events : List Envelope} (effect : store.Effect request result after events)
    (reached : store.Reached) {user : UserId} (own : request.IsBy user) :
    Untouched user store after := by
  cases effect with
  | refused => exact fun _ _ _ => rfl
  | created maker name text now =>
    obtain rfl : maker = user := own
    intro other different k
    unfold findList
    rw [get?_createList]
    split
    next here =>
      have mine : (ItemList.new now ⟨store.nextList⟩ maker text).owner ≠ other := different.symm
      rw [here, reached.get?_nextList, Option.filter_some, if_neg (by simpa using mine)]
      rfl
    next => rfl
  | shown => exact fun _ _ _ => rfl
  | renamed list maker name text now found owned =>
    obtain rfl : maker = user := own
    exact untouched_change owned (store.get?_renameList now list · text) fun _ => rfl
  | deleted list maker now owned =>
    obtain rfl : maker = user := own
    obtain ⟨found, mine⟩ := Option.isSome_iff_exists.mp owned
    obtain ⟨there, owner⟩ := findList_eq_some.mp mine
    intro other different k
    unfold findList
    rw [get?_deleteList]
    split
    next here =>
      rw [here.1, there, Option.filter_some, owner, if_neg (by simpa using different.symm)]
      rfl
    next => rfl
  | added list maker title description text about now found owned =>
    obtain rfl : maker = user := own
    exact untouched_change owned (store.get?_insertItem now list · text about found.nextPosition)
      fun _ => rfl
  | removed list item maker now found owned =>
    obtain rfl : maker = user := own
    exact untouched_change owned (store.get?_deleteItem now list · item)
      fun found => found.without_owner now item
  | moved origin item destination maker now later source target stored apart owned other here =>
    obtain rfl : maker = user := own
    obtain ⟨lists, _⟩ :=
      reached.sound.unique.moving apart owned other here target.nextPosition now later
    refine untouched_map lists (owner_moving origin now later _) fun k => ?_
    by_cases goal : k = destination
    · exact Or.inl ⟨target, goal ▸ other⟩
    by_cases start : k = origin
    · exact Or.inl ⟨source, start ▸ owned⟩
    · right
      intro found
      rw [moving, if_neg goal, if_neg start]
      rfl
  | reindexed => exact fun _ _ _ => rfl

end Store

end ListKeeper
