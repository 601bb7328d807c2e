import ListKeeper.Pipeline
import Mathlib

namespace ListKeeper

variable {α β : Type} {now : Timestamp} {backend middle after : Backend}

/-- A job that runs with nothing else going on comes to its end, with this value and state. -/
structure Backend.Brings (backend : Backend) (now : Timestamp) (job : Job α) (value : α)
    (after : Backend) : Prop where
  rest : (backend.run now job).rest = .done value
  state : (backend.run now job).state = after

namespace Backend

theorem brings_done (value : α) : backend.Brings now (.done value) value backend :=
  ⟨rfl, rfl⟩

theorem brings_call {call : Call} {next : call.Answer → Job α} {meanwhile : Job α} {value : α}
    (later : (backend.perform now call).2.Brings now (next (backend.perform now call).1) value
      after) : backend.Brings now (.call call next meanwhile) value after := by
  have answer : treat now call backend =
      (.answer (backend.perform now call).1, (backend.perform now call).2) := rfl
  constructor
  · simp only [run, Program.advance, answer]
    exact later.rest
  · simp only [run, Program.advance, answer]
    exact later.state

theorem Brings.bind {job : Job α} {next : α → Job β} {value : α} {result : β}
    (first : backend.Brings now job value middle)
    (second : middle.Brings now (next value) result after) :
    backend.Brings now (Program.bind job next) result after := by
  induction job generalizing backend with
  | done given =>
    obtain ⟨⟨⟩, rfl⟩ := first
    exact second
  | call call answered meanwhile ih =>
    refine brings_call (ih _ ⟨?_, ?_⟩)
    · exact first.rest
    · exact first.state
  | stalled => cases first.rest
  | panic reason => cases first.rest

variable {ε : Type}

theorem Brings.andThen {attempt : Attempt ε α} {next : α → Attempt ε β} {value : α}
    {result : Except ε β} (first : backend.Brings now attempt (.ok value) middle)
    (second : middle.Brings now (next value) result after) :
    backend.Brings now (attempt >>= next : Attempt ε β) result after :=
  Brings.bind first second

theorem Brings.fails {attempt : Attempt ε α} {next : α → Attempt ε β} {fault : ε}
    (first : backend.Brings now attempt (.error fault) after) :
    backend.Brings now (attempt >>= next : Attempt ε β) (.error fault) after :=
  Brings.bind first (brings_done _)

theorem brings_store {call : StoreCall} {fault : StorageFault → ε} :
    backend.Brings now (Attempt.store call fault)
      ((backend.store.perform now call).1.mapError fault)
      { backend with store := (backend.store.perform now call).2 } :=
  ⟨rfl, rfl⟩

theorem brings_saveDocuments {documents : List Document} {fault : SearchFault → ε} :
    backend.Brings now (Attempt.saveDocuments documents fault) (.ok ())
      { backend with index := backend.index.save documents } :=
  ⟨rfl, rfl⟩

theorem brings_deleteDocument {objectId : String} {fault : SearchFault → ε} :
    backend.Brings now (Attempt.deleteDocument objectId fault) (.ok ())
      { backend with index := backend.index.delete objectId } :=
  ⟨rfl, rfl⟩

theorem brings_loadList {list : ListId} {fault : StorageFault → ε} :
    backend.Brings now (Attempt.store (.loadList list) fault)
      (.ok (backend.store.lists.get? list)) backend :=
  brings_store

end Backend

namespace Handler

open Backend

theorem brings_listOf (envelope : Envelope) :
    backend.Brings now (listOf envelope)
      (envelope.payload.list?.elim (.error (.unexpectedPayload envelope)) .ok) backend := by
  unfold listOf
  cases envelope.payload.list? <;> exact ⟨rfl, rfl⟩

theorem brings_recount (list : ListId) :
    ∃ result, backend.Brings now (Projection.recount list) result
      { backend with store := (backend.store.perform now (.setItemCount list
        ((backend.store.lists.get? list).elim 0 ItemList.countOfItems))).2 } := by
  have counted : backend.Brings now (Projection.store (.countItems list))
      (.ok ((backend.store.lists.get? list).elim 0 ItemList.countOfItems)) backend := brings_store
  generalize (backend.store.lists.get? list).elim 0 ItemList.countOfItems = count at counted ⊢
  have stored : backend.Brings now (Projection.store (.setItemCount list count))
      ((backend.store.perform now (.setItemCount list count)).1.mapError .storage)
      { backend with store := (backend.store.perform now (.setItemCount list count)).2 } :=
    brings_store
  cases answer : (backend.store.perform now (.setItemCount list count)).1 with
  | error fault =>
    rw [answer] at stored
    exact ⟨_, counted.andThen stored.fails⟩
  | ok done =>
    rw [answer] at stored
    exact ⟨_, counted.andThen (stored.andThen (brings_done _))⟩

theorem brings_itemCount (envelope : Envelope) :
    ∃ result, backend.Brings now (itemCount.handle envelope) result
      (envelope.payload.list?.elim backend fun list =>
        { backend with store := (backend.store.perform now (.setItemCount list
          ((backend.store.lists.get? list).elim 0 ItemList.countOfItems))).2 }) := by
  have named : backend.Brings now (listOf envelope) _ backend := brings_listOf envelope
  cases which : envelope.payload.list? with
  | none =>
    rw [which] at named
    exact ⟨_, named.fails⟩
  | some list =>
    rw [which] at named
    obtain ⟨result, recounted⟩ : ∃ result, backend.Brings now (Projection.recount list) result _ :=
      brings_recount list
    cases result with
    | error fault => exact ⟨_, named.andThen recounted.fails⟩
    | ok count => exact ⟨_, named.andThen (recounted.andThen (brings_done _))⟩

/-- The documents of those of the given lists that are stored. -/
def documentsOf (store : Store) (ids : List ListId) : List Document :=
  ids.flatMap fun list => ((store.lists.get? list).map Document.ofList).toList

theorem documentsOf_append (store : Store) (first second : List ListId) :
    documentsOf store (first ++ second) = documentsOf store first ++ documentsOf store second :=
  List.flatMap_append

theorem brings_searchIndex (envelope : Envelope) :
    ∃ result, backend.Brings now (searchIndex.handle envelope) result { backend with
      index := backend.index.save (documentsOf backend.store envelope.payload.list?.toList) } := by
  have named : backend.Brings now (listOf envelope) _ backend := brings_listOf envelope
  cases which : envelope.payload.list? with
  | none =>
    rw [which] at named
    exact ⟨_, named.fails⟩
  | some list =>
    rw [which] at named
    have loaded : backend.Brings now (Projection.store (.loadList list))
      (.ok (backend.store.lists.get? list)) backend := brings_loadList
    rw [documentsOf, Option.toList_some, List.flatMap_singleton]
    cases there : backend.store.lists.get? list with
    | none =>
      rw [there] at loaded
      exact ⟨_, named.andThen (loaded.andThen (brings_done _))⟩
    | some found =>
      rw [there] at loaded
      exact ⟨_, named.andThen (loaded.andThen brings_saveDocuments)⟩

theorem brings_searchDeindex (envelope : Envelope) :
    ∃ result, backend.Brings now (searchDeindex.handle envelope) result
      (envelope.payload.list?.elim backend fun list =>
        { backend with index := backend.index.delete (Document.keyOf list) }) := by
  have named : backend.Brings now (listOf envelope) _ backend := brings_listOf envelope
  cases which : envelope.payload.list? with
  | none =>
    rw [which] at named
    exact ⟨_, named.fails⟩
  | some list =>
    rw [which] at named
    exact ⟨_, named.andThen brings_deleteDocument⟩

theorem brings_loadDocuments (ids : List ListId) :
    backend.Brings now (Projection.loadDocuments ids) (.ok (documentsOf backend.store ids))
      backend := by
  induction ids with
  | nil => exact brings_done _
  | cons list rest ih =>
    have loaded : backend.Brings now (Projection.store (.loadList list))
      (.ok (backend.store.lists.get? list)) backend := brings_loadList
    have both : backend.Brings now (do
        let later ← Projection.loadDocuments rest
        pure (((backend.store.lists.get? list).map Document.ofList).toList ++ later) : Projection _)
        (.ok (documentsOf backend.store (list :: rest))) backend := ih.andThen (brings_done _)
    exact loaded.andThen both

theorem save_append (index : Index) (first second : List Document) :
    (index.save first).save second = index.save (first ++ second) := by
  simp only [Index.save, List.foldl_append]

theorem mem_keys {store : Store} {k : ListId} :
    k ∈ store.lists.keys ↔ (store.lists.get? k).isSome := by
  simp only [Table.keys, Table.get?, Table.compare_beq_eq, Option.isSome_map, List.find?_isSome,
    List.mem_map, decide_eq_true_eq]

theorem mem_filter_isBeyond {store : Store} {after : Option ListId} {k : ListId}
    (stored : (store.lists.get? k).isSome) (beyond : Projection.isBeyond after k = true) :
    k ∈ store.lists.keys.filter fun id =>
      match after with
      | some bound => decide (bound.number < id.number)
      | none => true := by
  refine List.mem_filter.mpr ⟨mem_keys.mpr stored, ?_⟩
  cases after with
  | none => rfl
  | some bound => exact beyond

theorem isBeyond_of_mem_idsAfter {store : Store} {after : Option ListId} {limit : Nat} {id : ListId}
    (member : id ∈ store.idsAfter after limit) : Projection.isBeyond after id = true := by
  have kept := (List.mem_filter.mp (List.mem_of_mem_take member)).2
  cases after with
  | none => rfl
  | some bound => exact kept

/-- A page that is not full has all that is left. -/
theorem mem_idsAfter_of_short {store : Store} {after : Option ListId} {limit : Nat} {k : ListId}
    (short : (store.idsAfter after limit).length < limit)
    (stored : (store.lists.get? k).isSome) (beyond : Projection.isBeyond after k = true) :
    k ∈ store.idsAfter after limit := by
  have member := mem_filter_isBeyond stored beyond
  rw [Store.idsAfter, List.length_take] at short
  rw [Store.idsAfter, List.take_of_length_le (by omega)]
  exact member

theorem pairwise_keys (store : Store) :
    store.lists.keys.Pairwise fun a b => a.number < b.number :=
  List.pairwise_map.mpr (store.lists.ascending.imp fun {a _} before =>
    Std.compare_eq_lt (a := a.1.number).mp before)

/-- What is left is on the page, or behind the last number of the page. -/
theorem mem_idsAfter_or_isBeyond {store : Store} {after : Option ListId} {limit : Nat}
    {k last : ListId} (final : (store.idsAfter after limit).getLast? = some last)
    (stored : (store.lists.get? k).isSome) (beyond : Projection.isBeyond after k = true) :
    k ∈ store.idsAfter after limit ∨ Projection.isBeyond (some last) k = true := by
  have member := mem_filter_isBeyond stored beyond
  have ends := List.mem_of_getLast? final
  unfold Store.idsAfter at ends ⊢
  generalize kept : (store.lists.keys.filter fun id =>
    match after with
    | some bound => decide (bound.number < id.number)
    | none => true) = ids at member ends ⊢
  have ascending : ids.Pairwise fun a b => a.number < b.number :=
    kept ▸ (pairwise_keys store).filter _
  rw [← List.take_append_drop limit ids, List.mem_append] at member
  rcases member with here | later
  · exact Or.inl here
  · rw [← List.take_append_drop limit ids, List.pairwise_append] at ascending
    exact Or.inr (decide_eq_true (ascending.2.2 last ends k later))

/-- Going through the pages comes to an end, and stores the documents of all stored lists beyond
the first bound. -/
theorem brings_indexPages (pageSize : Nat) (positive : 0 < pageSize) (after : Option ListId)
    (indexed : Nat) :
    ∃ total ids, backend.Brings now (Projection.indexPages pageSize after indexed) (.ok total)
      { backend with index := backend.index.save (documentsOf backend.store ids) } ∧
        ∀ k, (backend.store.lists.get? k).isSome → Projection.isBeyond after k = true → k ∈ ids := by
  induction after, indexed using Projection.indexPages.induct generalizing backend with
  | case1 after indexed ih =>
    have page : backend.Brings now (Projection.store (.listIds after pageSize))
        (.ok (backend.store.idsAfter after pageSize)) backend := brings_store
    rw [Projection.indexPages]
    cases final : (backend.store.idsAfter after pageSize).getLast? with
    | none =>
      refine ⟨indexed, [], page.andThen ?_, fun k stored beyond => ?_⟩
      · simp only [final]
        exact brings_done _
      · have empty := List.getLast?_eq_none_iff.mp final
        have short : (backend.store.idsAfter after pageSize).length < pageSize := by
          rw [empty]
          exact positive
        exact empty ▸ mem_idsAfter_of_short short stored beyond
    | some last =>
      have beyond := isBeyond_of_mem_idsAfter (List.mem_of_getLast? final)
      have covers (k) := mem_idsAfter_or_isBeyond (k := k) final
      have complete (k) (short : (backend.store.idsAfter after pageSize).length < pageSize) :=
        mem_idsAfter_of_short (k := k) short
      generalize backend.store.idsAfter after pageSize = ids at page final covers complete
      have loaded : backend.Brings now (Projection.loadDocuments ids) _ backend :=
        brings_loadDocuments ids
      by_cases short : ids.length < pageSize
      · refine ⟨indexed + (documentsOf backend.store ids).length, ids, page.andThen ?_,
          fun k => complete k short⟩
        simp only [final, short, ↓reduceIte]
        exact loaded.andThen (brings_saveDocuments.andThen (brings_done _))
      · let saved : Backend :=
          { backend with index := backend.index.save (documentsOf backend.store ids) }
        obtain ⟨total, later, rest, others⟩ : ∃ total later, saved.Brings now _ _ _ ∧ _ :=
          ih last (documentsOf backend.store ids) beyond
        refine ⟨total, ids ++ later, page.andThen ?_, fun k stored above => ?_⟩
        · simp only [final, short, beyond, ↓reduceIte, ↓reduceDIte]
          refine loaded.andThen (brings_saveDocuments.andThen ?_)
          rw [documentsOf_append, ← save_append]
          exact rest
        · exact List.mem_append.mpr ((covers k stored above).imp_right (others k stored))

theorem brings_searchReindex (batch : Nat) (envelope : Envelope) (empty : envelope.payload = .empty) :
    ∃ result ids, backend.Brings now ((searchReindex batch).handle envelope) result
      { backend with index := backend.index.save (documentsOf backend.store ids) } ∧
        ∀ k, (backend.store.lists.get? k).isSome → k ∈ ids := by
  obtain ⟨total, ids, rebuilt, all⟩ : ∃ total ids, backend.Brings now
      (Projection.indexPages (max batch 1) none 0) (.ok total) _ ∧ _ :=
    brings_indexPages (max batch 1) (by omega) none 0
  refine ⟨.ok (), ids, ?_, fun k stored => all k stored rfl⟩
  simp only [searchReindex, if_neg (not_not_intro empty)]
  exact rebuilt.andThen (brings_done _)

/-- An event that names a list is no reason to rebuild the documents. -/
theorem brings_searchReindex_of_list (batch : Nat) (envelope : Envelope)
    (named : envelope.payload ≠ .empty) :
    backend.Brings now ((searchReindex batch).handle envelope) (.error (.unexpectedPayload envelope))
      backend := by
  simp only [searchReindex, if_pos named]
  exact brings_done _

end Handler

end ListKeeper
