import ListKeeper.Proofs.Pipeline.Started

namespace ListKeeper

open Handler

/-- A call that counts the items of a list, or stores the count. -/
def StoreCall.Counts : StoreCall → Prop
  | .countItems _ | .setItemCount .. => True
  | _ => False

namespace Projection

/-- All that is still done is to count items and to store counts. -/
inductive Tallies : Job (Except ProjectionFault Unit) → Prop where
  | done (result : Except ProjectionFault Unit) : Tallies (.done result)
  | call (call : StoreCall) (next : call.Answer → Job (Except ProjectionFault Unit))
      (meanwhile : Job (Except ProjectionFault Unit)) (counts : call.Counts)
      (later : ∀ answer, Tallies (next answer)) : Tallies (.call (.store call) next meanwhile)

theorem tallies_itemCount (envelope : Envelope) : Tallies (itemCount.handle envelope) := by
  simp only [itemCount, listOf]
  cases envelope.payload.list? with
  | none => exact .done _
  | some list =>
    refine .call _ _ _ trivial fun answer => ?_
    cases answer with
    | error fault => exact .done _
    | ok count =>
      refine .call _ _ _ trivial fun answer => ?_
      cases answer <;> exact .done _

/-- All that is still done is to read lists and to store documents that have been made of them
since the last ones were stored: at this point these. What is done at the end has the property. -/
inductive Fetches {α : Type} (ends : List Document → α → Prop) :
    List Document → Job (Except ProjectionFault α) → Prop where
  | done (held : List Document) (value : α) (right : ends held value) :
    Fetches ends held (.done (.ok value))
  | failed (held : List Document) (fault : ProjectionFault) :
    Fetches ends held (.done (.error fault))
  | stalled (held : List Document) : Fetches ends held .stalled
  | load (held : List Document) (list : ListId)
      (next : StoreCall.Answer (.loadList list) → Job (Except ProjectionFault α))
      (meanwhile : Job (Except ProjectionFault α))
      (later : ∀ found, Fetches ends (held ++ (found.map Document.ofList).toList) (next (.ok found)))
      (fails : ∀ fault, Fetches ends held (next (.error fault))) :
    Fetches ends held (.call (.store (.loadList list)) next meanwhile)
  | ids (held : List Document) (after : Option ListId) (limit : Nat)
      (next : StoreCall.Answer (.listIds after limit) → Job (Except ProjectionFault α))
      (meanwhile : Job (Except ProjectionFault α)) (later : ∀ answer, Fetches ends held (next answer)) :
    Fetches ends held (.call (.store (.listIds after limit)) next meanwhile)
  | save (held documents : List Document)
      (next : Except SearchFault Unit → Job (Except ProjectionFault α))
      (meanwhile : Job (Except ProjectionFault α)) (known : documents ⊆ held)
      (later : ∀ answer, Fetches ends [] (next answer)) :
    Fetches ends held (.call (.saveDocuments documents) next meanwhile)

section

variable {α β : Type} {ends : List Document → α → Prop} {ends' : List Document → β → Prop}
  {held : List Document}

theorem Fetches.andThen {attempt : Projection α} {next : α → Projection β}
    (first : Fetches ends held attempt)
    (second : ∀ held value, ends held value → Fetches ends' held (next value)) :
    Fetches ends' held (attempt >>= next : Projection β) := by
  induction first with
  | done held value right => exact second held value right
  | failed held fault => exact .failed held fault
  | stalled held => exact .stalled held
  | load held list next meanwhile _ _ later fails => exact .load held list _ _ later fails
  | ids held after limit next meanwhile _ later => exact .ids held after limit _ _ later
  | save held documents next meanwhile known _ later => exact .save held documents _ _ known later

theorem fetches_loadList (list : ListId) :
    Fetches (fun after found => after = held ++ (found.map Document.ofList).toList) held
      (Projection.store (.loadList list)) :=
  .load held list _ _ (fun found => .done _ found rfl) fun _ => .failed held _

theorem fetches_saveDocuments {documents : List Document} (known : documents ⊆ held) :
    Fetches (fun after _ => after = []) held (Attempt.saveDocuments documents .search) := by
  refine .save held documents _ _ known fun answer => ?_
  cases answer with
  | error fault => exact .failed [] _
  | ok done => exact .done [] done rfl

/-- The documents that are made of lists are those of the lists that have been read. -/
theorem fetches_loadDocuments (ids : List ListId) :
    Fetches (fun after documents => held ⊆ after ∧ documents ⊆ after) held
      (Projection.loadDocuments ids) := by
  induction ids generalizing held with
  | nil => exact .done held [] ⟨List.Subset.refl held, List.nil_subset held⟩
  | cons list rest ih =>
    refine (fetches_loadList list).andThen fun middle found read => ?_
    refine Fetches.andThen ih fun after later both => ?_
    obtain ⟨kept, known⟩ := both
    refine .done after _ ⟨?_, ?_⟩
    · exact fun document member => kept (read ▸ List.mem_append_left _ member)
    · refine List.append_subset.mpr ⟨fun document member => ?_, known⟩
      exact kept (read ▸ List.mem_append_right _ member)

theorem fetches_indexPages (pageSize : Nat) (after : Option ListId) (indexed : Nat) :
    Fetches (fun _ _ => True) held (Projection.indexPages pageSize after indexed) := by
  induction after, indexed using Projection.indexPages.induct generalizing held with
  | case1 after indexed ih =>
    rw [Projection.indexPages]
    have page : Fetches (fun later _ => later = held) held
        (Projection.store (.listIds after pageSize)) := by
      refine .ids held after pageSize _ _ fun answer => ?_
      cases answer with
      | error fault => exact .failed held _
      | ok ids => exact .done held ids rfl
    refine page.andThen fun held ids _ => ?_
    cases final : ids.getLast? with
    | none => exact .done held indexed trivial
    | some last =>
      refine (fetches_loadDocuments ids).andThen fun held documents known => ?_
      refine (fetches_saveDocuments known.2).andThen fun held _ _ => ?_
      split
      · exact .done held _ trivial
      · split
        next beyond => exact ih last documents beyond
        next => exact .stalled held

theorem fetches_searchReindex (batch : Nat) (envelope : Envelope) :
    Fetches (fun _ _ => True) [] ((searchReindex batch).handle envelope) := by
  simp only [searchReindex]
  split
  · exact .failed [] _
  · exact (fetches_indexPages (max batch 1) none 0).andThen fun held _ _ => .done held () trivial

end

end Projection

open Projection

/-- What a worker is at. -/
inductive Task where
  | free
  | counting
  /-- It is about to read this list. -/
  | loading (list : ListId)
  /-- It is about to store the document of this list. -/
  | saving (found : ItemList)
  /-- It is about to remove the document of this list. -/
  | removing (list : ListId)
  /-- It has made these documents and not yet stored them. -/
  | fetching (held : List Document)

namespace Task

/-- The document of the list is still to be stored. -/
def Saves : Task → ListId → Prop
  | .loading list, k => k = list
  | .saving found, k => k = found.id
  | _, _ => False

/-- The document of the list is still to be removed. -/
def Removes : Task → ListId → Prop
  | .removing list, k => k = list
  | _, _ => False

/-- The documents that have been made and not yet stored. -/
def held : Task → List Document
  | .saving found => [Document.ofList found]
  | .fetching held => held
  | _ => []

/-- A worker, by its place in the pipeline, in this phase is at this task. -/
inductive At : Nat → Phase Call.interface → Task → Prop where
  | idle (place : Nat) : At place .idle .free
  | ended (place : Nat) (event : Envelope) (result : Except ProjectionFault Unit) :
    At place (.processing event (.done result)) .free
  | counting (event : Envelope) (rest : Job (Except ProjectionFault Unit)) (tallies : Tallies rest) :
    At 0 (.processing event rest) .counting
  | loading (event : Envelope) (list : ListId) :
    At 1 (.processing event (Projection.indexList list)) (.loading list)
  | saving (event : Envelope) (found : ItemList) :
    At 1 (.processing event
      (Attempt.saveDocuments [Document.ofList found] .search : Projection Unit)) (.saving found)
  | removing (event : Envelope) (list : ListId) :
    At 2 (.processing event (Projection.removeList list)) (.removing list)
  | fetching (event : Envelope) (rest : Job (Except ProjectionFault Unit)) (held : List Document)
      (fetches : Fetches (fun _ _ => True) held rest) :
    At 3 (.processing event rest) (.fetching held)

/-- The task with which a worker begins to handle an event. -/
def begun : Nat → Envelope → Task
  | 0, _ => .counting
  | 1, event => event.payload.list?.elim .free .loading
  | 2, event => event.payload.list?.elim .free .removing
  | 3, _ => .fetching []
  | _, _ => .free

theorem at_begun {batch place : Nat} {handler : Handler Call.interface} {topics : List Topic}
    {id : ChannelId} (there : (Pipeline.crew batch)[place]? = some ⟨handler, topics, id, .idle⟩)
    (event : Envelope) :
    place = id ∧ id < 4 ∧ At place (.processing event (handler.handle event)) (begun place event) := by
  match place with
  | 0 =>
    cases there
    exact ⟨rfl, by decide, .counting event _ (tallies_itemCount event)⟩
  | 1 =>
    cases there
    refine ⟨rfl, by decide, ?_⟩
    cases about : event.payload.list? with
    | none =>
      simp only [searchIndex, listOf, begun, about]
      exact .ended 1 event _
    | some list =>
      simp only [searchIndex, listOf, begun, about]
      exact .loading event list
  | 2 =>
    cases there
    refine ⟨rfl, by decide, ?_⟩
    cases about : event.payload.list? with
    | none =>
      simp only [searchDeindex, listOf, begun, about]
      exact .ended 2 event _
    | some list =>
      simp only [searchDeindex, listOf, begun, about]
      exact .removing event list
  | 3 =>
    cases there
    exact ⟨rfl, by decide, .fetching event _ [] (fetches_searchReindex batch event)⟩
  | place + 4 => cases there

/-- A worker that has read a list then stores its document, or finds the list gone. -/
theorem at_loaded (event : Envelope) (list : ListId) (found : Option ItemList) :
    ∃ next meanwhile, indexList list = .call (.store (.loadList list)) next meanwhile ∧
      At 1 (.processing event (next (.ok found))) (found.elim .free .saving) := by
  refine ⟨_, _, rfl, ?_⟩
  cases found with
  | none => exact .ended 1 event _
  | some found => exact .saving event found

end Task

end ListKeeper
