import ListKeeper.Proofs.Shift.Basic

namespace ListKeeper

/-- The index follows the store, given the lists of which events are still to reach each worker, and
the tasks that the workers are at. What the worker for single lists is about to store need not be
current: then it has another event about the list to come. -/
structure Projected (store : Store) (index : Index) (out : ChannelId → ListId → Prop)
    (tasks : Nat → Task) (crossings : Crossings) : Prop where
  mirrors : Mirrors store index
    (fun k => (out 1 k ∨ (tasks 1).Saves k) ∨ Document.keyOf k ∈ crossings.outdated)
    (fun k => (out 2 k ∨ (tasks 2).Removes k) ∨ Document.keyOf k ∈ crossings.stranded)
  saving : ∀ document ∈ (tasks 1).held, document.Fresh store (out 1)
    (fun k => (out 2 k ∨ (tasks 2).Removes k) ∨ Document.keyOf k ∈ crossings.stranded)
  fetched : ∀ document ∈ (tasks 3).held, document.Fresh store
    (fun k => (out 1 k ∨ (tasks 1).Saves k) ∨ Document.keyOf k ∈ crossings.overtaken)
    (fun k => (out 2 k ∨ (tasks 2).Removes k) ∨ Document.keyOf k ∈ crossings.stranded)

namespace Projected

variable {store after : Store} {index : Index} {out out' : ChannelId → ListId → Prop}
  {tasks tasks' : Nat → Task} {crossings : Crossings}

/-- What changes in the store is announced. -/
theorem change {events : List Envelope} (projected : Projected store index out tasks crossings)
    (sound : store.Sound) (unwrapped : store.Unwrapped after)
    (announced : store.Announced after events)
    (told : Pipeline.Told events (out 1) (out 2) (out' 1) (out' 2)) :
    Projected after index out' tasks crossings := by
  have removes := (told.orRemoves (tasks 2).Removes).orRemoves
    fun k => Document.keyOf k ∈ crossings.stranded
  have saves (keys : List String) :=
    (removes.orSaves (tasks 1).Saves).orSaves fun k => Document.keyOf k ∈ keys
  exact ⟨projected.mirrors.change sound.numbered unwrapped announced (saves _),
    fun document member => (projected.saving document member).change announced removes,
    fun document member => (projected.fetched document member).change announced (saves _)⟩

theorem recount (projected : Projected store index out tasks crossings) {now : Timestamp}
    {list : ListId} {count : Int32} :
    Projected (store.perform now (.setItemCount list count)).2 index out tasks crossings :=
  ⟨projected.mirrors.recount, fun document member => (projected.saving document member).recount,
    fun document member => (projected.fetched document member).recount⟩

/-- Events move from one place to another, tasks are begun, and lists are read. -/
theorem retask (projected : Projected store index out tasks crossings)
    (saved : ∀ k, out 1 k ∨ (tasks 1).Saves k →
      (out' 1 k ∨ (tasks' 1).Saves k) ∨ store.lists.get? k = none)
    (removed : ∀ k, out 2 k ∨ (tasks 2).Removes k ↔ out' 2 k ∨ (tasks' 2).Removes k)
    (saving : ∀ document ∈ (tasks' 1).held, document.Fresh store (out' 1)
      (fun k => (out 2 k ∨ (tasks 2).Removes k) ∨ Document.keyOf k ∈ crossings.stranded))
    (fetched : ∀ document ∈ (tasks' 3).held, document.Fresh store
      (fun k => (out 1 k ∨ (tasks 1).Saves k) ∨ Document.keyOf k ∈ crossings.overtaken)
      (fun k => (out 2 k ∨ (tasks 2).Removes k) ∨ Document.keyOf k ∈ crossings.stranded)) :
    Projected store index out' tasks' crossings := by
  have removes (k) := or_congr_left (c := Document.keyOf k ∈ crossings.stranded) (removed k)
  have saves {keys : List String} (k)
      (due : (out 1 k ∨ (tasks 1).Saves k) ∨ Document.keyOf k ∈ keys) :
      ((out' 1 k ∨ (tasks' 1).Saves k) ∨ Document.keyOf k ∈ keys) ∨ store.lists.get? k = none := by
    rcases due with due | late
    · exact (saved k due).imp_left Or.inl
    · exact Or.inl (Or.inr late)
  refine ⟨projected.mirrors.mono saves removes, fun document member => ?_, fun document member => ?_⟩
  · exact (saving document member).mono (fun k _ due => Or.inl due) fun k _ => (removes k).mp
  · exact (fetched document member).mono (fun k _ => saves k) fun k _ => (removes k).mp

/-- The worker for single lists stores the document of a list that it has read. -/
theorem saveOne (projected : Projected store index out tasks crossings) {found : ItemList}
    {made : List Document} (before : tasks 1 = .saving found) (after : tasks' 1 = .free)
    (others : ∀ place, place ≠ 1 → tasks' place = tasks place) (known : (tasks 3).held ⊆ made) :
    Projected store (index.save [Document.ofList found]) out tasks'
      (crossings.storeSome made [Document.ofList found]) := by
  obtain ⟨mirrors, saving, fetched⟩ := projected
  have removes : (tasks' 2).Removes = (tasks 2).Removes := by rw [others 2 (by decide)]
  have fresh := saving (Document.ofList found) (before ▸ List.mem_singleton_self _)
  refine ⟨?_, fun document member => ?_, fun document member => ?_⟩
  · rw [removes]
    refine mirrors.save (fun document member => ?_) fun k due => ?_
    · rw [List.mem_singleton.mp member]
      exact fresh.mono (fun k _ due => Or.inl (Or.inl (Or.inl due))) fun k _ leaves => leaves
    · by_cases stored : Document.keyOf k = Document.keyOf found.id
      · exact Or.inl ⟨_, List.mem_singleton_self _, stored.symm⟩
      rw [before] at due
      rcases due with (due | rfl) | late
      · exact Or.inr (Or.inl (Or.inl (Or.inl due)))
      · exact absurd rfl stored
      · exact Or.inr (Or.inl (Or.inr (Crossings.mem_outdated_storeSome.mpr
          ⟨late, by simpa [Document.ofList] using stored⟩)))
  · rw [after] at member
    cases member
  · rw [others 3 (by decide)] at member
    rw [removes]
    by_cases same : Document.ofList found = document
    · rw [← same]
      exact fresh.mono (fun k _ due => Or.inl (Or.inl (Or.inl due))) fun k _ leaves => leaves
    -- What the worker for all lists is about to store is from now on overtaken.
    refine (fetched document member).mono (fun k named due => Or.inl ?_) fun k _ leaves => leaves
    rw [before] at due
    rcases due with (due | rfl) | late
    · exact Or.inl (Or.inl due)
    · exact Or.inr (named ▸ Crossings.mem_overtaken_storeSome (known member)
        (List.mem_singleton_self _) named.symm same)
    · exact Or.inr (List.mem_append_left _ late)

/-- The worker for all lists stores documents that it has made. -/
theorem saveMany (projected : Projected store index out tasks crossings) {documents : List Document}
    (known : documents ⊆ (tasks 3).held) (after : tasks' 3 = .fetching [])
    (others : ∀ place, place ≠ 3 → tasks' place = tasks place) :
    Projected store (index.save documents) out tasks' (crossings.storeAll documents) := by
  obtain ⟨mirrors, saving, fetched⟩ := projected
  have one := others 1 (by decide)
  have two := others 2 (by decide)
  refine ⟨?_, fun document member => ?_, fun document member => ?_⟩
  · rw [one, two]
    refine mirrors.save (fun document member => ?_) fun k due => ?_
    · refine (fetched document (known member)).mono (fun k named due => Or.inl ?_)
        fun k _ leaves => leaves
      refine due.imp_right fun late => Crossings.mem_outdated_storeAll.mpr (Or.inr ⟨late, ?_⟩)
      exact named ▸ List.mem_map_of_mem member
    · by_cases stored : Document.keyOf k ∈ documents.map Document.objectId
      · exact Or.inl (List.mem_map.mp stored)
      · exact Or.inr (Or.inl (due.imp_right fun late =>
          Crossings.mem_outdated_storeAll.mpr (Or.inl ⟨late, stored⟩)))
  · rw [one] at member
    rw [two]
    exact saving document member
  · rw [after] at member
    cases member

/-- A worker removes the document of a list. -/
theorem remove (projected : Projected store index out tasks crossings) {list : ListId}
    {made : List Document} (before : tasks 2 = .removing list) (after : tasks' 2 = .free)
    (others : ∀ place, place ≠ 2 → tasks' place = tasks place)
    (known : ∀ place, (tasks place).held ⊆ made) :
    Projected store (index.delete (Document.keyOf list)) out tasks'
      (crossings.remove made (Document.keyOf list)) := by
  obtain ⟨mirrors, saving, fetched⟩ := projected
  have one := others 1 (by decide)
  have three := others 3 (by decide)
  have still (k) (leaves : (out 2 k ∨ (tasks 2).Removes k) ∨ Document.keyOf k ∈ crossings.stranded) :
      ((out 2 k ∨ (tasks' 2).Removes k) ∨
        Document.keyOf k ∈ (crossings.remove made (Document.keyOf list)).stranded) ∨ k = list := by
    rw [before] at leaves
    rcases leaves with (leaves | rfl) | left
    · exact Or.inl (Or.inl (Or.inl leaves))
    · exact Or.inr rfl
    · exact Or.inl (Or.inr (Crossings.mem_stranded_remove.mpr (Or.inl left)))
  -- What a worker is about to store of the list is from now on stranded.
  have left {document} {place k} (held : document ∈ (tasks place).held)
      (named : document.objectId = Document.keyOf k)
      (leaves : (out 2 k ∨ (tasks 2).Removes k) ∨ Document.keyOf k ∈ crossings.stranded) :
      (out 2 k ∨ (tasks' 2).Removes k) ∨
        Document.keyOf k ∈ (crossings.remove made (Document.keyOf list)).stranded := by
    refine (still k leaves).elim id fun same => Or.inr (Crossings.mem_stranded_remove.mpr (Or.inr ?_))
    exact ⟨named ▸ List.mem_map_of_mem (known place held), congrArg Document.keyOf same⟩
  refine ⟨?_, fun document member => ?_, fun document member => ?_⟩
  · rw [one]
    refine mirrors.remove (Or.inl (Or.inr (before ▸ rfl))) still fun k leaves => ?_
    rw [after] at leaves
    rcases leaves with (leaves | gone) | left
    · exact Or.inl (Or.inl leaves)
    · exact gone.elim
    · rcases Crossings.mem_stranded_remove.mp left with before' | ⟨_, same⟩
      · exact Or.inr before'
      · exact Or.inl (Or.inr (before ▸ Document.keyOf_injective same))
  · rw [one] at member
    exact (saving document member).mono (fun k _ due => Or.inl due) fun k => left member
  · rw [three] at member
    rw [one]
    exact (fetched document member).mono (fun k _ due => Or.inl due) fun k => left member

end Projected

end ListKeeper
