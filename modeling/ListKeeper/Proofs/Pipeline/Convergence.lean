import ListKeeper.Proofs.Pipeline.Work

namespace ListKeeper

namespace Pipeline

/-- Every projection is current, or an event is on its way that makes it so. -/
structure Following (batch : Nat) (crew : Crew Call.interface Backend) : Prop where
  workers : crew.workers = Pipeline.crew batch
  wired : Wired crew.state.bus
  sound : crew.state.store.Sound
  tracked : Tracked crew.state.store crew.state.index crew.state.bus.inTransit

variable {callback : Callback} {crew : Crew Call.interface Backend} {batch : Nat} {now : Timestamp}

/-- Every worker keeps the projections on track. -/
theorem Following.process (following : Following batch crew) (index : Nat) (now : Timestamp) :
    Following batch (process callback crew index now) := by
  have tracked := following.tracked
  rcases process_handled following.workers following.wired index with
    ⟨_, idle⟩ | ⟨event, bus, store, documents, _, wired, taken, handled, done⟩
  · rw [idle]
    exact following
  rw [done]
  refine ⟨following.workers, wired, handled.sound following.sound, ?_⟩
  cases handled with
  | counted _ list about => exact tracked.count taken about
  | saved =>
    refine tracked.save following.sound taken (by decide) (by decide) fun k names => ?_
    exact (taken.names names).imp_left fun about => by simp [about]
  | removed _ list about => exact tracked.remove taken about
  | rebuilt _ _ ids _ =>
    refine tracked.save following.sound taken (by decide) (by decide) fun k names => ?_
    rw [taken.others 1 (by decide)]
    exact Or.inr names
  | misdirected => exact tracked.congr fun id inside => taken.others id (Nat.ne_of_lt inside)
  | ignored _ _ _ about => exact tracked.ignore taken about

/-- Requests that announce what they change keep the projections on track. -/
theorem Following.request (following : Following batch crew) (request : Request)
    (now : Timestamp)
    (unwrapped : Store.Unwrapped crew.state.store (crew.state.run now request.job).state.store)
    (undropped : (crew.state.run now request.job).state.bus.dropped = crew.state.bus.dropped) :
    Following batch { crew with state := (crew.state.run now request.job).state } := by
  obtain ⟨result, store, events, effect, rfl, index, wired, delivered⟩ :=
    following.wired.request request now undropped
  have announced := effect.announced following.sound.unique unwrapped
  refine ⟨following.workers, wired, effect.sound following.sound unwrapped, ?_⟩
  rw [index]
  exact following.tracked.request following.sound unwrapped announced delivered

theorem Following.act (following : Following batch crew) (step : Step)
    (unwrapped : Store.Unwrapped crew.state.store (Pipeline.act callback crew step).state.store)
    (undropped : (Pipeline.act callback crew step).state.bus.dropped = crew.state.bus.dropped) :
    Following batch (Pipeline.act callback crew step) := by
  cases step with
  | request request now => exact following.request request now unwrapped undropped
  | process index now => exact following.process index now
  | drain task =>
    obtain ⟨wired, transit⟩ := following.wired.drainStep task
    exact ⟨following.workers, wired, following.sound,
      following.tracked.congr fun id inside => transit id (Nat.lt_succ_of_lt inside)⟩

/-- A pipeline that has just been started, over an empty store and an empty index. -/
def fresh (workers : List (Worker Call.interface)) (bus : Bus) : Crew Call.interface Backend :=
  ⟨workers, ⟨.empty, .empty, bus, []⟩⟩

theorem following_fresh {settings : Settings} {maxInflight : Nat}
    {workers : List (Worker Call.interface)} {bus : Bus}
    (started : start? settings (Bus.new maxInflight) = some (workers, bus)) :
    Following settings.reindexBatch (fresh workers bus) := by
  obtain ⟨rfl, wired, quiet⟩ := start_wired started
  refine ⟨rfl, wired, Store.sound_empty, ?_⟩
  have silent {id k} : ¬Names (bus.inTransit id) k := not_names_of_nil (quiet id) k
  refine ⟨⟨fun k list there => ?_, fun key document found => ?_, fun k names => absurd names silent⟩,
    fun k list there => ?_⟩
  · cases there
  · cases found
  · cases there

/-- As long as nothing is dropped and no number wraps around, the projections stay on track. -/
theorem Following.run (following : Following batch crew) (steps : List Step)
    (undropped : ∀ t ≤ steps.length, (Pipeline.run callback crew (steps.take t)).state.bus.dropped = 0)
    (unwrapped : ∀ t < steps.length,
      Store.Unwrapped (Pipeline.run callback crew (steps.take t)).state.store
        (Pipeline.run callback crew (steps.take (t + 1))).state.store) :
    Following batch (Pipeline.run callback crew steps) := by
  refine foldl_keeps (Pipeline.act callback) (Following batch) (fun before after =>
      Store.Unwrapped before.state.store after.state.store ∧
        after.state.bus.dropped = before.state.bus.dropped)
    (fun crew step following fine => following.act step fine.1 fine.2) following steps
    fun t within => ⟨unwrapped t within, ?_⟩
  exact (undropped (t + 1) within).trans (undropped t (Nat.le_of_lt within)).symm

theorem toInt_countOfItems (list : ItemList) :
    list.countOfItems.toInt = min (list.items.length : Int) 2147483647 := by
  unfold ItemList.countOfItems
  split
  next small =>
    rw [Int32.toInt_ofNat', Int32.size, Int.bmod_def]
    omega
  next large =>
    change (2147483647 : Int) = _
    omega

/-- When no event is left, in no channel, no backlog and in the hands of no drain task, each stored
list has the count of its items, up to the largest number, and the index has exactly the documents
of the stored lists. -/
theorem run_converges (settings : Settings) (maxInflight : Nat) (callback : Callback)
    (workers : List (Worker Call.interface)) (bus : Bus)
    (started : start? settings (Bus.new maxInflight) = some (workers, bus)) (steps : List Step)
    (undropped : ∀ t ≤ steps.length,
      (run callback (fresh workers bus) (steps.take t)).state.bus.dropped = 0)
    (unwrapped : ∀ t < steps.length,
      Store.Unwrapped (run callback (fresh workers bus) (steps.take t)).state.store
        (run callback (fresh workers bus) (steps.take (t + 1))).state.store)
    (quiet : (run callback (fresh workers bus) steps).state.bus.pending = 0) :
    let backend := (run callback (fresh workers bus) steps).state
    (∀ id list, backend.store.lists.get? id = some list →
      list.itemCount.toInt = min (list.items.length : Int) 2147483647) ∧
    ∀ key document, backend.index.document? key = some document ↔
      ∃ id list, backend.store.lists.get? id = some list ∧ key = Document.keyOf id ∧
        document = Document.ofList list := by
  intro backend
  have following := (following_fresh started).run steps undropped unwrapped
  obtain ⟨counts, documents⟩ := following.tracked.current (Bus.inTransit_of_pending quiet)
  refine ⟨fun id list there => ?_, documents⟩
  rw [counts id list there, toInt_countOfItems]

/-- A list is created and gets an item. The second event about it has to wait in a backlog. -/
def shopping : List Step :=
  [.request (.createList ⟨1⟩ "groceries") default, .request (.addItem ⟨1⟩ ⟨1⟩ "milk" "") default,
    .process 1 default, .drain 0, .drain 0, .process 0 default, .process 1 default, .drain 0]

theorem isSome_start : (start? ⟨1, 1⟩ (Bus.new 1)).isSome = true := by
  decide +kernel

/-- The smallest pipeline: a single slot in each channel, and a single event that can wait. -/
def smallest : Crew Call.interface Backend :=
  fresh ((start? ⟨1, 1⟩ (Bus.new 1)).get isSome_start).1
    ((start? ⟨1, 1⟩ (Bus.new 1)).get isSome_start).2

theorem run_converges_shopping :
    let backend := (run Callback.logging smallest shopping).state
    backend.bus.pending = 0 ∧ (backend.store.lists.get? ⟨1⟩).isSome ∧
      ∀ key document, backend.index.document? key = some document ↔
        ∃ id list, backend.store.lists.get? id = some list ∧ key = Document.keyOf id ∧
          document = Document.ofList list :=
  ⟨by decide +kernel, by decide +kernel,
    (run_converges ⟨1, 1⟩ 1 Callback.logging _ _ (Option.some_get isSome_start).symm shopping
      (by decide +kernel) (by decide +kernel) (by decide +kernel)).2⟩

end Pipeline

end ListKeeper
