import ListKeeper.Proofs.Pipeline.Wired

namespace ListKeeper

/-- A bus on which nothing has been published yet, with its channels and registrations so far. -/
structure Bus.Opening (bus : Bus) (count : Nat) (heard : Topic → List ChannelId) : Prop where
  sound : bus.Sound
  registry : ∀ topic, (bus.registry topic).map Registration.channel = heard topic
  length : bus.channels.length = count
  opened : ∀ id < count, (bus.channel id).isOpen = true
  handle : bus.hasHandle = true
  quiet : ∀ id, bus.inTransit id = []

namespace Bus

theorem opening_new (maxInflight : Nat) : (Bus.new maxInflight).Opening 0 fun _ => [] :=
  ⟨sound_new maxInflight, fun _ => rfl, rfl, fun _ inside => absurd inside (Nat.not_lt_zero _), rfl,
    fun _ => rfl⟩

variable {bus : Bus} {count : Nat} {heard : Topic → List ChannelId}

theorem Opening.openChannel (opening : bus.Opening count heard) (capacity : Nat) :
    (bus.openChannel capacity).2.Opening (count + 1) heard where
  sound := opening.sound.congr rfl rfl rfl
  registry := opening.registry
  length := by
    rw [← opening.length]
    exact List.length_append
  opened id inside := by
    rw [channel_openChannel]
    split
    · rfl
    next other =>
      rw [opening.length] at other
      exact opening.opened id (Nat.lt_of_le_of_ne (Nat.le_of_lt_succ inside) other)
  handle := opening.handle
  quiet id := by
    have before := opening.quiet id
    simp only [inTransit, List.append_eq_nil_iff] at before ⊢
    refine ⟨⟨?_, before.1.2⟩, before.2⟩
    rw [channel_openChannel]
    split
    · rfl
    · exact before.1.1

theorem Opening.subscribe (opening : bus.Opening count heard) (topic : Topic) (id : ChannelId) :
    (bus.subscribe topic id).Opening count fun other =>
      heard other ++ if other = topic then [id] else [] := by
  obtain ⟨channels, _, handle⟩ := bus.subscribe_frame topic id
  refine ⟨opening.sound.subscribe topic id, fun other => ?_, ?_, fun other inside => ?_, ?_,
    fun other => ?_⟩
  · rw [registry_subscribe, List.map_append, opening.registry]
    split <;> rfl
  · rw [channels, opening.length]
  · rw [channel, channels]
    exact opening.opened other inside
  · rw [handle, opening.handle]
  · rw [opening.sound.inTransit_subscribe, opening.quiet]

theorem Opening.congr {heard' : Topic → List ChannelId} (opening : bus.Opening count heard)
    (same : ∀ topic, heard topic = heard' topic) : bus.Opening count heard' :=
  funext same ▸ opening

theorem Opening.subscribeAll (opening : bus.Opening count heard) (topics : List Topic)
    (id : ChannelId) :
    (topics.foldl (fun bus topic => bus.subscribe topic id) bus).Opening count fun other =>
      heard other ++ List.replicate (topics.count other) id := by
  induction topics generalizing bus heard with
  | nil => simpa using opening
  | cons topic rest ih =>
    refine (ih (opening.subscribe topic id)).congr fun other => ?_
    rw [List.append_assoc, List.count_cons]
    by_cases here : other = topic
    · subst here
      rw [if_pos rfl, BEq.rfl, if_pos rfl, List.replicate_succ]
      rfl
    · rw [if_neg here, if_neg (by simpa using Ne.symm here)]
      rfl

end Bus

namespace Pipeline

/-- The workers for some handlers, all of them idle, with their channels counted from `first`. -/
def workersFrom : (first : ChannelId) → List (Handler Call.interface × List Topic) →
    List (Worker Call.interface)
  | _, [] => []
  | first, (handler, topics) :: rest =>
    ⟨handler, topics, first, .idle⟩ :: workersFrom (first + 1) rest

/-- The channels that hear a topic when some handlers have theirs counted from `first`. -/
def heardFrom (topic : Topic) : (first : ChannelId) → List (Handler Call.interface × List Topic) →
    List ChannelId
  | _, [] => []
  | first, (_, topics) :: rest =>
    List.replicate (topics.count topic) first ++ heardFrom topic (first + 1) rest

variable {bus after : Bus} {count capacity : Nat} {heard : Topic → List ChannelId}

theorem startAll_opening {handlers : List (Handler Call.interface × List Topic)}
    {workers : List (Worker Call.interface)} (opening : bus.Opening count heard)
    (started : startAll? capacity handlers bus = some (workers, after)) :
    workers = workersFrom count handlers ∧
      after.Opening (count + handlers.length) fun topic =>
        heard topic ++ heardFrom topic count handlers := by
  induction handlers generalizing bus count heard workers with
  | nil =>
    obtain ⟨rfl, rfl⟩ := Prod.mk.inj (Option.some.inj started)
    exact ⟨rfl, opening.congr fun topic => (List.append_nil _).symm⟩
  | cons entry rest ih =>
    obtain ⟨handler, topics⟩ := entry
    rw [startAll?, Worker.start?] at started
    obtain ⟨⟨worker, middle⟩, first, started⟩ := Option.bind_eq_some_iff.mp started
    obtain ⟨⟨others, final⟩, later, started⟩ := Option.bind_eq_some_iff.mp started
    obtain ⟨rfl, rfl⟩ := Prod.mk.inj (Option.some.inj started)
    obtain ⟨slots, _, first⟩ := Option.map_eq_some_iff.mp first
    obtain ⟨rfl, rfl⟩ := Prod.mk.inj first
    obtain rfl := opening.length
    obtain ⟨rfl, opened⟩ := ih ((opening.openChannel slots).subscribeAll topics _) later
    refine ⟨rfl, ?_⟩
    rw [List.length_cons, Nat.add_comm rest.length, ← Nat.add_assoc]
    exact opened.congr fun topic => List.append_assoc ..

/-- The workers of a pipeline, all of them idle. -/
def crew (batch : Nat) : List (Worker Call.interface) :=
  workersFrom 0 (handlers batch)

theorem heardFrom_handlers (batch : Nat) (topic : Topic) :
    heardFrom topic 0 (handlers batch) = audience topic := by
  cases topic <;> rfl

/-- A pipeline starts wired, with its workers idle and nothing published. -/
theorem start_wired {settings : Settings} {maxInflight : Nat}
    {workers : List (Worker Call.interface)}
    (started : start? settings (Bus.new maxInflight) = some (workers, bus)) :
    workers = crew settings.reindexBatch ∧ Wired bus ∧ ∀ id, bus.inTransit id = [] := by
  obtain ⟨rfl, opening⟩ := startAll_opening (Bus.opening_new maxInflight) started
  refine ⟨rfl, ⟨opening.sound, fun topic => ?_, opening.opened, opening.handle⟩, opening.quiet⟩
  rw [opening.registry, List.nil_append, heardFrom_handlers]

end Pipeline

end ListKeeper
