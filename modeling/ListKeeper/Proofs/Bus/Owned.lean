import ListKeeper.Proofs.Bus.Lane

namespace ListKeeper

namespace Bus

/-- Somebody who has neither end of a channel can do this. -/
def Action.IsForeign (id : ChannelId) : Action → Prop
  | .subscribe _ channel => channel ≠ id
  | .recv channel => channel ≠ id
  | .close channel => channel ≠ id
  | .publish .. => True
  | .drain _ => True

instance decidableIsForeign (id : ChannelId) (action : Action) : Decidable (action.IsForeign id) :=
  match action with
  | .subscribe _ channel => inferInstanceAs (Decidable (channel ≠ id))
  | .recv channel => inferInstanceAs (Decidable (channel ≠ id))
  | .close channel => inferInstanceAs (Decidable (channel ≠ id))
  | .publish .. => inferInstanceAs (Decidable True)
  | .drain _ => inferInstanceAs (Decidable True)

def Action.publication? : Action → Option Envelope
  | .publish _ envelope => some envelope
  | _ => none

/-- Somebody has the receiver of a channel, which can hold something. -/
structure Tended (id : ChannelId) (bus : Bus) : Prop where
  sound : bus.Sound
  isOpen : (bus.channel id).isOpen = true
  capacity : 0 < (bus.channel id).capacity

/-- The owner of a channel has registered it for these topics and has the receiver. -/
structure Owned (topics : List Topic) (id : ChannelId) (bus : Bus) : Prop where
  sound : bus.Sound
  isOpen : (bus.channel id).isOpen = true
  capacity : 0 < (bus.channel id).capacity
  hasHandle : bus.hasHandle = true
  count : ∀ topic, (bus.registry topic).countP (fun entry => entry.channel = id) = topics.count topic

section

variable {bus after : Bus} {id : ChannelId} {topics : List Topic} {action : Action}

theorem capacities_modifyChannel (bus : Bus) (id : ChannelId) {change : Channel → Channel}
    (same : ∀ channel, (change channel).capacity = channel.capacity) :
    (bus.modifyChannel id change).channels.map Channel.capacity =
      bus.channels.map Channel.capacity := by
  refine List.ext_getElem? fun other => ?_
  rw [modifyChannel, List.getElem?_map, List.getElem?_map, List.getElem?_modify]
  cases bus.channels[other]? with
  | none => rfl
  | some channel =>
    have kept : (if id = other then change channel else channel).capacity = channel.capacity := by
      split
      · exact same channel
      · rfl
    simpa using kept

theorem Offered.capacities {canSpawn : Bool} {entry : Registration} {envelope : Envelope}
    {offer : Offer} (effect : Offered bus canSpawn entry envelope offer after) :
    after.channels.map Channel.capacity = bus.channels.map Channel.capacity := by
  cases effect with
  | delivered => exact bus.capacities_modifyChannel entry.channel fun _ => rfl
  | _ => rfl

theorem Handed.capacities {found : Received} (effect : Handed bus id found after) :
    after.channels.map Channel.capacity = bus.channels.map Channel.capacity := by
  cases effect with
  | envelope => exact bus.capacities_modifyChannel id fun _ => rfl
  | _ => rfl

theorem Drained.capacities {index : Nat} {outcome : DrainOutcome}
    (effect : Drained bus index outcome after) :
    after.channels.map Channel.capacity = bus.channels.map Channel.capacity := by
  cases effect with
  | placed task => exact capacities_modifyChannel _ task.channel fun _ => rfl
  | _ => rfl

theorem capacities_offerAll (bus : Bus) (canSpawn : Bool) (envelope : Envelope)
    (entries : List Registration) :
    (bus.offerAll canSpawn envelope entries).2.channels.map Channel.capacity =
      bus.channels.map Channel.capacity := by
  induction entries generalizing bus with
  | nil => rfl
  | cons entry rest ih =>
    have first := (bus.offer_offered canSpawn entry envelope).capacities
    rw [offerAll_cons, ih, first]

theorem capacities_act (bus : Bus) (action : Action) :
    (bus.act action).channels.map Channel.capacity = bus.channels.map Channel.capacity := by
  cases action with
  | subscribe topic channel =>
    have frame := (bus.subscribe_frame topic channel).1
    rw [act, frame]
  | publish canSpawn envelope => exact bus.capacities_offerAll canSpawn envelope _
  | recv channel => exact (bus.recv_handed channel).capacities
  | drain index => exact (bus.drainStep_drained index).capacities
  | close channel => exact bus.capacities_modifyChannel channel fun _ => rfl

theorem capacity_act (bus : Bus) (action : Action) (id : ChannelId) :
    ((bus.act action).channel id).capacity = (bus.channel id).capacity := by
  have lookup (bus : Bus) : (bus.channel id).capacity = (bus.channels.map Channel.capacity).getD id 0 := by
    rw [channel, List.getD_eq_getElem?_getD, List.getD_eq_getElem?_getD, List.getElem?_map]
    cases bus.channels[id]? <;> rfl
  rw [lookup, lookup, capacities_act]

theorem length_channels_run (bus : Bus) (actions : List Action) :
    (bus.run actions).channels.length = bus.channels.length := by
  induction actions generalizing bus with
  | nil => rfl
  | cons action rest ih =>
    have first := congrArg List.length (bus.capacities_act action)
    rw [List.length_map, List.length_map] at first
    exact (ih (bus.act action)).trans first

theorem isOpen_act (opened : (bus.channel id).isOpen = true) (kept : action ≠ .close id) :
    ((bus.act action).channel id).isOpen = true := by
  cases action with
  | subscribe topic channel =>
    have frame := (bus.subscribe_frame topic channel).1
    rw [act, Bus.channel, frame]
    exact opened
  | publish canSpawn envelope =>
    rw [act, publish, (bus.offerAll_frame canSpawn envelope _).2]
    exact opened
  | recv channel =>
    rw [act, (bus.recv_handed channel).isOpen]
    exact opened
  | drain index =>
    rw [act, (bus.drainStep_drained index).isOpen]
    exact opened
  | close channel =>
    have different : id ≠ channel := fun same => kept (same ▸ rfl)
    rw [act, close, channel_modifyChannel, if_neg fun both => different both.1]
    exact opened

theorem Tended.act (tended : bus.Tended id) (kept : action ≠ .close id) :
    (bus.act action).Tended id := by
  refine ⟨tended.sound.act action, isOpen_act tended.isOpen kept, ?_⟩
  rw [capacity_act]
  exact tended.capacity

theorem Owned.tended (owned : bus.Owned topics id) : bus.Tended id :=
  ⟨owned.sound, owned.isOpen, owned.capacity⟩

theorem Owned.act (owned : bus.Owned topics id) (fits : action.IsForeign id ∨ action = .recv id) :
    (bus.act action).Owned topics id := by
  have kept : action ≠ .close id := by
    rintro rfl
    rcases fits with foreign | own
    · exact foreign rfl
    · cases own
  have unregistered (topic : Topic) : [action].count (.subscribe topic id) = 0 := by
    rw [List.count_eq_zero, List.mem_singleton]
    rintro rfl
    rcases fits with foreign | own
    · exact foreign rfl
    · cases own
  obtain ⟨sound, opened, capacity⟩ := owned.tended.act kept
  refine ⟨sound, opened, capacity, ?_, fun topic => ?_⟩
  · rw [hasHandle_act]
    exact owned.hasHandle
  · rw [countP_registry_act, unregistered, Nat.add_zero]
    exact owned.count topic

theorem Owned.run (owned : bus.Owned topics id) {actions : List Action}
    (fit : ∀ action ∈ actions, action.IsForeign id ∨ action = .recv id) :
    (bus.run actions).Owned topics id := by
  induction actions generalizing bus with
  | nil => exact owned
  | cons action rest ih =>
    have first := owned.act (fit action (List.mem_cons_self ..))
    exact ih first fun other member => fit other (List.mem_cons_of_mem _ member)

theorem Owned.recv_empty (owned : bus.Owned topics id) (slots : (bus.channel id).slots = []) :
    bus.recv id = (.empty, bus) := by
  simp [Bus.recv, hasSender, owned.isOpen, owned.hasHandle, slots]

theorem Owned.recv_next (owned : bus.Owned topics id) {envelope : Envelope} {rest : List Envelope}
    (slots : (bus.channel id).slots = envelope :: rest) :
    bus.recv id = (.envelope envelope, bus.modifyChannel id fun channel =>
      { channel with slots := rest }) := by
  simp [Bus.recv, owned.isOpen, slots]

/-- A run offers the channel a copy of each publication for each registration. -/
theorem Owned.forChannel_offered (owned : bus.Owned topics id) {actions : List Action}
    (fit : ∀ action ∈ actions, action.IsForeign id ∨ action = .recv id) :
    (Copy.forChannel id (bus.offered actions)).map Copy.envelope =
      (actions.filterMap Action.publication?).flatMap fun envelope =>
        List.replicate (topics.count envelope.topic) envelope := by
  induction actions generalizing bus with
  | nil => rfl
  | cons action rest ih =>
    have first := owned.act (fit action (List.mem_cons_self ..))
    have later := ih first fun other member => fit other (List.mem_cons_of_mem _ member)
    rw [offered, Copy.forChannel_append, List.map_append, later]
    cases action with
    | publish canSpawn envelope => rw [offeredBy, forChannel_copies, owned.count]; rfl
    | _ => rfl

/-- If none of them is dropped, the owner receives these copies in their order, behind what was on
its way before. -/
theorem Owned.received_run (owned : bus.Owned topics id) {actions : List Action}
    (fit : ∀ action ∈ actions, action.IsForeign id ∨ action = .recv id)
    (undropped : Copy.drops (Copy.forChannel id (bus.offered actions)) = 0) :
    bus.received id actions ++ (bus.run actions).inTransit id =
      bus.inTransit id ++ (actions.filterMap Action.publication?).flatMap fun envelope =>
        List.replicate (topics.count envelope.topic) envelope := by
  have balance := owned.sound.inTransit_run (owned.run fit).isOpen
  rw [Copy.kept_of_drops undropped, owned.forChannel_offered fit] at balance
  exact balance.symm

theorem countP_registry_run (bus : Bus) (actions : List Action) (topic : Topic) (id : ChannelId) :
    ((bus.run actions).registry topic).countP (fun entry => entry.channel = id) =
      (bus.registry topic).countP (fun entry => entry.channel = id) +
        actions.count (.subscribe topic id) := by
  induction actions generalizing bus with
  | nil => rfl
  | cons action rest ih =>
    have first := bus.countP_registry_act action topic id
    have later := ih (bus.act action)
    have counts : (action :: rest).count (.subscribe topic id) =
        [action].count (.subscribe topic id) + rest.count (.subscribe topic id) := by
      rw [← List.singleton_append, List.count_append]
    rw [first] at later
    rw [counts, ← Nat.add_assoc]
    exact later

theorem hasHandle_run (bus : Bus) (actions : List Action) :
    (bus.run actions).hasHandle = bus.hasHandle := by
  induction actions generalizing bus with
  | nil => rfl
  | cons action rest ih => exact (ih (bus.act action)).trans (bus.hasHandle_act action)

theorem Owned.subscribe (owned : bus.Owned topics id) (topic : Topic) :
    (bus.subscribe topic id).Owned (topics ++ [topic]) id := by
  obtain ⟨channels, _, handle⟩ := bus.subscribe_frame topic id
  have channel : (bus.subscribe topic id).channel id = bus.channel id := by
    rw [Bus.channel, channels]
    rfl
  refine ⟨owned.sound.subscribe topic id, ?_, ?_, handle.trans owned.hasHandle, fun other => ?_⟩
  · rw [channel]
    exact owned.isOpen
  · rw [channel]
    exact owned.capacity
  · have counted := bus.countP_registry_act (.subscribe topic id) other id
    have once : [Action.subscribe topic id].count (.subscribe other id) = [topic].count other := by
      simp [List.count_singleton]
    rw [owned.count, once] at counted
    rw [List.count_append]
    exact counted

theorem Owned.subscribeAll (owned : bus.Owned topics id) (quiet : bus.inTransit id = [])
    (others : List Topic) :
    (others.foldl (fun bus topic => bus.subscribe topic id) bus).Owned (topics ++ others) id ∧
      (others.foldl (fun bus topic => bus.subscribe topic id) bus).inTransit id = [] := by
  induction others generalizing bus topics with
  | nil =>
    rw [List.append_nil]
    exact ⟨owned, quiet⟩
  | cons topic rest ih =>
    have quiet' : (bus.subscribe topic id).inTransit id = [] := by
      rw [owned.sound.inTransit_subscribe, quiet]
    have later := ih (owned.subscribe topic) quiet'
    rwa [List.append_assoc] at later

/-- Whoever opens a channel and registers it owns it, and nothing is on its way at first. -/
theorem Sound.owned_openChannel (sound : bus.Sound) (handle : bus.hasHandle = true)
    (fresh : ∀ topic, (bus.registry topic).countP (fun entry => entry.channel = bus.channels.length) = 0)
    {capacity : Nat} (positive : 0 < capacity) :
    (bus.openChannel capacity).2.Owned [] bus.channels.length ∧
      (bus.openChannel capacity).2.inTransit bus.channels.length = [] := by
  have still : (bus.openChannel capacity).2.Sound := sound.congr rfl rfl rfl
  have channel : (bus.openChannel capacity).2.channel bus.channels.length = ⟨capacity, [], true⟩ := by
    rw [channel_openChannel, if_pos rfl]
  have unserved : ¬(bus.openChannel capacity).2.Served bus.channels.length := by
    rintro ⟨task, member, here⟩
    obtain ⟨topic, registered⟩ := still.registered task member
    have none := List.countP_eq_zero.mp (fresh topic) _ registered
    simp [here] at none
  obtain ⟨unheld, empty⟩ := still.nothing_of_not_served unserved
  refine ⟨⟨still, ?_, ?_, handle, fun topic => ?_⟩, ?_⟩
  · rw [channel]
  · rw [channel]
    exact positive
  · exact fresh topic
  · rw [inTransit, channel, unheld, empty]
    rfl

end

end Bus

/-- An envelope is taken from the backlog, placed in the channel and received, and at the end the
drain task ends. -/
def Lane.effort (lane : Lane) : Nat :=
  4 * lane.queued.length + 3 * lane.held.length + 2 * lane.channel.slots.length +
    if lane.served then 1 else 0

theorem Lane.effort_recv {lane : Lane} (opened : lane.channel.isOpen = true) {envelope : Envelope}
    {rest : List Envelope} (slots : lane.channel.slots = envelope :: rest) :
    lane.recv.effort + 2 = lane.effort := by
  have length : lane.channel.slots.length = rest.length + 1 := by rw [slots, List.length_cons]
  simp only [recv, opened, slots, effort, Bool.not_true, Bool.false_eq_true, if_false]
  rw [List.length_cons]
  omega

theorem Lane.effort_drain_lt {lane : Lane} (opened : lane.channel.isOpen = true)
    (served : lane.served = true) (able : lane.held = [] ∨ lane.channel.hasRoom = true) :
    lane.drain.effort < lane.effort := by
  obtain ⟨channel, isServed, held, queued⟩ := lane
  dsimp only at opened served able
  subst served
  cases held with
  | nil =>
    cases queued with
    | nil => simp [drain, effort]
    | cons envelope rest =>
      simp only [drain, effort, List.length_cons, List.length_nil]
      omega
  | cons envelope others =>
    have room := able.resolve_left (List.cons_ne_nil _ _)
    simp only [drain, effort, opened, room, Bool.not_true, Bool.false_eq_true, if_false, if_true,
      List.length_append, List.length_cons, List.length_nil]
    omega

namespace Bus

variable {bus : Bus} {id : ChannelId} {topics : List Topic}

/-- The drain task of a channel brings something closer, ends, or waits for room. -/
theorem Tended.drain {task : DrainTask} {index : Nat} (tended : bus.Tended task.channel)
    (at_index : bus.tasks[index]? = some task) :
    bus.act (.drain index) = bus ∧ (bus.channel task.channel).hasRoom = false ∨
      ((bus.act (.drain index)).lane task.channel).effort < (bus.lane task.channel).effort := by
  have member := List.mem_of_getElem? at_index
  have held : (bus.lane task.channel).held = task.held.toList := tended.sound.held_eq member
  have served : (bus.lane task.channel).served = true := decide_eq_true ⟨task, member, rfl⟩
  have effect := bus.drainStep_drained index
  have lane := effect.lane tended.sound at_index
  have closer (able : task.held = none ∨ (bus.channel task.channel).hasRoom = true) :
      ((bus.act (.drain index)).lane task.channel).effort < (bus.lane task.channel).effort := by
    rw [Bus.act, lane]
    refine Lane.effort_drain_lt tended.isOpen served (able.imp_left fun unheld => ?_)
    rw [held, unheld]
    rfl
  cases room : (bus.channel task.channel).hasRoom with
  | true => exact Or.inr (closer (Or.inr room))
  | false =>
    cases inHands : task.held with
    | none => exact Or.inr (closer (Or.inl inHands))
    | some envelope =>
      refine Or.inl ⟨?_, rfl⟩
      rw [Bus.act, drainStep, at_index]
      simp [inHands, tended.isOpen, room]

theorem Owned.drain {task : DrainTask} {index : Nat} (owned : bus.Owned topics task.channel)
    (at_index : bus.tasks[index]? = some task) :
    bus.act (.drain index) = bus ∧ (bus.channel task.channel).hasRoom = false ∨
      ((bus.act (.drain index)).lane task.channel).effort < (bus.lane task.channel).effort :=
  owned.tended.drain at_index

/-- Nothing is on its way any more when the channel is empty and its drain task can do nothing. -/
theorem Owned.quiet (owned : bus.Owned topics id) (empty : (bus.channel id).slots = [])
    (still : ∀ index, (bus.tasks[index]?).map DrainTask.channel = some id →
      bus.act (.drain index) = bus) : bus.inTransit id = [] := by
  have unserved : ¬bus.Served id := by
    rintro ⟨task, member, rfl⟩
    obtain ⟨index, at_index⟩ := List.mem_iff_getElem?.mp member
    have same := still index (by rw [at_index]; rfl)
    -- There is room in an empty channel, so its drain task can go on.
    have positive := owned.capacity
    rcases owned.drain at_index with ⟨_, full⟩ | closer
    · rw [Channel.hasRoom, empty, List.length_nil, decide_eq_false_iff_not] at full
      omega
    · rw [same] at closer
      exact Nat.lt_irrefl _ closer
  obtain ⟨unheld, none⟩ := owned.sound.nothing_of_not_served unserved
  rw [inTransit, empty, unheld, none]
  rfl

end Bus

end ListKeeper
