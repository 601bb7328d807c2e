import ListKeeper.Proofs.Bus.Permits

namespace ListKeeper

/-- A channel with its drain task and its backlog. -/
structure Lane where
  channel : Channel
  served : Bool
  held : List Envelope
  queued : List Envelope
  deriving DecidableEq

namespace Lane

/-- Takes a copy, which gets a permit if it needs one. -/
def offer (canSpawn : Bool) (envelope : Envelope) (lane : Lane) : Lane :=
  if lane.served then { lane with queued := lane.queued ++ [envelope] }
  else if !lane.channel.isOpen then lane
  else if lane.channel.hasRoom then
    { lane with channel := { lane.channel with slots := lane.channel.slots ++ [envelope] } }
  else if canSpawn then { lane with served := true, queued := lane.queued ++ [envelope] }
  else lane

/-- What a receiver finds. -/
def answer (hasHandle : Bool) (lane : Lane) : Received :=
  if !lane.channel.isOpen then .closed
  else
    match lane.channel.slots with
    | envelope :: _ => .envelope envelope
    | [] => if hasHandle || lane.served then .empty else .disconnected

/-- Loses the envelope that a receiver finds. -/
def recv (lane : Lane) : Lane :=
  if !lane.channel.isOpen then lane
  else
    match lane.channel.slots with
    | _ :: rest => { lane with channel := { lane.channel with slots := rest } }
    | [] => lane

/-- One step of the drain task. -/
def drain (lane : Lane) : Lane :=
  match lane.held with
  | [] =>
    match lane.queued with
    | [] => { lane with served := false }
    | envelope :: rest => { lane with held := [envelope], queued := rest }
  | envelope :: _ =>
    if !lane.channel.isOpen then { lane with served := false, held := [], queued := [] }
    else if lane.channel.hasRoom then
      { lane with
        channel := { lane.channel with slots := lane.channel.slots ++ [envelope] }
        held := [] }
    else lane

def close (lane : Lane) : Lane :=
  { lane with channel := { lane.channel with slots := [], isOpen := false } }

/-- The permits that the envelopes of a lane have. -/
def permits (lane : Lane) : Nat :=
  lane.held.length + lane.queued.length

/-- A copy for this lane cannot go straight into the channel, nor be skipped. -/
def NeedsPermit (lane : Lane) : Prop :=
  lane.served = true ∨ lane.channel.isOpen = true ∧ lane.channel.hasRoom = false

end Lane

namespace Bus

def lane (bus : Bus) (id : ChannelId) : Lane where
  channel := bus.channel id
  served := decide (bus.Served id)
  held := bus.held id
  queued := bus.queued id

section

variable {bus : Bus} {id : ChannelId}

theorem lane_eq {lane : Lane} (channel : bus.channel id = lane.channel)
    (served : bus.Served id ↔ lane.served = true) (held : bus.held id = lane.held)
    (queued : bus.queued id = lane.queued) : bus.lane id = lane := by
  have decided : decide (bus.Served id) = lane.served := by
    rw [Bool.eq_iff_iff, decide_eq_true_iff]
    exact served
  rw [Bus.lane, channel, decided, held, queued]

theorem needsPermit_lane : (bus.lane id).NeedsPermit ↔ bus.NeedsPermit id := by
  rw [Lane.NeedsPermit, NeedsPermit, lane, decide_eq_true_iff]

theorem permits_lane : (bus.lane id).permits = bus.permitsOf id := rfl

theorem served_startDrain (entry : Registration) :
    (bus.startDrain entry).Served id ↔ bus.Served id ∨ id = entry.channel := by
  have tasks : (bus.startDrain entry).tasks = bus.tasks ++ [⟨entry.channel, entry.backlog, none⟩] := rfl
  rw [Served, tasks]
  constructor
  · rintro ⟨task, member, rfl⟩
    rcases List.mem_append.mp member with old | new
    · exact Or.inl ⟨task, old, rfl⟩
    · rw [List.mem_singleton.mp new]
      exact Or.inr rfl
  · rintro (⟨task, old, rfl⟩ | rfl)
    · exact ⟨task, List.mem_append_left _ old, rfl⟩
    · exact ⟨_, List.mem_append_right _ (List.mem_singleton_self _), rfl⟩

theorem served_setTask {index : Nat} {task : DrainTask} (at_index : bus.tasks[index]? = some task)
    (held : Option Envelope) :
    Served { bus with tasks := bus.tasks.set index { task with held } } id ↔ bus.Served id := by
  have channels : (bus.tasks.set index { task with held }).map DrainTask.channel =
      bus.tasks.map DrainTask.channel := by
    have at_map : (bus.tasks.map DrainTask.channel)[index]? = some task.channel := by
      rw [List.getElem?_map, at_index]
      rfl
    obtain ⟨inside, value⟩ := List.getElem?_eq_some_iff.mp at_map
    rw [List.map_set, ← value, List.set_getElem_self]
  rw [Served, Served, ← List.mem_map, channels, List.mem_map]

theorem Sound.served_endDrain (sound : bus.Sound) {index : Nat} {task : DrainTask}
    (at_index : bus.tasks[index]? = some task) (released : Nat) :
    (bus.endDrain index task released).Served id ↔ bus.Served id ∧ id ≠ task.channel := by
  have tasks : (bus.endDrain index task released).tasks = bus.tasks.eraseIdx index := rfl
  have once : bus.tasks.Nodup := List.Nodup.of_map _ sound.single
  rw [Served, tasks]
  constructor
  · rintro ⟨other, member, rfl⟩
    obtain ⟨i, different, at_i⟩ := List.mem_eraseIdx_iff_getElem?.mp member
    have old := List.mem_of_getElem? at_i
    refine ⟨⟨other, old, rfl⟩, fun same => different ?_⟩
    have equal := sound.task_unique (List.mem_of_getElem? at_index) old same
    have bound := (List.getElem?_eq_some_iff.mp at_i).1
    refine (List.getElem?_inj bound once).mp ?_
    rw [at_i, at_index, equal]
  · rintro ⟨⟨other, old, rfl⟩, different⟩
    obtain ⟨i, at_i⟩ := List.mem_iff_getElem?.mp old
    refine ⟨other, List.mem_eraseIdx_iff_getElem?.mpr ⟨i, ?_, at_i⟩, rfl⟩
    rintro rfl
    rw [at_index] at at_i
    rw [Option.some.inj at_i] at different
    exact different rfl

theorem lane_modifyChannel_of_ne {other : ChannelId} (different : id ≠ other)
    (change : Channel → Channel) : (bus.modifyChannel other change).lane id = bus.lane id := by
  have elsewhere : (bus.modifyChannel other change).channel id = bus.channel id := by
    rw [channel_modifyChannel, if_neg fun both => different both.1]
  exact lane_eq elsewhere decide_eq_true_iff.symm rfl rfl

theorem lane_modifyChannel (inside : id < bus.channels.length) (change : Channel → Channel) :
    (bus.modifyChannel id change).lane id =
      { bus.lane id with channel := change (bus.channel id) } := by
  have changed : (bus.modifyChannel id change).channel id = change (bus.channel id) := by
    rw [channel_modifyChannel, if_pos ⟨rfl, inside⟩]
  exact lane_eq changed decide_eq_true_iff.symm rfl rfl

theorem Sound.lane_modifyBacklog_of_ne (sound : bus.Sound) {topic : Topic} {entry : Registration}
    (registered : entry ∈ bus.registry topic) (different : id ≠ entry.channel)
    (change : Backlog → Backlog) : (bus.modifyBacklog entry.backlog change).lane id = bus.lane id := by
  have queued := sound.queued_modifyBacklog registered change id
  rw [if_neg different] at queued
  exact lane_eq rfl decide_eq_true_iff.symm rfl queued

theorem Sound.lane_modifyBacklog (sound : bus.Sound) {topic : Topic} {entry : Registration}
    (registered : entry ∈ bus.registry topic) (change : Backlog → Backlog) :
    (bus.modifyBacklog entry.backlog change).lane entry.channel =
      { bus.lane entry.channel with queued := (change (bus.backlog entry.backlog)).queue } := by
  have queued := sound.queued_modifyBacklog registered change entry.channel
  rw [if_pos rfl] at queued
  exact lane_eq rfl decide_eq_true_iff.symm rfl queued

theorem Offered.lane_of_ne {after : Bus} {canSpawn : Bool} {entry : Registration}
    {envelope : Envelope} {offer : Offer}
    (effect : Offered bus canSpawn entry envelope offer after) (sound : bus.Sound) {topic : Topic}
    (registered : entry ∈ bus.registry topic) (different : id ≠ entry.channel) :
    after.lane id = bus.lane id := by
  cases effect with
  | delivered => exact lane_modifyChannel_of_ne different _
  | skipped => rfl
  | queued => exact sound.lane_modifyBacklog_of_ne registered different _
  | started idle =>
    have served : (bus.startDrain entry).Served id ↔ (bus.lane id).served = true := by
      rw [served_startDrain, or_iff_left different]
      exact decide_eq_true_iff.symm
    have started : (bus.startDrain entry).lane id = bus.lane id :=
      lane_eq rfl served (held_startDrain entry id) (sound.queued_startDrain registered id)
    have still := sound.startDrain registered idle
    exact (still.lane_modifyBacklog_of_ne registered different _).trans started
  | dropped => rfl

/-- Whatever else is on the bus, a copy does the same to its lane. -/
theorem Offered.lane {after : Bus} {canSpawn : Bool} {entry : Registration}
    {envelope : Envelope} {offer : Offer}
    (effect : Offered bus canSpawn entry envelope offer after) (sound : bus.Sound) {topic : Topic}
    (registered : entry ∈ bus.registry topic)
    (free : bus.NeedsPermit entry.channel → bus.permits ≠ 0) :
    after.lane entry.channel = (bus.lane entry.channel).offer canSpawn envelope := by
  have served := sound.draining_iff_served registered
  have unserved (idle : (bus.backlog entry.backlog).draining = false) : ¬bus.Served entry.channel := by
    rw [← served, idle]
    exact Bool.false_ne_true
  have longer (bus : Bus) (sound : bus.Sound) (registered : entry ∈ bus.registry topic) :
      (bus.enqueue entry envelope).lane entry.channel =
        { bus.lane entry.channel with queued := bus.queued entry.channel ++ [envelope] } := by
    rw [sound.queued_eq registered]
    exact sound.lane_modifyBacklog registered _
  cases effect with
  | delivered idle opened room =>
    have taken : (bus.lane entry.channel).offer canSpawn envelope =
        { bus.lane entry.channel with channel := { bus.channel entry.channel with
          slots := (bus.channel entry.channel).slots ++ [envelope] } } := by
      simp [Lane.offer, Bus.lane, unserved idle, opened, room]
    rw [taken]
    exact lane_modifyChannel (lt_of_isOpen opened) _
  | skipped idle closed => simp [Lane.offer, Bus.lane, unserved idle, closed]
  | queued draining =>
    rw [longer bus sound registered]
    simp [Lane.offer, Bus.lane, served.mp draining]
  | started idle opened full _ spawn =>
    have busy : (bus.startDrain entry).Served entry.channel := (served_startDrain entry).mpr (Or.inr rfl)
    have queued := sound.queued_startDrain registered entry.channel
    have held : (bus.startDrain entry).held entry.channel = bus.held entry.channel :=
      held_startDrain entry entry.channel
    have channel : (bus.startDrain entry).channel entry.channel = bus.channel entry.channel := rfl
    rw [longer _ (sound.startDrain registered idle) registered, queued]
    simp [Lane.offer, Bus.lane, unserved idle, opened, full, spawn, busy, held, channel]
  | dropped reason total needs spent =>
    rw [served] at needs
    rcases spent with none | ⟨idle, spawn⟩
    · exact absurd none (free needs)
    · obtain ⟨opened, full⟩ := needs.resolve_left (unserved idle)
      have same : Bus.lane { bus with dropped := bus.dropped + 1 } entry.channel =
          bus.lane entry.channel := rfl
      rw [same]
      simp [Lane.offer, Bus.lane, unserved idle, opened, full, spawn]

/-- What a receiver finds depends on its lane alone. -/
theorem Handed.answer {after : Bus} {found : Received} (effect : Handed bus id found after) :
    found = (bus.lane id).answer bus.hasHandle := by
  have sender : bus.hasSender id = (bus.hasHandle || (bus.lane id).served) := by
    rw [hasSender, Bus.lane]
    congr 1
    rw [Bool.eq_iff_iff, List.any_eq_true, decide_eq_true_iff]
    simp only [beq_iff_eq, Served]
  cases effect with
  | envelope envelope rest opened slots => simp [Lane.answer, Bus.lane, opened, slots]
  | empty opened slots some =>
    rw [sender] at some
    have channel : (bus.lane id).channel = bus.channel id := rfl
    simp [Lane.answer, channel, opened, slots, some]
  | disconnected opened slots none =>
    rw [sender] at none
    have channel : (bus.lane id).channel = bus.channel id := rfl
    simp [Lane.answer, channel, opened, slots, none]
  | closed closed => simp [Lane.answer, Bus.lane, closed]

theorem Handed.lane {after : Bus} {found : Received} (effect : Handed bus id found after) :
    after.lane id = (bus.lane id).recv := by
  cases effect with
  | envelope envelope rest opened slots =>
    have taken : (bus.lane id).recv =
        { bus.lane id with channel := { bus.channel id with slots := rest } } := by
      simp [Lane.recv, Bus.lane, opened, slots]
    rw [taken]
    exact lane_modifyChannel (lt_of_isOpen opened) _
  | empty opened slots => simp [Lane.recv, Bus.lane, opened, slots]
  | disconnected opened slots => simp [Lane.recv, Bus.lane, opened, slots]
  | closed closed => simp [Lane.recv, Bus.lane, closed]

theorem Handed.lane_of_ne {after : Bus} {other : ChannelId} {found : Received}
    (effect : Handed bus other found after) (different : id ≠ other) :
    after.lane id = bus.lane id := by
  cases effect with
  | envelope => exact lane_modifyChannel_of_ne different _
  | empty => rfl
  | disconnected => rfl
  | closed => rfl

theorem lane_close : (bus.close id).lane id = (bus.lane id).close := by
  refine lane_eq ?_ decide_eq_true_iff.symm rfl rfl
  rw [Bus.close, channel_modifyChannel]
  by_cases inside : id < bus.channels.length
  · rw [if_pos ⟨rfl, inside⟩]
    rfl
  · have absent : bus.channel id = ⟨0, [], false⟩ := by
      rw [channel, List.getD_eq_default _ _ (Nat.le_of_not_lt inside)]
    rw [if_neg fun both => inside both.2, absent, Lane.close, lane, absent]

theorem Drained.lane_of_ne {after : Bus} {index : Nat} {outcome : DrainOutcome}
    (effect : Drained bus index outcome after) (sound : bus.Sound)
    (other : ∀ task, bus.tasks[index]? = some task → id ≠ task.channel) :
    after.lane id = bus.lane id := by
  have ended {task : DrainTask} (at_index : bus.tasks[index]? = some task) (released : Nat) :
      (bus.endDrain index task released).lane id = bus.lane id := by
    have different := other task at_index
    have served : (bus.endDrain index task released).Served id ↔ (bus.lane id).served = true := by
      rw [sound.served_endDrain at_index, and_iff_left different]
      exact decide_eq_true_iff.symm
    have queued := sound.queued_endDrain at_index released id
    rw [if_neg different] at queued
    exact lane_eq rfl served (held_endDrain at_index released (Or.inr different.symm)) queued
  have changed {task : DrainTask} (at_index : bus.tasks[index]? = some task)
      (held : Option Envelope) :
      Bus.lane { bus with tasks := bus.tasks.set index { task with held } } id = bus.lane id := by
    have inHands := sound.held_setTask at_index held id
    rw [if_neg (other task at_index)] at inHands
    exact lane_eq rfl ((served_setTask at_index held).trans decide_eq_true_iff.symm) inHands rfl
  cases effect with
  | absent => rfl
  | emptied task at_index => exact ended at_index 0
  | taken task envelope rest at_index =>
    obtain ⟨topic, registered⟩ := sound.registered task (List.mem_of_getElem? at_index)
    have still := sound.setTask at_index (some envelope)
    refine Eq.trans ?_ (changed at_index (some envelope))
    exact still.lane_modifyBacklog_of_ne registered (other task at_index) _
  | discarded task envelope at_index => exact ended at_index _
  | placed task envelope at_index =>
    exact (lane_modifyChannel_of_ne (other task at_index) _).trans (changed at_index none)
  | waiting => rfl

/-- A step of a drain task depends on its lane alone. -/
theorem Drained.lane {after : Bus} {index : Nat} {outcome : DrainOutcome}
    (effect : Drained bus index outcome after) (sound : bus.Sound) {task : DrainTask}
    (at_index : bus.tasks[index]? = some task) :
    after.lane task.channel = (bus.lane task.channel).drain := by
  have member := List.mem_of_getElem? at_index
  obtain ⟨topic, registered⟩ := sound.registered task member
  have held : (bus.lane task.channel).held = task.held.toList := sound.held_eq member
  have queued : (bus.lane task.channel).queued = (bus.backlog task.backlog).queue :=
    sound.queued_eq registered
  have channel : (bus.lane task.channel).channel = bus.channel task.channel := rfl
  have ended (released : Nat) : (bus.endDrain index task released).lane task.channel =
      { bus.lane task.channel with served := false, held := [], queued := [] } := by
    have unserved : ¬(bus.endDrain index task released).Served task.channel := by
      rw [sound.served_endDrain at_index]
      exact fun both => both.2 rfl
    obtain ⟨none, empty⟩ := (sound.endDrain at_index released).nothing_of_not_served unserved
    exact lane_eq rfl (iff_of_false unserved Bool.false_ne_true) none empty
  have changed (held : Option Envelope) :
      Bus.lane { bus with tasks := bus.tasks.set index { task with held } } task.channel =
        { bus.lane task.channel with held := held.toList } := by
    have inHands := sound.held_setTask at_index held task.channel
    rw [if_pos rfl] at inHands
    exact lane_eq rfl ((served_setTask at_index held).trans decide_eq_true_iff.symm) inHands rfl
  unfold Lane.drain
  cases effect with
  | absent none => rw [at_index] at none; cases none
  | emptied task' at_index' unheld empty =>
    obtain rfl : task = task' := Option.some.inj (at_index.symm.trans at_index')
    rw [held, unheld, queued, empty, ended]
    rfl
  | taken task' envelope rest at_index' unheld queue =>
    obtain rfl : task = task' := Option.some.inj (at_index.symm.trans at_index')
    rw [held, unheld, queued, queue]
    have still := sound.setTask at_index (some envelope)
    refine (still.lane_modifyBacklog registered _).trans ?_
    rw [changed]
    rfl
  | discarded task' envelope at_index' inHands closed =>
    obtain rfl : task = task' := Option.some.inj (at_index.symm.trans at_index')
    rw [held, inHands, channel, closed]
    exact ended _
  | placed task' envelope at_index' inHands opened room =>
    obtain rfl : task = task' := Option.some.inj (at_index.symm.trans at_index')
    rw [held, inHands, channel, opened, room]
    let emptied : Bus :=
      { bus with
        tasks := bus.tasks.set index { task with held := none }
        permits := bus.permits + 1 }
    have inside : task.channel < emptied.channels.length := lt_of_isOpen opened
    have before : emptied.lane task.channel = { bus.lane task.channel with held := [] } := changed none
    have placed := lane_modifyChannel inside fun channel =>
      { channel with slots := channel.slots ++ [envelope] }
    rw [before] at placed
    exact placed
  | waiting task' envelope at_index' inHands opened full =>
    obtain rfl : task = task' := Option.some.inj (at_index.symm.trans at_index')
    rw [held, inHands, channel, opened, full]
    rfl

theorem Sound.lane_subscribe (sound : bus.Sound) (topic : Topic) (channel : ChannelId) :
    (bus.subscribe topic channel).lane id = bus.lane id := by
  obtain ⟨channels, tasks, _⟩ := bus.subscribe_frame topic channel
  refine lane_eq ?_ ?_ ?_ (sound.queued_subscribe topic channel id)
  · rw [Bus.channel, channels]
    rfl
  · rw [Served, tasks]
    exact decide_eq_true_iff.symm
  · rw [held, tasks]
    rfl

/-- What an action does, it does for other channels. -/
def Elsewhere (bus : Bus) (id : ChannelId) : Action → Prop
  | .subscribe _ channel => channel ≠ id
  | .publish .. => False
  | .recv channel => channel ≠ id
  | .drain index => ∀ task, bus.tasks[index]? = some task → task.channel ≠ id
  | .close channel => channel ≠ id

theorem Sound.lane_act (sound : bus.Sound) {action : Action} (elsewhere : bus.Elsewhere id action) :
    (bus.act action).lane id = bus.lane id := by
  cases action with
  | subscribe topic channel => exact sound.lane_subscribe topic channel
  | publish canSpawn envelope => exact absurd elsewhere not_false
  | recv channel => exact (bus.recv_handed channel).lane_of_ne (Ne.symm elsewhere)
  | drain index =>
    exact (bus.drainStep_drained index).lane_of_ne sound fun task at_index =>
      (elsewhere task at_index).symm
  | close channel => exact lane_modifyChannel_of_ne (Ne.symm elsewhere) _

/-- The end of a drain task takes away what waits for its channel and nothing else. -/
theorem Sound.waiting_endDrain_add (sound : bus.Sound) {index : Nat} {task : DrainTask}
    (at_index : bus.tasks[index]? = some task) :
    (bus.endDrain index task 0).waiting + bus.permitsOf task.channel = bus.waiting := by
  have member := List.mem_of_getElem? at_index
  obtain ⟨topic, registered⟩ := sound.registered task member
  have fewer := waiting_endDrain at_index (sound.within topic _ registered) 0
  have held := sound.held_eq member
  have queued : bus.queued task.channel = (bus.backlog task.backlog).queue :=
    sound.queued_eq registered
  rw [permitsOf, held, queued]
  omega

theorem Sound.permitsOf_eq_zero (sound : bus.Sound) (unserved : ¬bus.Served id) :
    bus.permitsOf id = 0 := by
  obtain ⟨unheld, empty⟩ := sound.nothing_of_not_served unserved
  rw [permitsOf, unheld, empty]
  rfl

theorem Sound.permitsOf_le_waiting (sound : bus.Sound) (id : ChannelId) :
    bus.permitsOf id ≤ bus.waiting := by
  by_cases served : bus.Served id
  · obtain ⟨task, member, rfl⟩ := served
    obtain ⟨index, at_index⟩ := List.mem_iff_getElem?.mp member
    have total := sound.waiting_endDrain_add at_index
    omega
  · have none := sound.permitsOf_eq_zero served
    omega

theorem Sound.waiting_eq_zero (sound : bus.Sound) (none : bus.tasks = []) : bus.waiting = 0 := by
  have queues : bus.backlogs.flatMap Backlog.queue = [] := by
    rw [List.flatMap_eq_nil_iff]
    intro backlog member
    obtain ⟨id, at_id⟩ := List.mem_iff_getElem?.mp member
    have here : bus.backlog id = backlog := by
      rw [Bus.backlog, List.getD_eq_getElem?_getD, at_id]
      rfl
    rw [← here]
    refine sound.idle id (Bool.eq_false_iff.mpr fun draining => ?_)
    obtain ⟨task, some, _⟩ := (sound.draining_iff id).mp draining
    rw [none] at some
    cases some
  rw [waiting, queues, none]
  rfl

/-- When all drain tasks feed one channel, all that waits does so for this channel. -/
theorem Sound.waiting_eq_permitsOf (sound : bus.Sound) (only : ∀ task ∈ bus.tasks, task.channel = id) :
    bus.waiting = bus.permitsOf id := by
  by_cases served : bus.Served id
  · obtain ⟨task, member, rfl⟩ := served
    obtain ⟨index, at_index⟩ := List.mem_iff_getElem?.mp member
    have total := sound.waiting_endDrain_add at_index
    have none : (bus.endDrain index task 0).tasks = [] := by
      rw [List.eq_nil_iff_forall_not_mem]
      intro other left
      have apart := ((sound.served_endDrain at_index 0).mp ⟨other, left, rfl⟩).2
      exact apart (only other (List.mem_of_mem_eraseIdx left))
    have zero := (sound.endDrain at_index 0).waiting_eq_zero none
    omega
  · have none : bus.tasks = [] := by
      rw [List.eq_nil_iff_forall_not_mem]
      exact fun task member => served ⟨task, member, only task member⟩
    rw [sound.waiting_eq_zero none, sound.permitsOf_eq_zero served]

end

end Bus

end ListKeeper
