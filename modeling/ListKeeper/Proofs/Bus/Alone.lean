import ListKeeper.Proofs.Bus.Lane

namespace ListKeeper.Bus

/-- What the receiver of a channel finds when it looks. -/
def answersBy (bus : Bus) (id : ChannelId) : Action → List Received
  | .recv channel => if channel = id then [(bus.recv channel).1] else []
  | _ => []

/-- What the receiver of a channel finds in a run, look for look. -/
def answers (bus : Bus) (id : ChannelId) : List Action → List Received
  | [] => []
  | action :: rest => bus.answersBy id action ++ (bus.act action).answers id rest

/-- What is left of an action without the other channels. There is only one drain task then. -/
def ownPart (bus : Bus) (id : ChannelId) : Action → List Action
  | .subscribe topic channel => if channel = id then [.subscribe topic channel] else []
  | .publish canSpawn envelope => [.publish canSpawn envelope]
  | .recv channel => if channel = id then [.recv channel] else []
  | .drain index => if bus.tasks[index]?.map DrainTask.channel = some id then [.drain 0] else []
  | .close channel => if channel = id then [.close channel] else []

/-- What is left of a run without the other channels. -/
def alone (bus : Bus) (id : ChannelId) : List Action → List Action
  | [] => []
  | action :: rest => bus.ownPart id action ++ (bus.act action).alone id rest

/-- Whenever one of these copies for a channel asks for a permit, fewer envelopes wait than the
limit. -/
def SparesCopies (bus : Bus) (limit : Nat) (id : ChannelId) (canSpawn : Bool)
    (envelope : Envelope) : List Registration → Prop
  | [] => True
  | entry :: rest =>
    (entry.channel = id ∧ bus.NeedsPermit id → bus.waiting < limit) ∧
      (bus.offer canSpawn entry envelope).2.SparesCopies limit id canSpawn envelope rest

/-- Whenever a copy for a channel asks for a permit in a run, fewer envelopes wait than the limit. -/
def Spares (bus : Bus) (limit : Nat) (id : ChannelId) : List Action → Prop
  | [] => True
  | .publish canSpawn envelope :: rest =>
    bus.SparesCopies limit id canSpawn envelope (bus.registry envelope.topic) ∧
      (bus.act (.publish canSpawn envelope)).Spares limit id rest
  | action :: rest => (bus.act action).Spares limit id rest

instance decidableSparesCopies (bus : Bus) (limit : Nat) (id : ChannelId) (canSpawn : Bool)
    (envelope : Envelope) (entries : List Registration) :
    Decidable (bus.SparesCopies limit id canSpawn envelope entries) :=
  match entries with
  | [] => inferInstanceAs (Decidable True)
  | entry :: rest =>
    have := decidableSparesCopies (bus.offer canSpawn entry envelope).2 limit id canSpawn envelope rest
    inferInstanceAs (Decidable (_ ∧ _))

instance decidableSpares (bus : Bus) (limit : Nat) (id : ChannelId) (actions : List Action) :
    Decidable (bus.Spares limit id actions) :=
  match actions with
  | [] => inferInstanceAs (Decidable True)
  | .publish canSpawn envelope :: rest =>
    have := decidableSpares (bus.act (.publish canSpawn envelope)) limit id rest
    inferInstanceAs (Decidable (_ ∧ _))
  | .subscribe topic channel :: rest => decidableSpares (bus.act (.subscribe topic channel)) limit id rest
  | .recv channel :: rest => decidableSpares (bus.act (.recv channel)) limit id rest
  | .drain index :: rest => decidableSpares (bus.act (.drain index)) limit id rest
  | .close channel :: rest => decidableSpares (bus.act (.close channel)) limit id rest

/-- One bus has of another what concerns a channel, and nothing else. -/
structure Lone (limit : Nat) (id : ChannelId) (bus lone : Bus) : Prop where
  sound : bus.Sound
  total : bus.permits + bus.waiting = limit
  sound' : lone.Sound
  total' : lone.permits + lone.waiting = limit
  lane : lone.lane id = bus.lane id
  hasHandle : lone.hasHandle = bus.hasHandle
  /-- Nothing else is registered. -/
  only : ∀ topic, ∀ entry ∈ lone.registry topic, entry.channel = id
  /-- It is registered as often. -/
  count : ∀ topic, (lone.registry topic).countP (fun entry => entry.channel = id) =
    (bus.registry topic).countP fun entry => entry.channel = id

theorem answers_append (bus : Bus) (id : ChannelId) (first second : List Action) :
    bus.answers id (first ++ second) = bus.answers id first ++ (bus.run first).answers id second := by
  induction first generalizing bus with
  | nil => rfl
  | cons action rest ih =>
    rw [List.cons_append, answers, answers, ih, List.append_assoc]
    rfl

section

variable {limit : Nat} {id : ChannelId} {bus lone : Bus}

theorem Lone.task (same : Lone limit id bus lone) : ∀ task ∈ lone.tasks, task.channel = id := by
  intro task member
  obtain ⟨topic, registered⟩ := same.sound'.registered task member
  exact same.only topic _ registered

/-- All that waits on the lone bus waits for the channel, and on the other bus no less does. -/
theorem Lone.waiting_le (same : Lone limit id bus lone) : lone.waiting ≤ bus.waiting := by
  have own := same.sound'.waiting_eq_permitsOf same.task
  have share := same.sound.permitsOf_le_waiting id
  have lanes : lone.permitsOf id = bus.permitsOf id := by
    rw [← permits_lane, same.lane, permits_lane]
  omega

theorem Lone.served (same : Lone limit id bus lone) : lone.Served id ↔ bus.Served id := by
  have lanes := congrArg Lane.served same.lane
  exact decide_eq_decide.mp lanes

theorem Lone.offer_other (same : Lone limit id bus lone) {topic : Topic} {entry : Registration}
    (registered : entry ∈ bus.registry topic) (other : id ≠ entry.channel) (canSpawn : Bool)
    (envelope : Envelope) : Lone limit id (bus.offer canSpawn entry envelope).2 lone := by
  have effect := bus.offer_offered canSpawn entry envelope
  refine { same with
    sound := effect.sound same.sound registered
    total := (effect.permits (same.sound.within topic entry registered)).trans same.total
    lane := same.lane.trans (effect.lane_of_ne same.sound registered other).symm
    hasHandle := same.hasHandle.trans effect.hasHandle.symm
    count := ?_ }
  rw [effect.registry]
  exact same.count

theorem Lone.offer_own (same : Lone limit id bus lone) {topic : Topic} {entry entry' : Registration}
    (registered : entry ∈ bus.registry topic) (own : entry.channel = id)
    (registered' : entry' ∈ lone.registry topic) (spares : bus.NeedsPermit id → bus.waiting < limit)
    (canSpawn : Bool) (envelope : Envelope) :
    Lone limit id (bus.offer canSpawn entry envelope).2 (lone.offer canSpawn entry' envelope).2 := by
  have effect := bus.offer_offered canSpawn entry envelope
  have effect' := lone.offer_offered canSpawn entry' envelope
  have own' := same.only topic entry' registered'
  have total := same.total
  have total' := same.total'
  have fewer := same.waiting_le
  have free : bus.NeedsPermit entry.channel → bus.permits ≠ 0 := by
    rw [own]
    intro needs
    have room := spares needs
    omega
  have free' : lone.NeedsPermit entry'.channel → lone.permits ≠ 0 := by
    rw [own', ← needsPermit_lane, same.lane, needsPermit_lane]
    intro needs
    have room := spares needs
    omega
  have lane := effect.lane same.sound registered free
  have lane' := effect'.lane same.sound' registered' free'
  rw [own] at lane
  rw [own', same.lane] at lane'
  refine {
    sound := effect.sound same.sound registered
    total := (effect.permits (same.sound.within topic entry registered)).trans total
    sound' := effect'.sound same.sound' registered'
    total' := (effect'.permits (same.sound'.within topic entry' registered')).trans total'
    lane := lane'.trans lane.symm
    hasHandle := ?_
    only := ?_
    count := ?_ }
  · rw [effect.hasHandle, effect'.hasHandle, same.hasHandle]
  · rw [effect'.registry]
    exact same.only
  · rw [effect.registry, effect'.registry]
    exact same.count

/-- The lone bus offers the copies for the channel and no others. -/
theorem Lone.offerAll (same : Lone limit id bus lone) {topic : Topic} {entries own : List Registration}
    (registered : ∀ entry ∈ entries, entry ∈ bus.registry topic)
    (registered' : ∀ entry ∈ own, entry ∈ lone.registry topic)
    (count : own.length = entries.countP fun entry => entry.channel = id) {canSpawn : Bool}
    {envelope : Envelope} (spares : bus.SparesCopies limit id canSpawn envelope entries) :
    Lone limit id (bus.offerAll canSpawn envelope entries).2
      (lone.offerAll canSpawn envelope own).2 := by
  induction entries generalizing bus lone own with
  | nil =>
    have none : own = [] := List.length_eq_zero_iff.mp count
    rw [none]
    exact same
  | cons entry rest ih =>
    obtain ⟨first, later⟩ := spares
    have member := registered entry (List.mem_cons_self ..)
    have others : ∀ other ∈ rest, other ∈ (bus.offer canSpawn entry envelope).2.registry topic := by
      intro other inRest
      rw [(bus.offer_offered canSpawn entry envelope).registry]
      exact registered other (List.mem_cons_of_mem _ inRest)
    rw [offerAll_cons]
    by_cases here : entry.channel = id
    · rw [List.countP_cons_of_pos (by simpa using here)] at count
      obtain ⟨entry', own, rfl⟩ := List.exists_cons_of_length_eq_add_one count
      rw [offerAll_cons]
      have member' := registered' entry' (List.mem_cons_self ..)
      have kept := same.offer_own member here member' (fun needs => first ⟨here, needs⟩) canSpawn envelope
      refine ih kept others ?_ (Nat.succ.inj count) later
      intro other inOwn
      rw [(lone.offer_offered canSpawn entry' envelope).registry]
      exact registered' other (List.mem_cons_of_mem _ inOwn)
    · rw [List.countP_cons_of_neg (by simpa using here)] at count
      exact ih (same.offer_other member (Ne.symm here) canSpawn envelope) others registered' count later

theorem Lone.act_elsewhere (same : Lone limit id bus lone) {action : Action}
    (elsewhere : bus.Elsewhere id action) : Lone limit id (bus.act action) lone := by
  refine { same with
    sound := same.sound.act action
    total := (same.sound.permits_act action).trans same.total
    lane := same.lane.trans (same.sound.lane_act elsewhere).symm
    hasHandle := same.hasHandle.trans (bus.hasHandle_act action).symm
    count := fun topic => ?_ }
  have none : [action].count (.subscribe topic id) = 0 := by
    rw [List.count_eq_zero, List.mem_singleton]
    rintro rfl
    exact elsewhere rfl
  rw [countP_registry_act, none]
  exact same.count topic

/-- Actions that register nothing and do the same for the channel. -/
theorem Lone.act_own (same : Lone limit id bus lone) {action action' : Action}
    (lane : (lone.act action').lane id = (bus.act action).lane id)
    (registry : (bus.act action).registry = bus.registry)
    (registry' : (lone.act action').registry = lone.registry) :
    Lone limit id (bus.act action) (lone.act action') where
  sound := same.sound.act action
  total := (same.sound.permits_act action).trans same.total
  sound' := same.sound'.act action'
  total' := (same.sound'.permits_act action').trans same.total'
  lane := lane
  hasHandle := by rw [hasHandle_act, hasHandle_act, same.hasHandle]
  only := by rw [registry']; exact same.only
  count := by rw [registry, registry']; exact same.count

theorem Lone.subscribe (same : Lone limit id bus lone) (topic : Topic) :
    Lone limit id (bus.act (.subscribe topic id)) (lone.act (.subscribe topic id)) where
  sound := same.sound.subscribe topic id
  total := (same.sound.permits_act (.subscribe topic id)).trans same.total
  sound' := same.sound'.subscribe topic id
  total' := (same.sound'.permits_act (.subscribe topic id)).trans same.total'
  lane := by
    rw [act, act, same.sound.lane_subscribe, same.sound'.lane_subscribe]
    exact same.lane
  hasHandle := by rw [hasHandle_act, hasHandle_act, same.hasHandle]
  only other entry member := by
    rcases (lone.mem_registry_subscribe ..).mp member with old | ⟨_, rfl⟩
    · exact same.only other entry old
    · rfl
  count other := by rw [countP_registry_act, countP_registry_act, same.count other]

/-- The drain task of the channel is the first on the lone bus. -/
theorem Lone.lane_drain {index : Nat} {task : DrainTask} (same : Lone limit task.channel bus lone)
    (at_index : bus.tasks[index]? = some task) :
    (lone.act (.drain 0)).lane task.channel = (bus.act (.drain index)).lane task.channel := by
  have served : bus.Served task.channel := ⟨task, List.mem_of_getElem? at_index, rfl⟩
  obtain ⟨task', member, here⟩ := same.served.mpr served
  obtain ⟨first, others, tasks⟩ := List.exists_cons_of_ne_nil (List.ne_nil_of_mem member)
  have at_zero : lone.tasks[0]? = some first := by
    rw [tasks]
    rfl
  have own := same.task first (List.mem_of_getElem? at_zero)
  have step := (lone.drainStep_drained 0).lane same.sound' at_zero
  rw [own, same.lane] at step
  exact step.trans ((bus.drainStep_drained index).lane same.sound at_index).symm

theorem nothing_elsewhere {action : Action} (elsewhere : bus.Elsewhere id action) :
    bus.ownPart id action = [] ∧ bus.answersBy id action = [] := by
  cases action with
  | subscribe topic channel => exact ⟨if_neg elsewhere, rfl⟩
  | publish canSpawn envelope => exact absurd elsewhere not_false
  | recv channel => exact ⟨if_neg elsewhere, if_neg elsewhere⟩
  | drain index =>
    refine ⟨if_neg fun own => ?_, rfl⟩
    obtain ⟨task, at_index, here⟩ := Option.map_eq_some_iff.mp own
    exact elsewhere task at_index here
  | close channel => exact ⟨if_neg elsewhere, rfl⟩

/-- What an action does for the channel, and what its receiver finds, is the same on the lone bus. -/
theorem Lone.act (same : Lone limit id bus lone) {action : Action}
    (spares : bus.Spares limit id [action]) :
    Lone limit id (bus.act action) (lone.run (bus.ownPart id action)) ∧
      bus.answersBy id action = lone.answers id (bus.ownPart id action) := by
  by_cases elsewhere : bus.Elsewhere id action
  · obtain ⟨part, found⟩ := nothing_elsewhere elsewhere
    rw [part, found]
    exact ⟨same.act_elsewhere elsewhere, rfl⟩
  cases action with
  | subscribe topic channel =>
    obtain rfl : channel = id := not_not.mp elsewhere
    have part : bus.ownPart channel (.subscribe topic channel) = [.subscribe topic channel] :=
      if_pos rfl
    rw [part]
    exact ⟨same.subscribe topic, rfl⟩
  | publish canSpawn envelope =>
    have count : (lone.registry envelope.topic).length =
        (bus.registry envelope.topic).countP fun entry => entry.channel = id := by
      rw [← same.count, eq_comm, List.countP_eq_length]
      intro entry member
      exact decide_eq_true (same.only _ entry member)
    refine ⟨?_, rfl⟩
    exact same.offerAll (fun _ member => member) (fun _ member => member) count spares.1
  | recv channel =>
    obtain rfl : channel = id := not_not.mp elsewhere
    have part : bus.ownPart channel (.recv channel) = [.recv channel] := if_pos rfl
    have effect := bus.recv_handed channel
    have effect' := lone.recv_handed channel
    have lane : (lone.act (.recv channel)).lane channel = (bus.act (.recv channel)).lane channel := by
      rw [act, act, effect.lane, effect'.lane, same.lane]
    have found : (bus.recv channel).1 = (lone.recv channel).1 := by
      rw [effect.answer, effect'.answer, same.lane, same.hasHandle]
    rw [part]
    refine ⟨same.act_own lane effect.registry effect'.registry, ?_⟩
    rw [answers, answers, answersBy, answersBy, found, List.append_nil]
  | drain index =>
    have own : ∃ task, bus.tasks[index]? = some task ∧ task.channel = id := by
      by_contra none
      exact elsewhere fun task at_index here => none ⟨task, at_index, here⟩
    obtain ⟨task, at_index, rfl⟩ := own
    have part : bus.ownPart task.channel (.drain index) = [.drain 0] := by
      rw [ownPart, at_index]
      exact if_pos rfl
    rw [part]
    have effect := bus.drainStep_drained index
    have effect' := lone.drainStep_drained 0
    exact ⟨same.act_own (same.lane_drain at_index) effect.registry effect'.registry, rfl⟩
  | close channel =>
    obtain rfl : channel = id := not_not.mp elsewhere
    have part : bus.ownPart channel (.close channel) = [.close channel] := if_pos rfl
    have lane : (lone.act (.close channel)).lane channel =
        (bus.act (.close channel)).lane channel := by
      rw [act, act, lane_close, lane_close, same.lane]
    rw [part]
    exact ⟨same.act_own lane rfl rfl, rfl⟩

theorem Spares.head {action : Action} {rest : List Action} (spares : bus.Spares limit id (action :: rest)) :
    bus.Spares limit id [action] ∧ (bus.act action).Spares limit id rest := by
  cases action with
  | publish => exact ⟨⟨spares.1, trivial⟩, spares.2⟩
  | subscribe => exact ⟨trivial, spares⟩
  | recv => exact ⟨trivial, spares⟩
  | drain => exact ⟨trivial, spares⟩
  | close => exact ⟨trivial, spares⟩

theorem Lone.run (same : Lone limit id bus lone) {actions : List Action}
    (spares : bus.Spares limit id actions) :
    Lone limit id (bus.run actions) (lone.run (bus.alone id actions)) ∧
      bus.answers id actions = lone.answers id (bus.alone id actions) := by
  induction actions generalizing bus lone with
  | nil => exact ⟨same, rfl⟩
  | cons action rest ih =>
    obtain ⟨first, later⟩ := spares.head
    obtain ⟨same', found⟩ := same.act first
    obtain ⟨same'', found'⟩ := ih same' later
    rw [alone, run_append, answers_append, answers, found, found']
    exact ⟨same'', rfl⟩

theorem Lone.dropHandle (same : Lone limit id bus lone) :
    Lone limit id bus.dropHandle lone.dropHandle :=
  { same with
    sound := same.sound.congr rfl rfl rfl
    sound' := same.sound'.congr rfl rfl rfl
    hasHandle := rfl }

theorem lane_withChannels (maxInflight : Nat) (capacities : List Nat) (id : ChannelId) :
    (withChannels maxInflight capacities).lane id =
      ⟨(withChannels maxInflight capacities).channel id, false, [], []⟩ := by
  rw [withChannels_eq]
  rfl

/-- New buses with the same channel, whatever the others are. -/
theorem lone_withChannels {maxInflight : Nat} {capacities capacities' : List Nat}
    (channel : (withChannels maxInflight capacities').channel id =
      (withChannels maxInflight capacities).channel id) :
    Lone (Bus.limit maxInflight) id (withChannels maxInflight capacities)
      (withChannels maxInflight capacities') where
  sound := sound_withChannels maxInflight capacities
  total := permits_withChannels maxInflight capacities
  sound' := sound_withChannels maxInflight capacities'
  total' := permits_withChannels maxInflight capacities'
  lane := by rw [lane_withChannels, lane_withChannels, channel]
  hasHandle := by rw [withChannels_eq, withChannels_eq]
  only topic entry member := by
    rw [withChannels_eq] at member
    cases member
  count topic := by rw [withChannels_eq, withChannels_eq]

/-- In any run of a new bus in which, whenever a copy for a channel needs a permit, fewer envelopes
wait than the limit, the receiver of the channel finds look for look what it finds in the run that
is left without the other channels. This goes on after nobody can publish any more. So two runs
that differ in the other channels only, in how many they are, how large, and what is done with
them, are the same for the receiver. -/
theorem answers_alone (maxInflight : Nat) (capacities : List Nat) (actions : List Action)
    (id : ChannelId)
    (spares : (withChannels maxInflight capacities).Spares (Bus.limit maxInflight) id actions) :
    let start := withChannels maxInflight capacities
    let ended := (start.run actions).dropHandle
    let lone := (start.run (start.alone id actions)).dropHandle
    start.answers id actions = start.answers id (start.alone id actions) ∧
      (∀ later, ended.Spares (Bus.limit maxInflight) id later →
        ended.answers id later = lone.answers id (ended.alone id later)) ∧
      ∀ capacities' actions',
        let start' := withChannels maxInflight capacities'
        start'.channel id = start.channel id →
          start'.Spares (Bus.limit maxInflight) id actions' →
          start'.alone id actions' = start.alone id actions →
          start'.answers id actions' = start.answers id actions := by
  intro start ended lone
  have same : Lone (Bus.limit maxInflight) id start start := lone_withChannels rfl
  obtain ⟨after, found⟩ := same.run spares
  refine ⟨found, fun later spares' => (after.dropHandle.run spares').2, ?_⟩
  intro capacities' actions' start' channel spares' left
  have same' : Lone (Bus.limit maxInflight) id start' start := lone_withChannels channel.symm
  rw [(same'.run spares').2, left, found]

/-- Of three channels with one slot each the first is stalled, with two envelopes waiting, and the
second is closed. A third envelope may wait, and the receiver of the third channel, which is late
itself, does not notice the others. -/
theorem answers_alone_beside_stalled :
    let start := withChannels 3 [1, 1, 1]
    let event (number : Int32) : Envelope := ⟨.listUpdated, .list ⟨number⟩⟩
    let actions : List Action := [.subscribe .listUpdated 0, .subscribe .listUpdated 1,
      .subscribe .listUpdated 2, .publish true (event 1), .recv 2, .recv 2, .close 1,
      .publish true (event 2), .drain 0, .publish true (event 3), .drain 1, .recv 2, .drain 1,
      .recv 2]
    start.Spares (Bus.limit 3) 2 actions ∧
      start.alone 2 actions = [.subscribe .listUpdated 2, .publish true (event 1), .recv 2, .recv 2,
        .publish true (event 2), .publish true (event 3), .drain 0, .recv 2, .drain 0, .recv 2] ∧
      start.answers 2 actions =
        [.envelope (event 1), .empty, .envelope (event 2), .envelope (event 3)] := by
  intro start event actions
  have spares : start.Spares (Bus.limit 3) 2 actions := by decide
  refine ⟨spares, by decide, ?_⟩
  exact (answers_alone 3 [1, 1, 1] actions 2 spares).1.trans (by decide)

end

end ListKeeper.Bus
