import ListKeeper.Proofs.Bus.Overlap
import ListKeeper.Proofs.Bus.Owned

namespace ListKeeper.Bus

/-- Lets the drain task of a channel run as far as it can, if there is one. -/
def feed (bus : Bus) (id : ChannelId) : Bus :=
  bus.drain (bus.tasks.findIdx fun task => task.channel = id)

/-- Feeds a channel and then receives from it until it is empty. -/
def round (bus : Bus) (id : ChannelId) : List Envelope × Bus :=
  (bus.feed id).recvAll id

/-- What a number of rounds brings, and the bus after them. -/
def rounds (bus : Bus) (id : ChannelId) : Nat → List Envelope × Bus
  | 0 => ([], bus)
  | count + 1 =>
    let (first, bus) := bus.round id
    let (later, bus) := bus.rounds id count
    (first ++ later, bus)

/-- Nothing but the work on one channel has been done between two moments, and it has brought the
given envelopes. -/
structure Onward (id : ChannelId) (bus after : Bus) (received : List Envelope) : Prop where
  tended : after.Tended id
  order : bus.inTransit id = received ++ after.inTransit id
  permits : after.permits + after.permitsOf id = bus.permits + bus.permitsOf id
  others : ∀ other, other ≠ id → after.lane other = bus.lane other
  registry : after.registry = bus.registry
  dropped : after.dropped = bus.dropped

section

variable {bus after : Bus} {id : ChannelId} {received : List Envelope}

theorem Tended.onward_refl (tended : bus.Tended id) : Onward id bus bus [] :=
  ⟨tended, rfl, rfl, fun _ _ => rfl, rfl, rfl⟩

theorem Onward.trans {last : Bus} {later : List Envelope} (first : Onward id bus after received)
    (second : Onward id after last later) : Onward id bus last (received ++ later) where
  tended := second.tended
  order := by rw [first.order, second.order, List.append_assoc]
  permits := second.permits.trans first.permits
  others other different := (second.others other different).trans (first.others other different)
  registry := second.registry.trans first.registry
  dropped := second.dropped.trans first.dropped

/-- An envelope on its way to a channel keeps its permit until it is in the channel. -/
theorem Drained.permits_of_open {index : Nat} {outcome : DrainOutcome} {task : DrainTask}
    (effect : Drained bus index outcome after) (sound : bus.Sound)
    (at_index : bus.tasks[index]? = some task)
    (opened : (bus.channel task.channel).isOpen = true) :
    after.permits + after.permitsOf task.channel = bus.permits + bus.permitsOf task.channel := by
  have member := List.mem_of_getElem? at_index
  have held : (bus.lane task.channel).held = task.held.toList := sound.held_eq member
  obtain ⟨topic, registered⟩ := sound.registered task member
  have queued : (bus.lane task.channel).queued = (bus.backlog task.backlog).queue :=
    sound.queued_eq registered
  have channel : (bus.lane task.channel).channel = bus.channel task.channel := rfl
  have moved : after.permitsOf task.channel = (bus.lane task.channel).drain.permits := by
    rw [← permits_lane, effect.lane sound at_index]
  have before : bus.permitsOf task.channel = (bus.lane task.channel).permits := permits_lane
  unfold Lane.drain Lane.permits at moved
  unfold Lane.permits at before
  cases effect with
  | absent => rfl
  | emptied task' at_index' unheld empty =>
    obtain rfl : task = task' := Option.some.inj (at_index.symm.trans at_index')
    rw [held, unheld, queued, empty] at moved before
    rw [moved, before]
    rfl
  | taken task' envelope rest at_index' unheld queue =>
    obtain rfl : task = task' := Option.some.inj (at_index.symm.trans at_index')
    rw [held, unheld, queued, queue] at moved before
    simp only [Option.toList_none, List.length_nil, List.length_cons] at moved before
    change bus.permits + _ = _
    omega
  | discarded task' envelope at_index' inHands closed =>
    obtain rfl : task = task' := Option.some.inj (at_index.symm.trans at_index')
    rw [opened] at closed
    cases closed
  | placed task' envelope at_index' inHands _ room =>
    obtain rfl : task = task' := Option.some.inj (at_index.symm.trans at_index')
    rw [held, inHands] at moved before
    simp only [channel, opened, room, Option.toList_some, Bool.not_true, Bool.false_eq_true,
      if_false, if_true, List.length_nil, List.length_singleton] at moved before
    change bus.permits + 1 + _ = _
    omega
  | waiting => rfl

theorem Tended.onward_drainStep {index : Nat} {task : DrainTask} (tended : bus.Tended task.channel)
    (at_index : bus.tasks[index]? = some task) :
    Onward task.channel bus (bus.drainStep index).2 [] where
  tended := tended.act (show Bus.Action.drain index ≠ .close _ by simp)
  order := ((bus.drainStep_drained index).inTransit tended.sound tended.isOpen).symm
  permits := (bus.drainStep_drained index).permits_of_open tended.sound at_index tended.isOpen
  others other different := by
    refine (bus.drainStep_drained index).lane_of_ne tended.sound fun task' at_index' => ?_
    rw [at_index] at at_index'
    rw [← Option.some.inj at_index']
    exact different
  registry := (bus.drainStep_drained index).registry
  dropped := (bus.drainStep_drained index).dropped_eq

theorem Tended.onward_recv (tended : bus.Tended id) :
    Onward id bus (bus.recv id).2 (bus.recv id).1.toList where
  tended := tended.act (show Bus.Action.recv id ≠ .close _ by simp)
  order := by
    have order := (bus.recv_handed id).inTransit id
    rwa [if_pos rfl] at order
  permits := by
    have effect := bus.recv_handed id
    have waiting : (bus.recv id).2.permitsOf id = bus.permitsOf id := by
      rw [← permits_lane, effect.lane, ← permits_lane]
      unfold Lane.recv
      split
      · rfl
      · split <;> rfl
    have free : (bus.recv id).2.permits = bus.permits := by
      generalize bus.recv id = step at effect
      obtain ⟨found, after⟩ := step
      cases effect <;> rfl
    rw [waiting, free]
  others other different := (bus.recv_handed id).lane_of_ne different
  registry := (bus.recv_handed id).registry
  dropped := (bus.recv_handed id).dropped_eq

/-- Twice as many steps as there are envelopes left are enough for a drain task to end or to wait. -/
theorem Tended.drainSteps {index fuel : Nat} {task : DrainTask} (tended : bus.Tended task.channel)
    (at_index : bus.tasks[index]? = some task)
    (enough : 2 * (bus.backlog task.backlog).queue.length + task.held.toList.length < fuel) :
    Onward task.channel bus (bus.drainSteps index fuel) [] ∧
      ∀ other ∈ (bus.drainSteps index fuel).tasks, other.channel = task.channel →
        (bus.drainSteps index fuel).Waits other := by
  induction fuel generalizing bus task with
  | zero => omega
  | succ fuel ih =>
    have effect := bus.drainStep_drained index
    have onward := tended.onward_drainStep at_index
    have inside := (List.getElem?_eq_some_iff.mp at_index).1
    obtain ⟨topic, registered⟩ := tended.sound.registered task (List.mem_of_getElem? at_index)
    have exists_backlog : task.backlog < bus.backlogs.length := tended.sound.within topic _ registered
    rw [Bus.drainSteps]
    generalize bus.drainStep index = step at effect onward
    obtain ⟨outcome, after⟩ := step
    dsimp only at effect onward
    have ended (released : Nat) (same : after = bus.endDrain index task released) :
        ∀ other ∈ after.tasks, other.channel = task.channel → after.Waits other := by
      intro other member here
      have served : (bus.endDrain index task released).Served task.channel :=
        ⟨other, same ▸ member, here⟩
      exact absurd rfl ((tended.sound.served_endDrain at_index released).mp served).2
    cases effect with
    | absent none => rw [at_index] at none; cases none
    | emptied task' at_index' =>
      obtain rfl : task = task' := Option.some.inj (at_index.symm.trans at_index')
      exact ⟨onward, ended 0 rfl⟩
    | taken task' envelope rest at_index' unheld queue =>
      obtain rfl : task = task' := Option.some.inj (at_index.symm.trans at_index')
      rw [unheld, queue, Option.toList_none, List.length_nil, List.length_cons] at enough
      obtain ⟨later, still⟩ := @ih _ { task with held := some envelope } onward.tended
        (List.getElem?_set_self inside) (by
          rw [backlog_modifyBacklog, if_pos ⟨rfl, exists_backlog⟩, Option.toList_some,
            List.length_singleton]
          dsimp only
          omega)
      exact ⟨onward.trans later, still⟩
    | discarded task' envelope at_index' =>
      obtain rfl : task = task' := Option.some.inj (at_index.symm.trans at_index')
      exact ⟨onward, ended _ rfl⟩
    | placed task' envelope at_index' inHands =>
      obtain rfl : task = task' := Option.some.inj (at_index.symm.trans at_index')
      rw [inHands, Option.toList_some, List.length_singleton] at enough
      obtain ⟨later, still⟩ := @ih _ { task with held := none } onward.tended
        (List.getElem?_set_self inside) (by
          change 2 * (bus.backlog task.backlog).queue.length + 0 < fuel
          omega)
      exact ⟨onward.trans later, still⟩
    | waiting task' envelope at_index' inHands opened full =>
      obtain rfl : task = task' := Option.some.inj (at_index.symm.trans at_index')
      refine ⟨onward, fun other member here => ?_⟩
      obtain rfl := tended.sound.task_unique (List.mem_of_getElem? at_index) member here
      exact ⟨by rw [inHands]; rfl, opened, full⟩

theorem feed_of_unserved (unserved : ¬bus.Served id) : bus.feed id = bus := by
  have absent : bus.tasks.findIdx (fun task => task.channel = id) = bus.tasks.length := by
    refine List.findIdx_eq_length.mpr fun task member => ?_
    simpa using fun here => unserved ⟨task, member, here⟩
  rw [feed, absent, Bus.drain, List.getElem?_eq_none (Nat.le_refl _)]

theorem Tended.feed (tended : bus.Tended id) :
    Onward id bus (bus.feed id) [] ∧
      ∀ task ∈ (bus.feed id).tasks, task.channel = id → (bus.feed id).Waits task := by
  by_cases served : bus.Served id
  · obtain ⟨task, member, here⟩ := served
    have serves : ∃ feeder,
        bus.tasks[bus.tasks.findIdx fun task => task.channel = id]? = some feeder ∧
          feeder.channel = id := by
      have found : ∃ task ∈ bus.tasks, decide (task.channel = id) = true :=
        ⟨task, member, decide_eq_true here⟩
      have inside := List.findIdx_lt_length.mpr found
      refine ⟨_, List.getElem?_eq_getElem inside, ?_⟩
      simpa using List.findIdx_getElem (w := inside)
    obtain ⟨feeder, at_index, rfl⟩ := serves
    rw [Bus.feed, Bus.drain, at_index]
    refine tended.drainSteps at_index ?_
    have one : feeder.held.toList.length ≤ 1 := by cases feeder.held <;> simp
    omega
  · rw [feed_of_unserved served]
    exact ⟨tended.onward_refl, fun task member here => absurd ⟨task, member, here⟩ served⟩

theorem Tended.recvSteps (tended : bus.Tended id) {fuel : Nat}
    (enough : (bus.channel id).slots.length ≤ fuel) :
    let (received, after) := bus.recvSteps id fuel
    Onward id bus after received ∧ received = (bus.channel id).slots ∧
      (after.channel id).slots = [] ∧ after.tasks = bus.tasks := by
  induction fuel generalizing bus with
  | zero =>
    have empty : (bus.channel id).slots = [] := List.length_eq_zero_iff.mp (by omega)
    exact ⟨tended.onward_refl, empty.symm, empty, rfl⟩
  | succ fuel ih =>
    have effect := bus.recv_handed id
    have onward := tended.onward_recv
    rw [Bus.recvSteps]
    generalize bus.recv id = step at effect onward
    obtain ⟨found, after⟩ := step
    dsimp only at effect onward
    cases effect with
    | envelope envelope rest opened slots =>
      have left : ((bus.modifyChannel id fun channel =>
          { channel with slots := rest }).channel id).slots = rest := by
        rw [channel_modifyChannel, if_pos ⟨rfl, lt_of_isOpen opened⟩]
      rw [slots, List.length_cons] at enough
      obtain ⟨later, all, empty, tasks⟩ := ih onward.tended (by rw [left]; omega)
      refine ⟨onward.trans later, ?_, empty, tasks⟩
      rw [all, left, slots]
    | empty opened slots => exact ⟨onward, slots.symm, slots, rfl⟩
    | disconnected opened slots => exact ⟨onward, slots.symm, slots, rfl⟩
    | closed closed => rw [tended.isOpen] at closed; cases closed

/-- A round empties the channel, and it brings something unless it is the last. -/
theorem Tended.round (tended : bus.Tended id) :
    Onward id bus (bus.round id).2 (bus.round id).1 ∧ ((bus.round id).2.channel id).slots = [] ∧
      (¬(bus.round id).2.Served id ∨ (bus.round id).1 ≠ []) := by
  obtain ⟨fed, still⟩ := tended.feed
  obtain ⟨onward, all, empty, tasks⟩ := fed.tended.recvSteps (Nat.le_refl _)
  refine ⟨fed.trans onward, empty, ?_⟩
  by_cases served : (bus.feed id).Served id
  · -- The drain task waits, so the channel is full, and it is not of capacity zero.
    obtain ⟨task, member, rfl⟩ := served
    obtain ⟨_, _, full⟩ := still task member rfl
    have positive := fed.tended.capacity
    refine Or.inr fun none => ?_
    rw [Bus.round, recvAll, all] at none
    rw [Channel.hasRoom, none, List.length_nil, decide_eq_false_iff_not] at full
    omega
  · left
    rintro ⟨task, member, here⟩
    refine served ⟨task, ?_, here⟩
    rw [Bus.round, recvAll, tasks] at member
    exact member

theorem round_of_quiet (unserved : ¬bus.Served id) (empty : (bus.channel id).slots = []) :
    bus.round id = ([], bus) := by
  rw [round, feed_of_unserved unserved, recvAll, empty]
  rfl

theorem rounds_succ (bus : Bus) (id : ChannelId) (count : Nat) :
    bus.rounds id (count + 1) =
      ((bus.round id).1 ++ ((bus.round id).2.rounds id count).1,
        ((bus.round id).2.rounds id count).2) := rfl

theorem Tended.onward_rounds (tended : bus.Tended id) (count : Nat) :
    Onward id bus (bus.rounds id count).2 (bus.rounds id count).1 := by
  induction count generalizing bus with
  | zero => exact tended.onward_refl
  | succ count ih =>
    have first := tended.round.1
    rw [rounds_succ]
    exact first.trans (ih first.tended)

/-- What is still on its way gets less with every round, so that one round for each envelope is
enough, and one more for the drain task to end. -/
theorem Tended.quiet_rounds (tended : bus.Tended id) {count : Nat}
    (enough : (bus.inTransit id).length < count) :
    ¬(bus.rounds id count).2.Served id ∧ ((bus.rounds id count).2.channel id).slots = [] := by
  induction count generalizing bus with
  | zero => omega
  | succ count ih =>
    obtain ⟨onward, empty, ended | some⟩ := tended.round
    all_goals
      rw [rounds_succ]
      dsimp only
    · obtain ⟨unheld, none⟩ := onward.tended.sound.nothing_of_not_served ended
      cases count with
      | zero => exact ⟨ended, empty⟩
      | succ count =>
        refine ih onward.tended ?_
        rw [inTransit, empty, unheld, none]
        exact Nat.succ_pos count
    · refine ih onward.tended ?_
      have length := congrArg List.length onward.order
      have positive := List.length_pos_iff.mpr some
      rw [List.length_append] at length
      omega

/-- What the work on a channel has come to when nothing is left for it. -/
theorem Onward.quiet (onward : Onward id bus after received) (unserved : ¬after.Served id)
    (empty : (after.channel id).slots = []) :
    received = (bus.channel id).slots ++ bus.held id ++ bus.queued id ∧
      after.permits = bus.permits + ((bus.held id).length + (bus.queued id).length) ∧
      ∀ topic, ∀ entry ∈ after.registry topic, entry.channel = id →
        after.backlog entry.backlog = ⟨[], false⟩ := by
  have still : after.Sound := onward.tended.sound
  obtain ⟨unheld, none⟩ := still.nothing_of_not_served unserved
  have permits := onward.permits
  rw [still.permitsOf_eq_zero unserved, Nat.add_zero] at permits
  refine ⟨?_, permits, fun topic entry member here => ?_⟩
  · have order : bus.inTransit id = received ++ ((after.channel id).slots ++ after.held id ++
        after.queued id) := onward.order
    rw [empty, unheld, none, List.append_nil, List.append_nil, List.append_nil] at order
    exact order.symm
  · subst here
    have idle : (after.backlog entry.backlog).draining = false :=
      Bool.eq_false_iff.mpr ((still.draining_iff_served member).not.mpr unserved)
    have queue := still.idle entry.backlog idle
    exact congrArg₂ Backlog.mk queue idle

end

/-- Whatever has happened on a bus, a channel with a receiver is emptied in finitely many rounds, if
nothing else happens: the envelopes received are those that were in the channel, then the one that
its drain task held, then those in its backlog. Nothing is left then, the drain task has ended, the
permits of the envelopes that had one are free, and the other channels are as they were. In every
round the drain task goes on until it ends or waits, and the channel is received empty. -/
theorem emptied_in_order (maxInflight : Nat) (capacities : List Nat) (moves : List Overlap.Move)
    (id : ChannelId)
    (opened : ((((Overlap.start maxInflight capacities).run moves).bus).channel id).isOpen = true)
    (positive : 0 < ((((Overlap.start maxInflight capacities).run moves).bus).channel id).capacity) :
    let bus := ((Overlap.start maxInflight capacities).run moves).bus
    (∃ count, let last := (bus.rounds id count).2
      (bus.rounds id count).1 = (bus.channel id).slots ++ bus.held id ++ bus.queued id ∧
        last.round id = ([], last) ∧ (last.channel id).slots = [] ∧ last.feeders id = 0 ∧
        (∀ topic, ∀ entry ∈ last.registry topic, entry.channel = id →
          last.backlog entry.backlog = ⟨[], false⟩) ∧
        last.permits = bus.permits + ((bus.held id).length + (bus.queued id).length) ∧
        (∀ other, other ≠ id → last.lane other = bus.lane other) ∧
        last.registry = bus.registry ∧ last.dropped = bus.dropped) ∧
      ∀ count, let fed := (bus.rounds id count).2.feed id
        (∀ task ∈ fed.tasks, task.channel = id → fed.Waits task) ∧
          ((fed.recvAll id).2.channel id).slots = [] := by
  intro bus
  have sound : bus.Sound := ((Overlap.sound_start maxInflight capacities).run moves).bus
  have tended : bus.Tended id := ⟨sound, opened, positive⟩
  refine ⟨⟨(bus.inTransit id).length + 1, ?_⟩, fun count => ?_⟩
  · have onward := tended.onward_rounds ((bus.inTransit id).length + 1)
    obtain ⟨unserved, empty⟩ := tended.quiet_rounds (Nat.lt_add_one (bus.inTransit id).length)
    obtain ⟨order, permits, idle⟩ := onward.quiet unserved empty
    have ended := Nat.eq_zero_of_not_pos (feeders_pos.not.mpr unserved)
    exact ⟨order, round_of_quiet unserved empty, empty, ended, idle, permits, onward.others,
      onward.registry, onward.dropped⟩
  · have onward := tended.onward_rounds count
    exact ⟨onward.tended.feed.2, onward.tended.round.2.1⟩

/-- One envelope is in a channel of one slot, one in the hands of its drain task and one in its
backlog, while another channel of the bus is as full. Emptying the first frees two of the four permits. -/
theorem emptied_in_order_beside_full :
    let event (list : Int32) : Envelope := ⟨.listUpdated, .list ⟨list⟩⟩
    let moves : List Overlap.Move := [.act (.subscribe .listUpdated 0), .act (.subscribe .listUpdated 1),
      .act (.publish true (event 1)), .act (.publish true (event 2)), .announce true (event 3),
      .act (.drain 0), .offer 0, .offer 0]
    let bus := ((Overlap.start 4 [1, 1]).run moves).bus
    (bus.channel 0).isOpen = true ∧ 0 < (bus.channel 0).capacity ∧ bus.permits = 0 ∧
      ((bus.channel 0).slots, bus.held 0, bus.queued 0) = ([event 1], [event 2], [event 3]) ∧
      ∃ count, (bus.rounds 0 count).1 = [event 1, event 2, event 3] ∧
        (bus.rounds 0 count).2.feeders 0 = 0 ∧ (bus.rounds 0 count).2.permits = 2 := by
  intro event moves bus
  have opened : (bus.channel 0).isOpen = true := by decide
  have positive : 0 < (bus.channel 0).capacity := by decide
  obtain ⟨⟨count, order, _, _, ended, _, permits, _⟩, _⟩ :=
    emptied_in_order 4 [1, 1] moves 0 opened positive
  exact ⟨opened, positive, by decide, by decide, count, order.trans (by decide), ended,
    permits.trans (by decide)⟩

end ListKeeper.Bus
