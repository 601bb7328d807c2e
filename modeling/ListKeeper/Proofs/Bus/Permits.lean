import ListKeeper.Proofs.Bus.Rest

namespace ListKeeper.Bus

/-- The limit of a bus for which `maxInflight` was asked. -/
def limit (maxInflight : Nat) : Nat :=
  min (max maxInflight 1) Bus.maxInflight

/-- How many envelopes wait in backlogs and in the hands of drain tasks. -/
def waiting (bus : Bus) : Nat :=
  (bus.backlogs.flatMap Backlog.queue).length +
    (bus.tasks.flatMap fun task => task.held.toList).length

/-- The permits that the envelopes on their way to one channel have. -/
def permitsOf (bus : Bus) (id : ChannelId) : Nat :=
  (bus.held id).length + (bus.queued id).length

/-- A copy for this channel cannot go straight into it, nor be skipped. -/
def NeedsPermit (bus : Bus) (id : ChannelId) : Prop :=
  bus.Served id ∨ (bus.channel id).isOpen = true ∧ (bus.channel id).hasRoom = false

instance (bus : Bus) (id : ChannelId) : Decidable (bus.NeedsPermit id) :=
  inferInstanceAs (Decidable (_ ∨ _))

theorem length_flatMap_modify {α β : Type} {f : α → List β} {xs : List α} {i : Nat} {x : α}
    (at_i : xs[i]? = some x) (change : α → α) :
    ((xs.modify i change).flatMap f).length + (f x).length =
      (xs.flatMap f).length + (f (change x)).length := by
  induction xs generalizing i with
  | nil => simp at at_i
  | cons head rest ih =>
    cases i with
    | zero =>
      have first : head = x := by simpa using at_i
      simp [first]
      omega
    | succ i =>
      have later := ih (i := i) (by simpa using at_i)
      simp only [List.modify_succ_cons, List.flatMap_cons, List.length_append]
      omega

theorem length_flatMap_eraseIdx {α β : Type} {f : α → List β} {xs : List α} {i : Nat} {x : α}
    (at_i : xs[i]? = some x) :
    ((xs.eraseIdx i).flatMap f).length + (f x).length = (xs.flatMap f).length := by
  induction xs generalizing i with
  | nil => simp at at_i
  | cons head rest ih =>
    cases i with
    | zero =>
      have first : head = x := by simpa using at_i
      simp [first]
      omega
    | succ i =>
      have later := ih (i := i) (by simpa using at_i)
      simp only [List.eraseIdx_cons_succ, List.flatMap_cons, List.length_append]
      omega

section

variable {bus : Bus}

theorem waiting_modifyBacklog {id : BacklogId} (inside : id < bus.backlogs.length)
    (change : Backlog → Backlog) :
    (bus.modifyBacklog id change).waiting + (bus.backlog id).queue.length =
      bus.waiting + (change (bus.backlog id)).queue.length := by
  have there : bus.backlogs[id]? = some (bus.backlog id) := by
    rw [backlog, List.getD_eq_getElem?_getD, List.getElem?_eq_getElem inside]
    rfl
  have queues := length_flatMap_modify (f := Backlog.queue) there change
  simp only [waiting, modifyBacklog]
  omega

theorem waiting_setTask {index : Nat} {task : DrainTask} (at_index : bus.tasks[index]? = some task)
    (held : Option Envelope) :
    waiting { bus with tasks := bus.tasks.set index { task with held } } +
      task.held.toList.length = bus.waiting + held.toList.length := by
  have hands := length_flatMap_modify (f := fun task => task.held.toList) at_index
    fun _ => { task with held }
  rw [← List.set_eq_modify] at hands
  dsimp only at hands
  simp only [waiting]
  omega

theorem waiting_enqueue {entry : Registration} (inside : entry.backlog < bus.backlogs.length)
    (envelope : Envelope) : (bus.enqueue entry envelope).waiting = bus.waiting + 1 := by
  have more := waiting_modifyBacklog inside
    fun backlog => { backlog with queue := backlog.queue ++ [envelope] }
  rw [List.length_append, List.length_singleton] at more
  change (bus.modifyBacklog entry.backlog fun backlog =>
    { backlog with queue := backlog.queue ++ [envelope] }).waiting = bus.waiting + 1
  omega

theorem waiting_startDrain {entry : Registration} (inside : entry.backlog < bus.backlogs.length) :
    (bus.startDrain entry).waiting = bus.waiting := by
  have same := waiting_modifyBacklog inside fun backlog => { backlog with draining := true }
  dsimp only at same
  have hands : (bus.tasks ++ [(⟨entry.channel, entry.backlog, none⟩ : DrainTask)]).flatMap
      (fun task => task.held.toList) = bus.tasks.flatMap fun task => task.held.toList := by
    simp
  simp only [waiting, startDrain, modifyBacklog] at same ⊢
  rw [hands]
  omega

theorem waiting_endDrain {index : Nat} {task : DrainTask} (at_index : bus.tasks[index]? = some task)
    (inside : task.backlog < bus.backlogs.length) (released : Nat) :
    (bus.endDrain index task released).waiting +
      ((bus.backlog task.backlog).queue.length + task.held.toList.length) = bus.waiting := by
  have queues := waiting_modifyBacklog inside fun _ => ⟨[], false⟩
  have hands := length_flatMap_eraseIdx (f := fun task => task.held.toList) at_index
  simp only [waiting, endDrain, modifyBacklog, List.length_nil] at queues hands ⊢
  omega

theorem Offered.permits {after : Bus} {canSpawn : Bool} {entry : Registration}
    {envelope : Envelope} {offer : Offer}
    (effect : Offered bus canSpawn entry envelope offer after)
    (inside : entry.backlog < bus.backlogs.length) :
    after.permits + after.waiting = bus.permits + bus.waiting := by
  cases effect with
  | delivered => rfl
  | skipped => rfl
  | queued _ free =>
    have more := waiting_enqueue inside envelope
    have paid : (bus.enqueue entry envelope).permits = bus.permits - 1 := rfl
    omega
  | started _ _ _ free =>
    have inside' : entry.backlog < (bus.startDrain entry).backlogs.length := by
      rw [startDrain, length_backlogs_modifyBacklog]
      exact inside
    have more := waiting_enqueue inside' envelope
    have same := waiting_startDrain inside
    have paid : ((bus.startDrain entry).enqueue entry envelope).permits = bus.permits - 1 := rfl
    omega
  | dropped => rfl

theorem Handed.permits {after : Bus} {id : ChannelId} {found : Received}
    (effect : Handed bus id found after) :
    after.permits + after.waiting = bus.permits + bus.waiting := by
  cases effect <;> rfl

theorem Drained.permits {after : Bus} {index : Nat} {outcome : DrainOutcome}
    (effect : Drained bus index outcome after) (sound : bus.Sound) :
    after.permits + after.waiting = bus.permits + bus.waiting := by
  have inside {task : DrainTask} (at_index : bus.tasks[index]? = some task) :
      task.backlog < bus.backlogs.length := by
    obtain ⟨topic, entry⟩ := sound.registered task (List.mem_of_getElem? at_index)
    exact sound.within topic _ entry
  cases effect with
  | absent => rfl
  | emptied task at_index unheld empty =>
    have fewer := waiting_endDrain at_index (inside at_index) 0
    have returned : (bus.endDrain index task 0).permits = bus.permits + 0 := rfl
    rw [unheld, empty, Option.toList_none, List.length_nil] at fewer
    omega
  | taken task envelope rest at_index unheld queue =>
    let holding : Bus := { bus with tasks := bus.tasks.set index { task with held := some envelope } }
    have more : holding.waiting + _ = _ := waiting_setTask at_index (some envelope)
    have length : (holding.backlog task.backlog).queue.length = rest.length + 1 :=
      congrArg List.length queue
    have within : task.backlog < holding.backlogs.length := inside at_index
    have fewer := waiting_modifyBacklog within fun backlog => { backlog with queue := rest }
    rw [unheld, Option.toList_none, Option.toList_some, List.length_nil,
      List.length_singleton] at more
    change bus.permits + (holding.modifyBacklog task.backlog fun backlog =>
      { backlog with queue := rest }).waiting = _
    dsimp only at fewer
    omega
  | discarded task envelope at_index inHands =>
    have fewer := waiting_endDrain at_index (inside at_index)
      ((bus.backlog task.backlog).queue.length + 1)
    have returned : (bus.endDrain index task ((bus.backlog task.backlog).queue.length + 1)).permits =
        bus.permits + ((bus.backlog task.backlog).queue.length + 1) := rfl
    rw [inHands, Option.toList_some, List.length_singleton] at fewer
    omega
  | placed task envelope at_index inHands =>
    have fewer := waiting_setTask at_index none
    rw [inHands, Option.toList_none, Option.toList_some, List.length_nil,
      List.length_singleton] at fewer
    let emptied : Bus := { bus with tasks := bus.tasks.set index { task with held := none } }
    change bus.permits + 1 + emptied.waiting = _
    change emptied.waiting + 1 = _ at fewer
    omega
  | waiting => rfl

theorem permits_subscribe (bus : Bus) (topic : Topic) (id : ChannelId) :
    (bus.subscribe topic id).permits = bus.permits ∧
      (bus.subscribe topic id).waiting = bus.waiting := by
  unfold Bus.subscribe
  split
  · exact ⟨rfl, rfl⟩
  · refine ⟨rfl, ?_⟩
    simp only [waiting, register, List.flatMap_append]
    simp

theorem Sound.permits_offerAll (sound : bus.Sound) (canSpawn : Bool) (envelope : Envelope)
    {topic : Topic} {entries : List Registration}
    (registered : ∀ entry ∈ entries, entry ∈ bus.registry topic) :
    (bus.offerAll canSpawn envelope entries).2.permits +
      (bus.offerAll canSpawn envelope entries).2.waiting = bus.permits + bus.waiting := by
  induction entries generalizing bus with
  | nil => rfl
  | cons entry rest ih =>
    have effect := bus.offer_offered canSpawn entry envelope
    have member := registered entry (List.mem_cons_self ..)
    have first := effect.permits (sound.within topic entry member)
    rw [offerAll_cons, ih (effect.sound sound member), first]
    intro other inRest
    rw [effect.registry]
    exact registered other (List.mem_cons_of_mem _ inRest)

theorem Sound.permits_act (sound : bus.Sound) (action : Action) :
    (bus.act action).permits + (bus.act action).waiting = bus.permits + bus.waiting := by
  cases action with
  | subscribe topic channel =>
    obtain ⟨permits, waiting⟩ := bus.permits_subscribe topic channel
    rw [Bus.act, permits, waiting]
  | publish canSpawn envelope => exact sound.permits_offerAll canSpawn envelope fun _ member => member
  | recv channel => exact (bus.recv_handed channel).permits
  | drain index => exact (bus.drainStep_drained index).permits sound
  | close channel => rfl

theorem Sound.permits_run (sound : bus.Sound) (actions : List Action) :
    (bus.run actions).permits + (bus.run actions).waiting = bus.permits + bus.waiting := by
  induction actions generalizing bus with
  | nil => rfl
  | cons action rest ih => exact (ih (sound.act action)).trans (sound.permits_act action)

theorem Offered.isDropped_iff {after : Bus} {canSpawn : Bool} {entry : Registration}
    {envelope : Envelope} {offer : Offer}
    (effect : Offered bus canSpawn entry envelope offer after) (sound : bus.Sound) {topic : Topic}
    (registered : entry ∈ bus.registry topic) :
    offer.isDropped = true ↔ bus.NeedsPermit entry.channel ∧
      (bus.permits = 0 ∨ ¬bus.Served entry.channel ∧ canSpawn = false) := by
  unfold NeedsPermit
  rw [← sound.draining_iff_served registered, Bool.not_eq_true]
  cases effect with
  | delivered idle _ room => simp [Offer.isDropped, idle, room]
  | skipped idle closed => simp [Offer.isDropped, idle, closed]
  | queued draining free => simp [Offer.isDropped, draining, free]
  | started _ _ _ free spawn => simp [Offer.isDropped, free, spawn]
  | dropped reason total needs spent => exact iff_of_true rfl ⟨needs, spent⟩

theorem permits_withChannels (maxInflight : Nat) (capacities : List Nat) :
    (withChannels maxInflight capacities).permits +
      (withChannels maxInflight capacities).waiting = limit maxInflight := by
  rw [withChannels_eq]
  rfl

/-- In any run of a new bus the free permits and the envelopes that wait are together as many as
the limit, also between the copies of one event. A copy is dropped, and then counted, exactly when
it needs a permit and none is free, or no drain task feeds its channel and none can be started.
Settling lets every drain task go as far as it can, and once they have, a channel whose receiver is
gone has no permit. -/
theorem permits_conserved (maxInflight : Nat) (capacities : List Nat) (actions : List Action) :
    let bus := (withChannels maxInflight capacities).run actions
    bus.permits + bus.waiting = limit maxInflight ∧
      (∀ (canSpawn : Bool) (envelope : Envelope) (earlier later : List Registration)
          (entry : Registration), bus.registry envelope.topic = earlier ++ entry :: later →
        let between := (bus.offerAll canSpawn envelope earlier).2
        let offered := between.offer canSpawn entry envelope
        offered.2.permits + offered.2.waiting = limit maxInflight ∧
          (offered.1.isDropped = true ↔ between.NeedsPermit entry.channel ∧
            (between.permits = 0 ∨ ¬between.Served entry.channel ∧ canSpawn = false)) ∧
          offered.2.dropped = between.dropped + if offered.1.isDropped then 1 else 0) ∧
      bus.settle.AtRest ∧
      ∀ id, (bus.channel id).isOpen = false →
        bus.settle.permitsOf id = 0 ∧ (bus.AtRest → bus.permitsOf id = 0) := by
  intro bus
  have start := sound_withChannels maxInflight capacities
  have sound : bus.Sound := start.run actions
  have total : bus.permits + bus.waiting = limit maxInflight :=
    (start.permits_run actions).trans (permits_withChannels maxInflight capacities)
  have released {rested : Bus} (sound : rested.Sound) (rest : rested.AtRest) {id : ChannelId}
      (closed : (rested.channel id).isOpen = false) : rested.permitsOf id = 0 := by
    obtain ⟨held, queued⟩ := sound.nothing_of_atRest rest closed
    rw [permitsOf, held, queued]
    rfl
  refine ⟨total, ?_, sound.atRest_settle, fun id closed => ⟨?_, fun rest => ?_⟩⟩
  · intro canSpawn envelope earlier later entry registry between offered
    have among : ∀ other ∈ earlier, other ∈ bus.registry envelope.topic := by
      intro other member
      rw [registry]
      exact List.mem_append_left _ member
    have registered : entry ∈ between.registry envelope.topic := by
      rw [(bus.offerAll_frame canSpawn envelope earlier).1, registry]
      exact List.mem_append_right _ (List.mem_cons_self ..)
    have effect := between.offer_offered canSpawn entry envelope
    have still : between.Sound := sound.offerAll canSpawn envelope among
    have before := sound.permits_offerAll canSpawn envelope among
    refine ⟨?_, effect.isDropped_iff still registered, effect.dropped_eq⟩
    exact (effect.permits (still.within _ entry registered)).trans (before.trans total)
  · obtain ⟨steps, settled⟩ := bus.exists_run_settle
    refine released ?_ sound.atRest_settle ?_
    · rw [settled]
      exact sound.run _
    · rw [settled, isOpen_run_drains]
      exact closed
  · exact released sound rest closed

/-- Three envelopes wait for a channel of one slot when its receiver goes: its drain task holds one,
two are in the backlog, and a fourth is dropped. Settling frees all permits. -/
example :
    let event : Envelope := ⟨.listUpdated, .list ⟨1⟩⟩
    let bus := (withChannels 3 [1]).run [.subscribe .listUpdated 0, .publish true event,
      .publish true event, .drain 0, .publish true event, .publish false event,
      .publish true event, .close 0]
    (bus.permits, bus.waiting, bus.permitsOf 0, bus.dropped) = (0, 3, 3, 1) ∧
      (bus.settle.permits, bus.settle.permitsOf 0) = (3, 0) := by
  decide

end

end ListKeeper.Bus
