import ListKeeper.Proofs.Bus.Sound

namespace ListKeeper

/-- A dropped copy is counted and goes nowhere. -/
def Offer.isDropped : Offer → Bool
  | .dropped .. => true
  | _ => false

namespace Bus

/-- What becomes of a copy that is offered to a registration, and of the bus. -/
inductive Offered (bus : Bus) (canSpawn : Bool) (entry : Registration) (envelope : Envelope) :
    Offer → Bus → Prop
  | delivered : (bus.backlog entry.backlog).draining = false →
      (bus.channel entry.channel).isOpen = true → (bus.channel entry.channel).hasRoom = true →
      Offered bus canSpawn entry envelope .delivered (bus.modifyChannel entry.channel fun channel =>
        { channel with slots := channel.slots ++ [envelope] })
  | skipped : (bus.backlog entry.backlog).draining = false →
      (bus.channel entry.channel).isOpen = false → Offered bus canSpawn entry envelope .skipped bus
  | queued : (bus.backlog entry.backlog).draining = true → bus.permits ≠ 0 →
      Offered bus canSpawn entry envelope .queued (bus.enqueue entry envelope)
  | started : (bus.backlog entry.backlog).draining = false →
      (bus.channel entry.channel).isOpen = true → (bus.channel entry.channel).hasRoom = false →
      bus.permits ≠ 0 → canSpawn = true →
      Offered bus canSpawn entry envelope .queued ((bus.startDrain entry).enqueue entry envelope)
  | dropped (reason : DropReason) (total : UInt64) :
      (bus.backlog entry.backlog).draining = true ∨
        (bus.channel entry.channel).isOpen = true ∧ (bus.channel entry.channel).hasRoom = false →
      bus.permits = 0 ∨ (bus.backlog entry.backlog).draining = false ∧ canSpawn = false →
      Offered bus canSpawn entry envelope (.dropped reason total)
        { bus with dropped := bus.dropped + 1 }

theorem offer_offered (bus : Bus) (canSpawn : Bool) (entry : Registration) (envelope : Envelope) :
    Offered bus canSpawn entry envelope (bus.offer canSpawn entry envelope).1
      (bus.offer canSpawn entry envelope).2 := by
  unfold offer
  by_cases draining : (bus.backlog entry.backlog).draining = true
  · simp only [draining, if_true]
    by_cases spent : bus.permits = 0
    · rw [if_pos spent]
      exact .dropped _ _ (Or.inl draining) (Or.inl spent)
    · rw [if_neg spent]
      exact .queued draining spent
  · have idle : (bus.backlog entry.backlog).draining = false := Bool.eq_false_iff.mpr draining
    simp only [idle, Bool.false_eq_true, if_false]
    cases opened : (bus.channel entry.channel).isOpen with
    | false => exact .skipped idle opened
    | true =>
      cases room : (bus.channel entry.channel).hasRoom with
      | true => exact .delivered idle opened room
      | false =>
        by_cases spent : bus.permits = 0
        · simp only [spent, Bool.not_true, Bool.false_eq_true, if_false, if_true]
          exact .dropped _ _ (Or.inr ⟨opened, room⟩) (Or.inl spent)
        · simp only [spent, Bool.not_true, Bool.false_eq_true, if_false]
          cases spawn : canSpawn with
          | true => exact .started idle opened room spent rfl
          | false => exact .dropped _ _ (Or.inr ⟨opened, room⟩) (Or.inr ⟨idle, rfl⟩)

section

variable {bus after : Bus} {canSpawn : Bool} {entry : Registration} {envelope : Envelope} {offer : Offer}

theorem Offered.registry (effect : Offered bus canSpawn entry envelope offer after) :
    after.registry = bus.registry := by
  cases effect <;> rfl

theorem Offered.hasHandle (effect : Offered bus canSpawn entry envelope offer after) :
    after.hasHandle = bus.hasHandle := by
  cases effect <;> rfl

theorem Offered.isOpen (effect : Offered bus canSpawn entry envelope offer after) (id : ChannelId) :
    (after.channel id).isOpen = (bus.channel id).isOpen := by
  cases effect with
  | delivered =>
    rw [channel_modifyChannel]
    split <;> rfl
  | skipped => rfl
  | queued => rfl
  | started => rfl
  | dropped => rfl

theorem Offered.dropped_eq (effect : Offered bus canSpawn entry envelope offer after) :
    after.dropped = bus.dropped + if offer.isDropped then 1 else 0 := by
  cases effect with
  | delivered => exact (UInt64.add_zero _).symm
  | skipped => exact (UInt64.add_zero _).symm
  | queued => exact (UInt64.add_zero _).symm
  | started => exact (UInt64.add_zero _).symm
  | dropped => rfl

theorem Sound.enqueue (sound : bus.Sound) (draining : (bus.backlog entry.backlog).draining = true)
    (envelope : Envelope) : (bus.enqueue entry envelope).Sound := by
  have paid : Sound { bus with permits := bus.permits - 1 } := sound.congr rfl rfl rfl
  exact paid.modifyQueue draining (· ++ [envelope])

theorem draining_startDrain (inside : entry.backlog < bus.backlogs.length) :
    ((bus.startDrain entry).backlog entry.backlog).draining = true := by
  rw [startDrain, backlog_modifyBacklog, if_pos ⟨rfl, inside⟩]

theorem Offered.sound (effect : Offered bus canSpawn entry envelope offer after) (sound : bus.Sound)
    {topic : Topic} (registered : entry ∈ bus.registry topic) : after.Sound := by
  cases effect with
  | delivered => exact sound.congr rfl rfl rfl
  | skipped => exact sound
  | queued draining => exact sound.enqueue draining envelope
  | started idle =>
    have inside := sound.within topic entry registered
    exact (sound.startDrain registered idle).enqueue (draining_startDrain inside) envelope
  | dropped => exact sound.congr rfl rfl rfl

end

/-- What a receiver finds, and what that does to the bus. -/
inductive Handed (bus : Bus) (id : ChannelId) : Received → Bus → Prop
  | envelope (envelope : Envelope) (rest : List Envelope) : (bus.channel id).isOpen = true →
      (bus.channel id).slots = envelope :: rest →
      Handed bus id (.envelope envelope)
        (bus.modifyChannel id fun channel => { channel with slots := rest })
  | empty : (bus.channel id).isOpen = true → (bus.channel id).slots = [] →
      bus.hasSender id = true → Handed bus id .empty bus
  | disconnected : (bus.channel id).isOpen = true → (bus.channel id).slots = [] →
      bus.hasSender id = false → Handed bus id .disconnected bus
  | closed : (bus.channel id).isOpen = false → Handed bus id .closed bus

theorem recv_handed (bus : Bus) (id : ChannelId) :
    Handed bus id (bus.recv id).1 (bus.recv id).2 := by
  cases opened : (bus.channel id).isOpen with
  | false =>
    simp only [recv, opened, Bool.not_false, if_true]
    exact .closed opened
  | true =>
    cases slots : (bus.channel id).slots with
    | cons envelope rest =>
      simp only [recv, opened, slots, Bool.not_true, Bool.false_eq_true, if_false]
      exact .envelope envelope rest opened slots
    | nil =>
      cases sender : bus.hasSender id with
      | true =>
        simp only [recv, opened, slots, sender, Bool.not_true, Bool.false_eq_true, if_false, if_true]
        exact .empty opened slots sender
      | false =>
        simp only [recv, opened, slots, sender, Bool.not_true, Bool.false_eq_true, if_false]
        exact .disconnected opened slots sender

section

variable {bus after : Bus} {id : ChannelId} {found : Received}

theorem Handed.registry (effect : Handed bus id found after) : after.registry = bus.registry := by
  cases effect <;> rfl

theorem Handed.hasHandle (effect : Handed bus id found after) :
    after.hasHandle = bus.hasHandle := by
  cases effect <;> rfl

theorem Handed.isOpen (effect : Handed bus id found after) (other : ChannelId) :
    (after.channel other).isOpen = (bus.channel other).isOpen := by
  cases effect with
  | envelope =>
    rw [channel_modifyChannel]
    split <;> rfl
  | empty => rfl
  | disconnected => rfl
  | closed => rfl

theorem Handed.dropped_eq (effect : Handed bus id found after) : after.dropped = bus.dropped := by
  cases effect <;> rfl

theorem Handed.sound (effect : Handed bus id found after) (sound : bus.Sound) : after.Sound := by
  cases effect with
  | envelope => exact sound.congr rfl rfl rfl
  | empty => exact sound
  | disconnected => exact sound
  | closed => exact sound

end

/-- How far one step takes the drain task at an index, and what it does to the bus. -/
inductive Drained (bus : Bus) (index : Nat) : DrainOutcome → Bus → Prop
  | absent : bus.tasks[index]? = none → Drained bus index .ended bus
  | emptied (task : DrainTask) : bus.tasks[index]? = some task → task.held = none →
      (bus.backlog task.backlog).queue = [] → Drained bus index .ended (bus.endDrain index task 0)
  | taken (task : DrainTask) (envelope : Envelope) (rest : List Envelope) :
      bus.tasks[index]? = some task → task.held = none →
      (bus.backlog task.backlog).queue = envelope :: rest →
      Drained bus index .moved (modifyBacklog
        { bus with tasks := bus.tasks.set index { task with held := some envelope } }
        task.backlog fun backlog => { backlog with queue := rest })
  | discarded (task : DrainTask) (envelope : Envelope) : bus.tasks[index]? = some task →
      task.held = some envelope → (bus.channel task.channel).isOpen = false →
      Drained bus index .ended
        (bus.endDrain index task ((bus.backlog task.backlog).queue.length + 1))
  | placed (task : DrainTask) (envelope : Envelope) : bus.tasks[index]? = some task →
      task.held = some envelope → (bus.channel task.channel).isOpen = true →
      (bus.channel task.channel).hasRoom = true →
      Drained bus index .moved (modifyChannel
        { bus with
          tasks := bus.tasks.set index { task with held := none }
          permits := bus.permits + 1 }
        task.channel fun channel => { channel with slots := channel.slots ++ [envelope] })
  | waiting (task : DrainTask) (envelope : Envelope) : bus.tasks[index]? = some task →
      task.held = some envelope → (bus.channel task.channel).isOpen = true →
      (bus.channel task.channel).hasRoom = false → Drained bus index .waiting bus

theorem drainStep_drained (bus : Bus) (index : Nat) :
    Drained bus index (bus.drainStep index).1 (bus.drainStep index).2 := by
  cases at_index : bus.tasks[index]? with
  | none =>
    simp only [drainStep, at_index]
    exact .absent at_index
  | some task =>
    cases held : task.held with
    | none =>
      cases queue : (bus.backlog task.backlog).queue with
      | nil =>
        simp only [drainStep, at_index, held, queue]
        exact .emptied task at_index held queue
      | cons envelope rest =>
        simp only [drainStep, at_index, held, queue]
        exact .taken task envelope rest at_index held queue
    | some envelope =>
      cases opened : (bus.channel task.channel).isOpen with
      | false =>
        simp only [drainStep, at_index, held, opened, Bool.not_false, if_true]
        exact .discarded task envelope at_index held opened
      | true =>
        cases room : (bus.channel task.channel).hasRoom with
        | true =>
          simp only [drainStep, at_index, held, opened, room, Bool.not_true, Bool.false_eq_true,
            if_false, if_true]
          exact .placed task envelope at_index held opened room
        | false =>
          simp only [drainStep, at_index, held, opened, room, Bool.not_true, Bool.false_eq_true,
            if_false]
          exact .waiting task envelope at_index held opened room

section

variable {bus after : Bus} {index : Nat} {outcome : DrainOutcome}

theorem Drained.registry (effect : Drained bus index outcome after) :
    after.registry = bus.registry := by
  cases effect <;> rfl

theorem Drained.hasHandle (effect : Drained bus index outcome after) :
    after.hasHandle = bus.hasHandle := by
  cases effect <;> rfl

theorem Drained.isOpen (effect : Drained bus index outcome after) (id : ChannelId) :
    (after.channel id).isOpen = (bus.channel id).isOpen := by
  cases effect with
  | absent => rfl
  | emptied => rfl
  | taken => rfl
  | discarded => rfl
  | placed =>
    rw [channel_modifyChannel]
    split <;> rfl
  | waiting => rfl

theorem Drained.dropped_eq (effect : Drained bus index outcome after) :
    after.dropped = bus.dropped := by
  cases effect <;> rfl

theorem Drained.sound (effect : Drained bus index outcome after) (sound : bus.Sound) :
    after.Sound := by
  cases effect with
  | absent => exact sound
  | emptied task at_index => exact sound.endDrain at_index 0
  | taken task envelope rest at_index =>
    have draining := (sound.draining_iff task.backlog).mpr ⟨task, List.mem_of_getElem? at_index, rfl⟩
    exact (sound.setTask at_index (some envelope)).modifyQueue draining fun _ => rest
  | discarded task envelope at_index => exact sound.endDrain at_index _
  | placed task envelope at_index => exact (sound.setTask at_index none).congr rfl rfl rfl
  | waiting => exact sound

end

end Bus

end ListKeeper
