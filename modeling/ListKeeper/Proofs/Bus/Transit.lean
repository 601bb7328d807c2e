import ListKeeper.Proofs.Bus.Effect

namespace ListKeeper

def Received.toList : Received → List Envelope
  | .envelope found => [found]
  | _ => []

namespace Bus

def held (bus : Bus) (id : ChannelId) : List Envelope :=
  bus.tasks.flatMap fun task => if task.channel = id then task.held.toList else []

def queued (bus : Bus) (id : ChannelId) : List Envelope :=
  (bus.backlogOf? id).elim [] fun backlog => (bus.backlog backlog).queue

/-- The envelopes on their way to the receiver of a channel, the next one first. -/
def inTransit (bus : Bus) (id : ChannelId) : List Envelope :=
  (bus.channel id).slots ++ bus.held id ++ bus.queued id

theorem flatMap_set_of_eq {α β : Type} {f : α → List β} {xs : List α} {i : Nat} {x y : α}
    (at_i : xs[i]? = some x) (same : f y = f x) : (xs.set i y).flatMap f = xs.flatMap f := by
  induction xs generalizing i with
  | nil => simp at at_i
  | cons head rest ih =>
    cases i with
    | zero =>
      have first : head = x := by simpa using at_i
      simp [first, same]
    | succ i => simp [ih (by simpa using at_i)]

theorem flatMap_eraseIdx_of_nil {α β : Type} {f : α → List β} {xs : List α} {i : Nat} {x : α}
    (at_i : xs[i]? = some x) (none : f x = []) : (xs.eraseIdx i).flatMap f = xs.flatMap f := by
  induction xs generalizing i with
  | nil => simp at at_i
  | cons head rest ih =>
    cases i with
    | zero =>
      have first : head = x := by simpa using at_i
      simp [first, none]
    | succ i => simp [ih (by simpa using at_i)]

section

variable {bus : Bus}

theorem Sound.task_unique (sound : bus.Sound) {task other : DrainTask} (member : task ∈ bus.tasks)
    (member' : other ∈ bus.tasks) (same : other.channel = task.channel) : other = task := by
  obtain ⟨topic, entry⟩ := sound.registered task member
  obtain ⟨topic', entry'⟩ := sound.registered other member'
  have backlogs : other.backlog = task.backlog := (sound.shared _ _ entry' _ _ entry).mp same
  exact List.inj_on_of_nodup_map sound.single member' member backlogs

theorem Sound.held_eq (sound : bus.Sound) {task : DrainTask} (member : task ∈ bus.tasks) :
    bus.held task.channel = task.held.toList := by
  have unique : ∀ other ∈ bus.tasks, other.channel = task.channel → other = task :=
    fun other member' same => sound.task_unique member member' same
  have once : bus.tasks.Nodup := List.Nodup.of_map _ sound.single
  obtain ⟨left, right, split⟩ := List.append_of_mem member
  rw [split] at once unique
  have apart : task ∉ left ∧ task ∉ right := by
    rw [List.nodup_append, List.nodup_cons] at once
    exact ⟨fun old => once.2.2 task old task (List.mem_cons_self ..) rfl, once.2.1.1⟩
  have others (side : List DrainTask) (within : ∀ other ∈ side, other ∈ left ++ task :: right)
      (absent : task ∉ side) :
      side.flatMap (fun other => if other.channel = task.channel then other.held.toList else []) = [] := by
    rw [List.flatMap_eq_nil_iff]
    intro other old
    rw [if_neg]
    intro same
    exact absent (unique other (within other old) same ▸ old)
  rw [held, split, List.flatMap_append, List.flatMap_cons, others left (by simp +contextual) apart.1,
    others right (by simp +contextual) apart.2]
  simp

theorem held_eq_nil {id : ChannelId} (none : ∀ task ∈ bus.tasks, task.channel ≠ id) :
    bus.held id = [] := by
  rw [held, List.flatMap_eq_nil_iff]
  intro task member
  rw [if_neg (none task member)]

theorem Sound.length_held_le_one (sound : bus.Sound) (id : ChannelId) : (bus.held id).length ≤ 1 := by
  by_cases served : ∃ task ∈ bus.tasks, task.channel = id
  · obtain ⟨task, member, rfl⟩ := served
    rw [sound.held_eq member]
    cases task.held <;> simp
  · rw [held_eq_nil fun task member same => served ⟨task, member, same⟩]
    exact Nat.zero_le 1

theorem Sound.queued_eq (sound : bus.Sound) {topic : Topic} {entry : Registration}
    (registered : entry ∈ bus.registry topic) :
    bus.queued entry.channel = (bus.backlog entry.backlog).queue := by
  rw [queued, sound.backlogOf? registered]
  rfl

/-- Only the channel whose backlog changes is concerned. -/
theorem Sound.queued_modifyBacklog (sound : bus.Sound) {topic : Topic} {entry : Registration}
    (registered : entry ∈ bus.registry topic) (change : Backlog → Backlog) (id : ChannelId) :
    (bus.modifyBacklog entry.backlog change).queued id =
      if id = entry.channel then (change (bus.backlog entry.backlog)).queue else bus.queued id := by
  have lookup : (bus.modifyBacklog entry.backlog change).backlogOf? id = bus.backlogOf? id := rfl
  rw [queued, lookup]
  split
  next same =>
    subst same
    rw [sound.backlogOf? registered, Option.elim_some, backlog_modifyBacklog,
      if_pos ⟨rfl, sound.within topic entry registered⟩]
  next different =>
    rw [queued]
    cases found : bus.backlogOf? id with
    | none => rfl
    | some backlog =>
      obtain ⟨topic', first⟩ := mem_of_backlogOf? found
      have other : backlog ≠ entry.backlog := fun same =>
        different ((sound.shared _ _ first _ _ registered).mpr same)
      rw [Option.elim_some, Option.elim_some, backlog_modifyBacklog, if_neg (fun both => other both.1)]

theorem held_startDrain (entry : Registration) (id : ChannelId) :
    (bus.startDrain entry).held id = bus.held id := by
  have tasks : (bus.startDrain entry).tasks = bus.tasks ++ [⟨entry.channel, entry.backlog, none⟩] := rfl
  rw [held, tasks, List.flatMap_append]
  simp [held]

theorem Sound.queued_startDrain (sound : bus.Sound) {topic : Topic} {entry : Registration}
    (registered : entry ∈ bus.registry topic) (id : ChannelId) :
    (bus.startDrain entry).queued id = bus.queued id := by
  have unchanged := sound.queued_modifyBacklog registered
    (fun backlog => { backlog with draining := true }) id
  refine Eq.trans unchanged ?_
  split
  next same => rw [same, sound.queued_eq registered]
  next => rfl

theorem Sound.inTransit_enqueue (sound : bus.Sound) {topic : Topic} {entry : Registration}
    (registered : entry ∈ bus.registry topic) (envelope : Envelope) (id : ChannelId) :
    (bus.enqueue entry envelope).inTransit id =
      bus.inTransit id ++ if id = entry.channel then [envelope] else [] := by
  have queue := sound.queued_modifyBacklog registered
    (fun backlog => { backlog with queue := backlog.queue ++ [envelope] }) id
  have slots : ((bus.enqueue entry envelope).channel id).slots = (bus.channel id).slots := rfl
  have inHands : (bus.enqueue entry envelope).held id = bus.held id := rfl
  have after : (bus.enqueue entry envelope).queued id =
      bus.queued id ++ if id = entry.channel then [envelope] else [] := by
    refine Eq.trans queue ?_
    split
    next same => rw [same, sound.queued_eq registered]
    next => rw [List.append_nil]
  rw [inTransit, slots, inHands, after, inTransit, List.append_assoc _ _ (ite ..)]

/-- A copy that is not dropped joins the envelopes on their way to its channel at their end, as
long as the receiver exists. -/
theorem Offered.inTransit {after : Bus} {canSpawn : Bool} {entry : Registration}
    {envelope : Envelope} {offer : Offer}
    (effect : Offered bus canSpawn entry envelope offer after) (sound : bus.Sound)
    {topic : Topic} (registered : entry ∈ bus.registry topic) {id : ChannelId}
    (opened : (bus.channel id).isOpen = true) :
    after.inTransit id =
      bus.inTransit id ++ if id = entry.channel ∧ offer.isDropped = false then [envelope] else [] := by
  have inside := sound.within topic entry registered
  cases effect with
  | delivered idle =>
    by_cases same : id = entry.channel
    · subst same
      have unheld : bus.held entry.channel = [] := by
        refine held_eq_nil fun task member served => ?_
        obtain ⟨topic', entry'⟩ := sound.registered task member
        have backlog : task.backlog = entry.backlog := (sound.shared _ _ entry' _ _ registered).mp served
        rw [(sound.draining_iff entry.backlog).mpr ⟨task, member, backlog⟩] at idle
        cases idle
      have empty : bus.queued entry.channel = [] := by
        rw [sound.queued_eq registered]; exact sound.idle entry.backlog idle
      have slots : ((bus.modifyChannel entry.channel fun channel =>
          { channel with slots := channel.slots ++ [envelope] }).channel entry.channel).slots =
            (bus.channel entry.channel).slots ++ [envelope] := by
        rw [channel_modifyChannel, if_pos ⟨rfl, lt_of_isOpen opened⟩]
      have unheld' : (bus.modifyChannel entry.channel fun channel =>
          { channel with slots := channel.slots ++ [envelope] }).held entry.channel = [] := unheld
      have empty' : (bus.modifyChannel entry.channel fun channel =>
          { channel with slots := channel.slots ++ [envelope] }).queued entry.channel = [] := empty
      rw [Bus.inTransit, slots, unheld', empty', Bus.inTransit, unheld, empty]
      simp [Offer.isDropped]
    · have slots : (bus.modifyChannel entry.channel fun channel =>
          { channel with slots := channel.slots ++ [envelope] }).channel id = bus.channel id := by
        rw [channel_modifyChannel, if_neg (fun both => same both.1)]
      rw [if_neg (fun both => same both.1), List.append_nil, Bus.inTransit, slots]
      rfl
  | skipped idle closed =>
    have different : id ≠ entry.channel := by
      rintro rfl
      rw [opened] at closed
      cases closed
    rw [if_neg (fun both => different both.1), List.append_nil]
  | queued draining =>
    rw [sound.inTransit_enqueue registered]
    simp [Offer.isDropped]
  | started idle =>
    have started := sound.startDrain registered idle
    have entry' : entry ∈ (bus.startDrain entry).registry topic := registered
    have before : (bus.startDrain entry).inTransit id = bus.inTransit id := by
      rw [Bus.inTransit, held_startDrain, sound.queued_startDrain registered]
      rfl
    rw [started.inTransit_enqueue entry', before]
    simp [Offer.isDropped]
  | dropped reason total =>
    have same : Bus.inTransit { bus with dropped := bus.dropped + 1 } id = bus.inTransit id := rfl
    rw [same]
    simp [Offer.isDropped]

/-- What is held for a channel when its drain task takes or puts down an envelope. -/
theorem Sound.held_setTask (sound : bus.Sound) {index : Nat} {task : DrainTask}
    (at_index : bus.tasks[index]? = some task) (envelope : Option Envelope) (id : ChannelId) :
    held { bus with tasks := bus.tasks.set index { task with held := envelope } } id =
      if id = task.channel then envelope.toList else bus.held id := by
  have inside := (List.getElem?_eq_some_iff.mp at_index).1
  split
  next same =>
    subst same
    exact (sound.setTask at_index envelope).held_eq (List.mem_set inside _)
  next different =>
    refine flatMap_set_of_eq at_index ?_
    simp only [Ne.symm different, if_false]

/-- The end of a drain task changes what is held for its channel only. -/
theorem held_endDrain {index : Nat} {task : DrainTask} (at_index : bus.tasks[index]? = some task)
    (released : Nat) {id : ChannelId} (unconcerned : task.held = none ∨ task.channel ≠ id) :
    (bus.endDrain index task released).held id = bus.held id := by
  refine flatMap_eraseIdx_of_nil at_index ?_
  rcases unconcerned with none | different
  · simp [none]
  · simp [different]

theorem Sound.queued_endDrain (sound : bus.Sound) {index : Nat} {task : DrainTask}
    (at_index : bus.tasks[index]? = some task) (released : Nat) (id : ChannelId) :
    (bus.endDrain index task released).queued id = if id = task.channel then [] else bus.queued id := by
  obtain ⟨topic, registered⟩ := sound.registered task (List.mem_of_getElem? at_index)
  exact sound.queued_modifyBacklog registered (fun _ => ⟨[], false⟩) id

/-- A drain task that ends has nothing in its hands and nothing in its backlog, as long as the
receiver of its channel exists; any other step of it keeps the order. -/
theorem Drained.inTransit {after : Bus} {index : Nat} {outcome : DrainOutcome}
    (effect : Drained bus index outcome after) (sound : bus.Sound) {id : ChannelId}
    (opened : (bus.channel id).isOpen = true) : after.inTransit id = bus.inTransit id := by
  cases effect with
  | absent => rfl
  | emptied task at_index unheld empty =>
    obtain ⟨topic, registered⟩ := sound.registered task (List.mem_of_getElem? at_index)
    have queue : bus.queued task.channel = [] := (sound.queued_eq registered).trans empty
    have queued : (bus.endDrain index task 0).queued id = bus.queued id := by
      rw [sound.queued_endDrain at_index]
      split
      next same => rw [same, queue]
      next => rfl
    rw [Bus.inTransit, held_endDrain at_index 0 (Or.inl unheld), queued]
    rfl
  | taken task envelope rest at_index unheld queue =>
    have member := List.mem_of_getElem? at_index
    obtain ⟨topic, registered⟩ := sound.registered task member
    have taken := sound.setTask at_index (some envelope)
    have queued := taken.queued_modifyBacklog registered
      (fun backlog => { backlog with queue := rest }) id
    have inHands := sound.held_setTask at_index (some envelope) id
    by_cases same : id = task.channel
    · subst same
      have before : bus.held task.channel = [] := by rw [sound.held_eq member, unheld]; rfl
      rw [if_pos rfl] at queued inHands
      refine Eq.trans (congrArg₂ (· ++ ·) (congrArg₂ (· ++ ·) rfl inHands) queued) ?_
      rw [Bus.inTransit, before, sound.queued_eq registered, queue, List.append_nil,
        List.append_assoc]
      rfl
    · rw [if_neg same] at queued inHands
      exact congrArg₂ (· ++ ·) (congrArg₂ (· ++ ·) rfl inHands) queued
  | discarded task envelope at_index inHands closed =>
    have different : task.channel ≠ id := by
      rintro rfl
      rw [opened] at closed
      cases closed
    have queued := sound.queued_endDrain at_index ((bus.backlog task.backlog).queue.length + 1) id
    rw [if_neg (Ne.symm different)] at queued
    rw [Bus.inTransit, held_endDrain at_index _ (Or.inr different), queued]
    rfl
  | placed task envelope at_index inHands opened' =>
    have member := List.mem_of_getElem? at_index
    have unheld := sound.held_setTask at_index none id
    by_cases same : id = task.channel
    · subst same
      have before : bus.held task.channel = [envelope] := by rw [sound.held_eq member, inHands]; rfl
      rw [if_pos rfl] at unheld
      rw [Bus.inTransit, channel_modifyChannel, if_pos ⟨rfl, lt_of_isOpen opened'⟩, Bus.inTransit, before]
      refine Eq.trans (congrArg₂ (· ++ ·) (congrArg₂ (· ++ ·) rfl unheld) rfl) ?_
      rw [Option.toList_none, List.append_nil]
      rfl
    · rw [if_neg same] at unheld
      rw [Bus.inTransit, channel_modifyChannel, if_neg (fun both => same both.1)]
      exact congrArg₂ (· ++ ·) (congrArg₂ (· ++ ·) rfl unheld) rfl
  | waiting => rfl

theorem Sound.queued_subscribe (sound : bus.Sound) (topic : Topic) (channel id : ChannelId) :
    (bus.subscribe topic channel).queued id = bus.queued id := by
  have kept := sound.subscribe topic channel
  cases found : bus.backlogOf? id with
  | some backlog =>
    obtain ⟨other, first⟩ := mem_of_backlogOf? found
    have later : ⟨id, backlog⟩ ∈ (bus.subscribe topic channel).registry other :=
      (bus.mem_registry_subscribe ..).mpr (Or.inl first)
    rw [sound.queued_eq first, kept.queued_eq later, backlog_subscribe]
  | none =>
    have before : bus.queued id = [] := by rw [Bus.queued, found]; rfl
    cases found' : (bus.subscribe topic channel).backlogOf? id with
    | none => rw [before, Bus.queued, found']; rfl
    | some backlog =>
      obtain ⟨other, first⟩ := mem_of_backlogOf? found'
      rcases (bus.mem_registry_subscribe ..).mp first with old | ⟨_, new⟩
      · exact absurd rfl (backlogOf?_eq_none.mp found other _ old)
      · obtain ⟨rfl, rfl⟩ := Registration.mk.inj new
        rw [before, kept.queued_eq first, backlog_subscribe, found]
        simp [Bus.backlog]

/-- A subscription leaves channels and drain tasks alone. -/
theorem subscribe_frame (bus : Bus) (topic : Topic) (channel : ChannelId) :
    (bus.subscribe topic channel).channels = bus.channels ∧
      (bus.subscribe topic channel).tasks = bus.tasks ∧
      (bus.subscribe topic channel).hasHandle = bus.hasHandle := by
  unfold Bus.subscribe
  split <;> exact ⟨rfl, rfl, rfl⟩

theorem Sound.inTransit_subscribe (sound : bus.Sound) (topic : Topic) (channel id : ChannelId) :
    (bus.subscribe topic channel).inTransit id = bus.inTransit id := by
  obtain ⟨channels, tasks, _⟩ := bus.subscribe_frame topic channel
  have queued := sound.queued_subscribe topic channel id
  rw [Bus.inTransit, Bus.inTransit, queued, Bus.channel, channels, held, tasks]
  rfl

/-- A receiver takes the first of the envelopes on their way to it. -/
theorem Handed.inTransit {after : Bus} {id : ChannelId} {found : Received}
    (effect : Handed bus id found after) (other : ChannelId) :
    bus.inTransit other = (if other = id then found.toList else []) ++ after.inTransit other := by
  cases effect with
  | envelope envelope rest opened slots =>
    by_cases same : other = id
    · subst same
      rw [if_pos rfl, Bus.inTransit, Bus.inTransit, slots, channel_modifyChannel,
        if_pos ⟨rfl, lt_of_isOpen opened⟩]
      rfl
    · rw [if_neg same, Bus.inTransit, Bus.inTransit, channel_modifyChannel,
        if_neg (fun both => same both.1)]
      rfl
  | empty => simp [Received.toList]
  | disconnected => simp [Received.toList]
  | closed => simp [Received.toList]

theorem inTransit_close (id : ChannelId) {other : ChannelId} (different : other ≠ id) :
    (bus.close id).inTransit other = bus.inTransit other := by
  rw [inTransit, close, channel_modifyChannel, if_neg (fun both => different both.1)]
  rfl

end

end Bus

end ListKeeper
