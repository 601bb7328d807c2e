import ListKeeper.Bus.Deliver
import Mathlib

namespace ListKeeper.Bus

@[simp] theorem channel_modifyChannel (bus : Bus) (id other : ChannelId) (change : Channel → Channel) :
    (bus.modifyChannel id change).channel other =
      if other = id ∧ other < bus.channels.length then change (bus.channel other)
      else bus.channel other := by
  simp only [channel, modifyChannel, List.getD_eq_getElem?_getD, List.getElem?_modify]
  by_cases same : other = id
  · subst same
    by_cases inside : other < bus.channels.length <;> simp [inside]
  · simp [same, Ne.symm same]

@[simp] theorem backlog_modifyBacklog (bus : Bus) (id other : BacklogId) (change : Backlog → Backlog) :
    (bus.modifyBacklog id change).backlog other =
      if other = id ∧ other < bus.backlogs.length then change (bus.backlog other)
      else bus.backlog other := by
  simp only [backlog, modifyBacklog, List.getD_eq_getElem?_getD, List.getElem?_modify]
  by_cases same : other = id
  · subst same
    by_cases inside : other < bus.backlogs.length <;> simp [inside]
  · simp [same, Ne.symm same]

@[simp] theorem length_channels_modifyChannel (bus : Bus) (id : ChannelId) (change : Channel → Channel) :
    (bus.modifyChannel id change).channels.length = bus.channels.length :=
  List.length_modify ..

@[simp] theorem length_backlogs_modifyBacklog (bus : Bus) (id : BacklogId) (change : Backlog → Backlog) :
    (bus.modifyBacklog id change).backlogs.length = bus.backlogs.length :=
  List.length_modify ..

@[simp] theorem backlog_modifyChannel (bus : Bus) (id : ChannelId) (change : Channel → Channel)
    (other : BacklogId) : (bus.modifyChannel id change).backlog other = bus.backlog other := rfl

@[simp] theorem channel_modifyBacklog (bus : Bus) (id : BacklogId) (change : Backlog → Backlog)
    (other : ChannelId) : (bus.modifyBacklog id change).channel other = bus.channel other := rfl

theorem lt_of_isOpen {bus : Bus} {id : ChannelId} (opened : (bus.channel id).isOpen = true) :
    id < bus.channels.length := by
  by_contra outside
  simp [channel, List.getD_eq_getElem?_getD, List.getElem?_eq_none (Nat.le_of_not_lt outside)] at opened

/-- What every operation keeps. -/
structure Sound (bus : Bus) : Prop where
  /-- Every registration names a backlog of the bus. -/
  within : ∀ topic, ∀ entry ∈ bus.registry topic, entry.backlog < bus.backlogs.length
  /-- Two registrations share a backlog exactly when they are of one channel. -/
  shared : ∀ topic, ∀ entry ∈ bus.registry topic, ∀ topic', ∀ entry' ∈ bus.registry topic',
    entry.channel = entry'.channel ↔ entry.backlog = entry'.backlog
  /-- Every drain task works for some registration. -/
  registered : ∀ task ∈ bus.tasks, ∃ topic, ⟨task.channel, task.backlog⟩ ∈ bus.registry topic
  /-- No two drain tasks work on one backlog. -/
  single : (bus.tasks.map DrainTask.backlog).Nodup
  draining_iff : ∀ id, (bus.backlog id).draining = true ↔ ∃ task ∈ bus.tasks, task.backlog = id
  idle : ∀ id, (bus.backlog id).draining = false → (bus.backlog id).queue = []

theorem sound_new (maxInflight : Nat) : (Bus.new maxInflight).Sound where
  within topic entry member := by simp [new] at member
  shared topic entry member := by simp [new] at member
  registered task member := by simp [new] at member
  single := List.nodup_nil
  draining_iff id := by simp [new, backlog]
  idle id _ := by simp [new, backlog]

/-- Channels and counters play no part in soundness. -/
theorem Sound.congr {bus other : Bus} (sound : bus.Sound) (registry : other.registry = bus.registry)
    (backlogs : other.backlogs = bus.backlogs) (tasks : other.tasks = bus.tasks) : other.Sound := by
  have same (id : BacklogId) : other.backlog id = bus.backlog id := by rw [backlog, backlogs, backlog]
  refine ⟨?_, ?_, ?_, ?_, ?_, ?_⟩
  · rw [registry, backlogs]; exact sound.within
  · rw [registry]; exact sound.shared
  · rw [registry, tasks]; exact sound.registered
  · rw [tasks]; exact sound.single
  · intro id; rw [same, tasks]; exact sound.draining_iff id
  · intro id; rw [same]; exact sound.idle id

/-- A changed queue keeps soundness, as long as nothing is put into a backlog without drain task. -/
theorem Sound.modifyQueue {bus : Bus} (sound : bus.Sound) {id : BacklogId}
    (draining : (bus.backlog id).draining = true) (change : List Envelope → List Envelope) :
    (bus.modifyBacklog id fun backlog => { backlog with queue := change backlog.queue }).Sound where
  within topic entry member := by
    rw [length_backlogs_modifyBacklog]; exact sound.within topic entry member
  shared := sound.shared
  registered := sound.registered
  single := sound.single
  draining_iff other := by
    have kept : ((bus.modifyBacklog id fun backlog =>
        { backlog with queue := change backlog.queue }).backlog other).draining =
          (bus.backlog other).draining := by
      rw [backlog_modifyBacklog]; split <;> rfl
    rw [kept]; exact sound.draining_iff other
  idle other idle := by
    rw [backlog_modifyBacklog] at idle ⊢
    split at idle
    next here =>
      rw [here.1, draining] at idle
      cases idle
    next elsewhere =>
      rw [if_neg elsewhere]
      exact sound.idle other idle

/-- What a drain task has in its hands plays no part either. -/
theorem Sound.setTask {bus : Bus} (sound : bus.Sound) {index : Nat} {task : DrainTask}
    (at_index : bus.tasks[index]? = some task) (held : Option Envelope) :
    Sound { bus with tasks := bus.tasks.set index { task with held } } := by
  have backlogs : (bus.tasks.set index { task with held }).map DrainTask.backlog =
      bus.tasks.map DrainTask.backlog := by
    have at_map : (bus.tasks.map DrainTask.backlog)[index]? = some task.backlog := by
      rw [List.getElem?_map, at_index]; rfl
    obtain ⟨inside, value⟩ := List.getElem?_eq_some_iff.mp at_map
    rw [List.map_set, ← value, List.set_getElem_self]
  refine ⟨sound.within, sound.shared, ?_, ?_, ?_, sound.idle⟩
  · intro changed member
    rcases List.mem_or_eq_of_mem_set member with old | rfl
    · exact sound.registered changed old
    · exact sound.registered task (List.mem_of_getElem? at_index)
  · rw [backlogs]; exact sound.single
  · intro id
    have members : (∃ task' ∈ bus.tasks.set index { task with held }, task'.backlog = id) ↔
        ∃ task' ∈ bus.tasks, task'.backlog = id := by
      rw [← List.mem_map, backlogs, List.mem_map]
    exact (sound.draining_iff id).trans members.symm

/-- A drain task ends together with the draining of its backlog, which is then empty. -/
theorem Sound.endDrain {bus : Bus} (sound : bus.Sound) {index : Nat} {task : DrainTask}
    (at_index : bus.tasks[index]? = some task) (released : Nat) :
    (bus.endDrain index task released).Sound := by
  have member := List.mem_of_getElem? at_index
  obtain ⟨topic, entry⟩ := sound.registered task member
  have exists_backlog : task.backlog < bus.backlogs.length := sound.within topic _ entry
  have others (other : DrainTask) :
      other ∈ bus.tasks.eraseIdx index ↔ other ∈ bus.tasks ∧ other.backlog ≠ task.backlog := by
    rw [List.mem_eraseIdx_iff_getElem?]
    constructor
    · rintro ⟨i, different, at_i⟩
      refine ⟨List.mem_of_getElem? at_i, fun same => different ?_⟩
      have bound : i < (bus.tasks.map DrainTask.backlog).length := by
        rw [List.length_map]; exact (List.getElem?_eq_some_iff.mp at_i).1
      refine (List.getElem?_inj bound sound.single).mp ?_
      rw [List.getElem?_map, List.getElem?_map, at_i, at_index, Option.map_some, same, Option.map_some]
    · rintro ⟨old, different⟩
      obtain ⟨i, at_i⟩ := List.mem_iff_getElem?.mp old
      refine ⟨i, ?_, at_i⟩
      rintro rfl
      rw [at_index] at at_i
      exact different (by rw [Option.some.inj at_i])
  have after (id : BacklogId) : (bus.endDrain index task released).backlog id =
      if id = task.backlog then ⟨[], false⟩ else bus.backlog id := by
    rw [Bus.endDrain, backlog_modifyBacklog]
    by_cases same : id = task.backlog
    · rw [if_pos ⟨same, same ▸ exists_backlog⟩, if_pos same]
    · rw [if_neg (fun both => same both.1), if_neg same]
      rfl
  refine ⟨?_, sound.shared, ?_, ?_, ?_, ?_⟩
  · intro topic entry member
    rw [Bus.endDrain, length_backlogs_modifyBacklog]
    exact sound.within topic entry member
  · intro other member
    exact sound.registered other ((others other).mp member).1
  · exact sound.single.sublist ((List.eraseIdx_sublist ..).map _)
  · intro id
    rw [after]
    split
    next same =>
      simp only [Bool.false_eq_true, false_iff, not_exists, not_and]
      intro other member
      rw [same]
      exact ((others other).mp member).2
    next different =>
      rw [sound.draining_iff id]
      constructor
      · rintro ⟨other, old, rfl⟩
        exact ⟨other, (others other).mpr ⟨old, different⟩, rfl⟩
      · rintro ⟨other, member, rfl⟩
        exact ⟨other, ((others other).mp member).1, rfl⟩
  · intro id
    rw [after]
    split
    · exact fun _ => rfl
    · exact sound.idle id

/-- A drain task starts together with the draining of a backlog that has none. -/
theorem Sound.startDrain {bus : Bus} (sound : bus.Sound) {topic : Topic} {entry : Registration}
    (registered : entry ∈ bus.registry topic) (free : (bus.backlog entry.backlog).draining = false) :
    (bus.startDrain entry).Sound := by
  have inside := sound.within topic entry registered
  have after (id : BacklogId) : (bus.startDrain entry).backlog id =
      if id = entry.backlog then { bus.backlog id with draining := true } else bus.backlog id := by
    rw [Bus.startDrain, backlog_modifyBacklog]
    by_cases same : id = entry.backlog
    · rw [if_pos ⟨same, same ▸ inside⟩, if_pos same]
      rfl
    · rw [if_neg (fun both => same both.1), if_neg same]
      rfl
  have tasks : (bus.startDrain entry).tasks = bus.tasks ++ [⟨entry.channel, entry.backlog, none⟩] := rfl
  have unserved : ∀ task ∈ bus.tasks, task.backlog ≠ entry.backlog := by
    intro task member same
    rw [(sound.draining_iff entry.backlog).mpr ⟨task, member, same⟩] at free
    cases free
  refine ⟨?_, sound.shared, ?_, ?_, ?_, ?_⟩
  · intro topic entry' member
    rw [Bus.startDrain, length_backlogs_modifyBacklog]
    exact sound.within topic entry' member
  · intro task member
    rw [tasks] at member
    rcases List.mem_append.mp member with old | fresh
    · exact sound.registered task old
    · rw [List.mem_singleton.mp fresh]
      exact ⟨topic, registered⟩
  · rw [tasks, List.map_append, List.nodup_append]
    refine ⟨sound.single, List.nodup_singleton _, ?_⟩
    intro old member fresh last
    obtain ⟨task, kept, rfl⟩ := List.mem_map.mp member
    rw [List.mem_singleton.mp last]
    exact unserved task kept
  · intro id
    rw [after, tasks]
    split
    next same => exact iff_of_true rfl ⟨_, List.mem_append_right _ (List.mem_singleton_self _), same.symm⟩
    next different =>
      rw [sound.draining_iff id]
      constructor
      · rintro ⟨task, member, rfl⟩
        exact ⟨task, List.mem_append_left _ member, rfl⟩
      · rintro ⟨task, member, rfl⟩
        rcases List.mem_append.mp member with old | fresh
        · exact ⟨task, old, rfl⟩
        · rw [List.mem_singleton.mp fresh] at different
          exact absurd rfl different
  · intro id idle
    rw [after] at idle ⊢
    split at idle
    next => cases idle
    next different =>
      rw [if_neg different]
      exact sound.idle id idle

@[simp] theorem mem_registry_register (bus : Bus) (topic other : Topic) (entry entry' : Registration) :
    entry' ∈ (bus.register topic entry).registry other ↔
      entry' ∈ bus.registry other ∨ other = topic ∧ entry' = entry := by
  by_cases same : other = topic
  · subst same
    simp [register]
  · simp [register, same]

theorem mem_registrations (bus : Bus) (entry : Registration) :
    entry ∈ bus.registrations ↔ ∃ topic, entry ∈ bus.registry topic := by
  rw [registrations, List.mem_flatMap]
  constructor
  · rintro ⟨topic, _, member⟩
    exact ⟨topic, member⟩
  · rintro ⟨topic, member⟩
    exact ⟨topic, by cases topic <;> simp [Topic.all], member⟩

theorem backlogOf?_eq_none {bus : Bus} {id : ChannelId} :
    bus.backlogOf? id = none ↔ ∀ topic, ∀ entry ∈ bus.registry topic, entry.channel ≠ id := by
  rw [backlogOf?, Option.map_eq_none_iff, List.find?_eq_none]
  simp only [mem_registrations, beq_iff_eq]
  exact ⟨fun none topic entry member => none entry ⟨topic, member⟩,
    fun none entry ⟨topic, member⟩ => none topic entry member⟩

theorem mem_of_backlogOf? {bus : Bus} {id : ChannelId} {backlog : BacklogId}
    (found : bus.backlogOf? id = some backlog) : ∃ topic, ⟨id, backlog⟩ ∈ bus.registry topic := by
  obtain ⟨entry, first, rfl⟩ := Option.map_eq_some_iff.mp found
  obtain ⟨topic, member⟩ := (bus.mem_registrations entry).mp (List.mem_of_find?_eq_some first)
  have same : entry.channel = id := by simpa using List.find?_some first
  exact ⟨topic, same ▸ member⟩

theorem Sound.backlogOf? {bus : Bus} (sound : bus.Sound) {topic : Topic} {entry : Registration}
    (member : entry ∈ bus.registry topic) : bus.backlogOf? entry.channel = some entry.backlog := by
  cases found : bus.backlogOf? entry.channel with
  | none => exact absurd rfl (backlogOf?_eq_none.mp found topic entry member)
  | some backlog =>
    obtain ⟨topic', first⟩ := mem_of_backlogOf? found
    exact congrArg some ((sound.shared _ _ first _ _ member).mp rfl)

theorem Sound.register {bus : Bus} (sound : bus.Sound) (topic : Topic) {entry : Registration}
    (inside : entry.backlog < bus.backlogs.length)
    (agrees : ∀ topic', ∀ entry' ∈ bus.registry topic',
      entry.channel = entry'.channel ↔ entry.backlog = entry'.backlog) :
    (bus.register topic entry).Sound where
  within topic' entry' member := by
    rcases (bus.mem_registry_register ..).mp member with old | ⟨_, rfl⟩
    · exact sound.within topic' entry' old
    · exact inside
  shared topic₁ entry₁ member₁ topic₂ entry₂ member₂ := by
    rcases (bus.mem_registry_register ..).mp member₁ with old₁ | ⟨_, rfl⟩
    · rcases (bus.mem_registry_register ..).mp member₂ with old₂ | ⟨_, rfl⟩
      · exact sound.shared topic₁ entry₁ old₁ topic₂ entry₂ old₂
      · rw [eq_comm, agrees topic₁ entry₁ old₁, eq_comm]
    · rcases (bus.mem_registry_register ..).mp member₂ with old₂ | ⟨_, rfl⟩
      · exact agrees topic₂ entry₂ old₂
      · exact iff_of_true rfl rfl
  registered task member := by
    obtain ⟨topic', old⟩ := sound.registered task member
    exact ⟨topic', (bus.mem_registry_register ..).mpr (Or.inl old)⟩
  single := sound.single
  draining_iff := sound.draining_iff
  idle := sound.idle

theorem backlog_append_new (bus : Bus) (id : BacklogId) :
    backlog { bus with backlogs := bus.backlogs ++ [⟨[], false⟩] } id = bus.backlog id := by
  simp only [backlog, List.getD_eq_getElem?_getD, List.getElem?_append]
  split
  · rfl
  next outside =>
    rw [List.getElem?_eq_none (Nat.le_of_not_lt outside)]
    cases id - bus.backlogs.length <;> rfl

theorem registry_subscribe (bus : Bus) (topic other : Topic) (id : ChannelId) :
    (bus.subscribe topic id).registry other = bus.registry other ++
      if other = topic then [⟨id, (bus.backlogOf? id).getD bus.backlogs.length⟩] else [] := by
  by_cases same : other = topic
  · subst same
    cases found : bus.backlogOf? id <;> simp [Bus.subscribe, found, Bus.register]
  · cases found : bus.backlogOf? id <;> simp [Bus.subscribe, found, Bus.register, same]

theorem mem_registry_subscribe (bus : Bus) (topic other : Topic) (id : ChannelId)
    (entry : Registration) :
    entry ∈ (bus.subscribe topic id).registry other ↔ entry ∈ bus.registry other ∨
      other = topic ∧ entry = ⟨id, (bus.backlogOf? id).getD bus.backlogs.length⟩ := by
  rw [registry_subscribe, List.mem_append]
  by_cases same : other = topic <;> simp [same]

@[simp] theorem backlog_subscribe (bus : Bus) (topic : Topic) (channel : ChannelId) (id : BacklogId) :
    (bus.subscribe topic channel).backlog id = bus.backlog id := by
  unfold Bus.subscribe
  split
  · rfl
  · exact bus.backlog_append_new id

theorem Sound.subscribe {bus : Bus} (sound : bus.Sound) (topic : Topic) (id : ChannelId) :
    (bus.subscribe topic id).Sound := by
  unfold Bus.subscribe
  split
  next backlog found =>
    obtain ⟨topic', first⟩ := mem_of_backlogOf? found
    exact sound.register topic (sound.within topic' _ first) (sound.shared topic' _ first)
  next none =>
    have unregistered := backlogOf?_eq_none.mp none
    have fresh : Sound { bus with backlogs := bus.backlogs ++ [⟨[], false⟩] } := by
      refine ⟨?_, sound.shared, sound.registered, sound.single, ?_, ?_⟩
      · intro topic' entry member
        exact Nat.lt_of_lt_of_le (sound.within topic' entry member) (by simp)
      · intro other
        rw [backlog_append_new]
        exact sound.draining_iff other
      · intro other
        rw [backlog_append_new]
        exact sound.idle other
    refine fresh.register topic (by simp) ?_
    intro topic' entry member
    have bound := sound.within topic' entry member
    exact iff_of_false (Ne.symm (unregistered topic' entry member)) (Nat.ne_of_gt bound)

end ListKeeper.Bus
