import ListKeeper.Proofs.Bus.Rest

namespace ListKeeper

/-- A publication under way, with the registrations that have still to be offered a copy. -/
structure Publication where
  canSpawn : Bool
  envelope : Envelope
  remaining : List Registration
  deriving DecidableEq

/-- A bus with the publications that are under way on it. -/
structure Overlap where
  bus : Bus
  publications : List Publication

namespace Overlap

inductive Move where
  /-- An action that nothing interrupts. -/
  | act (action : Bus.Action)
  /-- The start of a publication, at which it notes the registrations of its topic. -/
  | announce (canSpawn : Bool) (envelope : Envelope)
  /-- The next copy of the publication at an index. -/
  | offer (index : Nat)
  deriving DecidableEq

def start (maxInflight : Nat) (capacities : List Nat) : Overlap :=
  ⟨Bus.withChannels maxInflight capacities, []⟩

/-- Offers the next copy of the publication at an index, if it has one left. -/
def offer (overlap : Overlap) (index : Nat) : Overlap :=
  match overlap.publications[index]? with
  | some ⟨canSpawn, envelope, entry :: later⟩ =>
    ⟨(overlap.bus.offer canSpawn entry envelope).2,
      overlap.publications.set index ⟨canSpawn, envelope, later⟩⟩
  | _ => overlap

def move (overlap : Overlap) : Move → Overlap
  | .act action => { overlap with bus := overlap.bus.act action }
  | .announce canSpawn envelope =>
    { overlap with
      publications := overlap.publications ++
        [⟨canSpawn, envelope, overlap.bus.registry envelope.topic⟩] }
  | .offer index => overlap.offer index

def run (overlap : Overlap) (moves : List Move) : Overlap :=
  moves.foldl move overlap

/-- The bus is sound, and whoever is still to be offered a copy is registered. -/
structure Sound (overlap : Overlap) : Prop where
  bus : overlap.bus.Sound
  registered : ∀ publication ∈ overlap.publications, ∀ entry ∈ publication.remaining,
    ∃ topic, entry ∈ overlap.bus.registry topic

end Overlap

namespace Bus

/-- How many drain tasks work on a backlog. -/
def drainers (bus : Bus) (id : BacklogId) : Nat :=
  bus.tasks.countP fun task => task.backlog = id

/-- How many drain tasks feed a channel. -/
def feeders (bus : Bus) (id : ChannelId) : Nat :=
  bus.tasks.countP fun task => task.channel = id

variable {bus : Bus}

theorem mem_registry_act {topic : Topic} {entry : Registration} (member : entry ∈ bus.registry topic)
    (action : Action) : entry ∈ (bus.act action).registry topic := by
  cases action with
  | subscribe topic' channel => exact (bus.mem_registry_subscribe ..).mpr (Or.inl member)
  | publish canSpawn envelope =>
    rw [act, publish, (bus.offerAll_frame canSpawn envelope _).1]
    exact member
  | recv channel =>
    rw [act, (bus.recv_handed channel).registry]
    exact member
  | drain index =>
    rw [act, (bus.drainStep_drained index).registry]
    exact member
  | close channel => exact member

theorem drainers_pos {id : BacklogId} : 0 < bus.drainers id ↔ ∃ task ∈ bus.tasks, task.backlog = id := by
  simp [drainers, List.countP_pos_iff]

theorem feeders_pos {id : ChannelId} : 0 < bus.feeders id ↔ bus.Served id := by
  simp [feeders, Served, List.countP_pos_iff]

theorem countP_le_one_of_nodup {f : DrainTask → Nat} {tasks : List DrainTask}
    (apart : (tasks.map f).Nodup) (id : Nat) : (tasks.countP fun task => f task = id) ≤ 1 := by
  have counted : (tasks.countP fun task => f task = id) = (tasks.map f).count id := by
    rw [List.count, List.countP_map]
    exact List.countP_congr fun task _ => by simp
  rw [counted]
  exact List.nodup_iff_count_le_one.mp apart id

theorem Sound.drainers_le_one (sound : bus.Sound) (id : BacklogId) : bus.drainers id ≤ 1 :=
  countP_le_one_of_nodup sound.single id

theorem Sound.feeders_le_one (sound : bus.Sound) (id : ChannelId) : bus.feeders id ≤ 1 := by
  have once : bus.tasks.Nodup := List.Nodup.of_map _ sound.single
  have apart : (bus.tasks.map DrainTask.channel).Nodup :=
    once.map_on fun task member other member' same => sound.task_unique member' member same
  exact countP_le_one_of_nodup apart id

theorem Sound.draining_iff_drainers (sound : bus.Sound) (id : BacklogId) :
    (bus.backlog id).draining = true ↔ bus.drainers id = 1 := by
  have most := sound.drainers_le_one id
  rw [sound.draining_iff, ← drainers_pos]
  omega

end Bus

namespace Overlap

variable {overlap : Overlap}

theorem sound_start (maxInflight : Nat) (capacities : List Nat) : (start maxInflight capacities).Sound :=
  ⟨Bus.sound_withChannels maxInflight capacities, fun publication member => by cases member⟩

/-- One copy of a publication keeps soundness, although the registrations were noted earlier. -/
theorem Sound.offer (sound : overlap.Sound) (index : Nat) : (overlap.offer index).Sound := by
  unfold Overlap.offer
  split
  next canSpawn envelope entry later found =>
    have noted := sound.registered _ (List.mem_of_getElem? found)
    have effect := overlap.bus.offer_offered canSpawn entry envelope
    obtain ⟨topic, registered⟩ := noted entry (List.mem_cons_self ..)
    refine ⟨effect.sound sound.bus registered, fun publication member other remains => ?_⟩
    rw [effect.registry]
    rcases List.mem_or_eq_of_mem_set member with old | rfl
    · exact sound.registered publication old other remains
    · exact noted other (List.mem_cons_of_mem _ remains)
  next => exact sound

theorem Sound.move (sound : overlap.Sound) (move : Move) : (overlap.move move).Sound := by
  cases move with
  | act action =>
    refine ⟨sound.bus.act action, fun publication member entry remains => ?_⟩
    obtain ⟨topic, registered⟩ := sound.registered publication member entry remains
    exact ⟨topic, Bus.mem_registry_act registered action⟩
  | announce canSpawn envelope =>
    refine ⟨sound.bus, fun publication member entry remains => ?_⟩
    rcases List.mem_append.mp member with old | new
    · exact sound.registered publication old entry remains
    · rw [List.mem_singleton.mp new] at remains
      exact ⟨envelope.topic, remains⟩
  | offer index => exact sound.offer index

theorem Sound.run (sound : overlap.Sound) (moves : List Move) : (overlap.run moves).Sound := by
  induction moves generalizing overlap with
  | nil => exact sound
  | cons move rest ih => exact ih (sound.move move)

/-- However publications overlap with each other and with everything else, at most one drain task
works on a backlog, one does exactly while the backlog is marked as being drained, and a backlog
that is not is empty. So a channel is fed by one task at most, and by one if anything waits for it. -/
theorem drained_by_one (maxInflight : Nat) (capacities : List Nat) (moves : List Move) :
    let bus := ((start maxInflight capacities).run moves).bus
    (∀ id, bus.drainers id ≤ 1 ∧ ((bus.backlog id).draining = true ↔ bus.drainers id = 1) ∧
      ((bus.backlog id).draining = false → (bus.backlog id).queue = [])) ∧
    ∀ topic, ∀ entry ∈ bus.registry topic, bus.feeders entry.channel ≤ 1 ∧
      ((bus.backlog entry.backlog).queue ≠ [] →
        ∃ task ∈ bus.tasks, task.backlog = entry.backlog ∧ task.channel = entry.channel) := by
  intro bus
  have sound : bus.Sound := ((sound_start maxInflight capacities).run moves).bus
  refine ⟨fun id => ⟨sound.drainers_le_one id, sound.draining_iff_drainers id, sound.idle id⟩, ?_⟩
  intro topic entry registered
  refine ⟨sound.feeders_le_one entry.channel, fun waits => ?_⟩
  have draining : (bus.backlog entry.backlog).draining = true := by
    by_contra idle
    exact waits (sound.idle entry.backlog (Bool.eq_false_iff.mpr idle))
  obtain ⟨task, member, same⟩ := (sound.draining_iff entry.backlog).mp draining
  obtain ⟨topic', registered'⟩ := sound.registered task member
  exact ⟨task, member, same, (sound.shared _ _ registered' _ _ registered).mpr same⟩

/-- Two publications for a channel of one slot take turns, and the second fills it: its drain task
also serves the first. Then the receiver goes, and a third publication that has noted the channel
before finds neither the receiver nor the task. -/
theorem drained_by_one_in_turns :
    let event (list : Int32) : Envelope := ⟨.listUpdated, .list ⟨list⟩⟩
    let moves : List Move := [.act (.subscribe .listUpdated 0), .act (.subscribe .listUpdated 0),
      .announce true (event 1), .announce true (event 2), .offer 0, .offer 1, .offer 0, .offer 1]
    let later : List Move := [.act (.drain 0), .announce true (event 3), .act (.close 0),
      .act (.drain 0), .offer 2]
    let bus := ((start 4 [1]).run moves).bus
    let after := ((start 4 [1]).run (moves ++ later)).bus
    (bus.backlog 0).queue = [event 2, event 1, event 2] ∧
      (∃ task ∈ bus.tasks, task.backlog = 0 ∧ task.channel = 0) ∧
      (after.backlog 0).draining = false ∧ (after.backlog 0).queue = [] := by
  intro event moves later bus after
  have queue : (bus.backlog 0).queue = [event 2, event 1, event 2] := by decide
  have idle : (after.backlog 0).draining = false := by decide
  have served := ((drained_by_one 4 [1] moves).2 .listUpdated ⟨0, 0⟩ (by decide)).2
  have empty := ((drained_by_one 4 [1] (moves ++ later)).1 0).2.2
  exact ⟨queue, served (by decide), idle, empty idle⟩

end Overlap

end ListKeeper
