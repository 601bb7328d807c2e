import ListKeeper.Proofs.Bus.Traffic

namespace ListKeeper.Bus

/-- A drain task feeds this channel. -/
def Served (bus : Bus) (id : ChannelId) : Prop :=
  ∃ task ∈ bus.tasks, task.channel = id

instance (bus : Bus) (id : ChannelId) : Decidable (bus.Served id) :=
  inferInstanceAs (Decidable (∃ task ∈ bus.tasks, task.channel = id))

/-- A drain task can do nothing but wait for room. -/
def Waits (bus : Bus) (task : DrainTask) : Prop :=
  task.held.isSome = true ∧ (bus.channel task.channel).isOpen = true ∧
    (bus.channel task.channel).hasRoom = false

/-- Every drain task has gone as far as it can. -/
def AtRest (bus : Bus) : Prop :=
  ∀ task ∈ bus.tasks, bus.Waits task

section

variable {bus after : Bus} {index : Nat} {outcome : DrainOutcome} {task other : DrainTask}

theorem Sound.draining_iff_served (sound : bus.Sound) {topic : Topic} {entry : Registration}
    (registered : entry ∈ bus.registry topic) :
    (bus.backlog entry.backlog).draining = true ↔ bus.Served entry.channel := by
  rw [sound.draining_iff]
  refine exists_congr fun task => and_congr_right fun member => ?_
  obtain ⟨topic', entry'⟩ := sound.registered task member
  exact (sound.shared _ _ entry' _ _ registered).symm

/-- Nothing waits for a channel without drain task. -/
theorem Sound.nothing_of_not_served (sound : bus.Sound) {id : ChannelId} (unserved : ¬bus.Served id) :
    bus.held id = [] ∧ bus.queued id = [] := by
  refine ⟨held_eq_nil fun task member here => unserved ⟨task, member, here⟩, ?_⟩
  cases found : bus.backlogOf? id with
  | none => rw [queued, found]; rfl
  | some backlog =>
    obtain ⟨topic, entry⟩ := mem_of_backlogOf? found
    rw [sound.queued_eq entry]
    exact sound.idle backlog (Bool.eq_false_iff.mpr fun draining =>
      unserved ((sound.draining_iff_served entry).mp draining))

theorem Sound.ne_of_mem_drop (sound : bus.Sound) (at_index : bus.tasks[index]? = some task)
    (later : other ∈ bus.tasks.drop (index + 1)) : other ≠ task := by
  rintro rfl
  obtain ⟨inside, here⟩ := List.getElem?_eq_some_iff.mp at_index
  have once : bus.tasks.Nodup := List.Nodup.of_map _ sound.single
  have rest := List.drop_eq_getElem_cons inside
  have apart := once.sublist (List.drop_sublist index bus.tasks)
  rw [rest, here, List.nodup_cons] at apart
  exact apart.1 later

/-- What a drain task does is nothing to the others, which have channels of their own. -/
theorem Drained.waits (effect : Drained bus index outcome after) (sound : bus.Sound)
    (at_index : bus.tasks[index]? = some task) (member : other ∈ bus.tasks)
    (different : other ≠ task) (waits : bus.Waits other) : after.Waits other := by
  have same : after.channel other.channel = bus.channel other.channel := by
    cases effect with
    | absent => rfl
    | emptied => rfl
    | taken => rfl
    | discarded => rfl
    | placed task' envelope at_index' =>
      obtain rfl : task = task' := Option.some.inj (at_index.symm.trans at_index')
      have elsewhere : other.channel ≠ task.channel := fun together =>
        different (sound.task_unique (List.mem_of_getElem? at_index) member together)
      rw [channel_modifyChannel, if_neg fun both => elsewhere both.1]
      rfl
    | waiting => rfl
  unfold Waits
  rw [same]
  exact waits

/-- Each step of a drain task brings an envelope closer to its channel, or is its last. The task
is the last but those that wait already, so that the end of one moves none that is still to go. -/
theorem Sound.drainSteps (sound : bus.Sound) (at_index : bus.tasks[index]? = some task)
    (later : ∀ other ∈ bus.tasks.drop (index + 1), bus.Waits other) {fuel : Nat}
    (enough : 2 * (bus.backlog task.backlog).queue.length + task.held.toList.length < fuel) :
    (bus.drainSteps index fuel).Sound ∧
      ∀ other ∈ (bus.drainSteps index fuel).tasks.drop index,
        (bus.drainSteps index fuel).Waits other := by
  induction fuel generalizing bus task with
  | zero => omega
  | succ fuel ih =>
    have effect := bus.drainStep_drained index
    have still := effect.sound sound
    have inside := (List.getElem?_eq_some_iff.mp at_index).1
    have member := List.mem_of_getElem? at_index
    obtain ⟨topic, entry⟩ := sound.registered task member
    have exists_backlog : task.backlog < bus.backlogs.length := sound.within topic _ entry
    have others : ∀ other ∈ bus.tasks.drop (index + 1), (bus.drainStep index).2.Waits other :=
      fun other there => effect.waits sound at_index (List.mem_of_mem_drop there)
        (sound.ne_of_mem_drop at_index there) (later other there)
    rw [Bus.drainSteps]
    generalize bus.drainStep index = step at effect still others
    obtain ⟨outcome, after⟩ := step
    dsimp only at effect still others
    have ended (tasks : after.tasks = bus.tasks.eraseIdx index) :
        ∀ other ∈ after.tasks.drop index, after.Waits other := by
      intro other there
      rw [tasks, List.eraseIdx_eq_take_drop_succ, List.drop_append_of_le_length,
        List.drop_take_self] at there
      · exact others other there
      · rw [List.length_take]
        omega
    have moved (held : Option Envelope)
        (tasks : after.tasks = bus.tasks.set index { task with held }) :
        ∀ other ∈ after.tasks.drop (index + 1), after.Waits other := by
      intro other there
      rw [tasks, List.drop_set_of_lt (Nat.lt_succ_self index)] at there
      exact others other there
    cases effect with
    | absent none => rw [at_index] at none; cases none
    | emptied => exact ⟨still, ended rfl⟩
    | taken task' envelope rest at_index' unheld queue =>
      obtain rfl : task = task' := Option.some.inj (at_index.symm.trans at_index')
      refine ih still (List.getElem?_set_self inside) (moved _ rfl) ?_
      rw [backlog_modifyBacklog, if_pos ⟨rfl, exists_backlog⟩]
      rw [unheld, queue, Option.toList_none, List.length_nil, List.length_cons] at enough
      rw [Option.toList_some, List.length_singleton]
      dsimp only
      omega
    | discarded => exact ⟨still, ended rfl⟩
    | placed task' envelope at_index' inHands =>
      obtain rfl : task = task' := Option.some.inj (at_index.symm.trans at_index')
      refine ih still (List.getElem?_set_self inside) (moved _ rfl) ?_
      rw [inHands, Option.toList_some, List.length_singleton] at enough
      change 2 * (bus.backlog task.backlog).queue.length + 0 < fuel
      omega
    | waiting task' envelope at_index' inHands opened full =>
      obtain rfl : task = task' := Option.some.inj (at_index.symm.trans at_index')
      refine ⟨still, fun other there => ?_⟩
      obtain ⟨_, here⟩ := List.getElem?_eq_some_iff.mp at_index
      rw [List.drop_eq_getElem_cons inside, here] at there
      rcases List.mem_cons.mp there with rfl | behind
      · exact ⟨by rw [inHands]; rfl, opened, full⟩
      · exact others other behind

theorem Sound.drain (sound : bus.Sound)
    (later : ∀ other ∈ bus.tasks.drop (index + 1), bus.Waits other) :
    (bus.drain index).Sound ∧
      ∀ other ∈ (bus.drain index).tasks.drop index, (bus.drain index).Waits other := by
  unfold Bus.drain
  cases at_index : bus.tasks[index]? with
  | none =>
    refine ⟨sound, fun other there => ?_⟩
    rw [List.drop_of_length_le (List.getElem?_eq_none_iff.mp at_index)] at there
    cases there
  | some task =>
    refine sound.drainSteps at_index later ?_
    have one : task.held.toList.length ≤ 1 := by cases task.held <;> simp
    omega

theorem Sound.drainBelow (sound : bus.Sound) (index : Nat)
    (later : ∀ other ∈ bus.tasks.drop index, bus.Waits other) :
    (bus.drainBelow index).AtRest := by
  induction index generalizing bus with
  | zero => exact later
  | succ index ih =>
    obtain ⟨still, others⟩ := sound.drain later
    exact ih still others

/-- Settling leaves every drain task that it does not end waiting for room. -/
theorem Sound.atRest_settle (sound : bus.Sound) : bus.settle.AtRest := by
  refine sound.drainBelow _ fun other there => ?_
  rw [List.drop_length] at there
  cases there

theorem exists_run_drainSteps (bus : Bus) (index fuel : Nat) :
    ∃ steps : List Nat, bus.drainSteps index fuel = bus.run (steps.map .drain) := by
  induction fuel generalizing bus with
  | zero => exact ⟨[], rfl⟩
  | succ fuel ih =>
    rw [Bus.drainSteps]
    cases step : bus.drainStep index with
    | mk outcome after =>
      have first : bus.act (.drain index) = after := congrArg Prod.snd step
      cases outcome with
      | moved =>
        obtain ⟨steps, rest⟩ := ih after
        exact ⟨index :: steps, rest.trans (by rw [List.map_cons, run, run, List.foldl_cons, first])⟩
      | waiting => exact ⟨[index], first.symm⟩
      | ended => exact ⟨[index], first.symm⟩

theorem run_append (bus : Bus) (first second : List Action) :
    bus.run (first ++ second) = (bus.run first).run second :=
  List.foldl_append ..

theorem exists_run_drainBelow (bus : Bus) (index : Nat) :
    ∃ steps : List Nat, bus.drainBelow index = bus.run (steps.map .drain) := by
  induction index generalizing bus with
  | zero => exact ⟨[], rfl⟩
  | succ index ih =>
    have first : ∃ steps : List Nat, bus.drain index = bus.run (steps.map .drain) := by
      unfold Bus.drain
      cases bus.tasks[index]? with
      | none => exact ⟨[], rfl⟩
      | some task => exact bus.exists_run_drainSteps index _
    obtain ⟨steps, first⟩ := first
    obtain ⟨steps', second⟩ := ih (bus.drain index)
    refine ⟨steps ++ steps', ?_⟩
    rw [List.map_append, run_append, ← first]
    exact second

/-- Settling is a number of steps of drain tasks. -/
theorem exists_run_settle (bus : Bus) :
    ∃ steps : List Nat, bus.settle = bus.run (steps.map .drain) :=
  bus.exists_run_drainBelow _

theorem isOpen_run_drains (bus : Bus) (steps : List Nat) (id : ChannelId) :
    ((bus.run (steps.map .drain)).channel id).isOpen = (bus.channel id).isOpen := by
  induction steps generalizing bus with
  | nil => rfl
  | cons index rest ih => exact (ih _).trans ((bus.drainStep_drained index).isOpen id)

/-- At rest, nothing is on its way to a channel whose receiver is gone. -/
theorem Sound.nothing_of_atRest (sound : bus.Sound) (rest : bus.AtRest) {id : ChannelId}
    (closed : (bus.channel id).isOpen = false) : bus.held id = [] ∧ bus.queued id = [] := by
  refine sound.nothing_of_not_served ?_
  rintro ⟨task, member, rfl⟩
  rw [(rest task member).2.1] at closed
  cases closed

end

end ListKeeper.Bus
