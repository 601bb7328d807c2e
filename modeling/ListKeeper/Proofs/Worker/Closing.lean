import ListKeeper.Proofs.Worker.Once
import ListKeeper.Proofs.Worker.Returning

namespace ListKeeper

variable {I : Interface} {σ : Type}

namespace Bus

/-- Only with a handle of the bus one can do this. -/
def Action.needsHandle : Action → Bool
  | .subscribe .. => true
  | .publish .. => true
  | _ => false

variable {bus : Bus} {id : ChannelId} {action : Action}

theorem Tended.ne_length (tended : bus.Tended id) : id ≠ bus.channels.length :=
  Nat.ne_of_lt (lt_of_isOpen tended.isOpen)

theorem lane_openChannel (known : id ≠ bus.channels.length) (capacity : Nat) :
    (bus.openChannel capacity).2.lane id = bus.lane id := by
  have channel : (bus.openChannel capacity).2.channel id = bus.channel id := by
    rw [channel_openChannel, if_neg known]
  exact lane_eq channel decide_eq_true_iff.symm rfl rfl

theorem inTransit_eq_of_lane {after : Bus} (same : after.lane id = bus.lane id) :
    after.inTransit id = bus.inTransit id := by
  have channel : after.channel id = bus.channel id := congrArg Lane.channel same
  have held : after.held id = bus.held id := congrArg Lane.held same
  have queued : after.queued id = bus.queued id := congrArg Lane.queued same
  rw [inTransit, inTransit, channel, held, queued]

theorem Tended.openChannel (tended : bus.Tended id) (capacity : Nat) :
    (bus.openChannel capacity).2.Tended id := by
  have channel : (bus.openChannel capacity).2.channel id = bus.channel id := by
    rw [channel_openChannel, if_neg tended.ne_length]
  refine ⟨tended.sound.congr rfl rfl rfl, ?_, ?_⟩
  · rw [channel]
    exact tended.isOpen
  · rw [channel]
    exact tended.capacity

theorem Tended.dropHandle (tended : bus.Tended id) : bus.dropHandle.Tended id :=
  ⟨tended.sound.congr rfl rfl rfl, tended.isOpen, tended.capacity⟩

theorem lane_dropHandle : bus.dropHandle.lane id = bus.lane id :=
  lane_eq rfl decide_eq_true_iff.symm rfl rfl

theorem ne_close_of_foreign (foreign : action.IsForeign id) : action ≠ .close id := by
  rintro rfl
  exact foreign rfl

/-- Without a handle nobody can add to what is on its way, and only its receiver takes from it. -/
theorem Tended.inTransit_act (tended : bus.Tended id) (foreign : action.IsForeign id)
    (handleless : action.needsHandle = false) :
    (bus.act action).inTransit id = bus.inTransit id := by
  have balance := tended.sound.inTransit_act (tended.act (ne_close_of_foreign foreign)).isOpen
  have none : bus.receivedBy id action = [] := by
    cases action with
    | recv channel => exact if_neg (Ne.symm foreign)
    | _ => rfl
  cases action with
  | publish | subscribe => cases handleless
  | _ =>
    rw [none] at balance
    exact balance.symm.trans (List.append_nil _)

/-- Without a handle only the drain task of a channel changes what waits for it, which then comes
closer. -/
theorem Tended.lane_act_or (tended : bus.Tended id) (foreign : action.IsForeign id)
    (handleless : action.needsHandle = false) :
    (bus.act action).lane id = bus.lane id ∨
      ((bus.act action).lane id).effort < (bus.lane id).effort := by
  cases action with
  | publish | subscribe => cases handleless
  | recv | close => exact Or.inl (tended.sound.lane_act foreign)
  | drain index =>
    by_cases own : ∃ task, bus.tasks[index]? = some task ∧ task.channel = id
    · obtain ⟨task, at_index, rfl⟩ := own
      exact (tended.drain at_index).imp_left fun full => congrArg (Bus.lane · task.channel) full.1
    · exact Or.inl (tended.sound.lane_act fun task at_index here => own ⟨task, at_index, here⟩)

/-- Nothing is on its way to a channel, and nothing can be any more. -/
structure Deserted (id : ChannelId) (bus : Bus) : Prop where
  hasHandle : bus.hasHandle = false
  unserved : ¬bus.Served id
  nothing : bus.inTransit id = []

theorem served_iff_of_lane {after : Bus} (same : after.lane id = bus.lane id) :
    after.Served id ↔ bus.Served id := by
  have decided : decide (after.Served id) = decide (bus.Served id) := congrArg Lane.served same
  exact decide_eq_decide.mp decided

theorem served_of_hasSender (dropped : bus.hasHandle = false) (sender : bus.hasSender id = true) :
    bus.Served id := by
  rw [hasSender, dropped, Bool.false_or, List.any_eq_true] at sender
  obtain ⟨task, member, here⟩ := sender
  exact ⟨task, member, by simpa using here⟩

theorem Deserted.congr {after : Bus} (deserted : bus.Deserted id) (same : after.lane id = bus.lane id)
    (handle : after.hasHandle = false) : after.Deserted id := by
  refine ⟨handle, (served_iff_of_lane same).not.mpr deserted.unserved, ?_⟩
  exact (inTransit_eq_of_lane same).trans deserted.nothing

theorem Tended.lane_act (tended : bus.Tended id) (foreign : action.IsForeign id)
    (handleless : action.needsHandle = false) (unserved : ¬bus.Served id) :
    (bus.act action).lane id = bus.lane id := by
  refine tended.sound.lane_act ?_
  cases action with
  | publish | subscribe => cases handleless
  | recv | close => exact foreign
  | drain index =>
    exact fun task at_index here => unserved ⟨task, List.mem_of_getElem? at_index, here⟩

/-- A channel that is empty and has no sender is deserted. -/
theorem Sound.deserted (sound : bus.Sound) (empty : (bus.channel id).slots = [])
    (alone : bus.hasSender id = false) : bus.Deserted id := by
  obtain ⟨handle, tasks⟩ := Bool.or_eq_false_iff.mp alone
  have unserved : ¬bus.Served id := by
    rintro ⟨task, member, here⟩
    exact List.any_eq_false.mp tasks task member (by simpa using here)
  obtain ⟨unheld, none⟩ := sound.nothing_of_not_served unserved
  refine ⟨handle, unserved, ?_⟩
  rw [inTransit, empty, unheld, none]
  rfl

end Bus

namespace Worker

def Event.handled? : Event → Option Envelope
  | .handling _ envelope _ => some envelope
  | _ => none

/-- The envelopes that the handler has been called with, in order. -/
def handlings (log : List Event) : List Envelope :=
  log.filterMap Event.handled?

/-- The envelopes whose handling the callback has been told of, in order. -/
def completed (log : List Event) : List Envelope :=
  (completions log).map Completion.envelope

@[simp] theorem handlings_append (first second : List Event) :
    handlings (first ++ second) = handlings first ++ handlings second :=
  List.filterMap_append ..

@[simp] theorem completed_append (first second : List Event) :
    completed (first ++ second) = completed first ++ completed second := by
  rw [completed, completions_append, List.map_append]
  rfl

theorem handlings_completionEvents (callback : Callback) (completion : Completion) :
    handlings (completionEvents callback completion) = [] := by
  rw [handlings, List.filterMap_eq_nil_iff]
  intro event member
  simp only [completionEvents, List.mem_append, List.mem_cons, List.mem_map] at member
  rcases member with ((rfl | ⟨notice, _, rfl⟩) | ⟨report, _, rfl⟩) | panicked
  · rfl
  · rfl
  · rfl
  · split at panicked
    · rw [List.mem_singleton.mp panicked]
      rfl
    · cases panicked

theorem completed_completionEvents (callback : Callback) (completion : Completion) :
    completed (completionEvents callback completion) = [completion.envelope] := by
  rw [completed, completions_completionEvents]
  rfl

end Worker

/-- The envelope that a worker is handling. -/
def Phase.inHands : Phase I → List Envelope
  | .processing envelope _ => [envelope]
  | _ => []

namespace Desk

/-- What can happen next to a worker and its bus. -/
inductive Move (σ : Type) where
  /-- Somebody else, or a drain task, does something on the bus. -/
  | bus (action : Bus.Action)
  /-- Somebody opens a channel. -/
  | opens (capacity : Nat)
  /-- The last handle of the bus is dropped. -/
  | drops
  /-- Others change what handlers work on. -/
  | changes (rest : σ)
  /-- The worker looks for an envelope, makes the next call of its handler, or is done with it. -/
  | goesOn

/-- Nobody but the worker does anything with the ends of its channel, and nobody publishes or
subscribes without a handle. -/
def Move.Fits (channel : ChannelId) (bus : Bus) : Move σ → Prop
  | .bus action => action.IsForeign channel ∧ (action.needsHandle = true → bus.hasHandle = true)
  | _ => True

section

variable (treat : Program.Surroundings I σ) (callback : Nat → Callback)

def goOn (desk : Desk I σ) : Desk I σ :=
  match desk.worker.phase with
  | .processing envelope rest =>
    if (Worker.result? rest).isSome then
      let (worker, events) := desk.worker.finish (callback (Worker.completions desk.log).length)
      ⟨worker, desk.state, desk.log ++ events⟩
    else
      let (rest, state) := rest.step (WithBus.around treat) desk.state
      ⟨{ desk.worker with phase := .processing envelope rest }, state, desk.log⟩
  | _ =>
    let (worker, bus, events) := desk.worker.take desk.state.bus
    ⟨worker, { desk.state with bus }, desk.log ++ events⟩

def move (desk : Desk I σ) : Move σ → Desk I σ
  | .bus action => { desk with state := { desk.state with bus := desk.state.bus.act action } }
  | .opens capacity =>
    { desk with state := { desk.state with bus := (desk.state.bus.openChannel capacity).2 } }
  | .drops => { desk with state := { desk.state with bus := desk.state.bus.dropHandle } }
  | .changes rest => { desk with state := { desk.state with rest } }
  | .goesOn => desk.goOn treat callback

/-- The desk after the first moves of a schedule. -/
def moment (desk : Desk I σ) (schedule : Nat → Move σ) : Nat → Desk I σ
  | 0 => desk
  | t + 1 => (desk.moment schedule t).move treat callback (schedule t)

/-- What the worker can do when it is its turn. -/
inductive Advanced (desk : Desk I σ) : Desk I σ → Prop where
  | stopped {last : Status} (phase : desk.worker.phase = .stopped last) : Advanced desk desk
  | waits (phase : desk.worker.phase = .idle)
      (slots : (desk.state.bus.channel desk.worker.channel).slots = [])
      (sender : desk.state.bus.hasSender desk.worker.channel = true) : Advanced desk desk
  | ends (phase : desk.worker.phase = .idle)
      (slots : (desk.state.bus.channel desk.worker.channel).slots = [])
      (alone : desk.state.bus.hasSender desk.worker.channel = false) :
      Advanced desk { desk with worker := { desk.worker with phase := .stopped .idle } }
  | takes {envelope : Envelope} {rest : List Envelope} (phase : desk.worker.phase = .idle)
      (slots : (desk.state.bus.channel desk.worker.channel).slots = envelope :: rest) :
      Advanced desk
        ⟨{ desk.worker with phase := .processing envelope (desk.worker.handler.handle envelope) },
          { desk.state with bus := desk.state.bus.act (.recv desk.worker.channel) },
          desk.log ++ [.handling desk.worker.handler.name envelope .processing]⟩
  | calls {envelope : Envelope} {rest : Program I (Except ProjectionFault Unit)}
      (phase : desk.worker.phase = .processing envelope rest)
      (unfinished : Worker.result? rest = none) :
      Advanced desk
        ⟨{ desk.worker with phase := .processing envelope (rest.step treat desk.state.rest).1 },
          { desk.state with rest := (rest.step treat desk.state.rest).2 }, desk.log⟩
  | finishes {envelope : Envelope} {rest : Program I (Except ProjectionFault Unit)}
      {result : Except ProjectionFault Unit}
      (phase : desk.worker.phase = .processing envelope rest)
      (finished : Worker.result? rest = some result) :
      Advanced desk
        ⟨{ desk.worker with phase := .idle }, desk.state,
          desk.log ++ Worker.completionEvents (callback (Worker.completions desk.log).length)
            ⟨desk.worker.handler.name, envelope, result, desk.worker.handler.forwards⟩⟩

end

variable {treat : Program.Surroundings I σ} {callback : Nat → Callback} {desk : Desk I σ}
  {channel : ChannelId} {step : Move σ}

theorem step_around {α : Type} (treat : Program.Surroundings I σ) (program : Program I α)
    (state : WithBus σ) :
    program.step (WithBus.around treat) state =
      ((program.step treat state.rest).1,
        { state with rest := (program.step treat state.rest).2 }) := by
  cases program with
  | call request next meanwhile =>
    simp only [Program.step, WithBus.around]
    cases treat request state.rest with
    | mk reply after => cases reply <;> rfl
  | done | stalled | panic => rfl

theorem goOn_of_isStopped (stopped : desk.worker.phase.isStopped = true) :
    desk.goOn treat callback = desk := by
  cases phase : desk.worker.phase with
  | stopped last => simp [goOn, phase, Worker.take]
  | idle | processing =>
    rw [phase] at stopped
    cases stopped

theorem goOn_advanced (desk : Desk I σ)
    (opened : (desk.state.bus.channel desk.worker.channel).isOpen = true) :
    Advanced treat callback desk (desk.goOn treat callback) := by
  cases phase : desk.worker.phase with
  | stopped last =>
    have still : desk.goOn treat callback = desk := goOn_of_isStopped (by rw [phase]; rfl)
    exact still.symm ▸ .stopped phase
  | idle =>
    cases slots : (desk.state.bus.channel desk.worker.channel).slots with
    | cons envelope rest =>
      have found : desk.state.bus.recv desk.worker.channel =
          (.envelope envelope, desk.state.bus.act (.recv desk.worker.channel)) := by
        simp [Bus.act, Bus.recv, opened, slots]
      have taken : Advanced treat callback desk _ := .takes phase slots
      simpa [goOn, phase, Worker.take, found] using taken
    | nil =>
      cases sender : desk.state.bus.hasSender desk.worker.channel with
      | true =>
        have found : desk.state.bus.recv desk.worker.channel = (.empty, desk.state.bus) := by
          simp [Bus.recv, opened, slots, sender]
        have still : desk.goOn treat callback = desk := by
          simp [goOn, phase, Worker.take, found]
        exact still.symm ▸ .waits phase slots sender
      | false =>
        have found : desk.state.bus.recv desk.worker.channel = (.disconnected, desk.state.bus) := by
          simp [Bus.recv, opened, slots, sender]
        have ended : Advanced treat callback desk _ := .ends phase slots sender
        simpa [goOn, phase, Worker.take, found] using ended
  | processing envelope rest =>
    cases result : Worker.result? rest with
    | none =>
      have called : Advanced treat callback desk _ := .calls phase result
      simpa [goOn, phase, result, step_around] using called
    | some result' =>
      have finished : Advanced treat callback desk _ := .finishes phase result
      simpa [goOn, phase, result, Worker.finish] using finished

/-- A worker whose handler always returns, and who alone has the receiver of its channel. What it
has begun to handle it has either been done with, or has it in its hands; and when it has ended,
there is nothing left for it. -/
structure Attends (treat : Program.Surroundings I σ) (channel : ChannelId) (desk : Desk I σ) :
    Prop where
  place : desk.worker.channel = channel
  tended : desk.state.bus.Tended channel
  prompt : ∀ envelope, (desk.worker.handler.handle envelope).Returns treat
  returns : ∀ envelope rest, desk.worker.phase = .processing envelope rest → rest.Returns treat
  told : Worker.completed desk.log ++ desk.worker.phase.inHands = Worker.handlings desk.log
  ended : desk.worker.phase.isStopped = true → desk.state.bus.Deserted channel

/-- What the worker has begun to handle, and behind it what is on its way. -/
def begunOrComing (channel : ChannelId) (desk : Desk I σ) : List Envelope :=
  Worker.handlings desk.log ++ desk.state.bus.inTransit channel

theorem Attends.goOn (attends : desk.Attends treat channel) :
    (desk.goOn treat callback).Attends treat channel ∧
      (desk.goOn treat callback).state.bus.hasHandle = desk.state.bus.hasHandle ∧
      (desk.goOn treat callback).begunOrComing channel = desk.begunOrComing channel := by
  obtain ⟨rfl, tended, prompt, returns, told, ended⟩ := attends
  have advanced : Advanced treat callback desk (desk.goOn treat callback) :=
    goOn_advanced desk tended.isOpen
  generalize desk.goOn treat callback = after at advanced
  cases advanced with
  | stopped | waits => exact ⟨⟨rfl, tended, prompt, returns, told, ended⟩, rfl, rfl⟩
  | ends phase slots alone =>
    have deserted := tended.sound.deserted slots alone
    refine ⟨⟨rfl, tended, prompt, ?_, ?_, fun _ => deserted⟩, rfl, rfl⟩
    · rintro _ _ ⟨⟩
    · rw [phase] at told
      exact told
  | @takes envelope rest phase slots =>
    have kept : Bus.Action.recv desk.worker.channel ≠ .close desk.worker.channel := by
      rintro ⟨⟩
    have balance := tended.sound.inTransit_act (tended.act kept).isOpen
    have received : desk.state.bus.receivedBy desk.worker.channel
        (.recv desk.worker.channel) = [envelope] := by
      simp [Bus.receivedBy, Bus.recv, tended.isOpen, slots, Received.toList]
    rw [received] at balance
    refine ⟨⟨rfl, tended.act kept, prompt, ?_, ?_, Bool.false_ne_true.elim⟩, Bus.hasHandle_act .., ?_⟩
    · rintro _ _ ⟨⟩
      exact prompt envelope
    · rw [phase] at told
      rw [Worker.completed_append, Worker.handlings_append, ← told]
      simp [Phase.inHands, Worker.completed, Worker.completions, Worker.Event.completion?,
        Worker.handlings, Worker.Event.handled?]
    · rw [begunOrComing, begunOrComing, Worker.handlings_append, List.append_assoc]
      exact congrArg _ (balance.symm.trans (List.append_nil _))
  | @calls envelope rest phase unfinished =>
    refine ⟨⟨rfl, tended, prompt, ?_, ?_, Bool.false_ne_true.elim⟩, rfl, rfl⟩
    · rintro _ _ ⟨⟩
      exact (returns envelope rest phase).step desk.state.rest
    · rw [phase] at told
      exact told
  | @finishes envelope rest result phase finished =>
    refine ⟨⟨rfl, tended, prompt, ?_, ?_, Bool.false_ne_true.elim⟩, rfl, ?_⟩
    · rintro _ _ ⟨⟩
    · rw [phase] at told
      rw [Worker.completed_append, Worker.handlings_append, Worker.completed_completionEvents,
        Worker.handlings_completionEvents, List.append_nil]
      exact (List.append_nil _).trans told
    · rw [begunOrComing, Worker.handlings_append, Worker.handlings_completionEvents,
        List.append_nil]
      rfl

/-- Others, who leave the channel of a worker to it, change nothing at its desk. -/
theorem Attends.elsewhere (attends : desk.Attends treat channel) {bus : Bus} (rest : σ)
    (tended : bus.Tended channel)
    (ended : desk.worker.phase.isStopped = true → bus.Deserted channel) :
    Attends treat channel ⟨desk.worker, ⟨bus, rest⟩, desk.log⟩ :=
  ⟨attends.place, tended, attends.prompt, attends.returns, attends.told, ended⟩

theorem handleless {bus : Bus} {action : Bus.Action} (dropped : bus.hasHandle = false)
    (able : action.needsHandle = true → bus.hasHandle = true) : action.needsHandle = false :=
  Bool.eq_false_iff.mpr fun needs => Bool.false_ne_true (dropped ▸ able needs)

theorem Attends.move (attends : desk.Attends treat channel)
    (fits : step.Fits channel desk.state.bus) :
    (desk.move treat callback step).Attends treat channel := by
  cases step with
  | bus action =>
    obtain ⟨foreign, able⟩ := fits
    refine attends.elsewhere _ (attends.tended.act (Bus.ne_close_of_foreign foreign)) fun stopped => ?_
    have deserted := attends.ended stopped
    have lane := attends.tended.lane_act foreign (handleless deserted.hasHandle able)
      deserted.unserved
    exact deserted.congr lane ((Bus.hasHandle_act ..).trans deserted.hasHandle)
  | opens capacity =>
    refine attends.elsewhere _ (attends.tended.openChannel capacity) fun stopped => ?_
    exact (attends.ended stopped).congr (Bus.lane_openChannel attends.tended.ne_length capacity)
      (attends.ended stopped).hasHandle
  | drops =>
    refine attends.elsewhere _ attends.tended.dropHandle fun stopped => ?_
    exact (attends.ended stopped).congr Bus.lane_dropHandle rfl
  | changes rest => exact attends.elsewhere rest attends.tended attends.ended
  | goesOn => exact attends.goOn.1

/-- Once the last handle is gone, nothing is added to what the worker has begun to handle and what
is on its way, and nothing of it is lost. -/
theorem Attends.move_of_dropped (attends : desk.Attends treat channel)
    (fits : step.Fits channel desk.state.bus) (dropped : desk.state.bus.hasHandle = false) :
    (desk.move treat callback step).state.bus.hasHandle = false ∧
      (desk.move treat callback step).begunOrComing channel = desk.begunOrComing channel := by
  cases step with
  | bus action =>
    obtain ⟨foreign, able⟩ := fits
    have still := attends.tended.inTransit_act foreign (handleless dropped able)
    exact ⟨(Bus.hasHandle_act ..).trans dropped, congrArg (Worker.handlings desk.log ++ ·) still⟩
  | opens capacity =>
    have lane := Bus.lane_openChannel attends.tended.ne_length capacity
    have still := Bus.inTransit_eq_of_lane lane
    exact ⟨dropped, congrArg (Worker.handlings desk.log ++ ·) still⟩
  | drops => exact ⟨rfl, rfl⟩
  | changes rest => exact ⟨dropped, rfl⟩
  | goesOn =>
    obtain ⟨_, handle, same⟩ : _ ∧ (desk.goOn treat callback).state.bus.hasHandle = _ ∧ _ :=
      attends.goOn
    exact ⟨handle.trans dropped, same⟩

end Desk

end ListKeeper
