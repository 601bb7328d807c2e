import ListKeeper.Proofs.Worker.Closing

namespace ListKeeper

variable {I : Interface} {σ : Type}

namespace Desk

/-- How far what is on its way, and what the worker has in its hands, is from being done with. -/
def ahead (channel : ChannelId) (desk : Desk I σ) : Nat :=
  (desk.state.bus.lane channel).effort + desk.worker.phase.inHands.length

/-- The worker and its drain task, while there is one, get their turns again and again. -/
structure Fair (channel : ChannelId) (desk : Nat → Desk I σ) (schedule : Nat → Move σ) : Prop where
  turns : ∀ t, ∃ later ≥ t, schedule later = .goesOn
  drains : ∀ t, ∃ later ≥ t, ¬(desk later).state.bus.Served channel ∨
    ∃ index, schedule later = .bus (.drain index) ∧
      ((desk later).state.bus.tasks[index]?).map DrainTask.channel = some channel

variable {treat : Program.Surroundings I σ} {callback : Nat → Callback} {desk : Desk I σ}
  {channel : ChannelId} {step : Move σ}

/-- Others leave the lane of the worker as it is, or bring what is on it closer. -/
theorem Attends.lane_move_or (attends : desk.Attends treat channel)
    (fits : step.Fits channel desk.state.bus) (dropped : desk.state.bus.hasHandle = false)
    (other : step ≠ .goesOn) :
    (desk.move treat callback step).worker = desk.worker ∧
      ((desk.move treat callback step).state.bus.lane channel = desk.state.bus.lane channel ∨
        ((desk.move treat callback step).state.bus.lane channel).effort <
          (desk.state.bus.lane channel).effort) := by
  cases step with
  | bus action =>
    obtain ⟨foreign, able⟩ := fits
    exact ⟨rfl, attends.tended.lane_act_or foreign (handleless dropped able)⟩
  | opens capacity => exact ⟨rfl, Or.inl (Bus.lane_openChannel attends.tended.ne_length capacity)⟩
  | drops => exact ⟨rfl, Or.inl Bus.lane_dropHandle⟩
  | changes rest => exact ⟨rfl, Or.inl rfl⟩
  | goesOn => exact absurd rfl other

/-- When it is its turn, a worker that has not ended finds nothing in its channel while there is a
sender, or ends, or brings something closer, or makes the next call of its handler. -/
theorem Attends.ahead_goOn (attends : desk.Attends treat channel) :
    (desk.goOn treat callback).ahead channel ≤ desk.ahead channel ∧
      (desk.worker.phase.isStopped = true ∨
        (desk.state.bus.channel channel).slots = [] ∧ desk.state.bus.hasSender channel = true ∧
          desk.worker.phase = .idle ∧ desk.goOn treat callback = desk ∨
        (desk.goOn treat callback).worker.phase.isStopped = true ∨
        (desk.goOn treat callback).ahead channel < desk.ahead channel ∨
        ∃ envelope rest, desk.worker.phase = .processing envelope rest ∧
          Worker.result? rest = none ∧
          (desk.goOn treat callback).worker.phase =
            .processing envelope (rest.step treat desk.state.rest).1) := by
  obtain ⟨rfl, tended, -, -, -, -⟩ := attends
  have advanced : Advanced treat callback desk (desk.goOn treat callback) :=
    goOn_advanced desk tended.isOpen
  generalize desk.goOn treat callback = after at advanced
  cases advanced with
  | stopped phase =>
    refine ⟨Nat.le_refl _, Or.inl ?_⟩
    rw [phase]
    rfl
  | waits phase slots sender =>
    exact ⟨Nat.le_refl _, Or.inr (Or.inl ⟨slots, sender, phase, rfl⟩)⟩
  | ends phase slots alone =>
    have same : desk.worker.phase.inHands = [] := by rw [phase]; rfl
    refine ⟨?_, Or.inr (Or.inr (Or.inl rfl))⟩
    rw [ahead, ahead, same]
    rfl
  | @takes envelope rest phase slots =>
    have none : desk.worker.phase.inHands = [] := by rw [phase]; rfl
    have lane := (desk.state.bus.recv_handed desk.worker.channel).lane
    have closer : (desk.state.bus.lane desk.worker.channel).recv.effort + 2 =
        (desk.state.bus.lane desk.worker.channel).effort := Lane.effort_recv tended.isOpen slots
    have less : ahead desk.worker.channel
        ⟨{ desk.worker with phase := .processing envelope (desk.worker.handler.handle envelope) },
          { desk.state with bus := desk.state.bus.act (.recv desk.worker.channel) },
          desk.log ++ [.handling desk.worker.handler.name envelope .processing]⟩ <
        desk.ahead desk.worker.channel := by
      rw [ahead, ahead, none, Bus.act, lane]
      simp only [Phase.inHands, List.length_nil, List.length_singleton]
      omega
    exact ⟨less.le, Or.inr (Or.inr (Or.inr (Or.inl less)))⟩
  | @calls envelope rest phase unfinished =>
    have same : desk.worker.phase.inHands = [envelope] := by rw [phase]; rfl
    refine ⟨?_, Or.inr (Or.inr (Or.inr (Or.inr ⟨envelope, rest, phase, unfinished, rfl⟩)))⟩
    rw [ahead, ahead, same]
    rfl
  | @finishes envelope rest result phase finished =>
    have held : desk.worker.phase.inHands = [envelope] := by rw [phase]; rfl
    have less : ahead desk.worker.channel
        ⟨{ desk.worker with phase := .idle }, desk.state,
          desk.log ++ Worker.completionEvents (callback (Worker.completions desk.log).length)
            ⟨desk.worker.handler.name, envelope, result, desk.worker.handler.forwards⟩⟩ <
        desk.ahead desk.worker.channel := by
      rw [ahead, ahead, held]
      exact Nat.lt_succ_self _
    exact ⟨less.le, Or.inr (Or.inr (Or.inr (Or.inl less)))⟩

/-- A worker on a bus without handles, in a run in which everybody gets their turns. -/
structure Closing (treat : Program.Surroundings I σ) (callback : Nat → Callback)
    (channel : ChannelId) (desk : Nat → Desk I σ) (schedule : Nat → Move σ) (drop : Nat) : Prop where
  next : ∀ t, desk (t + 1) = (desk t).move treat callback (schedule t)
  attends : ∀ t, (desk t).Attends treat channel
  fits : ∀ t, (schedule t).Fits channel (desk t).state.bus
  dropped : ∀ t, drop ≤ t → (desk t).state.bus.hasHandle = false
  fair : Fair channel desk schedule

/-- The worker has ended, or is closer to its end than it was before. -/
def Nearer (channel : ChannelId) (before after : Desk I σ) : Prop :=
  after.worker.phase.isStopped = true ∨ after.ahead channel < before.ahead channel

variable {run : Nat → Desk I σ} {schedule : Nat → Move σ} {drop t later : Nat}

theorem Closing.turn (closing : Closing treat callback channel run schedule drop)
    (turn : schedule t = .goesOn) : run (t + 1) = (run t).goOn treat callback := by
  rw [closing.next, turn]
  rfl

theorem Closing.ahead_succ_le (closing : Closing treat callback channel run schedule drop)
    (after : drop ≤ t) : (run (t + 1)).ahead channel ≤ (run t).ahead channel := by
  by_cases turn : schedule t = .goesOn
  · rw [closing.turn turn]
    exact (closing.attends t).ahead_goOn.1
  · rw [closing.next]
    obtain ⟨worker, lane⟩ : ((run t).move treat callback (schedule t)).worker = _ ∧ _ :=
      (closing.attends t).lane_move_or (closing.fits t) (closing.dropped t after) turn
    rw [ahead, ahead, worker]
    rcases lane with same | less
    · rw [same]
    · exact Nat.add_le_add_right less.le _

theorem Closing.ahead_le (closing : Closing treat callback channel run schedule drop)
    (after : drop ≤ t) (order : t ≤ later) :
    (run later).ahead channel ≤ (run t).ahead channel := by
  induction later, order using Nat.le_induction with
  | base => exact Nat.le_refl _
  | succ later order ih => exact (closing.ahead_succ_le (after.trans order)).trans ih

theorem Closing.nearer_trans (closing : Closing treat callback channel run schedule drop)
    (after : drop ≤ t) (order : t ≤ later)
    (sooner : ∃ last ≥ later, Nearer channel (run later) (run last)) :
    ∃ last ≥ t, Nearer channel (run t) (run last) := by
  obtain ⟨last, further, nearer⟩ := sooner
  refine ⟨last, order.trans further, nearer.imp_right fun less => ?_⟩
  exact less.trans_le (closing.ahead_le after order)

/-- An idle worker stays where it is, and so does its lane, until it gets nearer to its end. Any
worker does until its turn. -/
theorem Closing.stays (closing : Closing treat callback channel run schedule drop)
    (after : drop ≤ t) (order : t ≤ later)
    (idle : ∀ u, t ≤ u → u < later → schedule u = .goesOn → (run t).worker.phase = .idle) :
    (run later).worker = (run t).worker ∧
        (run later).state.bus.lane channel = (run t).state.bus.lane channel ∨
      ∃ last ≥ t, Nearer channel (run t) (run last) := by
  induction later, order using Nat.le_induction with
  | base => exact Or.inl ⟨rfl, rfl⟩
  | succ later order ih =>
    rcases ih fun u first last => idle u first (Nat.lt_succ_of_lt last) with ⟨worker, lane⟩ | nearer
    case inr => exact Or.inr nearer
    have attends := closing.attends later
    have sooner (nearer : Nearer channel (run later) (run (later + 1))) :
        ∃ last ≥ t, Nearer channel (run t) (run last) :=
      closing.nearer_trans after order ⟨later + 1, Nat.le_succ _, nearer⟩
    by_cases turn : schedule later = .goesOn
    · have phase : (run later).worker.phase = .idle := by
        rw [worker]
        exact idle later order (Nat.lt_succ_self _) turn
      have next := closing.turn turn
      rcases attends.ahead_goOn.2 with stopped | ⟨_, _, _, still⟩ | ends | less | ⟨_, _, busy, _⟩
      · rw [phase] at stopped
        cases stopped
      · rw [next, still]
        exact Or.inl ⟨worker, lane⟩
      · exact Or.inr (sooner (Or.inl (next ▸ ends)))
      · exact Or.inr (sooner (Or.inr (next ▸ less)))
      · rw [phase] at busy
        cases busy
    · have dropped := closing.dropped later (after.trans order)
      obtain ⟨worker', lane'⟩ : ((run later).move treat callback (schedule later)).worker = _ ∧ _ :=
        attends.lane_move_or (closing.fits later) dropped turn
      rw [← closing.next] at worker' lane'
      rcases lane' with still | less
      · exact Or.inl ⟨worker'.trans worker, still.trans lane⟩
      · refine Or.inr (sooner (Or.inr ?_))
        rw [ahead, ahead, worker']
        exact Nat.add_lt_add_right less _

/-- Sooner or later it is the worker's turn. If it is idle then, its channel is empty and has a drain
task, or it gets nearer to its end. If it is not, its handler makes its next call, or it gets
nearer to its end. -/
theorem Closing.next_turn (closing : Closing treat callback channel run schedule drop)
    (after : drop ≤ t) :
    ((run t).worker.phase = .idle ∧ ((run t).state.bus.channel channel).slots = [] ∧
        (run t).state.bus.Served channel) ∨
      (∃ envelope rest, (run t).worker.phase = .processing envelope rest ∧
        Worker.result? rest = none ∧ ∃ later ≥ t, ∃ state,
          (run later).worker.phase = .processing envelope (rest.step treat state).1) ∨
      ∃ last ≥ t, Nearer channel (run t) (run last) := by
  classical
  have turns := closing.fair.turns t
  obtain ⟨order, turn⟩ := Nat.find_spec turns
  have first (u) (from_t : t ≤ u) (before : u < Nat.find turns) : schedule u ≠ .goesOn :=
    fun turn => Nat.find_min turns before ⟨from_t, turn⟩
  have stays := closing.stays after order fun u from_t before turn =>
    absurd turn (first u from_t before)
  generalize Nat.find turns = later at order turn stays
  rcases stays with ⟨worker, lane⟩ | nearer
  case inr => exact Or.inr (Or.inr nearer)
  have next := closing.turn turn
  have sooner (nearer : Nearer channel (run later) (run (later + 1))) :
      ∃ last ≥ t, Nearer channel (run t) (run last) :=
    closing.nearer_trans after order ⟨later + 1, Nat.le_succ _, nearer⟩
  rcases (closing.attends later).ahead_goOn.2 with
    stopped | ⟨empty, sender, idle, _⟩ | ends | less | ⟨envelope, rest, busy, unfinished, called⟩
  · exact Or.inr (Or.inr ⟨later, order, Or.inl stopped⟩)
  · have slots : ((run t).state.bus.channel channel).slots = [] :=
      (congrArg (fun lane => lane.channel.slots) lane).symm.trans empty
    have served := Bus.served_of_hasSender (closing.dropped later (after.trans order)) sender
    exact Or.inl ⟨worker ▸ idle, slots, (Bus.served_iff_of_lane lane).mp served⟩
  · exact Or.inr (Or.inr (sooner (Or.inl (next ▸ ends))))
  · exact Or.inr (Or.inr (sooner (Or.inr (next ▸ less))))
  · exact Or.inr (Or.inl ⟨envelope, rest, worker ▸ busy, unfinished, later + 1,
      Nat.le_succ_of_le order, _, next ▸ called⟩)

/-- A worker with an envelope in its hands gets nearer to its end, if its handler returns. -/
theorem Closing.nearer_of_returns (closing : Closing treat callback channel run schedule drop)
    {envelope : Envelope} {rest : Program I (Except ProjectionFault Unit)}
    (returns : rest.Returns treat) (after : drop ≤ t)
    (phase : (run t).worker.phase = .processing envelope rest) :
    ∃ last ≥ t, Nearer channel (run t) (run last) := by
  have turn {t : Nat} {rest : Program I (Except ProjectionFault Unit)} (after : drop ≤ t)
      (phase : (run t).worker.phase = .processing envelope rest) :
      (Worker.result? rest = none ∧ ∃ later ≥ t, ∃ state,
          (run later).worker.phase = .processing envelope (rest.step treat state).1) ∨
        ∃ last ≥ t, Nearer channel (run t) (run last) := by
    rcases closing.next_turn after with ⟨idle, _⟩ | ⟨_, _, busy, unfinished, later⟩ | nearer
    · rw [phase] at idle
      cases idle
    · rw [phase] at busy
      cases busy
      exact Or.inl ⟨unfinished, later⟩
    · exact Or.inr nearer
  induction returns using Program.Returns.step_induction generalizing t with
  | done value => exact (turn after phase).resolve_left fun unfinished => nomatch unfinished.1
  | panic reason => exact (turn after phase).resolve_left fun unfinished => nomatch unfinished.1
  | call rest _ ih =>
    rcases turn after phase with ⟨_, later, order, state, called⟩ | nearer
    · exact closing.nearer_trans after order (ih state (after.trans order) called)
    · exact nearer

/-- The drain task of an empty channel finds room. -/
theorem Closing.nearer_of_served (closing : Closing treat callback channel run schedule drop)
    (after : drop ≤ t) (idle : (run t).worker.phase = .idle)
    (empty : ((run t).state.bus.channel channel).slots = [])
    (served : (run t).state.bus.Served channel) :
    ∃ last ≥ t, Nearer channel (run t) (run last) := by
  obtain ⟨later, order, drained⟩ := closing.fair.drains t
  rcases closing.stays after order fun _ _ _ _ => idle with ⟨worker, lane⟩ | nearer
  case inr => exact nearer
  rcases drained with unserved | ⟨index, drain, own⟩
  · exact absurd ((Bus.served_iff_of_lane lane).mpr served) unserved
  · obtain ⟨task, at_index, rfl⟩ := Option.map_eq_some_iff.mp own
    have tended := (closing.attends later).tended
    have slots : ((run later).state.bus.channel task.channel).slots = [] :=
      (congrArg (fun lane => lane.channel.slots) lane).trans empty
    have room : ((run later).state.bus.channel task.channel).hasRoom = true := by
      rw [Channel.hasRoom, slots]
      exact decide_eq_true tended.capacity
    rcases tended.drain at_index with ⟨_, full⟩ | less
    · rw [room] at full
      cases full
    · refine closing.nearer_trans after order ⟨later + 1, Nat.le_succ _, Or.inr ?_⟩
      rw [closing.next, drain]
      exact Nat.add_lt_add_right less _

/-- On a bus without handles a worker comes to its end. -/
theorem Closing.stops (closing : Closing treat callback channel run schedule drop)
    (after : drop ≤ t) : ∃ stop ≥ t, (run stop).worker.phase.isStopped = true := by
  induction steps : (run t).ahead channel using Nat.strong_induction_on generalizing t with
  | h steps ih =>
    have nearer : ∃ last ≥ t, Nearer channel (run t) (run last) := by
      rcases closing.next_turn after with ⟨idle, empty, served⟩ | ⟨_, rest, busy, _⟩ | nearer
      · exact closing.nearer_of_served after idle empty served
      · exact closing.nearer_of_returns ((closing.attends t).returns _ rest busy) after busy
      · exact nearer
    obtain ⟨last, order, stopped | less⟩ := nearer
    · exact ⟨last, order, stopped⟩
    · obtain ⟨stop, further, stopped⟩ := ih _ (steps ▸ less) (after.trans order) rfl
      exact ⟨stop, order.trans further, stopped⟩

/-- What the worker has handled when it has ended. -/
theorem Closing.handled (closing : Closing treat callback channel run schedule drop)
    (after : drop ≤ t) (stopped : (run t).worker.phase.isStopped = true) :
    Worker.handlings (run t).log = (run drop).begunOrComing channel ∧
      Worker.completed (run t).log = Worker.handlings (run t).log := by
  have same : (run t).begunOrComing channel = (run drop).begunOrComing channel := by
    clear stopped
    induction t, after using Nat.le_induction with
    | base => rfl
    | succ t after ih =>
      rw [closing.next, ← ih]
      exact ((closing.attends t).move_of_dropped (closing.fits t) (closing.dropped t after)).2
  have attends := closing.attends t
  have nothing := (attends.ended stopped).nothing
  have released : (run t).worker.phase.inHands = [] := by
    cases phase : (run t).worker.phase with
    | stopped | idle => rfl
    | processing =>
      rw [phase] at stopped
      cases stopped
  have told := attends.told
  rw [begunOrComing, nothing, List.append_nil] at same
  rw [released, List.append_nil] at told
  exact ⟨same, told⟩

theorem Attends.moment (attends : desk.Attends treat channel)
    (fits : ∀ t, (schedule t).Fits channel (desk.moment treat callback schedule t).state.bus)
    (t : Nat) : (desk.moment treat callback schedule t).Attends treat channel := by
  induction t with
  | zero => exact attends
  | succ t ih => exact ih.move (fits t)

/-- A run in which the last handle of the bus is dropped. -/
theorem Attends.closing (attends : desk.Attends treat channel)
    (fits : ∀ t, (schedule t).Fits channel (desk.moment treat callback schedule t).state.bus)
    (fair : Fair channel (desk.moment treat callback schedule) schedule)
    (drops : schedule drop = .drops) :
    Closing treat callback channel (desk.moment treat callback schedule) schedule (drop + 1) := by
  refine ⟨fun _ => rfl, attends.moment fits, fits, fun t after => ?_, fair⟩
  induction t, after using Nat.le_induction with
  | base => rw [Desk.moment, drops]; rfl
  | succ t after ih => exact ((attends.moment fits t).move_of_dropped (fits t) ih).1

/-- A worker is started on a bus that has been in use, and its handler always returns. Others may
use the bus, open channels and change what handlers work on, between any two calls of the handler;
the worker and its drain task get their turns again and again. When the last handle of the bus has
been dropped, the worker comes to its end, and when it has, its handler has been called with what was
in its channel, in the hands of its drain task and in its backlog when the handle was dropped, in
this order, each envelope once, and the callback has been told of all that it has been called
with. -/
theorem handled_after_drop (handler : Handler I) (treat : Program.Surroundings I σ)
    (returns : ∀ envelope, (handler.handle envelope).Returns treat) (callback : Nat → Callback)
    (first : Topic) (others : List Topic) (wanted : Nat) (fits : wanted ≤ Channel.maxCapacity)
    (maxInflight : Nat) (capacities : List Nat) (before : List Bus.Action)
    (unknown : ∀ topic, .subscribe topic capacities.length ∉ before) (state : σ) :
    ∃ worker bus,
      Worker.start? ((Bus.withChannels maxInflight capacities).run before) handler
          (Worker.topicsFrom first others) wanted = some (worker, bus) ∧
        ∀ schedule : Nat → Move σ,
          let run := moment treat callback ⟨worker, ⟨bus, state⟩, []⟩ schedule
          (∀ t, (schedule t).Fits worker.channel (run t).state.bus) →
          Fair worker.channel run schedule →
          ∀ drop, schedule drop = .drops →
            let accepted := ((run drop).state.bus.channel worker.channel).slots ++
              (run drop).state.bus.held worker.channel ++
              (run drop).state.bus.queued worker.channel
            (∃ stop > drop, (run stop).worker.phase.isStopped = true) ∧
            ∀ t > drop, (run t).worker.phase.isStopped = true →
              Worker.handlings (run t).log = Worker.handlings (run drop).log ++ accepted ∧
                Worker.completed (run t).log = Worker.handlings (run t).log := by
  obtain ⟨bus, started, owned, quiet⟩ := Worker.exists_started handler
    (Worker.topicsFrom first others) fits maxInflight capacities before unknown
  refine ⟨_, bus, started, ?_⟩
  intro schedule run fit fair drop drops accepted
  have begins : Attends treat capacities.length
      ⟨⟨handler, Worker.topicsFrom first others, capacities.length, .idle⟩, ⟨bus, state⟩, []⟩ :=
    ⟨rfl, owned.tended, returns, nofun, rfl, nofun⟩
  have closing := begins.closing fit fair drops
  refine ⟨closing.stops (Nat.le_refl _), fun t after stopped => ?_⟩
  obtain ⟨handled, told⟩ := closing.handled after stopped
  refine ⟨handled.trans ?_, told⟩
  -- The handle that is dropped is neither in the log nor on its way.
  have dropped : run (drop + 1) = (run drop).move treat callback .drops := drops ▸ closing.next drop
  rw [show moment treat callback _ schedule (drop + 1) = _ from dropped]
  rfl

/-- A handler that does what it is told always returns. -/
theorem prompted_returns (name : String) (forwards : Bool) (script : Handler.Script σ)
    (envelope : Envelope) :
    ((Handler.prompted name forwards).handle envelope).Returns script.prompt := by
  have answers (state : σ) : (script.prompt envelope state).1 ≠ .notYet ∧
      (script.prompt envelope state).1 ≠ .never := by
    simp only [Handler.Script.prompt]
    split <;> simp
  exact .call (fun state => (answers state).1) (fun _ value _ => .done value)
    fun state never => absurd never (answers state).2

/-- Three events for a worker with one slot, after which the handle is dropped and the worker and
its drain task take turns. -/
def closingDown : Nat → Move (List Handler.Ending)
  | 0 => .bus (.publish true ⟨.listCreated, .list ⟨1⟩⟩)
  | 1 => .bus (.publish true ⟨.listCreated, .list ⟨2⟩⟩)
  | 2 => .bus (.publish true ⟨.listCreated, .list ⟨3⟩⟩)
  | 3 => .bus (.drain 0)
  | 4 => .drops
  | t + 5 => if t % 2 = 0 then .goesOn else .bus (.drain 0)

/-- The second event is in the hands of the drain task and the third in the backlog when the handle
is dropped, and the handler fails, panics and succeeds. -/
theorem handled_after_drop_backlog :
    let created (number : Int32) : Envelope := ⟨.listCreated, .list ⟨number⟩⟩
    let script : Handler.Script (List Handler.Ending) := fun _ endings =>
      (endings.headD .succeeds, endings.tail)
    let endings : List Handler.Ending := [.fails (.listGone ⟨1⟩), .panics (.text "boom")]
    ∃ worker bus,
      Worker.start? ((Bus.withChannels 3 []).run []) (Handler.prompted "scripted" true)
          (Worker.topicsFrom .listCreated []) 0 = some (worker, bus) ∧
      let run := moment script.prompt (fun _ => Callback.logging) ⟨worker, ⟨bus, endings⟩, []⟩
        closingDown
      (∀ t, (closingDown t).Fits worker.channel (run t).state.bus) ∧
        Fair worker.channel run closingDown ∧
        ((run 4).state.bus.channel worker.channel).slots = [created 1] ∧
        (run 4).state.bus.held worker.channel = [created 2] ∧
        (run 4).state.bus.queued worker.channel = [created 3] ∧
        ∃ stop > 4, (run stop).worker.phase.isStopped = true ∧
          Worker.completed (run stop).log = [created 1, created 2, created 3] := by
  intro created script endings
  obtain ⟨worker, bus, started, always⟩ := handled_after_drop (Handler.prompted "scripted" true)
    script.prompt (prompted_returns "scripted" true script) (fun _ => .logging) .listCreated [] 0
    (Nat.zero_le _) 3 [] [] (fun _ => List.not_mem_nil) endings
  refine ⟨worker, bus, started, ?_⟩
  intro run
  obtain ⟨rfl, rfl⟩ := Prod.mk.inj (Option.some.inj started)
  have fit : ∀ t, (closingDown t).Fits 0 (run t).state.bus
    | 0 | 1 | 2 => ⟨trivial, fun _ => rfl⟩
    | 3 => ⟨trivial, nofun⟩
    | 4 => trivial
    | t + 5 => by
      rw [closingDown]
      split
      · trivial
      · exact ⟨trivial, nofun⟩
  -- From this time on the worker has ended, and there is no drain task.
  have rests (t : Nat) (late : 30 ≤ t) : (run t).worker.phase.isStopped = true ∧
      (run t).state.bus.tasks = [] := by
    induction t, late using Nat.le_induction with
    | base => decide
    | succ t late ih =>
      obtain ⟨u, rfl⟩ : ∃ u, t = u + 5 := ⟨t - 5, by omega⟩
      have next : run (u + 5 + 1) = (run (u + 5)).move script.prompt (fun _ => Callback.logging)
        (if u % 2 = 0 then .goesOn else .bus (.drain 0)) := rfl
      generalize run (u + 5) = desk at ih next
      obtain ⟨stopped, tasks⟩ := ih
      rw [next]
      split
      · rw [move, goOn_of_isStopped stopped]
        exact ⟨stopped, tasks⟩
      · simp [move, stopped, Bus.act, Bus.drainStep, tasks]
  have unserved (t : Nat) (late : 30 ≤ t) : ¬(run t).state.bus.Served 0 := by
    rintro ⟨task, member, _⟩
    rw [(rests t late).2] at member
    cases member
  have fair : Fair 0 run closingDown := by
    constructor
    · intro t
      refine ⟨2 * t + 5, by omega, ?_⟩
      rw [closingDown, if_pos (by omega)]
    · exact fun t => ⟨t + 30, by omega, Or.inl (unserved (t + 30) (by omega))⟩
  have accepted : ((run 4).state.bus.channel 0).slots = [created 1] ∧
      (run 4).state.bus.held 0 = [created 2] ∧ (run 4).state.bus.queued 0 = [created 3] := by
    decide
  obtain ⟨⟨stop, after, stopped⟩, ends⟩ := always closingDown fit fair 4 rfl
  obtain ⟨handled, told⟩ := ends stop after stopped
  have all : Worker.handlings (run stop).log = [created 1, created 2, created 3] := by
    refine handled.trans ?_
    decide
  exact ⟨fit, fair, accepted.1, accepted.2.1, accepted.2.2, stop, after, stopped, told.trans all⟩

end Desk

end ListKeeper
