import ListKeeper.Proofs.Worker.Desk

namespace ListKeeper

variable {I : Interface} {σ : Type}

namespace Desk

/-- The worker can take this turn, or its drain task can. -/
def IsOwn (desk : Desk I σ) : Turn → Prop
  | .bus (.drain index) =>
    (desk.state.bus.tasks[index]?).map DrainTask.channel = some desk.worker.channel
  | .bus _ => False
  | .take => True
  | .work => True

/-- Neither the worker nor its drain task can do anything. -/
def Rests (treat : Program.Surroundings I σ) (callback : Nat → Callback) (desk : Desk I σ) : Prop :=
  ∀ turn, desk.IsOwn turn → desk.step treat callback turn = desk

/-- How far the worker is from having handled everything. -/
def effort (desk : Desk I σ) : Nat :=
  (desk.state.bus.lane desk.worker.channel).effort +
    if desk.worker.phase.status = .processing then 1 else 0

variable {handler : Handler I} {treat : Program.Surroundings I σ} {callback : Nat → Callback}
  {script : Handler.Script σ} {channel : ChannelId} {state : σ} {handled : List Envelope}
  {inHands : Option Envelope} {desk : Desk I σ} {topics : List Topic}

theorem Books.status (books : Books handler callback script channel state handled inHands desk) :
    desk.worker.phase.status = if inHands.isSome then .processing else .idle := by
  rw [books.phase]
  cases inHands <;> rfl

theorem Books.isStopped (books : Books handler callback script channel state handled inHands desk) :
    desk.worker.phase.isStopped = false := by
  rw [books.phase]
  cases inHands <;> rfl

theorem Books.effort_eq (books : Books handler callback script channel state handled inHands desk) :
    desk.effort = (desk.state.bus.lane channel).effort + inHands.toList.length := by
  rw [effort, books.status, books.place]
  cases inHands <;> rfl

theorem Books.effort_take (books : Books handler callback script channel state handled inHands desk)
    (owned : desk.state.bus.Owned topics channel) (treat : Program.Surroundings I σ) :
    desk.step treat callback .take = desk ∨
      (desk.step treat callback .take).effort < desk.effort := by
  cases inHands with
  | some envelope => exact Or.inl books.take_busy
  | none =>
    cases slots : (desk.state.bus.channel channel).slots with
    | nil => exact Or.inl (books.take_empty owned slots)
    | cons envelope rest =>
      have before := books.effort_eq
      have taken : Books handler callback script channel state handled (some envelope)
          (desk.step treat callback .take) := books.take_next owned slots
      have after := taken.effort_eq
      have received : (desk.step treat callback .take).state.bus =
          desk.state.bus.act (.recv channel) := by
        have phase : desk.worker.phase = .idle := books.phase
        rw [bus_step, means, phase, books.place]
        rfl
      have lane := (desk.state.bus.recv_handed channel).lane
      have closer : (desk.state.bus.lane channel).recv.effort + 2 =
          (desk.state.bus.lane channel).effort := Lane.effort_recv owned.isOpen slots
      rw [received, Bus.act, lane] at after
      rw [Option.toList_none, List.length_nil] at before
      rw [Option.toList_some, List.length_singleton] at after
      omega

theorem Books.effort_work (follows : handler.Follows treat script)
    (books : Books handler callback script channel state handled inHands desk) :
    desk.step treat callback .work = desk ∨
      (desk.step treat callback .work).effort < desk.effort := by
  cases inHands with
  | none => exact Or.inl books.work_idle
  | some envelope =>
    have before := books.effort_eq
    have after := (books.work follows).effort_eq
    have bus : (desk.step treat callback .work).state.bus = desk.state.bus := bus_step ..
    rw [bus, Option.toList_none, List.length_nil] at after
    rw [Option.toList_some, List.length_singleton] at before
    omega

theorem Books.effort_drain (books : Books handler callback script channel state handled inHands desk)
    (owned : desk.state.bus.Owned topics channel) {index : Nat}
    (own : desk.IsOwn (.bus (.drain index))) (treat : Program.Surroundings I σ) :
    desk.step treat callback (.bus (.drain index)) = desk ∨
      (desk.step treat callback (.bus (.drain index))).effort < desk.effort := by
  obtain rfl := books.place
  obtain ⟨task, at_index, here⟩ := Option.map_eq_some_iff.mp own
  rw [← here] at owned
  rcases owned.drain at_index with ⟨same, _⟩ | closer
  · left
    show { desk with state := { desk.state with bus := desk.state.bus.act (.drain index) } } = desk
    rw [same]
  · right
    rw [here] at closer
    exact Nat.add_lt_add_right closer _

/-- Others can make for more to do by a publication only. -/
theorem Books.elsewhere (books : Books handler callback script channel state handled inHands desk)
    {action : Bus.Action} (foreign : action.IsForeign channel) (silent : action.publication? = none)
    (other : ¬desk.IsOwn (.bus action)) : desk.state.bus.Elsewhere channel action := by
  cases action with
  | subscribe => exact foreign
  | publish => cases silent
  | recv => exact foreign
  | drain index =>
    intro task at_index here
    refine other ?_
    rw [IsOwn, at_index, books.place, ← here]
    rfl
  | close => exact foreign

/-- No turn but a publication makes for more to do, and every turn that the worker or its drain
task can take makes for less. -/
theorem Books.effort_step (follows : handler.Follows treat script)
    (books : Books handler callback script channel state handled inHands desk)
    (owned : desk.state.bus.Owned topics channel) {turn : Turn} (fits : turn.Fits channel)
    (silent : turn.publication? = none) :
    (desk.step treat callback turn).effort ≤ desk.effort ∧
      (desk.IsOwn turn → desk.step treat callback turn = desk ∨
        (desk.step treat callback turn).effort < desk.effort) := by
  have enough (closer : desk.step treat callback turn = desk ∨
      (desk.step treat callback turn).effort < desk.effort) :
      (desk.step treat callback turn).effort ≤ desk.effort := by
    rcases closer with same | less
    · rw [same]
    · exact Nat.le_of_lt less
  cases turn with
  | take =>
    have closer := books.effort_take owned treat
    exact ⟨enough closer, fun _ => closer⟩
  | work =>
    have closer := books.effort_work follows
    exact ⟨enough closer, fun _ => closer⟩
  | bus action =>
    -- The drain task of the channel makes for less, whoever else acts leaves the lane alone.
    by_cases own : desk.IsOwn (.bus action)
    · cases action with
      | drain index =>
        have closer := books.effort_drain owned own treat
        exact ⟨enough closer, fun _ => closer⟩
      | _ => exact absurd own id
    · have lane := owned.sound.lane_act (books.elsewhere fits silent own)
      have before := books.effort_eq
      have same : (desk.step treat callback (.bus action)).effort =
          ((desk.state.bus.act action).lane channel).effort + inHands.toList.length :=
        Books.effort_eq ⟨books.own, books.place, books.left, books.phase, books.log⟩
      rw [lane] at same
      exact ⟨by omega, fun own' => absurd own' own⟩

/-- A worker that can do nothing, and neither can its drain task, has handled everything. -/
theorem Books.of_rests (follows : handler.Follows treat script)
    (books : Books handler callback script channel state handled inHands desk)
    (owned : desk.state.bus.Owned topics channel) (rests : desk.Rests treat callback) :
    inHands = none ∧ desk.state.bus.inTransit channel = [] := by
  cases inHands with
  | some envelope =>
    have same := rests .work trivial
    have after := (books.work follows).status
    rw [same, books.status] at after
    cases after
  | none =>
    refine ⟨rfl, ?_⟩
    cases slots : (desk.state.bus.channel channel).slots with
    | cons envelope rest =>
      have same := rests .take trivial
      have taken : Books handler callback script channel state handled (some envelope)
          (desk.step treat callback .take) := books.take_next owned slots
      have after := taken.status
      rw [same, books.status] at after
      cases after
    | nil =>
      refine owned.quiet slots fun index own => ?_
      have same := rests (.bus (.drain index)) (by rw [IsOwn, books.place]; exact own)
      exact congrArg (fun desk => desk.state.bus) same

end Desk

namespace Worker

theorem topicsFrom_append (first : Topic) (others : List Topic) (last : Topic) :
    topicsFrom first (others ++ [last]) =
      if last ∈ topicsFrom first others then topicsFrom first others
      else topicsFrom first others ++ [last] :=
  List.foldl_append ..

theorem nodup_topicsFrom (first : Topic) (others : List Topic) : (topicsFrom first others).Nodup := by
  induction others using List.reverseRecOn with
  | nil => exact List.nodup_singleton first
  | append_singleton others last ih =>
    rw [topicsFrom_append]
    split
    · exact ih
    next new =>
      refine List.nodup_append.mpr ⟨ih, List.nodup_singleton last, ?_⟩
      rintro topic old _ member rfl
      exact new (List.mem_singleton.mp member ▸ old)

theorem mem_topicsFrom {first : Topic} {others : List Topic} {topic : Topic} :
    topic ∈ topicsFrom first others ↔ topic ∈ first :: others := by
  induction others using List.reverseRecOn with
  | nil => exact Iff.rfl
  | append_singleton others last ih =>
    rw [topicsFrom_append, ← List.cons_append, List.mem_append, List.mem_singleton, ← ih]
    split
    next known =>
      refine ⟨Or.inl, ?_⟩
      rintro (old | rfl)
      · exact old
      · exact known
    next new => rw [List.mem_append, List.mem_singleton]

/-- A worker gets one copy of each publication on one of its topics, however often the topic was
named, and none of any other. -/
theorem flatMap_topicsFrom (first : Topic) (others : List Topic) (envelopes : List Envelope) :
    (envelopes.flatMap fun envelope =>
        List.replicate ((topicsFrom first others).count envelope.topic) envelope) =
      envelopes.filter fun envelope => envelope.topic ∈ first :: others := by
  have once := nodup_topicsFrom first others
  induction envelopes with
  | nil => rfl
  | cons envelope rest ih =>
    rw [List.flatMap_cons, ih, once.count, List.filter_cons]
    by_cases mine : envelope.topic ∈ first :: others
    · rw [if_pos (mem_topicsFrom.mpr mine), if_pos (decide_eq_true mine)]
      rfl
    · rw [if_neg fun other => mine (mem_topicsFrom.mp other), if_neg (by simpa using mine)]
      rfl

theorem start?_eq (bus : Bus) (handler : Handler I) (topics : List Topic) {wanted : Nat}
    (fits : wanted ≤ Channel.maxCapacity) :
    start? bus handler topics wanted = some
      (⟨handler, topics, bus.channels.length, .idle⟩,
        topics.foldl (fun after topic => after.subscribe topic bus.channels.length)
          (bus.openChannel (max wanted 1)).2) := by
  have positive : 1 ≤ Channel.maxCapacity := by decide
  have capacity : capacity? wanted = some (max wanted 1) := if_pos (Nat.max_le.mpr ⟨fits, positive⟩)
  rw [start?, capacity]
  rfl

/-- A worker that is started on a bus that has been in use owns its channel, and nothing is on its
way to it yet. -/
theorem exists_started (handler : Handler I) (topics : List Topic) {wanted : Nat}
    (fits : wanted ≤ Channel.maxCapacity) (maxInflight : Nat) (capacities : List Nat)
    (before : List Bus.Action) (unknown : ∀ topic, .subscribe topic capacities.length ∉ before) :
    ∃ bus, start? ((Bus.withChannels maxInflight capacities).run before) handler topics wanted =
        some (⟨handler, topics, capacities.length, .idle⟩, bus) ∧
      bus.Owned topics capacities.length ∧ bus.inTransit capacities.length = [] := by
  have sound := (Bus.sound_withChannels maxInflight capacities).run before
  have started := start?_eq ((Bus.withChannels maxInflight capacities).run before) handler topics fits
  have length : ((Bus.withChannels maxInflight capacities).run before).channels.length =
      capacities.length := by
    rw [Bus.length_channels_run, Bus.withChannels_eq, List.length_map]
  have handle : ((Bus.withChannels maxInflight capacities).run before).hasHandle = true := by
    rw [Bus.hasHandle_run, Bus.withChannels_eq]
    rfl
  have fresh (topic : Topic) : (((Bus.withChannels maxInflight capacities).run before).registry
      topic).countP (fun entry => entry.channel =
        ((Bus.withChannels maxInflight capacities).run before).channels.length) = 0 := by
    have none := List.count_eq_zero.mpr (unknown topic)
    rw [length, Bus.countP_registry_run, none, Bus.withChannels_eq]
    rfl
  have room : 0 < max wanted 1 := Nat.lt_of_lt_of_le Nat.one_pos (Nat.le_max_right wanted 1)
  obtain ⟨alone, silent⟩ := sound.owned_openChannel handle fresh room
  obtain ⟨owned, quiet⟩ := alone.subscribeAll silent topics
  rw [List.nil_append] at owned
  rw [length] at started owned quiet
  exact ⟨_, started, owned, quiet⟩

end Worker

namespace Desk

variable {handler : Handler I} {treat : Program.Surroundings I σ} {callback : Nat → Callback}
  {script : Handler.Script σ} {channel : ChannelId} {state : σ} {handled : List Envelope}
  {inHands : Option Envelope} {desk : Desk I σ}

/-- The reports so far are those of the failures so far. -/
theorem Books.reports (books : Books handler callback script channel state handled inHands desk)
    (logging : ∀ n completion,
      (callback n completion).reports = (Callback.logging completion).reports) :
    Worker.reports desk.log =
      if handler.forwards then
        (script.perform handled state).filterMap fun performance => performance.report? handler
      else [] := by
  have called : Worker.reports (inHands.toList.map handler.calling) = [] := by
    cases inHands <;> rfl
  rw [books.log, Worker.reports_append, called, List.append_nil, Handler.reports_journal logging]

/-- The owner of a channel with nothing on its way handles what is published from now on. -/
theorem Books.published (follows : handler.Follows treat script) {first : Topic} {others : List Topic}
    (books : Books handler callback script channel state [] none desk)
    (owned : desk.state.bus.Owned (Worker.topicsFrom first others) channel)
    (quiet : desk.state.bus.inTransit channel = []) {turns : List Turn}
    (fit : ∀ turn ∈ turns, turn.Fits channel)
    (undropped : Copy.drops (Copy.forChannel channel
      (desk.state.bus.offered (desk.actions treat callback turns))) = 0) :
    ∃ handled inHands,
      Books handler callback script channel state handled inHands (desk.run treat callback turns) ∧
        (desk.run treat callback turns).state.bus.Owned (Worker.topicsFrom first others) channel ∧
        handled ++ inHands.toList ++ (desk.run treat callback turns).state.bus.inTransit channel =
          (turns.filterMap Turn.publication?).filter fun envelope =>
            envelope.topic ∈ first :: others := by
  obtain ⟨fit', handled, inHands, books', received⟩ := books.run follows owned fit
  have balance := owned.received_run fit' undropped
  rw [quiet, List.nil_append, publications_actions, Worker.flatMap_topicsFrom] at balance
  rw [Option.toList_none, List.append_nil, List.nil_append] at received
  have bus := bus_run treat callback desk turns
  refine ⟨handled, inHands, books', ?_, ?_⟩
  · rw [bus]
    exact owned.run fit'
  · rw [received, bus]
    exact balance

/-- A worker is started on a bus that has been in use, for topics that are named in any order and
any number of times, with any capacity that a channel can have; its handler follows any script, and
its callback may do anything, also panic, and something else each time. Then others, the drain
tasks and the worker take any number of turns, and no copy for the worker is dropped. What the
worker has handled, the envelope that it has in its hands, and what is on its way to it are
together, in order, what has been published on its topics. Each envelope that has been handled was
handled once, as the script says, and the callback has been told of it once. While the worker has an
envelope in its hands its status is processing, otherwise it is idle; and it has not stopped. If
the callback reports as the one for operators does, then the reports are those of the failures, if
the handler asks for them. When neither the worker nor its drain task can do anything more,
everything has been handled; and each turn that one of them can take brings this closer, while no
turn but a publication puts it off. -/
theorem handled_once (handler : Handler I) (treat : Program.Surroundings I σ)
    (script : Handler.Script σ) (follows : handler.Follows treat script)
    (callback : Nat → Callback) (first : Topic) (others : List Topic) (wanted : Nat)
    (fits : wanted ≤ Channel.maxCapacity) (maxInflight : Nat) (capacities : List Nat)
    (before : List Bus.Action) (unknown : ∀ topic, .subscribe topic capacities.length ∉ before)
    (state : σ) :
    ∃ worker bus,
      Worker.start? ((Bus.withChannels maxInflight capacities).run before) handler
          (Worker.topicsFrom first others) wanted = some (worker, bus) ∧
        ∀ turns : List Turn, (∀ turn ∈ turns, turn.Fits worker.channel) →
          let start : Desk I σ := ⟨worker, ⟨bus, state⟩, []⟩
          let copies := bus.offered (start.actions treat callback turns)
          Copy.drops (Copy.forChannel worker.channel copies) = 0 →
            let desk := start.run treat callback turns
            let published := (turns.filterMap Turn.publication?).filter fun envelope =>
              envelope.topic ∈ first :: others
            ∃ handled inHands,
              handled ++ inHands.toList ++ desk.state.bus.inTransit worker.channel = published ∧
                desk.log = handler.journal callback (script.perform handled state) ++
                  inHands.toList.map handler.calling ∧
                desk.worker.phase.status = (if inHands.isSome then .processing else .idle) ∧
                desk.worker.phase.isStopped = false ∧
                ((∀ n completion,
                    (callback n completion).reports = (Callback.logging completion).reports) →
                  Worker.reports desk.log =
                    if handler.forwards then
                      (script.perform handled state).filterMap fun performance =>
                        performance.report? handler
                    else []) ∧
                (desk.Rests treat callback → handled = published ∧ inHands = none) ∧
                ∀ turn : Turn, turn.Fits worker.channel → turn.publication? = none →
                  (desk.step treat callback turn).effort ≤ desk.effort ∧
                    (desk.IsOwn turn → desk.step treat callback turn = desk ∨
                      (desk.step treat callback turn).effort < desk.effort) := by
  obtain ⟨bus, started, owned, quiet⟩ := Worker.exists_started handler (Worker.topicsFrom first others)
    fits maxInflight capacities before unknown
  refine ⟨_, bus, started, ?_⟩
  intro turns fit start copies undropped desk published
  have begun := Books.start handler callback script (Worker.topicsFrom first others)
    start.worker.channel start.state.bus state
  obtain ⟨handled, inHands, books, owned', all⟩ := begun.published follows owned quiet fit undropped
  refine ⟨handled, inHands, all, books.log, books.status, books.isStopped, books.reports, ?_, ?_⟩
  · intro rests
    obtain ⟨rfl, empty⟩ := books.of_rests follows owned' rests
    refine ⟨?_, rfl⟩
    rw [empty, List.append_nil, Option.toList_none, List.append_nil] at all
    exact all
  · intro turn fits silent
    exact books.effort_step follows owned' fits silent

/-- A worker with one slot beside another channel that is full. Its topics are named twice. Its
handler fails, panics and succeeds, and its callback panics at first. The second and the third
envelope wait in the backlog, and the event on another topic does not concern it. -/
theorem handled_once_behind_panic :
    let created (number : Int32) : Envelope := ⟨.listCreated, .list ⟨number⟩⟩
    let updated : Envelope := ⟨.listUpdated, .list ⟨2⟩⟩
    let endings : List Handler.Ending := [.fails (.listGone ⟨1⟩), .panics (.text "boom")]
    let script : Handler.Script (List Handler.Ending) := fun _ endings =>
      (endings.headD .succeeds, endings.tail)
    let callback : Nat → Callback := fun n completion =>
      { Callback.logging completion with panics := n = 0 }
    let before : List Bus.Action := [.subscribe .listUpdated 0, .publish true updated]
    let turns : List Turn := [.bus (.publish true (created 1)), .bus (.publish true updated),
      .bus (.publish false ⟨.listDeleted, .list ⟨7⟩⟩), .take, .bus (.publish false (created 3)),
      .bus (.drain 1), .work, .bus (.drain 1), .take, .bus (.drain 1), .work, .bus (.drain 1),
      .bus (.drain 1), .take, .work]
    ∃ worker bus,
      Worker.start? ((Bus.withChannels 3 [1]).run before) (Handler.prompted "scripted" true)
          (Worker.topicsFrom .listCreated [.listUpdated, .listCreated, .listUpdated]) 0 =
        some (worker, bus) ∧
      let start : Desk Handler.prompts (List Handler.Ending) := ⟨worker, ⟨bus, endings⟩, []⟩
      let copies := bus.offered (start.actions script.prompt callback turns)
      let desk := start.run script.prompt callback turns
      (∀ turn ∈ turns, turn.Fits worker.channel) ∧
        Copy.drops (Copy.forChannel worker.channel copies) = 0 ∧
        desk.log = (Handler.prompted "scripted" true).journal callback
          (script.perform [created 1, updated, created 3] endings) ∧
        Worker.reports desk.log =
          [("scripted", .listGone ⟨1⟩), ("scripted", .panicked "boom")] ∧
        desk.worker.phase.status = .idle := by
  intro created updated endings script callback before turns
  have unknown (topic : Topic) : Bus.Action.subscribe topic 1 ∉ before := by
    cases topic <;> decide
  obtain ⟨worker, bus, started, always⟩ := handled_once (Handler.prompted "scripted" true) script.prompt
    script (Handler.prompted_follows "scripted" true script) callback .listCreated
    [.listUpdated, .listCreated, .listUpdated] 0 (Nat.zero_le _) 3 [1] before unknown endings
  refine ⟨worker, bus, started, ?_⟩
  let start : Desk Handler.prompts (List Handler.Ending) := ⟨worker, ⟨bus, endings⟩, []⟩
  have ran : (∀ turn ∈ turns, turn.Fits worker.channel) ∧
      Copy.drops (Copy.forChannel worker.channel
        (bus.offered (start.actions script.prompt callback turns))) = 0 ∧
      (start.run script.prompt callback turns).worker.phase.status = .idle ∧
      (start.run script.prompt callback turns).state.bus.inTransit worker.channel = [] := by
    obtain ⟨rfl, rfl⟩ := Prod.mk.inj (Option.some.inj started)
    decide
  obtain ⟨fit, undropped, idle, empty⟩ := ran
  obtain ⟨handled, inHands, all, log, status, _, reports, _, _⟩ := always turns fit undropped
  refine ⟨fit, undropped, ?_⟩
  dsimp only [start] at idle empty ⊢
  -- How the worker came to its desk does not matter any more.
  generalize run script.prompt callback ⟨worker, ⟨bus, endings⟩, []⟩ turns = desk at *
  rw [idle] at status
  cases inHands with
  | some envelope => cases status
  | none =>
    rw [empty, List.append_nil, Option.toList_none, List.append_nil] at all
    have three : handled = [created 1, updated, created 3] := all.trans (by decide)
    subst three
    refine ⟨log.trans (List.append_nil _), ?_, idle⟩
    exact (reports fun n completion => rfl).trans (by decide)

end Desk

end ListKeeper
