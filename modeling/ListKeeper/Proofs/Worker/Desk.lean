import ListKeeper.Proofs.Bus.Owned
import ListKeeper.Proofs.Worker.Journal

/-!
A worker at its desk: it takes envelopes out of its channel and handles them, while others and the
drain tasks use the bus as they like. Only the worker has the receiver of its channel, and only it
has registered the channel. Main statements: whatever happens, the worker has handled the envelopes
that came out of its channel, one after the other and each once, but for one that it may have in
its hands; and what a worker does in a crew, it does at such a desk.
-/
namespace ListKeeper

variable {I : Interface} {σ : Type}

/-- A bus, and beside it the state that handlers work on. -/
structure WithBus (σ : Type) where
  bus : Bus
  rest : σ

instance : HasBus (WithBus σ) where
  bus := WithBus.bus
  setBus state bus := { state with bus }

/-- Surroundings that leave the bus alone. -/
def WithBus.around (treat : Program.Surroundings I σ) : Program.Surroundings I (WithBus σ) :=
  fun request state =>
    let (reply, rest) := treat request state.rest
    (reply, { state with rest })

/-- A worker, what it works on, and what has been seen of it. -/
structure Desk (I : Interface) (σ : Type) where
  worker : Worker I
  state : WithBus σ
  log : List Worker.Event

namespace Desk

inductive Turn where
  /-- Somebody else, or a drain task, does something on the bus. -/
  | bus (action : Bus.Action)
  /-- The worker looks for an envelope if it is idle. -/
  | take
  /-- The worker gets on with the envelope that it has taken. -/
  | work

def Turn.publication? : Turn → Option Envelope
  | .bus action => action.publication?
  | _ => none

/-- Nobody but the worker does anything with the ends of this channel. -/
def Turn.Fits (channel : ChannelId) : Turn → Prop
  | .bus action => action.IsForeign channel
  | _ => True

instance decidableFits (channel : ChannelId) (turn : Turn) : Decidable (turn.Fits channel) :=
  match turn with
  | .bus action => inferInstanceAs (Decidable (action.IsForeign channel))
  | .take => inferInstanceAs (Decidable True)
  | .work => inferInstanceAs (Decidable True)

section

variable (treat : Program.Surroundings I σ) (callback : Nat → Callback)

def step (desk : Desk I σ) : Turn → Desk I σ
  | .bus action => { desk with state := { desk.state with bus := desk.state.bus.act action } }
  | .take =>
    let (worker, bus, events) := desk.worker.take desk.state.bus
    ⟨worker, { desk.state with bus }, desk.log ++ events⟩
  | .work =>
    let calls := (Worker.completions desk.log).length
    let (worker, state, events) :=
      Crew.work (WithBus.around treat) (callback calls) desk.worker desk.state
    ⟨worker, state, desk.log ++ events⟩

def run (desk : Desk I σ) (turns : List Turn) : Desk I σ :=
  turns.foldl (step treat callback) desk

/-- What a turn means for the bus. -/
def means (desk : Desk I σ) : Turn → List Bus.Action
  | .bus action => [action]
  | .take =>
    match desk.worker.phase with
    | .idle => [.recv desk.worker.channel]
    | _ => []
  | .work => []

/-- What a run means for the bus. -/
def actions (desk : Desk I σ) : List Turn → List Bus.Action
  | [] => []
  | turn :: rest => desk.means turn ++ (desk.step treat callback turn).actions rest

end

/-- The desk of a worker that has handled some envelopes since it started with `state`, and may
have one more in its hands. -/
structure Books (handler : Handler I) (callback : Nat → Callback) (script : Handler.Script σ)
    (channel : ChannelId) (state : σ) (handled : List Envelope) (inHands : Option Envelope)
    (desk : Desk I σ) : Prop where
  own : desk.worker.handler = handler
  place : desk.worker.channel = channel
  left : desk.state.rest = script.leave handled state
  phase : desk.worker.phase =
    inHands.elim .idle fun envelope => .processing envelope (handler.handle envelope)
  log : desk.log = handler.journal callback (script.perform handled state) ++
    inHands.toList.map handler.calling

end Desk

theorem WithBus.advance_around {α : Type} (treat : Program.Surroundings I σ) (program : Program I α)
    (state : WithBus σ) :
    program.advance (WithBus.around treat) state =
      ⟨(program.advance treat state.rest).rest, (program.advance treat state.rest).calls,
        { state with rest := (program.advance treat state.rest).state }⟩ := by
  induction program generalizing state with
  | done value => rfl
  | call request next meanwhile answered other =>
    rw [Program.advance, Program.advance, WithBus.around]
    obtain ⟨reply, rest⟩ := treat request state.rest
    cases reply with
    | answer value => dsimp only; rw [answered]
    | notYet => rfl
    | never => dsimp only; rw [other]
    | panics reason => rfl
  | stalled => rfl
  | panic reason => rfl

namespace Desk

variable {handler : Handler I} {treat : Program.Surroundings I σ} {callback : Nat → Callback}
  {script : Handler.Script σ} {channel : ChannelId} {state : σ} {handled : List Envelope}
  {inHands : Option Envelope} {desk : Desk I σ} {topics : List Topic}

theorem bus_work (callback : Callback) (worker : Worker I) (state : WithBus σ) :
    (Crew.work (WithBus.around treat) callback worker state).2.1.bus = state.bus := by
  unfold Crew.work
  split
  · dsimp only
    rw [WithBus.advance_around]
  · rfl

theorem bus_step (treat : Program.Surroundings I σ) (callback : Nat → Callback) (desk : Desk I σ)
    (turn : Turn) :
    (desk.step treat callback turn).state.bus = desk.state.bus.run (desk.means turn) := by
  cases turn with
  | bus action => rfl
  | take =>
    simp only [step, means, Worker.take]
    cases desk.worker.phase with
    | idle =>
      dsimp only [Bus.run, List.foldl, Bus.act]
      split <;> simp [*]
    | processing => rfl
    | stopped => rfl
  | work => exact bus_work ..

theorem bus_run (treat : Program.Surroundings I σ) (callback : Nat → Callback) (desk : Desk I σ)
    (turns : List Turn) :
    (desk.run treat callback turns).state.bus =
      desk.state.bus.run (desk.actions treat callback turns) := by
  induction turns generalizing desk with
  | nil => rfl
  | cons turn rest ih =>
    have first := bus_step treat callback desk turn
    rw [actions, Bus.run_append, ← first]
    exact ih (desk.step treat callback turn)

theorem Books.start (handler : Handler I) (callback : Nat → Callback) (script : Handler.Script σ)
    (topics : List Topic) (channel : ChannelId) (bus : Bus) (state : σ) :
    Books handler callback script channel state [] none
      ⟨⟨handler, topics, channel, .idle⟩, ⟨bus, state⟩, []⟩ :=
  ⟨rfl, rfl, rfl, rfl, rfl⟩

/-- The callback has been called once for each envelope that has been handled. -/
theorem Books.calls (books : Books handler callback script channel state handled inHands desk) :
    (Worker.completions desk.log).length = (script.perform handled state).length := by
  have called : Worker.completions (inHands.toList.map handler.calling) = [] := by
    cases inHands <;> rfl
  rw [books.log, Worker.completions_append, Handler.completions_journal, called, List.append_nil,
    List.length_map]

/-- A worker that has an envelope in its hands ends with it as the script says. -/
theorem Books.work {envelope : Envelope} (follows : handler.Follows treat script)
    (books : Books handler callback script channel state handled (some envelope) desk) :
    Books handler callback script channel state (handled ++ [envelope]) none
      (desk.step treat callback .work) := by
  obtain ⟨ended, left⟩ := follows envelope desk.state.rest
  have result := Handler.result?_of_ending ended
  have phase : desk.worker.phase = .processing envelope (handler.handle envelope) := books.phase
  -- So many performances are in the journal before this one.
  have calls := books.calls
  have log := books.log
  rw [step, Crew.work, phase]
  dsimp only
  rw [WithBus.advance_around, Worker.finish]
  dsimp only
  rw [result]
  refine ⟨books.own, books.place, ?_, rfl, ?_⟩
  · rw [Handler.Script.leave_append, ← books.left]
    exact left
  · dsimp only
    rw [calls, log, books.own, Handler.Script.perform_append, Handler.journal_append, ← books.left]
    simp [Handler.Performance.completion]

theorem Books.take_empty (books : Books handler callback script channel state handled none desk)
    (owned : desk.state.bus.Owned topics channel)
    (slots : (desk.state.bus.channel channel).slots = []) :
    desk.step treat callback .take = desk := by
  have phase : desk.worker.phase = .idle := books.phase
  have found := owned.recv_empty slots
  simp [Desk.step, Worker.take, phase, books.place, found]

/-- An idle worker takes the next envelope out of its channel, and its status is processing then. -/
theorem Books.take_next (books : Books handler callback script channel state handled none desk)
    (owned : desk.state.bus.Owned topics channel) {envelope : Envelope} {rest : List Envelope}
    (slots : (desk.state.bus.channel channel).slots = envelope :: rest) :
    Books handler callback script channel state handled (some envelope)
      (desk.step treat callback .take) := by
  obtain rfl := books.place
  obtain rfl := books.own
  have phase : desk.worker.phase = .idle := books.phase
  have found := owned.recv_next slots
  have log := books.log
  rw [step, Worker.take, phase, found]
  refine ⟨rfl, rfl, books.left, rfl, ?_⟩
  rw [log]
  simp [Handler.calling]

theorem Books.take_busy {envelope : Envelope}
    (books : Books handler callback script channel state handled (some envelope) desk) :
    desk.step treat callback .take = desk := by
  have phase : desk.worker.phase = .processing envelope (handler.handle envelope) := books.phase
  simp [Desk.step, Worker.take, phase]

theorem Books.work_idle (books : Books handler callback script channel state handled none desk) :
    desk.step treat callback .work = desk := by
  have phase : desk.worker.phase = .idle := books.phase
  simp [Desk.step, Crew.work, phase]

theorem means_fit (place : desk.worker.channel = channel) {turn : Turn} (fits : turn.Fits channel) :
    ∀ action ∈ desk.means turn, action.IsForeign channel ∨ action = .recv channel := by
  intro action member
  cases turn with
  | bus other =>
    rw [List.mem_singleton.mp member]
    exact Or.inl fits
  | take =>
    rw [means] at member
    split at member
    · rw [List.mem_singleton.mp member, place]
      exact Or.inr rfl
    · cases member
  | work => cases member

/-- What a turn brings out of the channel comes into the worker's hands, and what the worker has
in its hands stays there until it has been handled. -/
theorem Books.step (follows : handler.Follows treat script)
    (books : Books handler callback script channel state handled inHands desk)
    (owned : desk.state.bus.Owned topics channel) {turn : Turn} (fits : turn.Fits channel) :
    ∃ handled' inHands',
      Books handler callback script channel state handled' inHands' (desk.step treat callback turn) ∧
        handled' ++ inHands'.toList = handled ++ inHands.toList ++
          desk.state.bus.received channel (desk.means turn) := by
  cases turn with
  | bus action =>
    refine ⟨handled, inHands, ⟨books.own, books.place, books.left, books.phase, books.log⟩, ?_⟩
    have none : desk.state.bus.receivedBy channel action = [] := by
      cases action with
      | recv other => exact if_neg (Ne.symm fits)
      | _ => rfl
    simp [means, Bus.received, none]
  | take =>
    have phase := books.phase
    cases inHands with
    | none =>
      cases slots : (desk.state.bus.channel channel).slots with
      | nil =>
        have found := owned.recv_empty slots
        refine ⟨handled, none, (books.take_empty owned slots).symm ▸ books, ?_⟩
        simp [means, phase, Bus.received, Bus.receivedBy, books.place, found, Received.toList]
      | cons envelope rest =>
        have found := owned.recv_next slots
        refine ⟨handled, some envelope, books.take_next owned slots, ?_⟩
        simp [means, phase, Bus.received, Bus.receivedBy, books.place, found, Received.toList]
    | some envelope =>
      refine ⟨handled, some envelope, books.take_busy.symm ▸ books, ?_⟩
      simp [means, phase, Bus.received]
  | work =>
    cases inHands with
    | none =>
      refine ⟨handled, none, books.work_idle.symm ▸ books, ?_⟩
      simp [means, Bus.received]
    | some envelope =>
      refine ⟨handled ++ [envelope], none, books.work follows, ?_⟩
      simp [means, Bus.received]

theorem Books.run (follows : handler.Follows treat script)
    (books : Books handler callback script channel state handled inHands desk)
    (owned : desk.state.bus.Owned topics channel) {turns : List Turn}
    (fit : ∀ turn ∈ turns, turn.Fits channel) :
    (∀ action ∈ desk.actions treat callback turns,
        action.IsForeign channel ∨ action = .recv channel) ∧
      ∃ handled' inHands',
        Books handler callback script channel state handled' inHands'
            (desk.run treat callback turns) ∧
          handled' ++ inHands'.toList = handled ++ inHands.toList ++
            desk.state.bus.received channel (desk.actions treat callback turns) := by
  induction turns generalizing desk handled inHands with
  | nil =>
    refine ⟨fun action member => absurd member List.not_mem_nil, handled, inHands, books, ?_⟩
    exact (List.append_nil _).symm
  | cons turn rest ih =>
    have fits := fit turn (List.mem_cons_self ..)
    have now := means_fit books.place fits
    obtain ⟨handled', inHands', books', first⟩ := books.step follows owned fits
    -- The turn has left the channel to the worker, as the next one needs it.
    have owned' : (desk.step treat callback turn).state.bus.Owned topics channel := by
      rw [bus_step]
      exact owned.run now
    obtain ⟨after, handled'', inHands'', books'', later⟩ :=
      ih books' owned' fun other member => fit other (List.mem_cons_of_mem _ member)
    refine ⟨fun action member => ?_, handled'', inHands'', books'', ?_⟩
    · rw [actions] at member
      rcases List.mem_append.mp member with first | rest
      · exact now action first
      · exact after action rest
    · rw [later, first, actions, Bus.received_append, List.append_assoc, bus_step]

/-- What a worker does when it is its turn in a crew is a run at its desk, in which it works and
takes by turns. -/
theorem exists_run_turn (treat : Program.Surroundings I σ) (callback : Callback) (fuel : Nat)
    (desk : Desk I σ) :
    ∃ turns : List Turn, (∀ turn ∈ turns, turn = .take ∨ turn = .work) ∧
      let made := Crew.turn (WithBus.around treat) callback fuel desk.worker desk.state
      desk.run treat (fun _ => callback) turns = ⟨made.1, made.2.1, desk.log ++ made.2.2⟩ := by
  induction fuel generalizing desk with
  | zero =>
    refine ⟨[], fun turn member => absurd member List.not_mem_nil, ?_⟩
    simp [Crew.turn, run]
  | succ fuel ih =>
    rw [Crew.turn]
    cases worked : Crew.work (WithBus.around treat) callback desk.worker desk.state with
    | mk worker progress =>
      obtain ⟨state, before⟩ := progress
      cases looked : worker.take state.bus with
      | mk worker' rest =>
        obtain ⟨bus, taken⟩ := rest
        have work : desk.step treat (fun _ => callback) .work =
            ⟨worker, state, desk.log ++ before⟩ := by
          simp only [step, worked]
        have take : step treat (fun _ => callback) ⟨worker, state, desk.log ++ before⟩ .take =
            ⟨worker', { state with bus }, desk.log ++ before ++ taken⟩ := by
          simp only [step, looked]
        have both (turns : List Turn) : desk.run treat (fun _ => callback) (.work :: .take :: turns) =
            run treat (fun _ => callback) ⟨worker', { state with bus }, desk.log ++ before ++ taken⟩
              turns := by
          rw [run, List.foldl_cons, List.foldl_cons, work, take]
          rfl
        have looked' : worker.take (HasBus.bus state) = (worker', bus, taken) := looked
        simp only [looked']
        cases none : taken.isEmpty with
        | true =>
          obtain rfl := List.isEmpty_iff.mp none
          refine ⟨[.work, .take], by simp, ?_⟩
          rw [both, List.append_nil]
          rfl
        | false =>
          obtain ⟨turns, only, later⟩ := ih ⟨worker', { state with bus }, desk.log ++ before ++ taken⟩
          refine ⟨.work :: .take :: turns, by simpa using only, ?_⟩
          rw [both, later]
          simp [List.append_assoc, HasBus.setBus]

theorem publications_actions (desk : Desk I σ) (turns : List Turn) :
    (desk.actions treat callback turns).filterMap Bus.Action.publication? =
      turns.filterMap Turn.publication? := by
  induction turns generalizing desk with
  | nil => rfl
  | cons turn rest ih =>
    have now : (desk.means turn).filterMap Bus.Action.publication? = turn.publication?.toList := by
      cases turn with
      | bus action => cases action <;> rfl
      | take =>
        rw [means]
        split <;> rfl
      | work => rfl
    rw [actions, List.filterMap_append, ih, now, List.filterMap_cons]
    cases turn.publication? <;> rfl

end Desk

end ListKeeper
