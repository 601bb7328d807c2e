import ListKeeper.Crew
import Mathlib

namespace ListKeeper

/-- How the work of a handler on an envelope ends. -/
inductive Handler.Ending where
  | succeeds
  | fails (fault : ProjectionFault)
  | panics (reason : PanicReason)

/-- An envelope that has been handled, and how that ended. -/
structure Handler.Performance where
  envelope : Envelope
  ending : Handler.Ending

namespace Handler

/-- The failure that an ending is. A panic is one with its message. -/
def Ending.fault? : Ending → Option ProjectionFault
  | .succeeds => none
  | .fails fault => some fault
  | .panics reason => some (.panicked reason.message)

/-- What the callback is told of an ending. -/
def Ending.result (ending : Ending) : Except ProjectionFault Unit :=
  match ending.fault? with
  | none => .ok ()
  | some fault => .error fault

variable {I : Interface} {σ : Type}

/-- How a program has ended, if it has. -/
def Ending.of? : Program I (Except ProjectionFault Unit) → Option Ending
  | .done (.ok ()) => some .succeeds
  | .done (.error fault) => some (.fails fault)
  | .panic reason => some (.panics reason)
  | _ => none

/-- How the work on each envelope ends, and what becomes of the state that handlers work on. -/
abbrev Script (σ : Type) := Envelope → σ → Ending × σ

/-- The work of a handler on an envelope always ends, and it ends as the script says. -/
def Follows (handler : Handler I) (treat : Program.Surroundings I σ) (script : Script σ) : Prop :=
  ∀ envelope state,
    let progress := (handler.handle envelope).advance treat state
    Ending.of? progress.rest = some (script envelope state).1 ∧
      progress.state = (script envelope state).2

/-- The calls by which a handler asks what to do about an envelope. -/
abbrev prompts : Interface :=
  ⟨Envelope, fun _ => Except ProjectionFault Unit⟩

/-- The handler that does what it is told. -/
def prompted (name : String) (forwards : Bool) : Handler prompts :=
  ⟨name, forwards, fun envelope => Program.call envelope .done .stalled⟩

/-- Surroundings that tell a handler what a script says. -/
def Script.prompt (script : Script σ) : Program.Surroundings prompts σ := fun envelope state =>
  match script envelope state with
  | (.succeeds, state) => (.answer (.ok ()), state)
  | (.fails fault, state) => (.answer (.error fault), state)
  | (.panics reason, state) => (.panics reason, state)

/-- What comes of some envelopes that are handled one after the other. -/
def Script.perform (script : Script σ) : List Envelope → σ → List Performance
  | [], _ => []
  | envelope :: rest, state =>
    ⟨envelope, (script envelope state).1⟩ :: perform script rest (script envelope state).2

/-- The state in which some envelopes, handled one after the other, leave what handlers work on. -/
def Script.leave (script : Script σ) (envelopes : List Envelope) (state : σ) : σ :=
  envelopes.foldl (fun state envelope => (script envelope state).2) state

def Performance.completion (handler : Handler I) (performance : Performance) : Completion where
  handler := handler.name
  envelope := performance.envelope
  result := performance.ending.result
  forward := handler.forwards

/-- The report of a performance, if it was a failure. -/
def Performance.report? (handler : Handler I) (performance : Performance) :
    Option (String × ProjectionFault) :=
  performance.ending.fault?.map fun fault => (handler.name, fault)

/-- What is seen when the handler is called. -/
def calling (handler : Handler I) (envelope : Envelope) : Worker.Event :=
  .handling handler.name envelope .processing

/-- What is seen of some performances. A callback may remember earlier calls: `callback n` is what
it does when it has been called `n` times before. -/
def journal (handler : Handler I) (callback : Nat → Callback) (performances : List Performance) :
    List Worker.Event :=
  performances.zipIdx.flatMap fun (performance, n) =>
    handler.calling performance.envelope ::
      Worker.completionEvents (callback n) (performance.completion handler)

end Handler

namespace Worker

def Event.completion? : Event → Option Completion
  | .completed completion => some completion
  | _ => none

def Event.report? : Event → Option (String × ProjectionFault)
  | .reported context fault => some (context, fault)
  | _ => none

/-- What the callback has been told, in order. -/
def completions (log : List Event) : List Completion :=
  log.filterMap Event.completion?

/-- What the operators have got reports of, in order. -/
def reports (log : List Event) : List (String × ProjectionFault) :=
  log.filterMap Event.report?

@[simp] theorem completions_append (first second : List Event) :
    completions (first ++ second) = completions first ++ completions second :=
  List.filterMap_append ..

@[simp] theorem reports_append (first second : List Event) :
    reports (first ++ second) = reports first ++ reports second :=
  List.filterMap_append ..

/-- Whatever the callback does, it has been called once. -/
theorem completions_completionEvents (callback : Callback) (completion : Completion) :
    completions (completionEvents callback completion) = [completion] := by
  have noticed : ((callback completion).notices.map Event.noticed).filterMap Event.completion? = [] := by
    rw [List.filterMap_map, List.filterMap_eq_nil_iff]
    exact fun _ _ => rfl
  rw [completionEvents, completions]
  simp only [List.cons_append, List.filterMap_cons, Event.completion?, List.filterMap_append, noticed,
    List.nil_append, List.cons.injEq, true_and, List.append_eq_nil_iff]
  constructor
  · rw [List.filterMap_map, List.filterMap_eq_nil_iff]
    exact fun _ _ => rfl
  · split <;> rfl

theorem reports_completionEvents (callback : Callback) (completion : Completion) :
    reports (completionEvents callback completion) = (callback completion).reports := by
  have noticed : ((callback completion).notices.map Event.noticed).filterMap Event.report? = [] := by
    rw [List.filterMap_map, List.filterMap_eq_nil_iff]
    exact fun _ _ => rfl
  have panicked (panics : Bool) (notice : Notice) :
      (if panics then [Event.noticed notice] else []).filterMap Event.report? = [] := by
    split <;> rfl
  rw [completionEvents, reports]
  simp only [List.cons_append, List.filterMap_cons, Event.report?, List.filterMap_append, noticed,
    panicked, List.nil_append, List.append_nil, List.filterMap_map]
  exact List.filterMap_some

end Worker

namespace Handler

variable {I : Interface} {σ : Type} {handler : Handler I}

theorem result?_of_ending {program : Program I (Except ProjectionFault Unit)} {ending : Ending}
    (ended : Ending.of? program = some ending) : Worker.result? program = some ending.result := by
  match program with
  | .done (.ok ()) =>
    obtain rfl := Option.some.inj ended
    rfl
  | .done (.error fault) =>
    obtain rfl := Option.some.inj ended
    rfl
  | .panic reason =>
    obtain rfl := Option.some.inj ended
    rfl
  | .call .. => cases ended
  | .stalled => cases ended

/-- There is a handler for every script. -/
theorem prompted_follows (name : String) (forwards : Bool) (script : Script σ) :
    (prompted name forwards).Follows script.prompt script := by
  intro envelope state
  simp only [prompted, Program.advance, Script.prompt]
  obtain ⟨ending, after⟩ := script envelope state
  cases ending <;> exact ⟨rfl, rfl⟩

theorem Script.leave_append (script : Script σ) (envelopes : List Envelope) (last : Envelope)
    (state : σ) :
    script.leave (envelopes ++ [last]) state = (script last (script.leave envelopes state)).2 :=
  List.foldl_append ..

theorem Script.perform_append (script : Script σ) (envelopes : List Envelope) (last : Envelope)
    (state : σ) :
    script.perform (envelopes ++ [last]) state =
      script.perform envelopes state ++ [⟨last, (script last (script.leave envelopes state)).1⟩] := by
  induction envelopes generalizing state with
  | nil => rfl
  | cons first rest ih => exact congrArg _ (ih (script first state).2)

theorem journal_append (callback : Nat → Callback) (performances : List Performance)
    (last : Performance) :
    handler.journal callback (performances ++ [last]) = handler.journal callback performances ++
      handler.calling last.envelope ::
        Worker.completionEvents (callback performances.length) (last.completion handler) := by
  rw [journal, List.zipIdx_append, List.flatMap_append, journal, Nat.zero_add]
  simp

theorem completions_calling (envelope : Envelope) :
    Worker.completions [handler.calling envelope] = [] := rfl

theorem completions_journal (callback : Nat → Callback) (performances : List Performance) :
    Worker.completions (handler.journal callback performances) =
      performances.map fun performance => performance.completion handler := by
  induction performances using List.reverseRecOn with
  | nil => rfl
  | append_singleton performances last ih =>
    have told := Worker.completions_completionEvents (callback performances.length)
      (last.completion handler)
    rw [journal_append, ← List.singleton_append, Worker.completions_append, Worker.completions_append,
      ih, completions_calling, told, List.map_append]
    rfl

/-- If the callback reports as the one for operators does, then the reports are those of the
failures, in order, or there are none, as the handler asks. -/
theorem reports_journal {callback : Nat → Callback}
    (logging : ∀ n completion, (callback n completion).reports = (Callback.logging completion).reports)
    (performances : List Performance) :
    Worker.reports (handler.journal callback performances) =
      if handler.forwards then performances.filterMap fun performance => performance.report? handler
      else [] := by
  induction performances using List.reverseRecOn with
  | nil => split <;> rfl
  | append_singleton performances last ih =>
    have reported := Worker.reports_completionEvents (callback performances.length)
      (last.completion handler)
    have one : (Callback.logging (last.completion handler)).reports =
        if handler.forwards then (last.report? handler).toList else [] := by
      obtain ⟨envelope, ending⟩ := last
      cases ending <;> cases forwards : handler.forwards <;>
        simp [Callback.logging, Performance.completion, Performance.report?, Ending.result,
          Ending.fault?, forwards]
    have called : Worker.reports [handler.calling last.envelope] = [] := rfl
    rw [journal_append, ← List.singleton_append, Worker.reports_append, Worker.reports_append, ih,
      called, reported, logging, one]
    split <;> cases found : last.report? handler <;> simp [found]

end Handler

end ListKeeper
