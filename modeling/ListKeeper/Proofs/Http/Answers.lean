import ListKeeper.Http.Service
import ListKeeper.Proofs.Http.Caller
import ListKeeper.Proofs.Request.Effect

namespace ListKeeper

namespace Program

variable {I : Interface} {σ α β : Type}

def Progress.behind (progress : Progress I σ α) (calls : List I.Call) : Progress I σ α :=
  { progress with calls := calls ++ progress.calls }

variable {treat : Surroundings I σ} {program : Program I α} {next : α → Program I β} {state : σ}

/-- A program in two parts goes on with the second where the first has come to its end. -/
theorem advance_bind {value : α} (first : (program.advance treat state).rest = .done value) :
    (program.bind next).advance treat state =
      ((next value).advance treat (program.advance treat state).state).behind
        (program.advance treat state).calls := by
  induction program generalizing state with
  | done given =>
    cases first
    rfl
  | stalled => cases first
  | panic reason => cases first
  | call request answered meanwhile answers unanswered =>
    simp only [bind, advance] at first ⊢
    generalize treat request state = reply at first ⊢
    obtain ⟨answer | _ | _ | _, after⟩ := reply
    · simp only [answers answer first, Progress.behind, List.cons_append]
    · cases first
    · simp only [unanswered first, Progress.behind, List.cons_append]
    · cases first

/-- A program in two parts comes to its end only if the first part does. -/
theorem advance_of_bind {result : β}
    (whole : ((program.bind next).advance treat state).rest = .done result) :
    ∃ value, (program.advance treat state).rest = .done value := by
  induction program generalizing state with
  | done value => exact ⟨value, rfl⟩
  | stalled => cases whole
  | panic reason => cases whole
  | call request answered meanwhile answers unanswered =>
    simp only [bind, advance] at whole ⊢
    generalize treat request state = reply at whole ⊢
    obtain ⟨answer | _ | _ | _, after⟩ := reply
    · exact answers answer whole
    · cases whole
    · exact unanswered whole
    · cases whole

end Program

namespace Http

open ListKeeper.Request (Answer)

/-- The response says that the request has succeeded. -/
def Response.Succeeds (response : Response) : Prop :=
  200 ≤ response.status ∧ response.status < 300

/-- Nothing has been stored and nothing published. -/
structure Untouched {α : Type} (backend : Backend)
    (progress : Program.Progress Call.interface (Backend × Nat) α) : Prop where
  store : progress.state.1.store = backend.store
  bus : progress.state.1.bus = backend.bus
  published : Call.published progress.calls = []

/-- A job that comes to its end, with nothing touched if its response is one of these. -/
def Answers (job : Job Response) (quiet : Response → Prop) : Prop :=
  ∀ clock backend, ∃ response,
    (job.advance (Backend.serve clock none) (backend, 0)).rest = .done response ∧
      (quiet response → Untouched backend (job.advance (Backend.serve clock none) (backend, 0)))

variable {α : Type} {quiet : Response → Prop}

theorem answers_done (response : Response) : Answers (.done response) quiet :=
  fun _ _ => ⟨response, rfl, fun _ => ⟨rfl, rfl, rfl⟩⟩

theorem untouched_failed (clock : Nat → Timestamp) (backend : Backend) (served : Nat)
    (fault : RequestFault) :
    ((failed fault).advance (Backend.serve clock none) (backend, served)).rest =
        .done (.ofFault fault) ∧
      Untouched backend ((failed fault).advance (Backend.serve clock none) (backend, served)) := by
  cases fault <;> exact ⟨rfl, rfl, rfl, rfl⟩

/-- What has come of an operation, which has had an effect of its request. -/
structure Worked (request : ListKeeper.Request) (f : α → Answer) (backend : Backend)
    (progress : Program.Progress Call.interface (Backend × Nat) (Except RequestFault α))
    (result : Except RequestFault α) (store : Store) (events : List Envelope) : Prop where
  rest : progress.rest = .done result
  published : Call.published progress.calls = events
  state : progress.state.1 = Backend.publishAll { backend with store } events
  effect : backend.store.Effect request (result.map f) store events

variable {operation : Operation α} {f : α → Answer} {request : ListKeeper.Request}

theorem worked_operation
    (same : request.job = Program.bind operation fun result => .done (result.map f))
    (clock : Nat → Timestamp) (backend : Backend) : ∃ result store events,
      Worked request f backend
        (Program.advance (Backend.serve clock none) operation (backend, 0)) result store events := by
  obtain ⟨result, store, events, ends, effect⟩ :
    request.Takes clock 0 request.job backend := ListKeeper.Request.takes_job request
  rw [same] at ends
  obtain ⟨value, rest⟩ := Program.advance_of_bind ends.rest
  rw [Program.advance_bind rest] at ends
  obtain rfl : value.map f = result := Program.done.inj ends.rest
  have published := ends.published
  simp only [Program.Progress.behind, Program.advance, List.append_nil] at published
  exact ⟨value, store, events, rest, published, ends.state, effect⟩

/-- Nothing has been touched if an operation has done nothing, and no more is touched after it. -/
theorem untouched_behind {job : Job Response} {backend : Backend} {clock : Nat → Timestamp}
    {progress : Program.Progress Call.interface (Backend × Nat) (Except RequestFault α)}
    {result : Except RequestFault α}
    (worked : Worked request f backend progress result backend.store [])
    (later : Untouched progress.state.1 (job.advance (Backend.serve clock none) progress.state)) :
    Untouched backend ((job.advance (Backend.serve clock none) progress.state).behind
      progress.calls) where
  store := later.store.trans (congrArg Backend.store worked.state)
  bus := later.bus.trans (congrArg Backend.bus worked.state)
  published := by
    have none := later.published
    have before := worked.published
    rw [Call.published] at none before ⊢
    rw [Program.Progress.behind, List.filterMap_append, before, none]
    rfl

/-- An operation is answered, and a quiet response says that it has touched nothing. -/
theorem answers_respond (request : ListKeeper.Request) {success : α → Response}
    (same : request.job = Program.bind operation fun result => .done (result.map f))
    (harmless : ∀ value, quiet (success value) → ∀ (before after : Store) events,
      before.Effect request (.ok (f value)) after events → after = before ∧ events = []) :
    Answers (respond operation success) quiet := by
  intro clock backend
  obtain ⟨result, store, events, worked⟩ := worked_operation same clock backend
  have goes : (respond operation success).advance (Backend.serve clock none) (backend, 0) = _ :=
    Program.advance_bind worked.rest
  rw [goes]
  cases result with
  | ok value =>
    refine ⟨success value, rfl, fun silent => ?_⟩
    obtain ⟨rfl, rfl⟩ := harmless value silent _ store events worked.effect
    exact untouched_behind worked ⟨rfl, rfl, rfl⟩
  | error fault =>
    obtain ⟨rest, untouched⟩ := untouched_failed clock
      (Program.advance (Backend.serve clock none) operation (backend, 0)).state.1
      (Program.advance (Backend.serve clock none) operation (backend, 0)).state.2 fault
    have effect := worked.effect
    have nothing : store = backend.store ∧ events = [] := by
      rw [Except.map] at effect
      cases effect
      exact ⟨rfl, rfl⟩
    obtain ⟨rfl, rfl⟩ := nothing
    exact ⟨.ofFault fault, rest, fun _ => untouched_behind worked untouched⟩

/-- An endpoint whose work answers like this, if it comes to work. -/
def Serves (endpoint : Except Response (Job Response)) (quiet : Response → Prop) : Prop :=
  ∀ work, endpoint = .ok work → Answers work quiet

theorem serves_ok {work : Job Response} (answers : Answers work quiet) : Serves (.ok work) quiet := by
  rintro _ ⟨⟩
  exact answers

theorem serves_bind {β : Type} {part : Except Response β}
    {rest : β → Except Response (Job Response)} (later : ∀ value, Serves (rest value) quiet) :
    Serves (part >>= rest) quiet := by
  cases part with
  | error refusal => rintro _ ⟨⟩
  | ok value => exact later value

/-- An operation that is answered with success in one way only. -/
theorem answers_success (request : ListKeeper.Request) {success : α → Response}
    (same : request.job = Program.bind operation fun result => .done (result.map f))
    (succeeds : ∀ value, (success value).Succeeds) :
    Answers (respond operation success) fun response => ¬response.Succeeds :=
  answers_respond request same fun value fails => absurd (succeeds value) fails

theorem succeeds_ofJson {status : Nat} (low : 200 ≤ status) (high : status < 300) (content : Json) :
    (Response.ofJson status content).Succeeds :=
  ⟨low, high⟩

theorem job_eq_bind {operation : Operation α} {f : α → Answer} :
    (do return f (← operation) : Operation Answer) =
      Program.bind operation fun result => .done (result.map f) :=
  congrArg (Program.bind operation) (funext fun result => by cases result <;> rfl)

open ListKeeper.Request in
/-- To show a list touches nothing, whatever the response. -/
theorem serves_showList (request : Request) (name : String) :
    Serves (Endpoint.showList request name) quiet := by
  refine serves_bind fun user => serves_bind fun list => serves_ok ?_
  refine answers_respond (getList list user) job_eq_bind
    fun found _ before after events effect => ?_
  cases effect
  exact ⟨rfl, rfl⟩

theorem answers_showHealth : Answers Endpoint.showHealth quiet :=
  fun _ _ => ⟨_, rfl, fun _ => ⟨rfl, rfl, rfl⟩⟩

open ListKeeper.Request in
theorem serves_work (resource : Resource) (method : Method) (request : Request) :
    Serves (resource.work method request) fun response => ¬response.Succeeds := by
  cases resource with
  | health => exact serves_ok answers_showHealth
  | lists =>
    refine serves_bind fun user => serves_bind fun form => serves_ok ?_
    exact answers_success (createList user form.name) job_eq_bind fun _ =>
      succeeds_ofJson (by decide) (by decide) _
  | list name =>
    cases method with
    | get => exact serves_showList request name
    | post => exact serves_showList request name
    | patch =>
      refine serves_bind fun user => serves_bind fun list => serves_bind fun form => serves_ok ?_
      exact answers_success (renameList list user form.name) job_eq_bind fun _ =>
        succeeds_ofJson (by decide) (by decide) _
    | delete =>
      refine serves_bind fun user => serves_bind fun list => serves_ok ?_
      exact answers_success (deleteList list user) job_eq_bind fun _ => ⟨by decide, by decide⟩
  | items name =>
    refine serves_bind fun user => serves_bind fun list => serves_bind fun form => serves_ok ?_
    exact answers_success (addItem list user form.title form.description) job_eq_bind fun _ =>
      succeeds_ofJson (by decide) (by decide) _
  | item listName itemName =>
    refine serves_bind fun user => serves_bind fun place => serves_ok ?_
    exact answers_success (deleteItem place.1 place.2 user) job_eq_bind fun _ =>
      ⟨by decide, by decide⟩
  | itemMove listName itemName =>
    refine serves_bind fun user => serves_bind fun place => serves_bind fun form => serves_ok ?_
    exact answers_success (moveItem place.1 place.2 ⟨form.list⟩ user) job_eq_bind fun _ =>
      succeeds_ofJson (by decide) (by decide) _
  | reindex =>
    refine serves_bind fun _ => serves_ok fun clock backend => ⟨_, rfl, fun fails => ?_⟩
    exact absurd (succeeds_ofJson (by decide) (by decide) _) fails

/-- What can be got is only shown. -/
theorem serves_get {resource : Resource} (has : Method.get ∈ resource.methods) (request : Request) :
    Serves (resource.work .get request) quiet := by
  cases resource with
  | health => exact serves_ok answers_showHealth
  | list name => exact serves_showList request name
  | _ => simp [Resource.methods] at has

/-- The methods by which nothing is changed. -/
def reading : List String :=
  ["GET", "HEAD", "OPTIONS"]

theorem eq_get_of_reading {method : Method} {name : String} (named : name ∈ method.names)
    (reads : name ∈ reading) : method = .get := by
  cases method with
  | get => rfl
  | _ =>
    rw [List.mem_singleton.mp named] at reads
    exact absurd reads (by decide)

theorem answers_job (request : Request) :
    Answers request.job fun response => ¬response.Succeeds ∨ request.method ∈ reading := by
  unfold Request.job
  split
  next => exact answers_done _
  next =>
    unfold Request.work
    split
    next => exact answers_done _
    next resource _ =>
      split
      next => exact answers_done _
      next method found =>
        split
        next work given =>
          intro clock backend
          have named : request.method ∈ method.names := by simpa using List.find?_some found
          have has : method ∈ resource.methods := List.mem_of_find?_eq_some found
          obtain ⟨response, rest, fails⟩ :=
            serves_work resource method request work given clock backend
          refine ⟨response, rest, fun silent => silent.elim fails fun reads => ?_⟩
          obtain rfl := eq_get_of_reading named reads
          have reading : Answers work fun _ => True := serves_get has request work given
          obtain ⟨_, _, untouched⟩ := reading clock backend
          exact untouched trivial
        next => exact answers_done _

/-- The request names this user as its caller. -/
def Request.Names (request : Request) (user : UserId) : Prop :=
  ∃ value, request.header? callerHeader = some value ∧ NamesUser value user

theorem caller_of_anonymous {request : Request} (anonymous : ¬∃ user, request.Names user) :
    ∃ problem, request.caller = .error (.ofFault (.unauthorized problem)) := by
  unfold Request.caller identify
  cases header : request.header? callerHeader with
  | none => exact ⟨_, rfl⟩
  | some value =>
    cases called : callerOf? value with
    | none => exact ⟨"invalid X-User-Id header", by simp only [called]; rfl⟩
    | some user => exact absurd ⟨user, value, header, callerOf?_eq_some.mp called⟩ anonymous

/-- All but the health of the service is told to known callers only. -/
theorem work_of_caller_error {resource : Resource} {request : Request} {refusal : Response}
    (other : resource ≠ .health) (refused : request.caller = .error refusal) (method : Method) :
    resource.work method request = .error refusal := by
  have refuses {β : Type} (rest : UserId → Except Response β) :
      (request.caller >>= rest) = .error refusal := by
    rw [refused]
    rfl
  cases resource with
  | health => exact absurd rfl other
  | list name => cases method <;> exact refuses _
  | _ => exact refuses _

theorem job_of_anonymous {request : Request} {resource : Resource} {method : Method}
    (anonymous : ¬∃ user, request.Names user) (path : Resource.ofPath? request.path = some resource)
    (other : resource ≠ .health) (has : resource.method? request.method = some method) :
    ∃ problem, request.job = .done (.ofFault (.unauthorized problem)) := by
  obtain ⟨problem, refused⟩ := caller_of_anonymous anonymous
  have named : request.method ∈ method.names := by simpa using List.find?_some has
  have asked : request.isPreflight = false := by
    refine beq_eq_false_iff_ne.mpr fun options => ?_
    rw [options] at named
    cases method <;> exact absurd named (by decide)
  refine ⟨problem, ?_⟩
  rw [Request.job, asked, if_neg Bool.false_ne_true, Request.work, path]
  simp only [has, work_of_caller_error other refused]
  rfl

theorem status_seen (request : Request) (response : Response) :
    (request.seen response).status = response.status := by
  unfold Request.seen
  split <;> rfl

theorem status_response (request : Request) (response : Response) :
    (request.response (.done response)).status = response.status :=
  status_seen request response

/-- Every request is answered. Nothing is stored and nothing published unless it succeeds, nor if it
only asks for something. For a resource other than the health of the service it is refused if it
does not name its caller, whatever else it says. -/
theorem touches_only_by_success (clock : Nat → Timestamp) (backend : Backend) (request : Request) :
    let progress := request.job.advance (Backend.serve clock none) (backend, 0)
    let response := request.response progress.rest
    (∃ answer, progress.rest = .done answer) ∧
      (¬response.Succeeds ∨ request.method ∈ reading → Untouched backend progress) ∧
        ∀ resource method, Resource.ofPath? request.path = some resource → resource ≠ .health →
          resource.method? request.method = some method → (¬∃ user, request.Names user) →
            response.status = 401 ∧ ∃ message, response.body =
              if request.method = "HEAD" then .empty
              else .json (.object [("error", .object
                [("code", .ofNat 4001), ("message", .text message)])]) := by
  intro progress response
  obtain ⟨answer, rest, untouched⟩ := answers_job request clock backend
  have answered : response = request.response (.done answer) := congrArg request.response rest
  refine ⟨⟨answer, rest⟩, fun quiet => untouched (quiet.imp_left fun fails => ?_), ?_⟩
  · rwa [Response.Succeeds, answered, status_response] at fails
  · intro resource method path other has anonymous
    obtain ⟨problem, job⟩ := job_of_anonymous anonymous path other has
    have refused : response = request.response (.done (.ofFault (.unauthorized problem))) := by
      simp only [response, progress, job]
      rfl
    rw [refused]
    refine ⟨status_response request _, (RequestFault.unauthorized problem).message, ?_⟩
    unfold Request.response Request.seen
    simp only [beq_iff_eq]
    split <;> rfl

/-- A backend with one list. -/
def stocked : Backend :=
  ⟨Store.empty.seed ⟨⟨1⟩, ⟨1⟩, "groceries", 0, [], default, default⟩, .empty, .new 1, []⟩

/-- Nobody is user zero, and so it is never seen that the list has no number and the content is no
text. -/
theorem touches_only_by_success_zero :
    let request : Request :=
      ⟨"PATCH", "/api/v1/lists/none", [("X-User-Id", [48])], ⟨[123, 34, 255]⟩⟩
    let progress := request.job.advance (Backend.serve (fun _ => default) none) (stocked, 0)
    let response := request.response progress.rest
    response.status = 401 ∧ Untouched stocked progress := by
  intro request progress response
  have path : Resource.ofPath? request.path = some (.list "none") := by decide +kernel
  have header : request.header? callerHeader = some [48] := by decide +kernel
  have anonymous : ¬∃ user, request.Names user := by
    rintro ⟨user, value, there, names⟩
    obtain rfl := Option.some.inj (header.symm.trans there)
    have nobody : callerOf? [48] = none := by decide +kernel
    cases nobody.symm.trans (callerOf?_eq_some.mpr names)
  obtain ⟨-, untouched, refuses⟩ :=
    touches_only_by_success (fun _ => default) stocked request
  have refused : response.status = 401 :=
    (refuses (.list "none") .patch path (by decide) (by decide) anonymous).1
  refine ⟨refused, untouched (Or.inl fun success => ?_)⟩
  exact absurd (refused ▸ success.2) (by decide)

end Http

end ListKeeper
