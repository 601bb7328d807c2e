import ListKeeper.Proofs.Request

/-!
Requests that are served at the same time. Each makes its calls one by one, and the calls of
different requests follow each other in any order. Main statements: a call changes nothing but the
backend and its own request, and a request that has come to its end stays there.
-/
namespace ListKeeper

namespace Request

/-- Looks for two lists of the user at the same time, and finds the second one first. -/
def findingBack (first second : ListId) (user : UserId) (fault : StorageFault → RequestFault)
    (next : Option ItemList → Option ItemList → Job Result) : Job Result :=
  storing (.findList second user) fault fun foundSecond =>
    storing (.findList first user) fault fun foundFirst => next foundFirst foundSecond

/-- The courses that a request can take. Of two calls made at the same time either can be first. -/
inductive Course : Request → Job Result → Prop where
  | job (request : Request) : Course request request.job
  | overtaken (origin : ListId) (item : ItemId) (destination : ListId) (user : UserId)
      (apart : origin ≠ destination) :
    Course (.moveItem origin item destination user)
      (findingBack origin destination user
        (Operation.stopped ("loading lists " ++ origin.text ++ " and " ++ destination.text))
        (taking origin item destination))

end Request

structure Session where
  backend : Backend
  jobs : List (Job Request.Result)

namespace Session

def step (session : Session) (index : Nat) (now : Timestamp) : Session :=
  match session.jobs[index]? with
  | none => session
  | some job =>
    let (job, backend) := job.step (Backend.treat now) session.backend
    ⟨backend, session.jobs.set index job⟩

def run (session : Session) (schedule : List (Nat × Timestamp)) : Session :=
  schedule.foldl (fun session (index, now) => session.step index now) session

/-- The session after the first calls of a schedule. -/
def moment (session : Session) (schedule : List (Nat × Timestamp)) (t : Nat) : Session :=
  session.run (schedule.take t)

variable {session : Session} {schedule : List (Nat × Timestamp)} {index t : Nat} {now : Timestamp}
  {job : Job Request.Result}

theorem step_of_none (absent : session.jobs[index]? = none) : session.step index now = session := by
  simp only [step, absent]

theorem step_of_some (there : session.jobs[index]? = some job) :
    session.step index now =
      ⟨(job.step (Backend.treat now) session.backend).2,
        session.jobs.set index (job.step (Backend.treat now) session.backend).1⟩ := by
  simp only [step, there]

theorem jobs_step_self (there : session.jobs[index]? = some job) :
    (session.step index now).jobs[index]? =
      some (job.step (Backend.treat now) session.backend).1 := by
  obtain ⟨inside, _⟩ := List.getElem?_eq_some_iff.mp there
  rw [step_of_some there, List.getElem?_set_self inside]

theorem jobs_step_other {other : Nat} (different : other ≠ index) :
    (session.step index now).jobs[other]? = session.jobs[other]? := by
  cases there : session.jobs[index]? with
  | none => rw [step_of_none there]
  | some job => rw [step_of_some there, List.getElem?_set_ne (Ne.symm different)]

theorem length_jobs_step : (session.step index now).jobs.length = session.jobs.length := by
  cases there : session.jobs[index]? with
  | none => rw [step_of_none there]
  | some job => rw [step_of_some there, List.length_set]

/-- What is done stays done. -/
theorem jobs_step_done {other : Nat} {result : Request.Result}
    (there : session.jobs[other]? = some (.done result)) :
    (session.step index now).jobs[other]? = some (.done result) := by
  by_cases same : other = index
  · subst same
    exact jobs_step_self there
  · rw [jobs_step_other same, there]

theorem moment_succ (within : t < schedule.length) :
    session.moment schedule (t + 1) =
      (session.moment schedule t).step schedule[t].1 schedule[t].2 := by
  rw [moment, List.take_succ_eq_append_getElem within, run, List.foldl_append]
  rfl

theorem moment_length : session.moment schedule schedule.length = session.run schedule := by
  rw [moment, List.take_length]

/-- From one moment to the next nothing happens, or one request makes its call. -/
theorem moment_succ_or (session : Session) (schedule : List (Nat × Timestamp)) (t : Nat) :
    session.moment schedule (t + 1) = session.moment schedule t ∨
      ∃ _ : t < schedule.length, session.moment schedule (t + 1) =
        (session.moment schedule t).step schedule[t].1 schedule[t].2 := by
  by_cases within : t < schedule.length
  · exact .inr ⟨within, moment_succ within⟩
  · left
    rw [moment, moment, List.take_of_length_le (by omega), List.take_of_length_le (by omega)]

theorem moment_done {later : Nat} (order : t ≤ later) {result : Request.Result}
    (there : (session.moment schedule t).jobs[index]? = some (.done result)) :
    (session.moment schedule later).jobs[index]? = some (.done result) := by
  induction later, order using Nat.le_induction with
  | base => exact there
  | succ later order ih =>
    rcases session.moment_succ_or schedule later with idle | ⟨within, next⟩
    · rw [idle, ih]
    · rw [next]
      exact jobs_step_done ih

end Session

end ListKeeper
