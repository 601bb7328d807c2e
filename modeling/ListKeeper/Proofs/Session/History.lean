import ListKeeper.Proofs.Session.Deed

namespace ListKeeper

theorem Store.WellFormed.step {backend : Backend} (formed : backend.store.WellFormed)
    (now : Timestamp) (job : Job Request.Result)
    (unwrapped : Unwrapped backend.store (job.step (Backend.treat now) backend).2.store) :
    (job.step (Backend.treat now) backend).2.store.WellFormed := by
  cases job with
  | done | stalled | panic => exact formed
  | call call next meanwhile =>
    cases call with
    | store call => exact formed.perform now call unwrapped
    | publish | saveDocuments | deleteDocument | busStatus | clock | tell => exact formed

theorem Store.has_or_named_of_step {backend : Backend} {now : Timestamp}
    {job : Job Request.Result} {list : ListId} {item : Item}
    (has : (job.step (Backend.treat now) backend).2.store.Has list item) :
    backend.store.Has list item ∨ item.list = list := by
  cases job with
  | done | stalled | panic => exact .inl has
  | call call next meanwhile =>
    cases call with
    | store call => exact has_or_named_of_perform has
    | publish | saveDocuments | deleteDocument | busStatus | clock | tell => exact .inl has

namespace Session

section

variable (session : Session) (schedule : List (Nat × Timestamp)) (index : Nat) (t : Nat)

def store : Store :=
  (session.moment schedule t).backend.store

/-- An item has been stored at some time. -/
def Seen (card : Card) : Prop :=
  ∃ t' ≤ t, ∃ list item, (session.store schedule t').Has list item ∧ item.card = card

/-- A request has made its first call. -/
def Begun : Prop :=
  index ∈ (schedule.take t).map Prod.fst

/-- A list is deleted by the next call, while one request is being served. -/
structure Deletes (list : ListId) : Prop where
  begun : Begun schedule index t
  unfinished : ∀ result, (session.moment schedule t).jobs[index]? ≠ some (.done result)
  there : ((session.store schedule t).lists.get? list).isSome
  gone : (session.store schedule (t + 1)).lists.get? list = none

/-- What has been, as far as it concerns one request. -/
def past : Past where
  initial := session.backend.store.Has
  items := session.Seen schedule t
  lists list := ∃ t' ≤ t, Begun schedule index t' ∧
    ((session.store schedule t').lists.get? list).isSome
  deleted list := ∃ t' < t, session.Deletes schedule index t' list

end

variable {session : Session} {schedule : List (Nat × Timestamp)} {requests : List Request}
  {index t : Nat}

theorem Seen.mono {later : Nat} (order : t ≤ later) {card : Card}
    (seen : session.Seen schedule t card) : session.Seen schedule later card := by
  obtain ⟨t', within, here⟩ := seen
  exact ⟨t', within.trans order, here⟩

theorem seen_of_has {list : ListId} {item : Item} (has : (session.store schedule t).Has list item) :
    session.Seen schedule t item.card :=
  ⟨t, le_rfl, list, item, has, rfl⟩

/-- An item that does not name its list has stood there from the beginning. -/
theorem named_or_initial {list : ListId} {item : Item}
    (has : (session.store schedule t).Has list item) :
    item.list = list ∨ session.backend.store.Has list item := by
  induction t with
  | zero => exact .inr has
  | succ t ih =>
    rcases session.moment_succ_or schedule t with idle | ⟨_, next⟩
    · exact ih (by rwa [store, idle] at has)
    · rw [store, next] at has
      cases there : (session.moment schedule t).jobs[schedule[t].1]? with
      | none =>
        rw [step_of_none there] at has
        exact ih has
      | some job =>
        rw [step_of_some there] at has
        exact (Store.has_or_named_of_step has).elim ih .inl

theorem past_upto (session : Session) (schedule : List (Nat × Timestamp)) (index t : Nat) :
    (session.past schedule index t).Upto (session.past schedule index (t + 1)) := by
  refine ⟨fun _ _ => id, fun card => Seen.mono (Nat.le_succ t), ?_, ?_⟩
  · rintro list ⟨t', within, there⟩
    exact ⟨t', within.trans (Nat.le_succ t), there⟩
  · rintro list ⟨t', within, deletes⟩
    exact ⟨t', Nat.lt_succ_of_lt within, deletes⟩

theorem Begun.mono {later : Nat} (order : t ≤ later) (begun : Begun schedule index t) :
    Begun schedule index later :=
  ((List.take_prefix_take_left order).map Prod.fst).subset begun

theorem exists_deletes {later : Nat} {list : ListId} (order : t ≤ later)
    (begun : Begun schedule index t)
    (unfinished : ∀ result, (session.moment schedule later).jobs[index]? ≠ some (.done result))
    (there : ((session.store schedule t).lists.get? list).isSome)
    (gone : (session.store schedule later).lists.get? list = none) :
    ∃ t' < later, session.Deletes schedule index t' list := by
  induction later, order using Nat.le_induction with
  | base =>
    rw [gone] at there
    cases there
  | succ later order ih =>
    have before (result) :
        (session.moment schedule later).jobs[index]? ≠ some (.done result) := fun done =>
      unfinished result (moment_done (Nat.le_succ later) done)
    -- Either the list is gone already one call earlier, or it is the last call that deletes it.
    cases found : (session.store schedule later).lists.get? list with
    | none =>
      obtain ⟨t', within, deletes⟩ := ih before found
      exact ⟨t', Nat.lt_succ_of_lt within, deletes⟩
    | some =>
      exact ⟨later, Nat.lt_succ_self later, begun.mono order, before,
        Option.isSome_of_eq_some found, gone⟩

/-- What a session starts from, and how long it may last. -/
structure Serves (session : Session) (requests : List Request)
    (schedule : List (Nat × Timestamp)) : Prop where
  opened : List.Forall₂ Request.Course requests session.jobs
  formed : session.backend.store.WellFormed
  /-- No number wraps around. -/
  unwrapped : ∀ t < schedule.length,
    Store.Unwrapped (session.store schedule t) (session.store schedule (t + 1))

theorem Serves.formed_store (serves : session.Serves requests schedule) (t : Nat) :
    (session.store schedule t).WellFormed := by
  induction t with
  | zero => exact serves.formed
  | succ t ih =>
    rcases session.moment_succ_or schedule t with idle | ⟨within, next⟩
    · rw [store, idle]
      exact ih
    · have unwrapped := serves.unwrapped t within
      unfold store at ih unwrapped ⊢
      rw [next] at unwrapped ⊢
      cases there : (session.moment schedule t).jobs[schedule[t].1]? with
      | none =>
        rw [step_of_none there]
        exact ih
      | some job =>
        rw [step_of_some there] at unwrapped ⊢
        exact ih.step _ job unwrapped

theorem Serves.length_jobs (serves : session.Serves requests schedule) (t : Nat) :
    (session.moment schedule t).jobs.length = requests.length := by
  induction t with
  | zero => exact serves.opened.length_eq.symm
  | succ t ih =>
    rcases session.moment_succ_or schedule t with idle | ⟨_, next⟩
    · rw [idle, ih]
    · rw [next, length_jobs_step, ih]

theorem leads_past {job : Job Request.Result} (within : t < schedule.length)
    (there : (session.moment schedule t).jobs[schedule[t].1]? = some job) :
    (session.past schedule schedule[t].1 t).Leads job (session.store schedule t)
      (session.store schedule (t + 1)) (session.past schedule schedule[t].1 (t + 1)) := by
  have begun : Begun schedule schedule[t].1 (t + 1) := by
    rw [Begun, List.take_succ_eq_append_getElem within]
    exact List.mem_map_of_mem (List.mem_append_right _ (List.mem_singleton_self _))
  refine ⟨past_upto session schedule _ t, ?_, ?_, ?_⟩
  · intro list item has
    exact ⟨seen_of_has has, named_or_initial has⟩
  · intro list found
    exact ⟨t + 1, le_rfl, begun, found⟩
  · rintro running list ⟨t', before, begun, stored⟩ gone
    have unfinished (result) :
        (session.moment schedule t).jobs[schedule[t].1]? ≠ some (.done result) := by
      rw [there]
      exact fun same => running result (Option.some.inj same)
    obtain ⟨t'', earlier, deletes⟩ := exists_deletes before begun unfinished stored gone
    exact ⟨t'', Nat.lt_succ_of_lt earlier, deletes⟩

theorem store_succ {job : Job Request.Result} (within : t < schedule.length)
    (there : (session.moment schedule t).jobs[schedule[t].1]? = some job) :
    session.store schedule (t + 1) =
      (job.step (Backend.treat schedule[t].2) (session.moment schedule t).backend).2.store := by
  rw [store, moment_succ within, step_of_some there]

theorem Serves.goes (serves : session.Serves requests schedule) {request : Request}
    {job : Job Request.Result} (within : t < schedule.length)
    (there : (session.moment schedule t).jobs[schedule[t].1]? = some job)
    (standing : request.Standing (session.past schedule schedule[t].1 t) job) :
    request.Goes (session.past schedule schedule[t].1 (t + 1)) job
      (session.moment schedule t).backend schedule[t].2 := by
  have unwrapped := serves.unwrapped t within
  have leads := leads_past within there
  rw [store_succ within there] at unwrapped leads
  exact standing.goes (serves.formed_store t) unwrapped leads

theorem Serves.stands (serves : session.Serves requests schedule) {request : Request}
    (asked : requests[index]? = some request) (t : Nat) :
    ∃ job, (session.moment schedule t).jobs[index]? = some job ∧
      request.Standing (session.past schedule index t) job := by
  induction t with
  | zero =>
    obtain ⟨inside, rfl⟩ := List.getElem?_eq_some_iff.mp asked
    have inside' : index < session.jobs.length := serves.opened.length_eq ▸ inside
    have course := serves.opened.get inside inside'
    exact ⟨session.jobs[index], List.getElem?_eq_getElem inside', course.standing _⟩
  | succ t ih =>
    obtain ⟨job, there, standing⟩ := ih
    rcases session.moment_succ_or schedule t with idle | ⟨within, next⟩
    · refine ⟨job, ?_, standing.mono (past_upto session schedule index t)⟩
      rw [idle, there]
    · by_cases here : index = schedule[t].1
      · subst here
        refine ⟨_, ?_, (serves.goes within there standing).standing⟩
        rw [next, jobs_step_self there]
      · refine ⟨job, ?_, standing.mono (past_upto session schedule index t)⟩
        rw [next, jobs_step_other here, there]

/-- A request makes its next call, and stands before and after it. -/
structure Turn (session : Session) (requests : List Request) (schedule : List (Nat × Timestamp))
    (t index : Nat) (request : Request) (job job' : Job Request.Result) : Prop where
  asked : requests[index]? = some request
  before : (session.moment schedule t).jobs[index]? = some job
  after : (session.moment schedule (t + 1)).jobs[index]? = some job'
  others : ∀ other, other ≠ index →
    (session.moment schedule (t + 1)).jobs[other]? = (session.moment schedule t).jobs[other]?
  unwrapped : Store.Unwrapped (session.store schedule t) (session.store schedule (t + 1))
  stood : request.Standing (session.past schedule index t) job
  deed : request.Deed (session.past schedule index (t + 1)) (session.store schedule t)
    (session.store schedule (t + 1)) job job'

/-- From one moment to the next nothing happens, or one request makes a call. -/
theorem Serves.turn (serves : session.Serves requests schedule) (t : Nat) :
    session.moment schedule (t + 1) = session.moment schedule t ∨
      ∃ index request job job', session.Turn requests schedule t index request job job' := by
  rcases session.moment_succ_or schedule t with idle | ⟨within, next⟩
  · exact .inl idle
  · by_cases inside : schedule[t].1 < requests.length
    · right
      have asked : requests[schedule[t].1]? = some requests[schedule[t].1] :=
        List.getElem?_eq_getElem inside
      obtain ⟨job, before, standing⟩ := serves.stands asked t
      let now := schedule[t].2
      let job' := (job.step (Backend.treat now) (session.moment schedule t).backend).1
      refine ⟨_, _, job, job', asked, before, ?_, fun other different => ?_,
        serves.unwrapped t within, standing, ?_⟩
      · rw [next, jobs_step_self before]
      · rw [next, jobs_step_other different]
      · rw [store_succ within before]
        exact (serves.goes within before standing).deed
    · left
      have absent : (session.moment schedule t).jobs[schedule[t].1]? = none := by
        rw [List.getElem?_eq_none_iff, serves.length_jobs t]
        omega
      rw [next, step_of_none absent]

end Session

end ListKeeper
