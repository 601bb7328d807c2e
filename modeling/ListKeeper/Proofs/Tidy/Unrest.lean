import ListKeeper.Proofs.Rebuild.Once
import ListKeeper.Proofs.Tidy.Careful

namespace ListKeeper

open Text

/-- What becomes of a call. One that gets no answer of its own may have taken effect all the same,
at some instant. -/
inductive Fortune where
  | served (now : Timestamp)
  /-- The call fails, on the store or on the index; any other call gets no answer. -/
  | failed (took : Option Timestamp) (storage : StorageFault) (search : SearchFault)
  | unanswered (took : Option Timestamp)
  | panicked (took : Option Timestamp) (reason : PanicReason)

/-- What a call can be answered that fails. -/
def Call.refusal? (storage : StorageFault) (search : SearchFault) :
    (call : Call) → Option call.Answer
  | .store _ => some (.error storage)
  | .saveDocuments _ => some (.error search)
  | .deleteDocument _ => some (.error search)
  | _ => none

/-- The backend after a call that took effect at an instant, or did not. -/
def Backend.left (backend : Backend) (took : Option Timestamp) (call : Call) : Backend :=
  took.elim backend fun now => (backend.perform now call).2

def Fortune.treat (fortune : Fortune) : Program.Surroundings Call.interface Backend :=
  fun call backend =>
    match fortune with
    | served now => Backend.treat now call backend
    | failed took storage search =>
      ((call.refusal? storage search).elim .never .answer, backend.left took call)
    | unanswered took => (.never, backend.left took call)
    | panicked took reason => (.panics reason, backend.left took call)

/-- What is at work on the backend: a request, or a handler that has got an event. -/
inductive Activity where
  | request (job : Job Request.Result)
  | reaction (job : Job (Except ProjectionFault Unit))

namespace Activity

def next? : Activity → Option Call
  | request job => Program.next? job
  | reaction job => Program.next? job

/-- Makes the next call of the activity, with what becomes of it. -/
def step (fortune : Fortune) (backend : Backend) : Activity → Activity × Backend
  | request job => (job.step fortune.treat backend).map request id
  | reaction job => (job.step fortune.treat backend).map reaction id

/-- The activity brings tidy texts only, if it is shown tidy lists. -/
def IsCareful : Activity → Prop
  | request job => Careful (fun _ => True) job
  | reaction job => Careful (fun _ => True) job

end Activity

/-- A backend, what is at work on it, and the documents pushed to the index so far. -/
structure Unrest where
  backend : Backend
  activities : List Activity
  pushed : List Document

namespace Unrest

inductive Event where
  /-- A request begins, on any course that it can take. -/
  | comes (request : Request) (job : Job Request.Result) (course : request.Course job)
  /-- A handler of the pipeline is given an event. -/
  | reacts (batch : Nat) (handler : Handler Call.interface) (topics : List Topic)
      (listed : (handler, topics) ∈ Pipeline.handlers batch) (envelope : Envelope)
  /-- An activity makes its next call. -/
  | calls (index : Nat) (fortune : Fortune)

/-- Nothing is stored yet, and nothing is at work. -/
def opening (backend : Backend) : Unrest :=
  ⟨{ backend with store := .empty }, [], []⟩

/-- Whatever becomes of a call that pushes documents, they count as pushed. -/
def act (unrest : Unrest) : Event → Unrest
  | .comes _ job _ => { unrest with activities := unrest.activities ++ [.request job] }
  | .reacts _ handler _ _ envelope =>
    { unrest with activities := unrest.activities ++ [.reaction (handler.handle envelope)] }
  | .calls index fortune =>
    match unrest.activities[index]? with
    | none => unrest
    | some activity =>
      let (later, backend) := activity.step fortune unrest.backend
      ⟨backend, unrest.activities.set index later,
        unrest.pushed ++ (activity.next?.bind Call.documents?).toList.flatten⟩

def run (unrest : Unrest) (events : List Event) : Unrest :=
  events.foldl act unrest

end Unrest

section

variable {backend : Backend} {call : Call}

theorem Store.Tidy.performed (tidy : backend.store.Tidy) (now : Timestamp) (brings : call.Tidy) :
    (backend.perform now call).2.store.Tidy := by
  cases call with
  | store call => exact tidy.perform now brings
  | _ => exact tidy

theorem Store.Tidy.left (tidy : backend.store.Tidy) (took : Option Timestamp)
    (brings : call.Tidy) : (backend.left took call).store.Tidy := by
  cases took with
  | none => exact tidy
  | some now => exact tidy.performed now brings

theorem Call.showsTidy_refusal {storage : StorageFault} {search : SearchFault}
    {answer : call.Answer} (refused : call.refusal? storage search = some answer) :
    call.ShowsTidy answer := by
  cases call with
  | store call =>
    obtain rfl := Option.some.inj refused
    exact call.showsTidy_error storage
  | _ => trivial

/-- Whatever becomes of a call that brings tidy texts, the store stays tidy. -/
theorem Store.Tidy.treat (tidy : backend.store.Tidy) (fortune : Fortune) (brings : call.Tidy) :
    (fortune.treat call backend).2.store.Tidy := by
  cases fortune with
  | served now => exact tidy.performed now brings
  | failed took | unanswered took | panicked took => exact tidy.left took brings

/-- Whatever becomes of a call, an answer shows tidy lists. -/
theorem Store.Tidy.showsTidy (tidy : backend.store.Tidy) (fortune : Fortune)
    {answer : call.Answer} (came : (fortune.treat call backend).1 = .answer answer) :
    call.ShowsTidy answer := by
  cases fortune with
  | served now =>
    obtain rfl : (backend.perform now call).1 = answer := Program.Reply.answer.inj came
    cases call with
    | store call => exact tidy.shows now call
    | _ => trivial
  | failed took storage search =>
    cases refused : call.refusal? storage search with
    | none =>
      simp only [Fortune.treat, refused] at came
      cases came
    | some value =>
      simp only [Fortune.treat, refused] at came
      obtain rfl : value = answer := Program.Reply.answer.inj came
      exact Call.showsTidy_refusal refused
  | unanswered took | panicked took => cases came

end

section

variable {α : Type} {ends : α → Prop} {job : Job α} {backend : Backend}

theorem Careful.step (careful : Careful ends job) (tidy : backend.store.Tidy) (fortune : Fortune) :
    Careful ends (job.step fortune.treat backend).1 ∧
      (job.step fortune.treat backend).2.store.Tidy := by
  cases careful with
  | done right => exact ⟨.done right, tidy⟩
  | stalled => exact ⟨.stalled, tidy⟩
  | panic reason => exact ⟨.panic reason, tidy⟩
  | @call call next meanwhile brings later unanswered =>
    have kept := tidy.treat fortune brings
    have shows (answer : call.Answer) (came : (fortune.treat call backend).1 = .answer answer) :
        call.ShowsTidy answer := tidy.showsTidy fortune came
    simp only [Program.step]
    cases came : fortune.treat call backend with
    | mk reply after =>
      rw [came] at kept shows
      cases reply with
      | answer value => exact ⟨later value (shows value rfl), kept⟩
      | notYet => exact ⟨.call brings later unanswered, kept⟩
      | never => exact ⟨unanswered, kept⟩
      | panics reason => exact ⟨.panic reason, kept⟩

theorem Careful.pushes (careful : Careful ends job) :
    ∀ document ∈ ((Program.next? job).bind Call.documents?).toList.flatten, document.Tidy := by
  cases careful with
  | done | stalled | panic => exact List.forall_mem_nil _
  | @call call next meanwhile brings =>
    cases call with
    | saveDocuments documents =>
      intro document member
      exact brings document (by simpa [Program.next?, Call.documents?] using member)
    | _ => exact List.forall_mem_nil _

end

namespace Activity

variable {activity : Activity} {backend : Backend}

theorem IsCareful.step (careful : activity.IsCareful) (tidy : backend.store.Tidy)
    (fortune : Fortune) : (activity.step fortune backend).1.IsCareful ∧
      (activity.step fortune backend).2.store.Tidy := by
  cases activity with
  | request job => exact Careful.step careful tidy fortune
  | reaction job => exact Careful.step careful tidy fortune

theorem IsCareful.pushes (careful : activity.IsCareful) :
    ∀ document ∈ (activity.next?.bind Call.documents?).toList.flatten, document.Tidy := by
  cases activity with
  | request job => exact Careful.pushes careful
  | reaction job => exact Careful.pushes careful

end Activity

namespace Unrest

variable {unrest : Unrest}

/-- What is stored and what is pushed is tidy, and what is at work keeps it so. -/
structure Tidy (unrest : Unrest) : Prop where
  store : unrest.backend.store.Tidy
  activities : ∀ activity ∈ unrest.activities, activity.IsCareful
  pushed : ∀ document ∈ unrest.pushed, document.Tidy

theorem careful_append {activities : List Activity} {activity : Activity}
    (careful : ∀ activity ∈ activities, activity.IsCareful) (joins : activity.IsCareful) :
    ∀ other ∈ activities ++ [activity], other.IsCareful := by
  intro other member
  rcases List.mem_append.mp member with old | new
  · exact careful other old
  · exact List.mem_singleton.mp new ▸ joins

theorem Tidy.act (tidy : unrest.Tidy) (event : Event) : (unrest.act event).Tidy := by
  cases event with
  | comes request job course =>
    exact ⟨tidy.store, careful_append tidy.activities course.careful, tidy.pushed⟩
  | reacts batch handler topics listed envelope =>
    exact ⟨tidy.store, careful_append tidy.activities (Handler.careful_handlers listed envelope),
      tidy.pushed⟩
  | calls index fortune =>
    simp only [Unrest.act]
    split
    next => exact tidy
    next activity there =>
      have careful := tidy.activities activity (List.mem_of_getElem? there)
      obtain ⟨later, kept⟩ := careful.step tidy.store fortune
      refine ⟨kept, fun other member => ?_, fun document member => ?_⟩
      · rcases List.mem_or_eq_of_mem_set member with old | rfl
        · exact tidy.activities other old
        · exact later
      · rcases List.mem_append.mp member with old | new
        · exact tidy.pushed document old
        -- What the call pushes is the activity's own, whatever became of the call.
        · exact careful.pushes document new

theorem Tidy.run (tidy : unrest.Tidy) (events : List Event) : (unrest.run events).Tidy := by
  induction events generalizing unrest with
  | nil => exact tidy
  | cons event rest ih => exact ih (tidy.act event)

theorem tidy_opening (backend : Backend) : (opening backend).Tidy :=
  ⟨Store.tidy_empty, List.forall_mem_nil _, List.forall_mem_nil _⟩

/-- Whatever requests come with whatever texts, whatever events the handlers get, in whatever order
their calls are made and whichever of these come to grief: a stored name or title is not empty, no
stored text has blanks at its ends, and so it is with the documents that are pushed. -/
theorem stored_and_pushed_texts_tidy (backend : Backend) (events : List Event) :
    (∀ id list, ((opening backend).run events).backend.store.lists.get? id = some list →
      IsTidy list.name ∧ ∀ item ∈ list.items, IsTidy item.title ∧ IsTrimmed item.description) ∧
    ∀ document ∈ ((opening backend).run events).pushed,
      IsTidy document.objectId ∧ IsTidy document.name ∧
        ∀ item ∈ document.items, IsTidy item.title ∧ IsTrimmed item.description := by
  have tidy := (tidy_opening backend).run events
  constructor
  · intro id list stored
    have fine : list.Tidy := tidy.store id list stored
    exact ⟨fine.name, fun item member => ⟨(fine.items item member).title,
      (fine.items item member).description⟩⟩
  · intro document member
    have fine : document.Tidy := tidy.pushed document member
    exact ⟨fine.objectId, fine.name, fun item member => ⟨fine.titles item member,
      fine.descriptions item member⟩⟩

/-- Two lists, and an item of the first that cannot be stored in the second and is put back. The
first list is indexed at last, which fails. -/
def takenBack : List Event :=
  let served (index times : Nat) : List Event := .replicate times (.calls index (.served default))
  let spoilt (index : Nat) : Event :=
    .calls index (.failed none (.unavailable "busy") (.transport "lost"))
  [.comes (.createList ⟨1⟩ "\u3000groceries\t") _ (.job _)] ++ served 0 2 ++
    [.comes (.createList ⟨1⟩ "errands ") _ (.job _)] ++ served 1 2 ++
    [.comes (.addItem ⟨1⟩ ⟨1⟩ " milk\n" "\u00a0") _ (.job _)] ++ served 2 3 ++
    [.comes (.moveItem ⟨1⟩ ⟨1⟩ ⟨2⟩ ⟨1⟩) _ (.job _)] ++ served 3 3 ++ [spoilt 3] ++ served 3 2 ++
    [.reacts 1 Handler.searchIndex [.listCreated, .listUpdated] (.tail _ (.head _))
      ⟨.listUpdated, .list ⟨1⟩⟩] ++ served 4 1 ++ [spoilt 4]

def stocked : ItemList :=
  ⟨⟨1⟩, ⟨1⟩, "groceries", 0, [⟨⟨1⟩, ⟨1⟩, "milk", "", 0, default, default⟩], default, default⟩

theorem stored_and_pushed_texts_tidy_takenBack :
    ((opening ⟨.empty, .empty, .new 1, []⟩).run takenBack).backend.store.lists.get? ⟨1⟩ =
      some stocked ∧
    ((opening ⟨.empty, .empty, .new 1, []⟩).run takenBack).pushed = [Document.ofList stocked] ∧
    (IsTidy "groceries" ∧ IsTidy "milk" ∧ IsTrimmed "") ∧
    IsTidy (Document.ofList stocked).objectId := by
  have stored : ((opening ⟨.empty, .empty, .new 1, []⟩).run takenBack).backend.store.lists.get?
      ⟨1⟩ = some stocked := by decide +kernel
  have pushed : ((opening ⟨.empty, .empty, .new 1, []⟩).run takenBack).pushed =
      [Document.ofList stocked] := by decide +kernel
  obtain ⟨lists, documents⟩ :=
    stored_and_pushed_texts_tidy ⟨.empty, .empty, .new 1, []⟩ takenBack
  obtain ⟨name, items⟩ := lists ⟨1⟩ stocked stored
  obtain ⟨title, description⟩ := items _ (List.mem_singleton_self _)
  have document := documents (Document.ofList stocked) (pushed ▸ List.mem_singleton_self _)
  exact ⟨stored, pushed, ⟨name, title, description⟩, document.1⟩

end Unrest

end ListKeeper
