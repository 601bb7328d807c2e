import ListKeeper.Pipeline
import ListKeeper.Proofs.Session.Run
import ListKeeper.Proofs.Tidy.Basic

namespace ListKeeper

open Text

variable {α β ε : Type}

/-- A job whose calls bring tidy texts and whose value is as `ends` says. All it relies on is that
the lists that it is shown are tidy: any call can fail, or get no answer at all. -/
inductive Careful (ends : α → Prop) : Job α → Prop where
  | done {value : α} (right : ends value) : Careful ends (.done value)
  | stalled : Careful ends .stalled
  | panic (reason : PanicReason) : Careful ends (.panic reason)
  | call {call : Call} {next : call.Answer → Job α} {meanwhile : Job α} (brings : call.Tidy)
      (later : ∀ answer, call.ShowsTidy answer → Careful ends (next answer))
      (unanswered : Careful ends meanwhile) : Careful ends (.call call next meanwhile)

namespace Careful

variable {ends : α → Prop} {job : Job α}

theorem mono {weaker : α → Prop} (careful : Careful ends job)
    (implies : ∀ value, ends value → weaker value) : Careful weaker job := by
  induction careful with
  | done right => exact .done (implies _ right)
  | stalled => exact .stalled
  | panic reason => exact .panic reason
  | call brings _ _ later unanswered => exact .call brings later unanswered

theorem bind {wanted : β → Prop} {next : α → Job β} (first : Careful ends job)
    (second : ∀ value, ends value → Careful wanted (next value)) :
    Careful wanted (Program.bind job next) := by
  induction first with
  | done right => exact second _ right
  | stalled => exact .stalled
  | panic reason => exact .panic reason
  | call brings _ _ later unanswered => exact .call brings later unanswered

/-- A call whose answer is awaited for ever. -/
theorem awaiting {call : Call} {next : call.Answer → Job α} (brings : call.Tidy)
    (later : ∀ answer, call.ShowsTidy answer → Careful ends (next answer)) :
    Careful ends (.call call next .stalled) :=
  .call brings later .stalled

end Careful

namespace Request

/-- A request that is careful, whatever its result. -/
abbrev IsCareful (job : Job Result) : Prop :=
  Careful (fun _ => True) job

theorem careful_failing (fault : RequestFault) : IsCareful (failing fault) :=
  .done trivial

theorem careful_storing {call : StoreCall} {fault : StorageFault → RequestFault}
    {next : call.Result → Job Result} (brings : call.Tidy)
    (later : ∀ result, call.ShowsTidy (.ok result) → IsCareful (next result)) :
    IsCareful (storing call fault next) := by
  refine .awaiting brings fun answer shown => ?_
  cases answer with
  | error cause => exact careful_failing _
  | ok result => exact later result shown

theorem careful_telling {topic : Topic} {list : ListId} {next : Job Result}
    (later : IsCareful next) : IsCareful (telling topic list next) :=
  .awaiting trivial fun _ _ => later

theorem careful_finding {list : ListId} {user : UserId} {next : ItemList → Job Result}
    (later : ∀ found : ItemList, found.Tidy → IsCareful (next found)) :
    IsCareful (finding list user next) := by
  refine careful_storing trivial fun result shown => ?_
  cases result with
  | none => exact careful_failing _
  | some found => exact later found (shown found rfl)

theorem careful_trimming {field value : String} {next : String → Job Result}
    (later : ∀ text, IsTidy text → IsCareful (next text)) :
    IsCareful (trimming field value next) := by
  unfold trimming
  split
  next => exact careful_failing _
  next shown => exact later _ (isTidy_trim (by simpa using shown))

theorem careful_restoring {item : Item} {failed : RequestFault} (tidy : item.Tidy) :
    IsCareful (restoring item failed) := by
  refine .awaiting tidy fun answer _ => ?_
  cases answer with
  | error fault => exact .awaiting trivial fun _ _ => careful_failing _
  | ok => exact .awaiting trivial fun _ _ => careful_failing _

theorem careful_placing {origin : ListId} {stored moved : Item}
    {failed : StorageFault → RequestFault} (tidy : stored.Tidy) (fits : moved.Tidy) :
    IsCareful (placing origin stored moved failed) := by
  refine .awaiting fits fun answer _ => ?_
  cases answer with
  | error fault => exact careful_restoring tidy
  | ok => exact careful_telling (careful_telling (.done trivial))

/-- An item keeps its texts when it is moved. -/
theorem careful_taking {origin destination : ListId} {item : ItemId}
    {source target : Option ItemList} (tidy : ∀ list, source = some list → list.Tidy) :
    IsCareful (taking origin item destination source target) := by
  unfold taking
  cases target with
  | none => exact careful_failing _
  | some target =>
    cases source with
    | none => exact careful_failing _
    | some source =>
      cases held : source.item? item with
      | none =>
        simp only [held]
        exact careful_failing _
      | some stored =>
        have fits : stored.Tidy := (tidy source rfl).item? held
        simp only [held]
        refine careful_storing trivial fun removed _ => ?_
        split
        · exact careful_placing fits ⟨fits.title, fits.description⟩
        · exact careful_failing _

theorem careful_findingBoth {first second : ListId} {user : UserId}
    {fault : StorageFault → RequestFault}
    {next : Option ItemList → Option ItemList → Job Result}
    (later : ∀ source target : Option ItemList, (∀ list, source = some list → list.Tidy) →
      IsCareful (next source target)) : IsCareful (findingBoth first second user fault next) := by
  -- Without the first answer the second list is looked for all the same, but nothing follows.
  refine .call trivial (fun answer shown => ?_) (careful_storing trivial fun _ _ => .stalled)
  cases answer with
  | error cause => exact careful_failing _
  | ok source =>
    refine careful_storing trivial fun target _ => later source target fun list same => ?_
    exact shown list (congrArg Except.ok same)

theorem careful_findingBack {first second : ListId} {user : UserId}
    {fault : StorageFault → RequestFault}
    {next : Option ItemList → Option ItemList → Job Result}
    (later : ∀ source target : Option ItemList, (∀ list, source = some list → list.Tidy) →
      IsCareful (next source target)) : IsCareful (findingBack first second user fault next) := by
  refine careful_storing trivial fun target _ => careful_storing trivial fun source shown => ?_
  exact later source target fun list same => shown list (congrArg Except.ok same)

theorem careful_job (request : Request) : IsCareful request.job := by
  cases request with
  | createList user name =>
    rw [job_createList]
    refine careful_trimming fun text tidy => ?_
    exact careful_storing tidy fun list _ => careful_telling (.done trivial)
  | getList list user =>
    rw [job_getList]
    exact careful_finding fun found _ => .done trivial
  | renameList list user name =>
    rw [job_renameList]
    refine careful_trimming fun text tidy => careful_finding fun _ _ => ?_
    refine careful_storing tidy fun _ _ => careful_telling ?_
    exact careful_finding fun found _ => .done trivial
  | deleteList list user =>
    rw [job_deleteList]
    refine careful_storing trivial fun deleted _ => ?_
    split
    · exact careful_telling (.done trivial)
    · exact careful_failing _
  | addItem list user title description =>
    rw [job_addItem]
    refine careful_trimming fun text tidy => careful_finding fun found _ => ?_
    refine careful_storing ⟨tidy, isTrimmed_trim description⟩ fun item _ => ?_
    exact careful_telling (.done trivial)
  | deleteItem list item user =>
    rw [job_deleteItem]
    refine careful_finding fun _ _ => careful_storing trivial fun deleted _ => ?_
    split
    · exact careful_telling (.done trivial)
    · exact careful_failing _
  | moveItem origin item destination user =>
    rw [job_moveItem]
    split
    · exact careful_failing _
    · exact careful_findingBoth fun source target tidy => careful_taking tidy
  | reindex =>
    rw [job_reindex]
    exact .awaiting trivial fun _ _ => .done trivial

theorem Course.careful {request : Request} {job : Job Result} (course : Course request job) :
    IsCareful job := by
  cases course with
  | job => exact careful_job request
  | overtaken origin item destination user apart =>
    exact careful_findingBack fun source target tidy => careful_taking tidy

end Request

/-- An attempt that brings tidy texts only, and whose value, if it succeeds, is as `ends` says. -/
abbrev Attempt.IsCareful (ends : α → Prop) (attempt : Attempt ε α) : Prop :=
  Careful (fun result => ∀ value, result = .ok value → ends value) attempt

namespace Attempt

variable {ends : α → Prop}

theorem careful_pure {value : α} (right : ends value) :
    IsCareful ends (pure value : Attempt ε α) :=
  .done fun _ same => Except.ok.inj same ▸ right

theorem careful_throw (fault : ε) : IsCareful ends (throw fault : Attempt ε α) :=
  .done nofun

theorem careful_bind {attempt : Attempt ε α} {wanted : β → Prop} {next : α → Attempt ε β}
    (first : IsCareful ends attempt)
    (second : ∀ value, ends value → IsCareful wanted (next value)) :
    IsCareful wanted (attempt >>= next : Attempt ε β) := by
  refine Careful.bind first fun result right => ?_
  cases result with
  | ok value => exact second value (right value rfl)
  | error fault => exact .done nofun

theorem careful_store {call : StoreCall} {fault : StorageFault → ε} (brings : call.Tidy) :
    IsCareful (fun result => call.ShowsTidy (.ok result)) (store call fault) := by
  refine .awaiting brings fun answer shown => .done fun value same => ?_
  cases answer with
  | error cause => cases same
  | ok result => exact Except.ok.inj same ▸ shown

theorem careful_saveDocuments {documents : List Document} {fault : SearchFault → ε}
    (tidy : ∀ document ∈ documents, document.Tidy) :
    IsCareful (fun _ => True) (saveDocuments documents fault) :=
  .awaiting tidy fun _ _ => .done fun _ _ => trivial

theorem careful_deleteDocument {objectId : String} {fault : SearchFault → ε} :
    IsCareful (fun _ => True) (deleteDocument objectId fault) :=
  .awaiting trivial fun _ _ => .done fun _ _ => trivial

end Attempt

namespace Handler

open Attempt

theorem careful_listOf (envelope : Envelope) : IsCareful (fun _ => True) (listOf envelope) := by
  unfold listOf
  split
  · exact careful_pure trivial
  · exact careful_throw _

theorem careful_recount (list : ListId) : IsCareful (fun _ => True) (Projection.recount list) := by
  refine careful_bind (careful_store trivial) fun count _ => ?_
  have brings : (StoreCall.setItemCount list count).Tidy := trivial
  exact careful_bind (careful_store brings) fun _ _ => careful_pure trivial

theorem careful_indexList (list : ListId) :
    IsCareful (fun _ => True) (Projection.indexList list) := by
  refine careful_bind (careful_store trivial) fun result shown => ?_
  cases result with
  | none => exact careful_throw _
  | some found =>
    refine careful_saveDocuments fun document member => ?_
    rw [List.mem_singleton.mp member]
    exact Document.tidy_ofList (shown found rfl)

theorem careful_loadDocuments (lists : List ListId) :
    IsCareful (fun documents => ∀ document ∈ documents, document.Tidy)
      (Projection.loadDocuments lists) := by
  induction lists with
  | nil => exact careful_pure (List.forall_mem_nil _)
  | cons list rest ih =>
    refine careful_bind (careful_store trivial) fun result shown =>
      careful_bind ih fun later tidy => careful_pure fun document member => ?_
    rcases List.mem_append.mp member with first | others
    · obtain ⟨found, there, rfl⟩ := Option.map_eq_some_iff.mp (Option.mem_toList.mp first)
      exact Document.tidy_ofList (shown found (congrArg Except.ok there))
    · exact tidy document others

/-- The induction follows the pages: each starts behind the last number of the one before. -/
theorem careful_indexPages (pageSize : Nat) (after : Option ListId) (indexed : Nat) :
    IsCareful (fun _ => True) (Projection.indexPages pageSize after indexed) := by
  induction after, indexed using Projection.indexPages.induct with
  | case1 after indexed ih =>
    rw [Projection.indexPages]
    refine careful_bind (careful_store trivial) fun ids _ => ?_
    cases final : ids.getLast? with
    | none => exact careful_pure trivial
    | some last =>
      refine careful_bind (careful_loadDocuments ids) fun documents tidy =>
        careful_bind (careful_saveDocuments tidy) fun _ _ => ?_
      split
      · exact careful_pure trivial
      · split
        next beyond => exact ih last documents beyond
        next => exact .stalled

/-- The handlers of the pipeline push tidy documents only, if the store shows them tidy lists. -/
theorem careful_handlers {batch : Nat} {handler : Handler Call.interface} {topics : List Topic}
    (member : (handler, topics) ∈ Pipeline.handlers batch) (envelope : Envelope) :
    Careful (fun _ => True) (handler.handle envelope) := by
  suffices careful : IsCareful (fun _ => True) (handler.handle envelope) from
    careful.mono fun _ _ => trivial
  simp only [Pipeline.handlers, List.mem_cons, Prod.mk.injEq, List.not_mem_nil, or_false] at member
  rcases member with ⟨rfl, _⟩ | ⟨rfl, _⟩ | ⟨rfl, _⟩ | ⟨rfl, _⟩
  · exact careful_bind (careful_listOf envelope) fun list _ =>
      careful_bind (careful_recount list) fun _ _ => careful_pure trivial
  · exact careful_bind (careful_listOf envelope) fun list _ => careful_indexList list
  · exact careful_bind (careful_listOf envelope) fun list _ => careful_deleteDocument
  · simp only [searchReindex]
    split
    · exact careful_throw _
    · exact careful_bind (careful_indexPages (max batch 1) none 0) fun _ _ => careful_pure trivial

end Handler

end ListKeeper
