import ListKeeper.Proofs.Json.Documents
import ListKeeper.Proofs.Pipeline.Mirrors
import ListKeeper.RemoteIndex

namespace ListKeeper

namespace RemoteIndex

/-- One thing to do with a document. -/
structure Operation where
  action : String
  document : Document

structure Operation.Draft where
  action : Option String
  document : Option Document

def Operation.shape : Json.Shape Operation.Draft Operation where
  fields := [
    ⟨"action", fun draft => draft.action.isSome, do
      let value ← Json.wantedString
      pure fun draft => { draft with action := some value }⟩,
    ⟨"body", fun draft => draft.document.isSome, do
      let value ← Json.wantedRecord Document.shape
      pure fun draft => { draft with document := some value }⟩]
  blank := ⟨none, none⟩
  finish draft := do
    return ⟨← draft.action, ← draft.document⟩

def batchShape : Json.Shape (Option (List Operation)) (List Operation) where
  fields := [
    ⟨"requests", fun draft => draft.isSome, do
      let value ← Json.wantedArray (Json.wantedRecord Operation.shape)
      pure fun _ => some value⟩]
  blank := none
  finish := id

/-- The documents that the text of a batch wants to be stored, if it is one. -/
def updates? (text : String) : Option (List Document) :=
  match Json.readDocument (Json.wantedRecord batchShape) text with
  | .ok operations => some <| operations.filterMap fun operation =>
    if operation.action = "updateObject" then some operation.document else none
  | .error _ => none

/-- The documents that a request wants to be stored. -/
def Request.updates? (request : Request) : Option (List Document) :=
  request.body.bind fun body => RemoteIndex.updates? (String.ofList body.print)

section

open Json

theorem reads_operation (document : Document) :
    Reads (wantedRecord Operation.shape)
      (.object [("action", .text "updateObject"), ("body", document.toJson)])
      ⟨"updateObject", document⟩ := by
  have fills : Fills Operation.shape.fields Operation.shape.blank
      [("action", print (.text "updateObject")), ("body", document.toJson.print)]
      (.ok ⟨some "updateObject", some document⟩) := by
    refine .field rfl rfl ((reads_text "updateObject").map _) ?_
    refine .field rfl rfl (document.reads_toJson.map _) ?_
    exact .none _
  exact reads_record fills rfl

theorem reads_batchBody (documents : List Document) :
    Reads (wantedRecord batchShape) (batchBody documents)
      (documents.map (Operation.mk "updateObject")) := by
  have operations := reads_array_map reads_operation documents
  have fills : Fills batchShape.fields batchShape.blank
      [("requests", print (.array (documents.map fun document =>
        .object [("action", .text "updateObject"), ("body", document.toJson)])))]
      (.ok (some (documents.map (Operation.mk "updateObject")))) := by
    refine .field rfl rfl (operations.map _) ?_
    exact .none _
  exact reads_record fills rfl

end

/-- The service reads the documents of a batch as they were. -/
theorem updates?_batchBody (method url application key : String) (documents : List Document) :
    Request.updates? ⟨method, url, application, key, some (batchBody documents)⟩ =
      some documents := by
  have read := Json.readDocument_print (reads_batchBody documents)
  simp only [Request.updates?, Option.bind_some, updates?, read, List.filterMap_map]
  exact congrArg some List.filterMap_some

/-- The characters that stand for themselves in a segment of the path of a web address. -/
def isPathSafe (c : Char) : Bool :=
  c.isAlphanum || c ∈ ['-', '.', '_', '~', '!', '$', '&', '\x27', '(', ')', '*', '+', ',', ';',
    '=', ':', '@']

/-- A text that is a segment of a path just as it is. The segments of one and of two points are not
names but directions. -/
def PathSafe (text : String) : Prop :=
  text.toList.all isPathSafe = true ∧ text ≠ "." ∧ text ≠ ".."

instance (text : String) : Decidable (PathSafe text) :=
  inferInstanceAs (Decidable (_ ∧ _ ∧ _))

/-- A text that can be sent in a header: it has no control characters but tabs. -/
def Sendable (text : String) : Prop :=
  text.toList.all (fun c => c == '\t' || 32 ≤ c.toNat && c.toNat != 127) = true

instance (text : String) : Decidable (Sendable text) :=
  inferInstanceAs (Decidable (_ = true))

/-- The documents of an index by their keys. -/
abbrev Shelf := String → Option Document

/-- Stores documents one after the other, each in place of the one that has its key. -/
def Shelf.store (shelf : Shelf) (documents : List Document) : Shelf :=
  documents.foldl (fun shelf document => Function.update shelf document.objectId (some document))
    shelf

def Shelf.remove (shelf : Shelf) (key : String) : Shelf :=
  Function.update shelf key none

def indexUrl (base index : String) : String :=
  base ++ "/1/indexes/" ++ index

/-- What can be relied on of a search service at an address by one who is known to it by this
application and this key. Nothing is said of the requests of others. -/
structure SearchService (base application key : String) (σ : Type) where
  answer : Program.Surroundings network σ
  sendable : Sendable application ∧ Sendable key
  /-- The indexes by their names. -/
  shelf : σ → String → Shelf
  /-- A batch is stored. -/
  stores : ∀ (state : σ) (request : Request) (index : String) (documents : List Document),
    PathSafe index → request.application = application → request.key = key →
      request.method = "POST" → request.url = indexUrl base index ++ "/batch" →
      request.updates? = some documents →
        ∃ response after, answer (.exchange request) state = (.answer (.ok response), after) ∧
          response.isSuccess ∧
          shelf after = Function.update (shelf state) index ((shelf state index).store documents)
  /-- A document is removed, and the answer says whether it was there. -/
  removes : ∀ (state : σ) (request : Request) (index id : String),
    PathSafe index → PathSafe id → request.application = application → request.key = key →
      request.method = "DELETE" → request.url = indexUrl base index ++ "/" ++ id →
        ∃ response after, answer (.exchange request) state = (.answer (.ok response), after) ∧
          (if (shelf state index id).isSome then response.isSuccess = true
            else response.status = 404) ∧
          shelf after = Function.update (shelf state) index ((shelf state index).remove id)

variable {base application key : String} {σ : Type}

inductive Errand where
  | save (documents : List Document)
  | delete (list : ListId)

def Errand.work (remote : RemoteIndex) : Errand → Work Unit
  | .save documents => remote.saveDocuments documents
  | .delete list => remote.deleteDocument (Document.keyOf list)

/-- What an errand does to an index of our own. -/
def Errand.change (index : Index) : Errand → Index
  | .save documents => index.save documents
  | .delete list => index.delete (Document.keyOf list)

/-- Runs errands one after the other: what each comes to, and what is left. -/
def carryOut (answer : Program.Surroundings network σ) (remote : RemoteIndex) :
    List Errand → σ → List (Program network (Except SearchFault Unit)) × σ
  | [], state => ([], state)
  | errand :: rest, state =>
    let progress := (errand.work remote).run.advance answer state
    let (results, after) := carryOut answer remote rest progress.state
    (progress.rest :: results, after)

theorem document?_save_eq (index : Index) (documents : List Document) :
    (index.save documents).document? = Shelf.store index.document? documents := by
  induction documents generalizing index with
  | nil => rfl
  | cons first rest ih =>
    have saved : (index.save [first]).document? =
        Function.update index.document? first.objectId (some first) := by
      funext key
      rw [Index.document?_save_singleton, Function.update_apply]
    exact (ih (index.save [first])).trans (congrArg (Shelf.store · rest) saved)

theorem document?_delete_eq (index : Index) (key : String) :
    (index.delete key).document? = Shelf.remove index.document? key := by
  funext other
  rw [Index.document?_delete, Shelf.remove, Function.update_apply]

/-- The key of a list's document is a segment of a path. -/
theorem pathSafe_keyOf (list : ListId) : PathSafe (Document.keyOf list) := by
  have number : ∀ c ∈ (Document.keyOf list).toList, c = '-' ∨ c.isDigit := by
    intro c member
    change c ∈ (Decimal.ofInt list.number.toInt).toList at member
    cases value : list.number.toInt with
    | ofNat k =>
      rw [value, Decimal.ofInt, String.toList_ofList] at member
      exact Or.inr (Decimal.isDigit_of_mem member)
    | negSucc k =>
      rw [value, Decimal.ofInt, String.toList_ofList] at member
      exact (List.mem_cons.mp member).imp_right Decimal.isDigit_of_mem
  refine ⟨List.all_eq_true.mpr fun c member => ?_, fun same => ?_, fun same => ?_⟩
  · rcases number c member with rfl | digit
    · rfl
    · simp only [isPathSafe, Char.isAlphanum, digit, Bool.or_true, Bool.true_or]
  · rcases number '.' (by rw [same]; decide) with minus | digit
    · cases minus
    · cases digit
  · rcases number '.' (by rw [same]; decide) with minus | digit
    · cases minus
    · cases digit

theorem withoutSlashes_append (bare : base.toList.getLast? ≠ some '/') (slashes : Nat) :
    withoutSlashes (base ++ String.ofList (List.replicate slashes '/')) = base := by
  have kept : base.toList.reverse.dropWhile (· == '/') = base.toList.reverse := by
    rw [List.getLast?_eq_head?_reverse] at bare
    cases start : base.toList.reverse with
    | nil => rfl
    | cons c rest =>
      rw [start, List.head?_cons] at bare
      exact List.dropWhile_cons_of_neg (by simpa using bare)
  rw [withoutSlashes, String.toList_append, String.toList_ofList, List.reverse_append,
    List.reverse_replicate, List.dropWhile_append_of_pos, kept, List.reverse_reverse,
    String.ofList_toList]
  intro c member
  rw [List.eq_of_mem_replicate member]
  rfl

section

variable {answer : Program.Surroundings network σ} {remote : RemoteIndex} {method url : String}
  {body : Option Json} {response : Response} {state after : σ}

/-- A request is answered, and the work goes on. -/
theorem advance_exchange (next : Response → Work Unit)
    (answered : answer (.exchange ⟨method, url, remote.application, remote.key, body⟩) state =
      (.answer (.ok response), after)) :
    let progress := (remote.exchange method url body >>= next).run.advance answer state
    progress.rest = ((next response).run.advance answer after).rest ∧
      progress.state = ((next response).run.advance answer after).state := by
  have unfolded : (remote.exchange method url body >>= next).run =
      .call (.exchange ⟨method, url, remote.application, remote.key, body⟩)
        (fun answer => Program.bind (.done (answer.mapError SearchFault.transport))
          (ExceptT.bindCont next)) .stalled := rfl
  rw [unfolded]
  simp only [Program.advance, answered]
  exact ⟨rfl, rfl⟩

end

namespace SearchService

variable (service : SearchService base application key σ)

/-- An index that the service has. -/
def remote (_ : SearchService base application key σ) (index : String) : RemoteIndex :=
  ⟨indexUrl base index, application, key⟩

theorem save {index : String} (safe : PathSafe index) (documents : List Document) (state : σ) :
    let progress :=
      ((service.remote index).saveDocuments documents).run.advance service.answer state
    progress.rest = .done (.ok ()) ∧
      service.shelf progress.state =
        Function.update (service.shelf state) index
          ((service.shelf state index).store documents) := by
  cases documents with
  | nil => exact ⟨rfl, (Function.update_eq_self _ _).symm⟩
  | cons first rest =>
    obtain ⟨response, after, answered, success, shelf⟩ := service.stores state
      ⟨"POST", (service.remote index).url ++ "/batch", (service.remote index).application,
        (service.remote index).key, some (batchBody (first :: rest))⟩ index (first :: rest) safe
      rfl rfl rfl rfl (updates?_batchBody ..)
    obtain ⟨rest, left⟩ := advance_exchange (fun response => do
      if !response.isSuccess then throw response.rejection) answered
    simp only [success] at rest left
    refine ⟨rest, ?_⟩
    rw [← shelf]
    exact congrArg service.shelf left

theorem delete {index : String} (safe : PathSafe index) {id : String} (plain : PathSafe id)
    (state : σ) :
    let progress := ((service.remote index).deleteDocument id).run.advance service.answer state
    progress.rest = .done (.ok ()) ∧
      service.shelf progress.state =
        Function.update (service.shelf state) index ((service.shelf state index).remove id) := by
  obtain ⟨response, after, answered, status, shelf⟩ := service.removes state
    ⟨"DELETE", (service.remote index).url ++ "/" ++ id, (service.remote index).application,
      (service.remote index).key, none⟩ index id safe plain rfl rfl rfl rfl
  obtain ⟨rest, left⟩ := advance_exchange (fun response => do
    if response.status ≠ 404 ∧ !response.isSuccess then throw response.rejection) answered
  have fine : ¬(response.status ≠ 404 ∧ (!response.isSuccess) = true) := by
    rintro ⟨other, failed⟩
    split at status
    · rw [status] at failed
      cases failed
    · exact other status
  simp only [if_neg fine] at rest left
  refine ⟨rest, ?_⟩
  rw [← shelf]
  exact congrArg service.shelf left

/-- An errand succeeds, and the service does what our own index does. -/
theorem errand {index : String} (safe : PathSafe index) (errand : Errand) {state : σ} {own : Index}
    (same : service.shelf state index = own.document?) :
    let progress := (errand.work (service.remote index)).run.advance service.answer state
    progress.rest = .done (.ok ()) ∧
      service.shelf progress.state =
        Function.update (service.shelf state) index (errand.change own).document? := by
  cases errand with
  | save documents =>
    rw [Errand.change, document?_save_eq, ← same]
    exact service.save safe documents state
  | delete list =>
    rw [Errand.change, document?_delete_eq, ← same]
    exact service.delete safe (pathSafe_keyOf list) state

theorem errands {index : String} (safe : PathSafe index) (errands : List Errand) {state : σ}
    {own : Index} (same : service.shelf state index = own.document?) :
    let (results, after) := carryOut service.answer (service.remote index) errands state
    results = List.replicate errands.length (.done (.ok ())) ∧
      service.shelf after = Function.update (service.shelf state) index
        (errands.foldl Errand.change own).document? := by
  induction errands generalizing state own with
  | nil =>
    refine ⟨rfl, ?_⟩
    rw [List.foldl_nil, ← same, Function.update_eq_self]
  | cons first rest ih =>
    obtain ⟨done, shelf⟩ := service.errand safe first same
    let next := ((first.work (service.remote index)).run.advance service.answer state).state
    have kept : service.shelf next index = (first.change own).document? := by
      rw [shelf, Function.update_self]
    obtain ⟨results, after⟩ := ih kept
    refine ⟨?_, ?_⟩
    · rw [List.length_cons, List.replicate_succ, ← results, ← done]
    · rw [List.foldl_cons, after, shelf, Function.update_idem]

end SearchService

/-- The remote index of some settings, in front of a service at their address that answers their
application and key: whatever documents are stored and removed, repeatedly or not, it succeeds every
time, and in the end the service has the documents that an index of our own has after the same, and
its other indexes are as they were. -/
theorem keeps_documents (settings : Settings)
    (service : SearchService base settings.application settings.key σ)
    (bare : base.toList.getLast? ≠ some '/') (slashes : Nat)
    (address : settings.baseUrl.getD ("https://" ++ settings.application ++ ".algolia.net") =
      base ++ String.ofList (List.replicate slashes '/'))
    (application : Text.isBlankText settings.application = false)
    (named : Text.isBlankText settings.index = false) (safe : PathSafe settings.index)
    (state : σ) (own : Index) (same : service.shelf state settings.index = own.document?)
    (errands : List Errand) :
    ∃ remote, connect settings = .ok remote ∧
      let (results, after) := carryOut service.answer remote errands state
      results = List.replicate errands.length (.done (.ok ())) ∧
        service.shelf after settings.index = (errands.foldl Errand.change own).document? ∧
        ∀ index ≠ settings.index, service.shelf after index = service.shelf state index := by
  refine ⟨service.remote settings.index, ?_, ?_⟩
  · rw [connect, application, named, if_neg Bool.false_ne_true, if_neg Bool.false_ne_true, address]
    simp only [withoutSlashes_append bare, SearchService.remote, indexUrl]
  · obtain ⟨results, after⟩ := service.errands safe errands same
    refine ⟨results, ?_, fun index other => ?_⟩
    · rw [after, Function.update_self]
    · rw [after, Function.update_of_ne other]

/-- The index that an address names, and what comes after it. -/
def route? (base url : String) : Option (String × String) :=
  let front := (base ++ "/1/indexes/").toList
  if front.isPrefixOf url.toList then
    let path := url.toList.drop front.length
    match path.dropWhile (· != '/') with
    | '/' :: rest => some (String.ofList (path.takeWhile (· != '/')), String.ofList rest)
    | _ => none
  else none

theorem route?_indexUrl {index : String} (safe : PathSafe index) (rest : String) :
    route? base (indexUrl base index ++ "/" ++ rest) = some (index, rest) := by
  have inside : ∀ c ∈ index.toList, (c != '/') = true := by
    intro c member
    rw [bne_iff_ne]
    rintro rfl
    cases List.all_eq_true.mp safe.1 '/' member
  have text : (indexUrl base index ++ "/" ++ rest).toList =
      (base ++ "/1/indexes/").toList ++ (index.toList ++ '/' :: rest.toList) := by
    simp [indexUrl]
  rw [route?, text, List.drop_left, if_pos (List.isPrefixOf_iff_prefix.mpr (List.prefix_append ..))]
  simp only [List.takeWhile_append_of_pos inside, List.dropWhile_append_of_pos inside]
  simp

def SearchService.inMemory (base : String) {application key : String}
    (sendable : Sendable application ∧ Sendable key) :
    SearchService base application key (String → Shelf) where
  sendable := sendable
  answer
    | .exchange request, indexes =>
      match route? base request.url with
      | none => (.answer (.ok ⟨404, ""⟩), indexes)
      | some (index, rest) =>
        if request.method = "POST" ∧ rest = "batch" then
          match request.updates? with
          | none => (.answer (.ok ⟨400, ""⟩), indexes)
          | some documents =>
            (.answer (.ok ⟨200, ""⟩),
              Function.update indexes index ((indexes index).store documents))
        else if request.method = "DELETE" then
          (.answer (.ok ⟨if (indexes index rest).isSome then 200 else 404, ""⟩),
            Function.update indexes index ((indexes index).remove rest))
        else (.answer (.ok ⟨404, ""⟩), indexes)
  shelf indexes := indexes
  stores indexes request index documents safe _ _ method url updates := by
    have joined : "/batch" = "/" ++ "batch" := rfl
    have found : route? base request.url = some (index, "batch") := by
      rw [url, joined, ← String.append_assoc]
      exact route?_indexUrl safe "batch"
    simp only [found, method, and_self, if_true, updates]
    exact ⟨_, _, rfl, rfl, rfl⟩
  removes indexes request index id safe plain _ _ method url := by
    have found : route? base request.url = some (index, id) := by
      rw [url]
      exact route?_indexUrl safe id
    have other : ¬(request.method = "POST" ∧ id = "batch") := by
      rw [method]
      exact fun both => absurd both.1 (by decide)
    simp only [found, if_neg other, if_pos method]
    refine ⟨_, _, rfl, ?_, rfl⟩
    split
    · rfl
    · rfl

/-- Documents that are stored one over the other, one of them twice by one batch, an empty batch,
and documents that are removed, one of which is not there. -/
def rewritten : List Errand :=
  [.save [⟨"1", ⟨7⟩, "groceries", []⟩, ⟨"-2", ⟨7⟩, "errands", []⟩,
      ⟨"1", ⟨7⟩, "\"food\"\n", [⟨"milk", "2 l"⟩]⟩],
    .save [], .delete ⟨3⟩, .delete ⟨-2⟩]

theorem keeps_documents_rewritten :
    let settings : Settings := ⟨"app", "key", "lists", some "http://search.local:9200//", 5⟩
    "http://search.local:9200".toList.getLast? ≠ some '/' ∧
    settings.baseUrl.getD ("https://" ++ settings.application ++ ".algolia.net") =
      "http://search.local:9200" ++ String.ofList (List.replicate 2 '/') ∧
    Text.isBlankText settings.application = false ∧ Text.isBlankText settings.index = false ∧
    PathSafe settings.index ∧
    ∃ sendable : Sendable settings.application ∧ Sendable settings.key,
    ∃ remote, connect settings = .ok remote ∧
      let (results, after) :=
        carryOut (SearchService.inMemory "http://search.local:9200" sendable).answer
          remote rewritten fun _ _ => none
      results = List.replicate 4 (.done (.ok ())) ∧
        after "lists" "1" = some ⟨"1", ⟨7⟩, "\"food\"\n", [⟨"milk", "2 l"⟩]⟩ ∧
        after "lists" "-2" = none := by
  intro settings
  have bare : "http://search.local:9200".toList.getLast? ≠ some '/' := by decide
  have address : settings.baseUrl.getD ("https://" ++ settings.application ++ ".algolia.net") =
      "http://search.local:9200" ++ String.ofList (List.replicate 2 '/') := by decide
  have application : Text.isBlankText settings.application = false := by decide
  have named : Text.isBlankText settings.index = false := by decide
  have safe : PathSafe settings.index := by decide
  have sendable : Sendable settings.application ∧ Sendable settings.key := by decide
  obtain ⟨remote, connected, results, shelf, -⟩ :=
    keeps_documents settings (SearchService.inMemory "http://search.local:9200" sendable) bare 2
      address application named safe (fun _ _ => none) Index.empty rfl rewritten
  refine ⟨bare, address, application, named, safe, sendable, remote, connected, results, ?_, ?_⟩
  · exact (congrFun shelf "1").trans (by decide)
  · exact (congrFun shelf "-2").trans (by decide)

end RemoteIndex

end ListKeeper
