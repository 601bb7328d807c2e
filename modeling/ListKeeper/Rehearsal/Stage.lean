import ListKeeper.Crew
import ListKeeper.Rehearsal.Hook

namespace ListKeeper

/-- The name of a kind of call on the store. -/
def StoreCall.kind : StoreCall → String
  | .createList .. => "create_list"
  | .findList .. => "find_list"
  | .loadList _ => "load_list"
  | .listIds .. => "list_ids"
  | .renameList .. => "rename_list"
  | .deleteList .. => "delete_list"
  | .insertItem .. => "insert_item"
  | .putItem _ => "put_item"
  | .deleteItem .. => "delete_item"
  | .countItems _ => "count_items"
  | .setItemCount .. => "set_item_count"

/-- The list that a call names. A page of numbers names its cursor. -/
def StoreCall.list? : StoreCall → Option ListId
  | .createList .. => none
  | .findList list _ => some list
  | .loadList list => some list
  | .listIds after _ => after
  | .renameList list _ => some list
  | .deleteList list _ => some list
  | .insertItem list .. => some list
  | .putItem item => some item.list
  | .deleteItem list _ => some list
  | .countItems list => some list
  | .setItemCount list _ => some list

def StoreCall.writes : StoreCall → Bool
  | .findList .. => false
  | .loadList _ => false
  | .listIds .. => false
  | .countItems _ => false
  | _ => true

/-- A writing call among the calls of a job: the name of its kind, and its list. -/
def Call.write? : Call → Option (String × Option ListId)
  | .store call => if call.writes then some (call.kind, call.list?) else none
  | _ => none

namespace Rehearsal

/-- A backend with hooks on its store and on its index, at an instant that does not pass. -/
structure Stage where
  backend : Backend
  now : Timestamp
  /-- Whether the store answers at all. -/
  storeIsOpen : Bool
  storeHooks : List (Hook StorageFault)
  indexHooks : List (Hook SearchFault)
  /-- How many documents each call has brought that stored documents. -/
  batches : List Nat

instance : HasBus Stage where
  bus stage := stage.backend.bus
  setBus stage bus := { stage with backend := { stage.backend with bus } }

namespace Stage

/-- What another party does to the store directly. -/
def interlude (stage : Stage) (aside : Aside) : Stage :=
  if stage.storeIsOpen then
    let store := match aside with
      | .call call => (stage.backend.store.perform stage.now call).2
      | .seed lists => lists.foldl Store.seed stage.backend.store
    { stage with backend := { stage.backend with store } }
  else stage

def perform (stage : Stage) (call : Call) : Program.Reply call.Answer × Stage :=
  let (answer, backend) := stage.backend.perform stage.now call
  (.answer answer, { stage with backend })

def performStore (stage : Stage) (call : StoreCall) :
    Program.Reply call.Answer × Stage :=
  if stage.storeIsOpen then stage.perform (.store call)
  else (.answer (.error (.database .poolClosed)), stage)

/-- Ends a call as a hook's fate says, if the call is not to be made. -/
def suffer {ε α : Type} (stage : Stage) (fate : Fate ε)
    (proceed : Program.Reply (Except ε α) × Stage) : Program.Reply (Except ε α) × Stage :=
  match fate with
  | .proceeds => proceed
  | .fails fault => (.answer (.error fault), stage)
  | .panics message => (.panics (.text message), stage)
  | .hangs => (.never, stage)

/-- Consults the hooks on the store about a call and lets happen what the one that fires says. -/
def consultStore (stage : Stage) (call : StoreCall) : Fate StorageFault × Stage :=
  let (found, storeHooks) := Hook.consult call.kind (call.list?.map ListId.text) stage.storeHooks
  let stage := { stage with storeHooks }
  match found with
  | none => (.proceeds, stage)
  | some hook => (hook.fate, hook.before.foldl interlude stage)

def consultIndex (stage : Stage) (kind : String) (key : Option String) :
    Fate SearchFault × Stage :=
  let (found, indexHooks) := Hook.consult kind key stage.indexHooks
  ((found.map Hook.fate).getD .proceeds, { stage with indexHooks })

/-- Answers a call of a job. Only calls on the store and on the index are interfered with. -/
def treat : Program.Surroundings Call.interface Stage := fun request stage =>
  match request with
  | .store call =>
    let (fate, stage) := stage.consultStore call
    stage.suffer fate (stage.performStore call)
  | .saveDocuments documents =>
    let (fate, stage) :=
      stage.consultIndex "save_objects" (documents.head?.map Document.objectId)
    stage.suffer fate
      (perform { stage with batches := stage.batches ++ [documents.length] }
        (.saveDocuments documents))
  | .deleteDocument objectId =>
    let (fate, stage) := stage.consultIndex "delete_object" (some objectId)
    stage.suffer fate (stage.perform (.deleteDocument objectId))
  | .publish envelope => stage.perform (.publish envelope)
  | .busStatus => stage.perform .busStatus
  | .clock => stage.perform .clock
  | .tell notice => stage.perform (.tell notice)

end Stage

end Rehearsal

end ListKeeper
