import ListKeeper.Operation
import Mathlib

namespace ListKeeper

inductive Request where
  | createList (user : UserId) (name : String)
  | getList (list : ListId) (user : UserId)
  | renameList (list : ListId) (user : UserId) (name : String)
  | deleteList (list : ListId) (user : UserId)
  | addItem (list : ListId) (user : UserId) (title description : String)
  | deleteItem (list : ListId) (item : ItemId) (user : UserId)
  | moveItem (origin : ListId) (item : ItemId) (destination : ListId) (user : UserId)
  | reindex
  deriving DecidableEq

namespace Request

open Operation (stopped noList)

/-- What a request that succeeds is answered with. -/
inductive Answer where
  | list (list : ItemList)
  | item (item : Item)
  | done
  | reached (subscribers : Nat)
  deriving DecidableEq

abbrev Result : Type :=
  Except RequestFault Answer

def job : Request → Job Result
  | createList user name => (do return .list (← Operation.createList user name) : Operation Answer)
  | getList list user => (do return .list (← Operation.getList list user) : Operation Answer)
  | renameList list user name =>
    (do return .list (← Operation.renameList list user name) : Operation Answer)
  | deleteList list user => (do Operation.deleteList list user; return .done : Operation Answer)
  | addItem list user title description =>
    (do return .item (← Operation.addItem list user title description) : Operation Answer)
  | deleteItem list item user =>
    (do Operation.deleteItem list item user; return .done : Operation Answer)
  | moveItem origin item destination user =>
    (do return .item (← Operation.moveItem origin item destination user) : Operation Answer)
  | reindex => (do return .ok (.reached (← Operation.requestReindex)) : Job Result)

def calling (call : Call) (next : call.Answer → Job Result) : Job Result :=
  .call call next .stalled

def failing (fault : RequestFault) : Job Result :=
  .done (.error fault)

/-- Makes a call on the store, whose faults end the request. -/
def storing (call : StoreCall) (fault : StorageFault → RequestFault)
    (next : call.Result → Job Result) : Job Result :=
  calling (.store call) fun
    | .error cause => failing (fault cause)
    | .ok result => next result

def telling (topic : Topic) (list : ListId) (next : Job Result) : Job Result :=
  calling (.publish ⟨topic, .list list⟩) fun _ => next

/-- Looks for a list of the user, without which the request fails. -/
def finding (list : ListId) (user : UserId) (next : ItemList → Job Result) : Job Result :=
  storing (.findList list user) (stopped ("loading list " ++ list.text)) fun
    | some found => next found
    | none => failing (noList list)

/-- Trims a text, which must not be blank. -/
def trimming (field value : String) (next : String → Job Result) : Job Result :=
  if (Text.trim value).isEmpty then failing (.badRequest (field ++ " must not be blank"))
  else next (Text.trim value)

/-- Puts an item back that could not be stored in the list it was to go to. -/
def restoring (item : Item) (failed : RequestFault) : Job Result :=
  calling (.store (.putItem item)) fun
    | .ok () => calling (.tell (.moveRolledBack item.id item.list)) fun _ => failing failed
    | .error fault =>
      calling (.tell (.rollbackFailed item.id item.list fault)) fun _ => failing failed

/-- Stores an item that has been taken out of its list in another one. -/
def placing (origin : ListId) (stored moved : Item) (failed : StorageFault → RequestFault) :
    Job Result :=
  calling (.store (.putItem moved)) fun
    | .ok () =>
      telling .listUpdated origin (telling .listUpdated moved.list (.done (.ok (.item moved))))
    | .error fault => restoring stored (failed fault)

/-- Takes an item out of its list, to be stored in another one. -/
def taking (origin : ListId) (item : ItemId) (destination : ListId)
    (source target : Option ItemList) : Job Result :=
  match target with
  | none => failing (.badRequest ("destination list " ++ destination.text ++ " does not exist"))
  | some target =>
    match source with
    | none => failing (.badRequest ("origin list " ++ origin.text ++ " does not exist"))
    | some source =>
      let missing : RequestFault :=
        .badRequest ("item " ++ item.text ++ " does not exist in list " ++ origin.text)
      match source.item? item with
      | none => failing missing
      | some stored =>
        storing (.deleteItem origin item)
          (stopped ("removing item " ++ item.text ++ " from list " ++ origin.text)) fun removed =>
            if removed = true then
              placing origin stored
                { stored with list := destination, position := target.nextPosition }
                (stopped ("storing item " ++ item.text ++ " in list " ++ destination.text))
            else failing missing

/-- Looks for two lists of the user at the same time. -/
def findingBoth (first second : ListId) (user : UserId) (fault : StorageFault → RequestFault)
    (next : Option ItemList → Option ItemList → Job Result) : Job Result :=
  .call (.store (.findList first user))
    (fun
      | .error cause => failing (fault cause)
      | .ok foundFirst => storing (.findList second user) fault fun foundSecond =>
        next foundFirst foundSecond)
    (storing (.findList second user) fault fun _ => .stalled)

theorem required_bind {α : Type} (field value : String) (rest : String → Operation α)
    (answer : α → Operation Answer) :
    ((Operation.required field value >>= rest) >>= answer : Operation Answer) =
      trimming field value fun text => (rest text >>= answer : Operation Answer) := by
  unfold Operation.required trimming
  split <;> rfl

theorem job_createList (user : UserId) (name : String) :
    (createList user name).job = trimming "name" name fun name =>
      storing (.createList user name) (stopped "creating list") fun list =>
        telling .listCreated list.id (.done (.ok (.list list))) := by
  refine (required_bind ..).trans (congrArg (trimming "name" name) (funext fun name => ?_))
  refine congrArg (Program.call _ · _) (funext fun answer => ?_)
  rcases answer with cause | list <;> rfl

theorem job_getList (list : ListId) (user : UserId) :
    (getList list user).job = finding list user fun found => .done (.ok (.list found)) := by
  refine congrArg (Program.call _ · _) (funext fun answer => ?_)
  rcases answer with cause | (_ | found) <;> rfl

theorem job_renameList (list : ListId) (user : UserId) (name : String) :
    (renameList list user name).job = trimming "name" name fun name =>
      finding list user fun _ =>
        storing (.renameList list name) (fun
            | .listNotFound _ => noList list
            | fault => stopped ("renaming list " ++ list.text) fault) fun _ =>
          telling .listUpdated list
            (finding list user fun found => .done (.ok (.list found))) := by
  refine (required_bind ..).trans (congrArg (trimming "name" name) (funext fun name => ?_))
  refine congrArg (Program.call _ · _) (funext fun answer => ?_)
  rcases answer with cause | (_ | found)
  · rfl
  · rfl
  · refine congrArg (Program.call _ · _) (funext fun answer => ?_)
    rcases answer with cause | _
    · rfl
    · refine congrArg (Program.call _ · _) (funext fun answer => ?_)
      refine congrArg (Program.call _ · _) (funext fun answer => ?_)
      rcases answer with cause | (_ | found) <;> rfl

theorem job_deleteList (list : ListId) (user : UserId) :
    (deleteList list user).job =
      storing (.deleteList list user) (stopped ("deleting list " ++ list.text)) fun deleted =>
        if deleted = true then telling .listDeleted list (.done (.ok .done))
        else failing (noList list) := by
  refine congrArg (Program.call _ · _) (funext fun answer => ?_)
  rcases answer with cause | (_ | _) <;> rfl

theorem job_addItem (list : ListId) (user : UserId) (title description : String) :
    (addItem list user title description).job = trimming "title" title fun title =>
      finding list user fun found =>
        storing (.insertItem list title (Text.trim description) found.nextPosition)
          (stopped ("adding item to list " ++ list.text)) fun item =>
            telling .listUpdated list (.done (.ok (.item item))) := by
  refine (required_bind ..).trans (congrArg (trimming "title" title) (funext fun title => ?_))
  refine congrArg (Program.call _ · _) (funext fun answer => ?_)
  rcases answer with cause | (_ | found)
  · rfl
  · rfl
  · refine congrArg (Program.call _ · _) (funext fun answer => ?_)
    rcases answer with cause | item <;> rfl

theorem job_deleteItem (list : ListId) (item : ItemId) (user : UserId) :
    (deleteItem list item user).job = finding list user fun _ =>
      storing (.deleteItem list item) (stopped ("deleting item " ++ item.text)) fun deleted =>
        if deleted = true then telling .listUpdated list (.done (.ok .done))
        else failing (.notFound ("item " ++ item.text ++ " in list " ++ list.text)) := by
  refine congrArg (Program.call _ · _) (funext fun answer => ?_)
  rcases answer with cause | (_ | found)
  · rfl
  · rfl
  · refine congrArg (Program.call _ · _) (funext fun answer => ?_)
    rcases answer with cause | (_ | _) <;> rfl

theorem job_moveItem (origin : ListId) (item : ItemId) (destination : ListId) (user : UserId) :
    (moveItem origin item destination user).job =
      if origin = destination then
        failing (.badRequest ("item " ++ item.text ++ " is already in list " ++ origin.text))
      else
        findingBoth origin destination user
          (stopped ("loading lists " ++ origin.text ++ " and " ++ destination.text))
          (taking origin item destination) := by
  by_cases same : origin = destination
  · rw [if_pos same]
    simp only [job, Operation.moveItem, if_pos same]
    rfl
  · rw [if_neg same]
    simp only [job, Operation.moveItem, if_neg same]
    refine congrArg₂ (Program.call _ · ·) (funext fun answer => ?_) ?_
    · rcases answer with cause | foundOrigin
      · rfl
      · refine congrArg (Program.call _ · _) (funext fun answer => ?_)
        rcases answer with cause | foundDestination
        · rfl
        · rcases foundDestination with _ | target
          · rfl
          rcases foundOrigin with _ | source
          · rfl
          simp only [taking]
          cases here : source.item? item with
          | none =>
            simp only [here, Program.bind, ExceptT.bindCont]
            rfl
          | some stored =>
            simp only [here, Program.bind, ExceptT.bindCont]
            refine congrArg (Program.call _ · _) (funext fun answer => ?_)
            rcases answer with cause | (_ | _)
            · rfl
            · rfl
            · refine congrArg (Program.call _ · _) (funext fun answer => ?_)
              rcases answer with cause | _
              · refine congrArg (Program.call _ · _) (funext fun answer => ?_)
                rcases answer with cause | _ <;> rfl
              · rfl
    · refine congrArg (Program.call _ · _) (funext fun answer => ?_)
      rcases answer with cause | foundDestination <;> rfl

theorem job_reindex : reindex.job =
    calling (.publish ⟨.indexAllListsRequested, .empty⟩) fun reached =>
      .done (.ok (.reached reached)) :=
  rfl

end Request

end ListKeeper
