import ListKeeper.Proofs.Session.Run
import ListKeeper.Proofs.Store.Items

namespace ListKeeper

/-- What has been, up to one moment of a session, and, of lists, since one request has begun. -/
structure Past where
  /-- What stood where at the beginning of the session. -/
  initial : ListId → Item → Prop
  items : Card → Prop
  lists : ListId → Prop
  deleted : ListId → Prop

/-- The later past has everything that the earlier one has. -/
structure Past.Upto (past later : Past) : Prop where
  initial : ∀ list item, past.initial list item → later.initial list item
  items : ∀ card, past.items card → later.items card
  lists : ∀ list, past.lists list → later.lists list
  deleted : ∀ list, past.deleted list → later.deleted list

/-- An item in a list names it, or has stood there from the beginning. -/
def Past.Belongs (past : Past) (list : ListId) (item : Item) : Prop :=
  item.list = list ∨ past.initial list item

/-- The items of a list that has been found are items that have been stored there. -/
def Past.Shown (past : Past) (list : ListId) (found : ItemList) : Prop :=
  ∀ item ∈ found.items, past.items item.card ∧ past.Belongs list item

/-- An item that has been added has been stored. -/
def Past.Truthful (past : Past) : Request → Request.Result → Prop
  | .addItem .., .ok (.item item) => past.items item.card
  | _, _ => True

theorem Past.truthful_error (past : Past) (request : Request) (fault : RequestFault) :
    past.Truthful request (.error fault) := by
  cases request <;> trivial

theorem Past.Upto.belongs {past later : Past} (upto : past.Upto later) {list : ListId}
    {item : Item} (belongs : past.Belongs list item) : later.Belongs list item :=
  belongs.imp_right (upto.initial list item)

theorem Past.Upto.shown {past later : Past} (upto : past.Upto later) {list : ListId}
    {found : ItemList} (shown : past.Shown list found) : later.Shown list found := by
  intro item member
  obtain ⟨known, belongs⟩ := shown item member
  exact ⟨upto.items _ known, upto.belongs belongs⟩

theorem Past.Upto.truthful {past later : Past} (upto : past.Upto later) {request : Request}
    {result : Request.Result} (truthful : past.Truthful request result) :
    later.Truthful request result := by
  unfold Past.Truthful at truthful ⊢
  split
  · exact upto.items _ truthful
  · trivial

/-- A call that takes no item from its place and puts none. -/
def StoreCall.Harmless : StoreCall → Prop
  | .insertItem .. | .putItem _ | .deleteItem .. => False
  | _ => True

def Call.Harmless : Call → Prop
  | .store call => call.Harmless
  | _ => True

namespace Request

/-- The item that a request has in its hands, and is about to store. -/
def carried : Job Result → Option Item
  | .call (.store (.putItem item)) _ _ => some item
  | _ => none

/-- From here on a request only makes calls that are harmless, whatever they are answered. -/
inductive Calm (past : Past) (request : Request) : Job Result → Prop where
  | done (result : Result) (truthful : past.Truthful request result) :
    Calm past request (.done result)
  | call (call : Call) (next : call.Answer → Job Result) (meanwhile : Job Result)
      (harmless : call.Harmless) (later : ∀ answer, Calm past request (next answer)) :
    Calm past request (.call call next meanwhile)

def adding (list : ListId) (title description : String) (position : Int32) : Job Result :=
  storing (.insertItem list title description position)
    (Operation.stopped ("adding item to list " ++ list.text)) fun item =>
      telling .listUpdated list (.done (.ok (.item item)))

def removing (list : ListId) (item : ItemId) : Job Result :=
  storing (.deleteItem list item) (Operation.stopped ("deleting item " ++ item.text)) fun deleted =>
    if deleted = true then telling .listUpdated list (.done (.ok .done))
    else failing (.notFound ("item " ++ item.text ++ " in list " ++ list.text))

/-- Takes an item out of its list, to be stored elsewhere. -/
def lifting (origin : ListId) (stored moved : Item) (fault failed : StorageFault → RequestFault)
    (missing : RequestFault) : Job Result :=
  storing (.deleteItem origin stored.id) fault fun removed =>
    if removed = true then placing origin stored moved failed else failing missing

/-- The places where a request can stand. -/
inductive Standing (past : Past) : Request → Job Result → Prop where
  | calm {request : Request} {job : Job Result} (calm : Calm past request job) :
    Standing past request job
  | looking (list : ListId) (user : UserId) (title description text about : String) :
    Standing past (.addItem list user title description)
      (finding list user fun found => adding list text about found.nextPosition)
  | adding (list : ListId) (user : UserId) (title description text about : String)
      (position : Int32) :
    Standing past (.addItem list user title description) (adding list text about position)
  | checking (list : ListId) (item : ItemId) (user : UserId) :
    Standing past (.deleteItem list item user) (finding list user fun _ => removing list item)
  | removing (list : ListId) (item : ItemId) (user : UserId) :
    Standing past (.deleteItem list item user) (removing list item)
  | seeking (origin : ListId) (item : ItemId) (destination : ListId) (user : UserId)
      (fault : StorageFault → RequestFault) :
    Standing past (.moveItem origin item destination user)
      (findingBoth origin destination user fault (taking origin item destination))
  | seekingBack (origin : ListId) (item : ItemId) (destination : ListId) (user : UserId)
      (fault : StorageFault → RequestFault) :
    Standing past (.moveItem origin item destination user)
      (findingBack origin destination user fault (taking origin item destination))
  | seekingSecond (origin : ListId) (item : ItemId) (destination : ListId) (user : UserId)
      (fault : StorageFault → RequestFault) (source : Option ItemList)
      (shown : ∀ found ∈ source, past.Shown origin found) :
    Standing past (.moveItem origin item destination user)
      (storing (.findList destination user) fault fun target =>
        taking origin item destination source target)
  | seekingFirst (origin : ListId) (item : ItemId) (destination : ListId) (user : UserId)
      (fault : StorageFault → RequestFault) (target : Option ItemList)
      (there : target.isSome → past.lists destination) :
    Standing past (.moveItem origin item destination user)
      (storing (.findList origin user) fault fun source =>
        taking origin item destination source target)
  | lifting (origin destination : ListId) (user : UserId) (stored moved : Item)
      (fault failed : StorageFault → RequestFault) (missing : RequestFault)
      (known : past.items stored.card) (home : past.Belongs origin stored)
      (there : past.lists destination) (same : moved.card = stored.card)
      (elsewhere : moved.list = destination) :
    Standing past (.moveItem origin stored.id destination user)
      (lifting origin stored moved fault failed missing)
  /-- The item is out of its list. -/
  | placing (origin destination : ListId) (user : UserId) (stored moved : Item)
      (failed : StorageFault → RequestFault) (known : past.items stored.card)
      (home : past.Belongs origin stored) (left : past.lists origin) (there : past.lists destination)
      (same : moved.card = stored.card) (elsewhere : moved.list = destination) :
    Standing past (.moveItem origin stored.id destination user)
      (placing origin stored moved failed)
  /-- The list that the item was to go to is gone. -/
  | restoring (origin destination : ListId) (user : UserId) (stored : Item)
      (failed : RequestFault) (known : past.items stored.card) (home : past.Belongs origin stored)
      (left : past.lists origin) (gone : past.deleted destination) :
    Standing past (.moveItem origin stored.id destination user) (restoring stored failed)

section

variable {past later : Past} {request : Request} {job : Job Result}

theorem Calm.mono (upto : past.Upto later) (calm : Calm past request job) :
    Calm later request job := by
  induction calm with
  | done result truthful => exact .done result (upto.truthful truthful)
  | call call next meanwhile harmless _ ih => exact .call call next meanwhile harmless ih

theorem Standing.mono (upto : past.Upto later) (standing : Standing past request job) :
    Standing later request job := by
  cases standing with
  | calm calm => exact .calm (calm.mono upto)
  | looking => exact .looking ..
  | adding => exact .adding ..
  | checking => exact .checking ..
  | removing => exact .removing ..
  | seeking => exact .seeking ..
  | seekingBack => exact .seekingBack ..
  | seekingSecond origin item destination user fault source shown =>
    exact .seekingSecond origin item destination user fault source fun found here =>
      upto.shown (shown found here)
  | seekingFirst origin item destination user fault target there =>
    exact .seekingFirst origin item destination user fault target fun found =>
      upto.lists _ (there found)
  | lifting origin destination user stored moved fault failed missing known home there =>
    exact .lifting origin destination user stored moved fault failed missing (upto.items _ known)
      (upto.belongs home) (upto.lists _ there) ‹_› ‹_›
  | placing origin destination user stored moved failed known home left there =>
    exact .placing origin destination user stored moved failed (upto.items _ known)
      (upto.belongs home) (upto.lists _ left) (upto.lists _ there) ‹_› ‹_›
  | restoring origin destination user stored failed known home left gone =>
    exact .restoring origin destination user stored failed (upto.items _ known)
      (upto.belongs home) (upto.lists _ left) (upto.deleted _ gone)

theorem calm_failing (fault : RequestFault) : Calm past request (failing fault) :=
  .done _ (past.truthful_error request fault)

theorem calm_storing {call : StoreCall} {fault : StorageFault → RequestFault}
    {next : call.Result → Job Result} (harmless : (Call.store call).Harmless)
    (later : ∀ value, Calm past request (next value)) :
    Calm past request (storing call fault next) := by
  refine .call _ _ _ harmless fun answer => ?_
  rcases answer with cause | value
  · exact calm_failing _
  · exact later value

theorem calm_telling {topic : Topic} {list : ListId} {next : Job Result}
    (later : Calm past request next) : Calm past request (telling topic list next) :=
  .call _ _ _ trivial fun _ => later

theorem calm_finding {list : ListId} {user : UserId} {next : ItemList → Job Result}
    (later : ∀ found, Calm past request (next found)) :
    Calm past request (finding list user next) := by
  refine calm_storing trivial fun found => ?_
  rcases found with _ | found
  · exact calm_failing _
  · exact later found

theorem calm_trimming {field value : String} {next : String → Job Result}
    (later : ∀ text, Calm past request (next text)) :
    Calm past request (trimming field value next) := by
  unfold trimming
  split
  · exact calm_failing _
  · exact later _

theorem standing_job (past : Past) (request : Request) : Standing past request request.job := by
  cases request with
  | createList user name =>
    rw [job_createList]
    refine .calm (calm_trimming fun text => calm_storing trivial fun list => ?_)
    exact calm_telling (.done _ trivial)
  | getList list user =>
    rw [job_getList]
    exact .calm (calm_finding fun found => .done _ trivial)
  | renameList list user name =>
    rw [job_renameList]
    refine .calm (calm_trimming fun text => calm_finding fun found => ?_)
    refine calm_storing trivial fun _ => calm_telling ?_
    exact calm_finding fun found => .done _ trivial
  | deleteList list user =>
    rw [job_deleteList]
    refine .calm (calm_storing trivial fun deleted => ?_)
    split
    · exact calm_telling (.done _ trivial)
    · exact calm_failing _
  | addItem list user title description =>
    rw [job_addItem]
    unfold trimming
    split
    · exact .calm (calm_failing _)
    · exact .looking list user title description _ _
  | deleteItem list item user =>
    rw [job_deleteItem]
    exact .checking list item user
  | moveItem origin item destination user =>
    rw [job_moveItem]
    split
    · exact .calm (calm_failing _)
    · exact .seeking origin item destination user _
  | reindex =>
    rw [job_reindex]
    exact .calm (.call _ _ _ trivial fun _ => .done _ trivial)

theorem Course.standing (course : Course request job) (past : Past) :
    Standing past request job := by
  cases course with
  | job => exact standing_job past request
  | overtaken origin item destination user => exact .seekingBack origin item destination user _

end

end Request

end ListKeeper
