import ListKeeper.Proofs.Pipeline.Work
import ListKeeper.Proofs.Session.Run

/-!
A move that makes its calls one by one, while everything else goes on between them: other requests,
workers and drain tasks. A call on the store can be refused. Main statements: a move that has begun
is on one of its legs, or it will not tell of a rollback any more.
-/
namespace ListKeeper

namespace Call

def reads (list : ListId) : Call → Bool
  | .store (.findList found _) => found = list
  | _ => false

def takesOut (list : ListId) (item : ItemId) : Call → Bool
  | .store (.deleteItem origin taken) => origin = list ∧ taken = item
  | _ => false

def putIn? (list : ListId) : Call → Option Item
  | .store (.putItem item) => if item.list = list then some item else none
  | _ => none

def tellsRollback : Call → Bool
  | .tell (.moveRolledBack ..) => true
  | _ => false

end Call

/-- A move, and the pipeline in which it goes on. -/
structure Moving where
  crew : Crew Call.interface Backend
  rest : Job Request.Result
  /-- The calls that the move has made. -/
  made : List Call
  /-- The calls that it had made when the items of its origin were last counted. -/
  counted : List Call
  /-- The calls that it had made when the document of its origin was last stored. -/
  indexed : List Call
  /-- The origin as it was stored then. -/
  shown : Option ItemList

namespace Moving

inductive Step where
  /-- Something else happens. -/
  | around (step : Pipeline.Step)
  /-- The next call of the move is answered. -/
  | call (now : Timestamp)
  /-- The next call of the move, if it is one on the store, fails and has no effect. -/
  | refuse (fault : StorageFault)

/-- The worker that handles an event in a step, and the event. -/
def handling? (crew : Crew Call.interface Backend) : Pipeline.Step → Option (Nat × Envelope)
  | .process worker _ => (Pipeline.next? crew worker).map fun event => (worker, event)
  | _ => none

/-- The worker counts the items of a list. -/
def counts (list : ListId) : Nat × Envelope → Bool
  | (0, event) => event.payload.list? = some list
  | _ => false

/-- The worker stores the document of a list, alone or with all others. -/
def indexes (list : ListId) : Nat × Envelope → Bool
  | (1, event) => event.payload.list? = some list
  | (3, event) => event.payload = .empty
  | _ => false

def act (callback : Callback) (origin : ListId) (moving : Moving) : Step → Moving
  | .around step => { moving with
      crew := Pipeline.act callback moving.crew step
      counted :=
        if (handling? moving.crew step).any (counts origin) then moving.made else moving.counted
      indexed :=
        if (handling? moving.crew step).any (indexes origin) then moving.made else moving.indexed
      shown :=
        if (handling? moving.crew step).any (indexes origin) then
          moving.crew.state.store.lists.get? origin
        else moving.shown }
  | .call now =>
    match moving.rest with
    | .call call next _ =>
      let (answer, state) := moving.crew.state.perform now call
      { moving with
        crew := { moving.crew with state }
        rest := next answer
        made := moving.made ++ [call] }
    | _ => moving
  | .refuse fault =>
    match moving.rest with
    | .call (.store call) next _ => { moving with
        rest := next (.error fault)
        made := moving.made ++ [.store call] }
    | _ => moving

def run (callback : Callback) (origin : ListId) (moving : Moving) (steps : List Step) : Moving :=
  steps.foldl (act callback origin) moving

/-- The item that these calls have put back into the origin. -/
def putBack? (origin : ListId) (calls : List Call) : Option Item :=
  calls.findSome? (Call.putIn? origin)

/-- These calls have taken the item out of its list and have not put it back. -/
def isOut (origin : ListId) (item : ItemId) (calls : List Call) : Bool :=
  calls.any (Call.takesOut origin item) && (putBack? origin calls).isNone

/-- These calls have read the origin and have not put an item back there. -/
def isOpen (origin : ListId) (calls : List Call) : Bool :=
  calls.any (Call.reads origin) && (putBack? origin calls).isNone

/-- The document of the origin was last stored after the move had read it and before it put the item
back, and the origin did not have the item then as it has been put back. -/
def Missed (origin : ListId) (item : ItemId) (moving : Moving) : Prop :=
  isOpen origin moving.indexed = true ∧
    moving.shown.bind (fun list => list.item? item) ≠ putBack? origin moving.made

instance (origin : ListId) (item : ItemId) (moving : Moving) :
    Decidable (Missed origin item moving) :=
  inferInstanceAs (Decidable (_ ∧ _))

open Request

/-- From here on a request does not tell of a rollback, whatever its calls are answered. -/
inductive Silent : Job Result → Prop where
  | done (result : Result) : Silent (.done result)
  | call (call : Call) (next : call.Answer → Job Result) (meanwhile : Job Result)
      (other : call.tellsRollback = false) (later : ∀ answer, Silent (next answer)) :
    Silent (.call call next meanwhile)

theorem silent_failing (fault : RequestFault) : Silent (failing fault) :=
  .done _

theorem silent_storing {call : StoreCall} {fault : StorageFault → RequestFault}
    {next : call.Result → Job Result} (later : ∀ result, Silent (next result)) :
    Silent (storing call fault next) := by
  refine .call _ _ _ rfl fun answer => ?_
  cases answer with
  | error cause => exact silent_failing _
  | ok result => exact later result

theorem silent_telling {topic : Topic} {list : ListId} {next : Job Result} (later : Silent next) :
    Silent (telling topic list next) :=
  .call _ _ _ rfl fun _ => later

/-- Without the destination, the origin or the item there is nothing to move. -/
theorem silent_taking {origin : ListId} {item : ItemId} {destination : ListId}
    {source target : Option ItemList}
    (nothing : target = none ∨ source.bind (fun found => found.item? item) = none) :
    Silent (taking origin item destination source target) := by
  unfold taking
  cases target with
  | none => exact silent_failing _
  | some target =>
    cases source with
    | none => exact silent_failing _
    | some source =>
      have absent : source.item? item = none := nothing.resolve_left (Option.some_ne_none _)
      simp only [absent]
      exact silent_failing _

/-- How far a move has come that may still be rolled back. -/
inductive Leg where
  /-- It has not read its origin. -/
  | before
  /-- It has read the origin, which had this item. -/
  | seen (stored : Item)
  /-- It has taken this item out. -/
  | out (stored : Item)
  /-- It has put this item back. -/
  | back (stored : Item)

/-- What a move has still to do on each leg. -/
inductive Leg.Stands (origin : ListId) (item : ItemId) : Leg → Job Result → Prop where
  | seeking (destination : ListId) (user : UserId) (fault : StorageFault → RequestFault)
      (apart : origin ≠ destination) :
    Stands origin item .before
      (findingBoth origin destination user fault (taking origin item destination))
  | seekingBack (destination : ListId) (user : UserId) (fault : StorageFault → RequestFault)
      (apart : origin ≠ destination) :
    Stands origin item .before
      (findingBack origin destination user fault (taking origin item destination))
  | seekingFirst (destination : ListId) (user : UserId) (fault : StorageFault → RequestFault)
      (apart : origin ≠ destination) (target : Option ItemList) :
    Stands origin item .before (storing (.findList origin user) fault fun source =>
      taking origin item destination source target)
  | seekingSecond (destination : ListId) (user : UserId) (fault : StorageFault → RequestFault)
      (apart : origin ≠ destination) (source : ItemList) (stored : Item)
      (here : source.item? item = some stored) :
    Stands origin item (.seen stored) (storing (.findList destination user) fault fun target =>
      taking origin item destination (some source) target)
  | lifting (stored moved : Item) (fault failed : StorageFault → RequestFault)
      (missing : RequestFault) (elsewhere : moved.list ≠ origin) :
    Stands origin item (.seen stored) (storing (.deleteItem origin item) fault fun removed =>
      if removed = true then placing origin stored moved failed else failing missing)
  | placing (stored moved : Item) (failed : StorageFault → RequestFault)
      (elsewhere : moved.list ≠ origin) :
    Stands origin item (.out stored) (placing origin stored moved failed)
  | restoring (stored : Item) (failed : RequestFault) :
    Stands origin item (.out stored) (restoring stored failed)
  | restored (stored : Item) (failed : RequestFault) :
    Stands origin item (.back stored)
      (calling (.tell (.moveRolledBack stored.id stored.list)) fun _ => failing failed)
  | told (stored : Item) (failed : RequestFault) :
    Stands origin item (.back stored) (failing failed)

/-- Every course of a move begins on the first leg, or fails at once. -/
theorem stands_course {origin destination : ListId} {item : ItemId} {user : UserId}
    {job : Job Result} (course : Course (.moveItem origin item destination user) job) :
    Silent job ∨ Leg.Stands origin item .before job := by
  cases course with
  | job =>
    rw [job_moveItem]
    split
    next same => exact Or.inl (silent_failing _)
    next apart => exact Or.inr (.seeking destination user _ apart)
  | overtaken _ _ _ _ apart => exact Or.inr (.seekingBack destination user _ apart)

/-- With both lists and the item, the next thing is to take the item out. -/
theorem stands_taking {origin destination : ListId} {item : ItemId} {source target : ItemList}
    {stored : Item} (apart : origin ≠ destination) (here : source.item? item = some stored) :
    Leg.Stands origin item (.seen stored)
      (taking origin item destination (some source) (some target)) := by
  simp only [taking, here]
  exact .lifting stored _ _ _ _ (Ne.symm apart)

end Moving

end ListKeeper
