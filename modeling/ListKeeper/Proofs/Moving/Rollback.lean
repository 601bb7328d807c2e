import ListKeeper.Proofs.Moving.Projections
import ListKeeper.Proofs.Pipeline.Convergence
import ListKeeper.Proofs.Store.Ledger

namespace ListKeeper.Moving

open Request

variable {batch : Nat} {origin : ListId} {item : ItemId} {leg : Leg} {moving : Moving}
  {callback : Callback}

/-- What the calls made so far have done on each leg. -/
def Leg.Fits (origin : ListId) (item : ItemId) (made : List Call) : Leg → Prop
  | .before => putBack? origin made = none ∧ made.any Call.tellsRollback = false
  | .seen _ => made.any (Call.reads origin) = true ∧
      putBack? origin made = none ∧ made.any Call.tellsRollback = false
  | .out _ => made.any (Call.reads origin) = true ∧ made.any (Call.takesOut origin item) = true ∧
      putBack? origin made = none ∧ made.any Call.tellsRollback = false
  | .back stored => putBack? origin made = some stored

/-- The document of the origin was not stored while it was open, or from a list that had the item as
the move has read it. -/
def Leg.Knows (origin : ListId) (item : ItemId) (indexed : List Call) (shown : Option ItemList) :
    Leg → Prop
  | .before => True
  | .seen stored | .out stored | .back stored =>
    isOpen origin indexed = true → shown.bind (fun list => list.item? item) = some stored

theorem putBack?_append (made : List Call) (call : Call) :
    putBack? origin (made ++ [call]) = (putBack? origin made).or (Call.putIn? origin call) := by
  rw [putBack?, List.findSome?_append, List.findSome?_cons, List.findSome?_nil]
  cases Call.putIn? origin call <;> rfl

/-- Calls that have not taken the item out leave the list as it is. -/
theorem Leg.Fits.whole {made : List Call} (fits : leg.Fits origin item made)
    (inside : isOut origin item made = false) (list : ItemList) : leg.whole list = list := by
  cases leg with
  | out stored =>
    obtain ⟨_, taken, unrestored, _⟩ := fits
    rw [isOut, taken, unrestored] at inside
    cases inside
  | before | seen | back => rfl

/-- A document that is stored now has the item as it has been read. -/
theorem Leg.Fits.keeps {made : List Call} (fits : leg.Fits origin item made) {store : Store}
    (carries : leg.Carries origin item store)
    (knows : leg.Knows origin item made (store.lists.get? origin)) {list : ItemList}
    (there : store.lists.get? origin = some list) : leg.whole list = list ∧ leg.Keeps list := by
  rw [there] at knows
  cases leg with
  | before | back => exact ⟨rfl, trivial⟩
  | seen stored =>
    obtain ⟨read, unrestored, _⟩ := fits
    refine ⟨rfl, ?_⟩
    rw [Leg.Keeps, carries.2]
    exact knows (by rw [isOpen, read, unrestored]; rfl)
  | out stored =>
    -- No list has the item now, so no document can show it.
    obtain ⟨read, _, unrestored, _⟩ := fits
    have here : list.item? item = some stored := knows (by rw [isOpen, read, unrestored]; rfl)
    have has : store.Has origin stored := ⟨list, there, (ItemList.item?_some here).1⟩
    exact absurd ⟨stored, has, rfl⟩ (carries.2.2.1 origin)

/-- A move that may still be rolled back, or has been, and the projections of its origin. -/
structure Rolling (batch : Nat) (origin : ListId) (item : ItemId) (leg : Leg) (moving : Moving) :
    Prop where
  follows : Follows batch origin item leg (isOut origin item moving.counted = false)
    (leg.Knows origin item moving.indexed moving.shown) moving.crew
  stands : leg.Stands origin item moving.rest
  fits : leg.Fits origin item moving.made

/-- The move may still be rolled back, or has been, or it never will be. -/
def Tends (batch : Nat) (origin : ListId) (item : ItemId) (moving : Moving) : Prop :=
  Silent moving.rest ∧ moving.made.any Call.tellsRollback = false ∨
    ∃ leg, Rolling batch origin item leg moving

theorem Rolling.around (rolling : Rolling batch origin item leg moving) (step : Pipeline.Step)
    (unwrapped : Store.Unwrapped moving.crew.state.store
      (Pipeline.act callback moving.crew step).state.store)
    (undropped : (Pipeline.act callback moving.crew step).state.bus.dropped =
      moving.crew.state.bus.dropped) :
    Rolling batch origin item leg (act callback origin moving (.around step)) := by
  refine ⟨?_, rolling.stands, rolling.fits⟩
  cases step with
  | request request now => exact rolling.follows.request request now unwrapped undropped
  | process index now =>
    refine rolling.follows.process index now (fun inside => ?_) fun knows => ?_
    · simp only [act] at inside
      split at inside
      next counted =>
        rw [if_pos counted]
        exact rolling.fits.whole inside
      next uncounted =>
        rw [if_neg uncounted]
        exact inside
    · simp only [act] at knows
      split at knows
      next indexed =>
        rw [if_pos indexed]
        exact fun list => rolling.fits.keeps rolling.follows.carries knows
      next unindexed =>
        rw [if_neg unindexed]
        exact knows
  | drain task => exact rolling.follows.drain task

theorem act_calling (crew : Crew Call.interface Backend) (call : Call)
    (next : call.Answer → Job Result) (made counted indexed : List Call)
    (shown : Option ItemList) (now : Timestamp) :
    act callback origin ⟨crew, calling call next, made, counted, indexed, shown⟩ (.call now) =
      ⟨⟨crew.workers, (crew.state.perform now call).2⟩, next (crew.state.perform now call).1,
        made ++ [call], counted, indexed, shown⟩ :=
  rfl

section

variable {crew : Crew Call.interface Backend} {made counted indexed : List Call}
  {shown : Option ItemList} {stored : Item} {now : Timestamp}

/-- With the origin read, the move goes on if the item is there, or is not to be rolled back. -/
theorem tends_read {user : UserId} (next : Option ItemList → Job Result)
    (follows : Follows batch origin item .before (isOut origin item counted = false) True crew)
    (fits : Leg.Fits origin item made .before)
    (stands : ∀ source stored, source.item? item = some stored →
      Silent (next (some source)) ∨ (Leg.seen stored).Stands origin item (next (some source)))
    (silent : ∀ source, source.bind (fun found => found.item? item) = none → Silent (next source)) :
    Tends batch origin item ⟨crew, next (crew.state.store.findList origin user),
      made ++ [.store (.findList origin user)], counted, indexed, shown⟩ := by
  obtain ⟨unrestored, untold⟩ := fits
  have still : (made ++ [Call.store (.findList origin user)]).any Call.tellsRollback = false := by
    simp [untold, Call.tellsRollback]
  cases found : crew.state.store.findList origin user with
  | none => exact Or.inl ⟨silent none rfl, still⟩
  | some source =>
    cases here : source.item? item with
    | none => exact Or.inl ⟨silent (some source) here, still⟩
    | some stored =>
      refine (stands source stored here).imp (fun quiet => ⟨quiet, still⟩) fun stands => ?_
      refine ⟨.seen stored, (follows.read found here).weaken fun _ => trivial, stands, ?_⟩
      simp [Leg.Fits, putBack?_append, unrestored, untold, Call.reads, Call.putIn?,
        Call.tellsRollback]

theorem tends_lifting {moved : Item} {fault failed : StorageFault → RequestFault}
    {missing : RequestFault} (elsewhere : moved.list ≠ origin)
    (follows : Follows batch origin item (.seen stored) (isOut origin item counted = false)
      ((Leg.seen stored).Knows origin item indexed shown) crew)
    (fits : (Leg.seen stored).Fits origin item made) :
    Tends batch origin item (act callback origin ⟨crew, storing (.deleteItem origin item) fault
      fun removed => if removed = true then placing origin stored moved failed else failing missing,
      made, counted, indexed, shown⟩ (.call now)) := by
  obtain ⟨read, unrestored, untold⟩ := fits
  rw [storing, act_calling]
  simp only [Backend.perform]
  by_cases held : crew.state.store.Holds origin item
  · rw [Store.perform_deleteItem_of_holds held]
    refine Or.inr ⟨.out stored, follows.take held, .placing stored moved failed elsewhere, ?_⟩
    simp [Leg.Fits, putBack?_append, read, unrestored, untold, Call.takesOut, Call.putIn?,
      Call.tellsRollback]
  · rw [Store.perform_deleteItem_of_not_holds held]
    refine Or.inl ⟨silent_failing missing, ?_⟩
    simp [untold, Call.tellsRollback]

/-- Where the item cannot be stored, the next thing is to put it back. -/
theorem tends_placing {moved : Item} {failed : StorageFault → RequestFault}
    (elsewhere : moved.list ≠ origin)
    (follows : Follows batch origin item (.out stored) (isOut origin item counted = false)
      ((Leg.out stored).Knows origin item indexed shown) crew)
    (fits : (Leg.out stored).Fits origin item made) :
    Tends batch origin item (act callback origin ⟨crew, placing origin stored moved failed, made,
      counted, indexed, shown⟩ (.call now)) := by
  obtain ⟨read, taken, unrestored, untold⟩ := fits
  rw [placing, act_calling]
  simp only [Backend.perform]
  cases home : crew.state.store.lists.get? moved.list with
  | none =>
    rw [Store.perform_putItem_of_none _ _ home]
    refine Or.inr ⟨.out stored, follows, .restoring stored _, ?_⟩
    simp [Leg.Fits, putBack?_append, read, taken, unrestored, untold, Call.putIn?, elsewhere,
      Call.tellsRollback]
  | some target =>
    simp only [Store.perform, home]
    refine Or.inl ⟨silent_telling (silent_telling (.done _)), ?_⟩
    simp [untold, Call.tellsRollback]

theorem tends_restoring {failed : RequestFault}
    (follows : Follows batch origin item (.out stored) (isOut origin item counted = false)
      ((Leg.out stored).Knows origin item indexed shown) crew)
    (fits : (Leg.out stored).Fits origin item made) :
    Tends batch origin item (act callback origin ⟨crew, restoring stored failed, made, counted,
      indexed, shown⟩ (.call now)) := by
  obtain ⟨_, _, unrestored, untold⟩ := fits
  have home : stored.list = origin := follows.carries.1
  rw [restoring, act_calling]
  simp only [Backend.perform]
  cases there : crew.state.store.lists.get? origin with
  | none =>
    rw [Store.perform_putItem_of_none _ _ (home ▸ there)]
    refine Or.inl ⟨.call _ _ _ rfl fun _ => silent_failing failed, ?_⟩
    simp [untold, Call.tellsRollback]
  | some found =>
    have present := Option.isSome_iff_exists.mpr ⟨found, there⟩
    have answer : (crew.state.store.perform now (.putItem stored)).1 = .ok () := by
      simp only [Store.perform, home, there]
    rw [answer]
    refine Or.inr ⟨.back stored, follows.putBack present, .restored stored failed, ?_⟩
    simp [Leg.Fits, putBack?_append, unrestored, Call.putIn?, home]

end

/-- One call of the move takes it from one leg to the next. -/
theorem Rolling.call (rolling : Rolling batch origin item leg moving) (now : Timestamp) :
    Tends batch origin item (act callback origin moving (.call now)) := by
  obtain ⟨crew, rest, made, counted, indexed, shown⟩ := moving
  obtain ⟨follows, stands, fits⟩ := rolling
  cases stands with
  | seeking destination user fault apart =>
    refine tends_read (fun source => storing (.findList destination user) fault fun target =>
      taking origin item destination source target) follows fits (fun source stored here => ?_)
      fun source absent => ?_
    · exact Or.inr (.seekingSecond destination user fault apart source stored here)
    · exact silent_storing fun target => silent_taking (Or.inr absent)
  | seekingBack destination user fault apart =>
    obtain ⟨unrestored, untold⟩ := fits
    refine Or.inr ⟨.before, follows, .seekingFirst destination user fault apart _, ?_⟩
    simp [Leg.Fits, putBack?_append, act, unrestored, untold, Call.putIn?, Call.tellsRollback]
  | seekingFirst destination user fault apart target =>
    refine tends_read (fun source => taking origin item destination source target) follows fits
      (fun source stored here => ?_) fun source absent => silent_taking (Or.inr absent)
    cases target with
    | none => exact Or.inl (silent_taking (Or.inl rfl))
    | some target => exact Or.inr (stands_taking apart here)
  | seekingSecond destination user fault apart source stored here =>
    obtain ⟨read, unrestored, untold⟩ := fits
    change Tends batch origin item ⟨crew,
      taking origin item destination (some source) (crew.state.store.findList destination user),
      made ++ [.store (.findList destination user)], counted, indexed, shown⟩
    cases crew.state.store.findList destination user with
    | none =>
      have quiet : Silent (taking origin item destination (some source) none) :=
        silent_taking (Or.inl rfl)
      refine Or.inl ⟨quiet, ?_⟩
      simp [untold, Call.tellsRollback]
    | some target =>
      refine Or.inr ⟨.seen stored, follows, stands_taking apart here, ?_⟩
      simp [Leg.Fits, putBack?_append, read, unrestored, untold, Call.putIn?, Call.tellsRollback]
  | lifting stored moved fault failed missing elsewhere =>
    exact tends_lifting elsewhere follows fits
  | placing stored moved failed elsewhere => exact tends_placing elsewhere follows fits
  | restoring stored failed => exact tends_restoring follows fits
  | restored stored failed =>
    have told : Follows batch origin item (.back stored) (isOut origin item counted = false)
        ((Leg.back stored).Knows origin item indexed shown) ⟨crew.workers, (crew.state.perform now
          (.tell (.moveRolledBack stored.id stored.list))).2⟩ :=
      ⟨follows.workers, follows.wired, follows.formed, trivial, follows.spared, follows.counted,
        follows.indexed⟩
    refine Or.inr ⟨.back stored, told, .told stored failed, ?_⟩
    have still : putBack? origin made = some stored := fits
    simp [Leg.Fits, act, putBack?_append, still]
  | told stored failed => exact Or.inr ⟨.back stored, follows, .told stored failed, fits⟩

/-- A call that is refused ends the move, or has it put the item back. -/
theorem Rolling.refuse (rolling : Rolling batch origin item leg moving) (fault : StorageFault) :
    Tends batch origin item (act callback origin moving (.refuse fault)) := by
  obtain ⟨crew, rest, made, counted, indexed, shown⟩ := moving
  obtain ⟨follows, stands, fits⟩ := rolling
  cases stands with
  | seeking | seekingBack | seekingFirst =>
    obtain ⟨_, untold⟩ := fits
    refine Or.inl ⟨silent_failing _, ?_⟩
    simp [act, untold, Call.tellsRollback]
  | seekingSecond | lifting =>
    obtain ⟨_, _, untold⟩ := fits
    refine Or.inl ⟨silent_failing _, ?_⟩
    simp [act, untold, Call.tellsRollback]
  | placing stored moved failed elsewhere =>
    obtain ⟨read, taken, unrestored, untold⟩ := fits
    refine Or.inr ⟨.out stored, follows, .restoring stored _, ?_⟩
    simp [Leg.Fits, putBack?_append, act, read, taken, unrestored, untold, Call.putIn?, elsewhere,
      Call.tellsRollback]
  | restoring stored failed =>
    obtain ⟨_, _, _, untold⟩ := fits
    refine Or.inl ⟨.call _ _ _ rfl fun _ => silent_failing failed, ?_⟩
    simp [act, untold, Call.tellsRollback]
  | restored stored failed => exact Or.inr ⟨.back stored, follows, .restored stored failed, fits⟩
  | told stored failed => exact Or.inr ⟨.back stored, follows, .told stored failed, fits⟩

/-- A move that will not be rolled back goes on so. -/
theorem silent_act (silent : Silent moving.rest)
    (untold : moving.made.any Call.tellsRollback = false) (step : Step) :
    Silent (act callback origin moving step).rest ∧
      (act callback origin moving step).made.any Call.tellsRollback = false := by
  obtain ⟨crew, rest, made, counted, indexed, shown⟩ := moving
  cases step with
  | around step => exact ⟨silent, untold⟩
  | call now =>
    cases silent with
    | done result => exact ⟨.done result, untold⟩
    | call call next meanwhile other later =>
      refine ⟨later _, ?_⟩
      simpa [act, other] using untold
  | refuse fault =>
    cases silent with
    | done result => exact ⟨.done result, untold⟩
    | call call next meanwhile other later =>
      cases call with
      | store call =>
        refine ⟨later _, ?_⟩
        simpa [act, Call.tellsRollback] using untold
      | saveDocuments | deleteDocument | publish | busStatus | clock | tell =>
        exact ⟨.call _ next meanwhile other later, untold⟩

theorem Tends.act (tends : Tends batch origin item moving) (step : Step)
    (unwrapped : Store.Unwrapped moving.crew.state.store
      (act callback origin moving step).crew.state.store)
    (undropped : (act callback origin moving step).crew.state.bus.dropped =
      moving.crew.state.bus.dropped) :
    Tends batch origin item (act callback origin moving step) := by
  rcases tends with ⟨silent, untold⟩ | ⟨leg, rolling⟩
  · exact Or.inl (silent_act silent untold step)
  · cases step with
    | around step => exact Or.inr ⟨leg, rolling.around step unwrapped undropped⟩
    | call now => exact rolling.call now
    | refuse fault => exact rolling.refuse fault

/-- The count and the document of a list are those of what is stored. -/
def Current (store : Store) (index : Index) (list : ListId) : Prop :=
  ∀ found, store.lists.get? list = some found → found.itemCount = found.countOfItems ∧
    index.document? (Document.keyOf list) = some (Document.ofList found)

instance (store : Store) (index : Index) (list : ListId) : Decidable (Current store index list) :=
  inferInstanceAs (Decidable (∀ found ∈ store.lists.get? list, _))

/-- A move that is about to begin. -/
def beginning (crew : Crew Call.interface Backend) (job : Job Result) : Moving :=
  ⟨crew, job, [], [], [], none⟩

theorem tends_beginning {settings : Pipeline.Settings} {maxInflight : Nat}
    {workers : List (Worker Call.interface)} {bus : Bus}
    (started : Pipeline.start? settings (Bus.new maxInflight) = some (workers, bus))
    {store : Store} {index : Index} (formed : store.WellFormed)
    (named : ∀ x, store.Has origin x → x.id = item → x.list = origin)
    (current : Current store index origin) {destination : ListId} {user : UserId} {job : Job Result}
    (course : Course (.moveItem origin item destination user) job) :
    Tends settings.reindexBatch origin item (beginning ⟨workers, ⟨store, index, bus, []⟩⟩ job) := by
  obtain ⟨rfl, wired, quiet⟩ := Pipeline.start_wired started
  refine (stands_course course).imp (fun silent => ⟨silent, rfl⟩) fun stands => ?_
  refine ⟨.before, ⟨rfl, wired, formed, named, fun names => ?_, fun _ list there => ?_,
    fun _ list there => ?_⟩, stands, rfl, rfl⟩
  · exact absurd names (not_names_of_nil (quiet 2) origin)
  · exact Or.inl (current list there).1
  · exact Or.inl ⟨trivial, (current list there).2⟩

/-- A move that is rolled back leaves no wrong count and no wrong document, whatever goes on between
its calls: when no event is left, the origin, if it is still stored, has the count of its items, up
to the largest number, unless they were last counted when the item was out of it, and the index has
its document, unless that was last stored between the move's reading of the origin and its putting
the item back, from an origin without the item as the move has read it. The item has to name the
origin, or the move does not put it back there. -/
theorem current_of_rolledBack (settings : Pipeline.Settings) (maxInflight : Nat)
    (callback : Callback) (workers : List (Worker Call.interface)) (bus : Bus)
    (started : Pipeline.start? settings (Bus.new maxInflight) = some (workers, bus))
    (store : Store) (index : Index) (formed : store.WellFormed) (origin destination : ListId)
    (item : ItemId) (user : UserId)
    (named : ∀ x, store.Has origin x → x.id = item → x.list = origin)
    (current : Current store index origin) (job : Job Result)
    (course : Course (.moveItem origin item destination user) job) (steps : List Step)
    (undropped : ∀ t ≤ steps.length,
      (run callback origin (beginning ⟨workers, ⟨store, index, bus, []⟩⟩ job)
        (steps.take t)).crew.state.bus.dropped = 0)
    (unwrapped : ∀ t < steps.length, Store.Unwrapped
      (run callback origin (beginning ⟨workers, ⟨store, index, bus, []⟩⟩ job)
        (steps.take t)).crew.state.store
      (run callback origin (beginning ⟨workers, ⟨store, index, bus, []⟩⟩ job)
        (steps.take (t + 1))).crew.state.store)
    (rolledBack : (run callback origin (beginning ⟨workers, ⟨store, index, bus, []⟩⟩ job)
      steps).made.any Call.tellsRollback = true)
    (quiet : (run callback origin (beginning ⟨workers, ⟨store, index, bus, []⟩⟩ job)
      steps).crew.state.bus.pending = 0) :
    let final := run callback origin (beginning ⟨workers, ⟨store, index, bus, []⟩⟩ job) steps
    ∀ list, final.crew.state.store.lists.get? origin = some list →
      (isOut origin item final.counted = false →
        list.itemCount.toInt = min (list.items.length : Int) 2147483647) ∧
      (¬Missed origin item final →
        final.crew.state.index.document? (Document.keyOf origin) =
          some (Document.ofList list)) := by
  intro final list there
  have tends : Tends settings.reindexBatch origin item final := by
    refine foldl_keeps (act callback origin) (Tends settings.reindexBatch origin item)
      (fun before after => Store.Unwrapped before.crew.state.store after.crew.state.store ∧
        after.crew.state.bus.dropped = before.crew.state.bus.dropped)
      (fun moving step tends fine => tends.act step fine.1 fine.2)
      (tends_beginning started formed named current course) steps
      fun t within => ⟨unwrapped t within, ?_⟩
    exact (undropped (t + 1) within).trans (undropped t (Nat.le_of_lt within)).symm
  have silent {id k} : ¬Names (final.crew.state.bus.inTransit id) k :=
    not_names_of_nil (Bus.inTransit_of_pending quiet id) k
  have told : ¬final.made.any Call.tellsRollback = false := by
    rw [rolledBack]
    decide
  obtain ⟨leg, follows, _, fits⟩ := tends.resolve_left fun never => told never.2
  obtain ⟨stored, rfl⟩ : ∃ stored, leg = .back stored := by
    cases leg with
    | before => exact absurd fits.2 told
    | seen => exact absurd fits.2.2 told
    | out => exact absurd fits.2.2.2 told
    | back stored => exact ⟨stored, rfl⟩
  refine ⟨fun inside => ?_, fun shown => ?_⟩
  · have counts := (follows.counted inside list there).resolve_right silent
    rw [← Pipeline.toInt_countOfItems]
    exact congrArg Int32.toInt counts
  · have knows : (Leg.back stored).Knows origin item final.indexed final.shown := by
      intro opened
      by_contra other
      exact shown ⟨opened, fits ▸ other⟩
    exact ((follows.indexed knows list there).resolve_right silent).2

theorem isSome_start : (Pipeline.start? ⟨2, 1⟩ (Bus.new 1)).isSome = true := by
  decide +kernel

/-- A pipeline whose channels have room for the events of a move. -/
def roomy : List (Worker Call.interface) × Bus :=
  (Pipeline.start? ⟨2, 1⟩ (Bus.new 1)).get isSome_start

/-- The documents of all lists of a store. -/
def shelved (store : Store) : Index :=
  Index.empty.save (Handler.documentsOf store store.lists.keys)

/-- The first item of the first list is moved to the second. -/
def course (store : Store) (steps : List Step) : Moving :=
  run Callback.logging ⟨1⟩
    (beginning ⟨roomy.1, ⟨store, shelved store, roomy.2, []⟩⟩ (moveItem ⟨1⟩ ⟨1⟩ ⟨2⟩ ⟨1⟩).job) steps

/-- A request is made and its events are handled at once. -/
def handled (request : Request) : List Step :=
  .around (.request request default) ::
    [0, 0, 1, 1].map fun worker => .around (.process worker default)

/-- The item cannot be stored in the second list, and goes back into the first. -/
def refusal : List Step :=
  [.refuse (.unavailable "shut"), .call default, .call default]

def twoListsDeeds (first second : List Item) : List Store.Deed :=
  [.seed ⟨⟨1⟩, ⟨1⟩, "groceries", Int32.ofNat first.length, first, default, default⟩,
    .seed ⟨⟨2⟩, ⟨1⟩, "errands", Int32.ofNat second.length, second, default, default⟩]

/-- Two lists of one user with these items, each counted. -/
def twoListsOf (first second : List Item) : Store :=
  Store.empty.fill (twoListsDeeds first second)

def simple (id : Int32) (list : Int32) (title : String) (position : Int32) : Item :=
  ⟨⟨id⟩, ⟨list⟩, title, "", position, default, default⟩

/-- The first list has two items. -/
def pair : Store :=
  twoListsOf [simple 1 1 "milk" 0, simple 2 1 "bread" 1] []

theorem formed_pair : pair.WellFormed :=
  Store.wellFormed_fill _ (by decide +kernel) (Store.unique_of_nodup_numbers (by decide))

theorem named_pair (x : Item) (has : pair.Has ⟨1⟩ x) (_ : x.id = ⟨1⟩) : x.list = ⟨1⟩ := by
  obtain ⟨found, there, member⟩ := has
  obtain rfl := Option.some.inj there
  rcases List.mem_pair.mp member with rfl | rfl <;> rfl

/-- Between the move's reading of the lists and its taking the item out, the list is renamed, and
its document is stored. -/
def renamed : List Step :=
  [.call default, .call default] ++ handled (.renameList ⟨1⟩ ⟨1⟩ "food") ++ [.call default] ++
    refusal

theorem current_of_rolledBack_renamed :
    (course pair renamed).made.any Call.tellsRollback = true ∧
      isOpen ⟨1⟩ (course pair renamed).indexed = true ∧
        ∃ list, (course pair renamed).crew.state.store.lists.get? ⟨1⟩ = some list ∧
          list.itemCount.toInt = min (list.items.length : Int) 2147483647 ∧
            (course pair renamed).crew.state.index.document? (Document.keyOf ⟨1⟩) =
              some (Document.ofList list) := by
  have told : (course pair renamed).made.any Call.tellsRollback = true := by decide +kernel
  have stored : ((course pair renamed).crew.state.store.lists.get? ⟨1⟩).isSome := by
    decide +kernel
  obtain ⟨list, there⟩ := Option.isSome_iff_exists.mp stored
  obtain ⟨counts, shows⟩ := current_of_rolledBack ⟨2, 1⟩ 1 Callback.logging _ _
    (Option.some_get isSome_start).symm pair (shelved pair) formed_pair ⟨1⟩ ⟨2⟩ ⟨1⟩ ⟨1⟩ named_pair
    (by decide +kernel) _ (.job _) renamed (by decide +kernel) (by decide +kernel) told
    (by decide +kernel) list there
  exact ⟨told, by decide +kernel, list, there, counts (by decide +kernel),
    shows (by decide +kernel)⟩

/-- A move of this course is rolled back, no event is dropped and all are handled, but the count or
the document of the origin is not that of what is stored. -/
structure Drifts (store : Store) (steps : List Step) : Prop where
  current : ∀ entry ∈ store.lists.entries, Current store (shelved store) entry.1
  undropped : ∀ t ≤ steps.length, (course store (steps.take t)).crew.state.bus.dropped = 0
  rolledBack : (course store steps).made.any Call.tellsRollback = true
  quiet : (course store steps).crew.state.bus.pending = 0
  drifted : ¬Current (course store steps).crew.state.store (course store steps).crew.state.index ⟨1⟩

/-- While the item is out, the list is renamed, and its items are counted. -/
def countedOut : List Step :=
  [.call default, .call default, .call default,
    .around (.request (.renameList ⟨1⟩ ⟨1⟩ "food") default), .around (.process 0 default)] ++
    refusal ++ [.around (.process 1 default)]

/-- While the item is out, the list is renamed, and its document is stored. -/
def indexedOut : List Step :=
  [.call default, .call default, .call default,
    .around (.request (.renameList ⟨1⟩ ⟨1⟩ "food") default), .around (.process 1 default)] ++
    refusal ++ [.around (.process 0 default)]

/-- After the move has read the item, others move it to the second list and back, which puts it at
the end of the first, and its document is stored. -/
def exchanged : List Step :=
  [.call default, .call default] ++ handled (.moveItem ⟨1⟩ ⟨1⟩ ⟨2⟩ ⟨1⟩) ++
    handled (.moveItem ⟨2⟩ ⟨1⟩ ⟨1⟩ ⟨1⟩) ++ [.call default] ++ refusal

def undisturbed : List Step :=
  [.call default, .call default, .call default] ++ refusal

/-- The item of the first list names the second. -/
def stray : Store :=
  twoListsOf [simple 1 2 "milk" 0] []

/-- Both items of the first list have one number. -/
def twins : Store :=
  twoListsOf [simple 1 1 "milk" 0, simple 1 1 "bread" 1] []

/-- The numbers of items are about to wrap around, to one that the first list has. -/
def brim : Store :=
  twoListsOf [simple 1 1 "milk" 0, simple Int32.minValue 1 "bread" 1]
    [simple (Int32.maxValue - 1) 2 "post" 0]

/-- A new item gets the number of one of the origin, and is moved. -/
def wrapped : List Step :=
  [.call default, .call default] ++ handled (.createList ⟨1⟩ "books") ++
    handled (.addItem ⟨2⟩ ⟨1⟩ "stamps" "") ++ handled (.addItem ⟨2⟩ ⟨1⟩ "parcel" "") ++
    handled (.moveItem ⟨2⟩ ⟨Int32.minValue⟩ ⟨3⟩ ⟨1⟩) ++ [.call default] ++ refusal

/-- Nothing repairs a count and a document that were taken while the item was out, or a document
that shows the item as others have changed it: the move that puts it back publishes nothing. An item
that does not name the origin, another with its number or a number that wraps around leave the
origin with fewer items than before. -/
theorem not_current_of_rolledBack :
    (Drifts pair countedOut ∧ Drifts pair indexedOut ∧
      Drifts pair exchanged ∧ isOut ⟨1⟩ ⟨1⟩ (course pair exchanged).indexed = false) ∧
    Drifts stray undisturbed ∧ Drifts twins undisturbed ∧ Drifts brim wrapped := by
  refine ⟨⟨?_, ?_, ?_, by decide +kernel⟩, ?_, ?_, ?_⟩ <;>
    exact ⟨by decide +kernel, by decide +kernel, by decide +kernel, by decide +kernel,
      by decide +kernel⟩

end ListKeeper.Moving
