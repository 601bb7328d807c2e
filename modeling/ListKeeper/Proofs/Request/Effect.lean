import ListKeeper.Proofs.Request.Outcome

namespace ListKeeper

namespace Store

/-- What a request can do to a store, and what it then answers and publishes. -/
inductive Effect (store : Store) : Request → Request.Result → Store → List Envelope → Prop where
  | refused (request : Request) (fault : RequestFault) :
    Effect store request (.error fault) store []
  | created (user : UserId) (name text : String) (now : Timestamp) :
    Effect store (.createList user name) (.ok (.list (store.createList now user text).1))
      (store.perform now (.createList user text)).2
      [⟨.listCreated, .list (store.createList now user text).1.id⟩]
  | shown (list : ListId) (user : UserId) (found : ItemList)
      (owned : store.findList list user = some found) :
    Effect store (.getList list user) (.ok (.list found)) store []
  | renamed (list : ListId) (user : UserId) (name text : String) (now : Timestamp)
      (found : ItemList) (owned : store.findList list user = some found) :
    Effect store (.renameList list user name)
      (.ok (.list { found with name := text, updatedAt := now }))
      (store.perform now (.renameList list text)).2 [⟨.listUpdated, .list list⟩]
  | deleted (list : ListId) (user : UserId) (now : Timestamp)
      (owned : (store.findList list user).isSome) :
    Effect store (.deleteList list user) (.ok .done)
      (store.perform now (.deleteList list user)).2 [⟨.listDeleted, .list list⟩]
  | added (list : ListId) (user : UserId) (title description text about : String)
      (now : Timestamp) (found : ItemList) (owned : store.findList list user = some found) :
    Effect store (.addItem list user title description)
      (.ok (.item (Item.new now ⟨store.nextItem⟩ list text about found.nextPosition)))
      (store.perform now (.insertItem list text about found.nextPosition)).2
      [⟨.listUpdated, .list list⟩]
  | removed (list : ListId) (item : ItemId) (user : UserId) (now : Timestamp) (found : ItemList)
      (owned : store.findList list user = some found) (stored : (found.item? item).isSome) :
    Effect store (.deleteItem list item user) (.ok .done)
      (store.perform now (.deleteItem list item)).2 [⟨.listUpdated, .list list⟩]
  | moved (origin : ListId) (item : ItemId) (destination : ListId) (user : UserId)
      (now later : Timestamp) (source target : ItemList) (stored : Item)
      (apart : origin ≠ destination) (owned : store.findList origin user = some source)
      (other : store.findList destination user = some target)
      (here : source.item? item = some stored) :
    Effect store (.moveItem origin item destination user)
      (.ok (.item { stored with list := destination, position := target.nextPosition }))
      ((store.perform now (.deleteItem origin item)).2.perform later (.putItem
        { stored with list := destination, position := target.nextPosition })).2
      [⟨.listUpdated, .list origin⟩, ⟨.listUpdated, .list destination⟩]
  | reindexed (reached : Nat) :
    Effect store .reindex (.ok (.reached reached)) store [⟨.indexAllListsRequested, .empty⟩]

/-- What every call keeps, if no number wraps around, is kept by every request. -/
theorem Effect.keeps {motive : Store → Prop}
    (keeps : ∀ store now call, motive store → Unwrapped store (store.perform now call).2 →
      motive (store.perform now call).2)
    {store after : Store} {request : Request} {result : Request.Result} {events : List Envelope}
    (effect : store.Effect request result after events) (start : motive store)
    (unwrapped : Unwrapped store after) : motive after := by
  cases effect with
  | refused | shown | reindexed => exact start
  | created | renamed | deleted | added | removed => exact keeps _ _ _ start unwrapped
  | moved origin item destination user now =>
    have taken := keeps store now (.deleteItem origin item) start
      (unwrapped_perform (by simp) (by simp) (by simp))
    exact keeps _ _ _ taken (unwrapped_putItem _)

section

variable {store after : Store} {request : Request} {result : Request.Result}
  {events : List Envelope}

theorem Effect.formed (effect : store.Effect request result after events)
    (formed : store.WellFormed) (unwrapped : Unwrapped store after) : after.WellFormed :=
  effect.keeps (fun _ now call formed => formed.perform now call) formed unwrapped

theorem Effect.sound (effect : store.Effect request result after events) (sound : store.Sound)
    (unwrapped : Unwrapped store after) : after.Sound :=
  effect.keeps (fun _ now call sound => sound.perform now call) sound unwrapped

theorem Effect.has_or_named (effect : store.Effect request result after events)
    (unwrapped : Unwrapped store after) :
    ∀ k x, after.Has k x → store.Has k x ∨ x.list = k :=
  effect.keeps (motive := fun later => ∀ k x, later.Has k x → store.Has k x ∨ x.list = k)
    (fun _ _ _ old _ k x has => (has_or_named_of_perform has).elim (old k x) .inr)
    (fun _ _ has => .inl has) unwrapped

end

/-- A request takes the next number of a list or of an item, or none. -/
theorem Effect.unwrapped {store after : Store} {request : Request} {result : Request.Result}
    {events : List Envelope} (effect : store.Effect request result after events)
    (lists : store.nextList ≤ store.nextList + 1) (items : store.nextItem ≤ store.nextItem + 1) :
    Unwrapped store after := by
  cases effect with
  | refused | shown | reindexed => exact ⟨Int32.le_refl _, Int32.le_refl _⟩
  | created => exact ⟨lists, Int32.le_refl _⟩
  | renamed | deleted | removed => exact unwrapped_perform (by simp) (by simp) (by simp)
  | added =>
    rw [Unwrapped, nextList_perform (by simp)]
    refine ⟨Int32.le_refl _, ?_⟩
    simp only [perform]
    split
    · exact Int32.le_refl _
    · exact items
  | moved origin item destination user now later source target stored =>
    rw [Unwrapped, nextList_perform (by simp), nextList_perform (by simp)]
    refine ⟨Int32.le_refl _, ?_⟩
    have taken : (store.perform now (.deleteItem origin item)).2.nextItem = store.nextItem :=
      nextItem_perform (by simp) (by simp)
    rw [← taken]
    exact nextItem_le_putItem _

theorem Effect.length_events_le {store after : Store} {request : Request} {result : Request.Result}
    {events : List Envelope} (effect : store.Effect request result after events) :
    events.length ≤ 2 := by
  cases effect <;> simp

end Store

namespace Request

/-- A course comes to its end with an effect of its request. -/
def Takes (request : Request) (clock : Nat → Timestamp) (served : Nat) (job : Job Result)
    (backend : Backend) : Prop :=
  ∃ result store events,
    Ends (job.advance (Backend.serve clock none) (backend, served)) backend result store events ∧
      backend.store.Effect request result store events

/-- The outcome of a request as an effect on the store. -/
def Outcome.Fits (outcome : Outcome) (store : Store) (request : Request) : Prop :=
  store.Effect request outcome.result outcome.store outcome.events

section

variable {request : Request} {store : Store}

theorem fits_refused (fault : RequestFault) : (Outcome.refused store fault).Fits store request :=
  .refused request fault

theorem fits_trimming {field value : String} {next : String → Outcome}
    (later : ∀ text, (next text).Fits store request) :
    (Outcome.trimming store field value next).Fits store request :=
  Outcome.trimming_induction (motive := (·.Fits store request)) fits_refused later

theorem fits_finding {list : ListId} {user : UserId} {next : ItemList → Outcome}
    (later : ∀ found, store.findList list user = some found → (next found).Fits store request) :
    (Outcome.finding store list user next).Fits store request :=
  Outcome.finding_induction (motive := (·.Fits store request)) fits_refused later

theorem fits_moveItem (clock : Nat → Timestamp) (origin : ListId) (item : ItemId)
    (destination : ListId) (user : UserId) :
    (Outcome.moveItem store clock origin item destination user).Fits store
      (.moveItem origin item destination user) := by
  unfold Outcome.moveItem
  split
  · exact fits_refused _
  next apart =>
  cases other : store.findList destination user with
  | none => exact fits_refused _
  | some target =>
  cases owned : store.findList origin user with
  | none => exact fits_refused _
  | some source =>
  cases here : source.item? item with
  | none => simp only [here]; exact fits_refused _
  | some stored =>
    simp only [here]
    exact .moved origin item destination user _ _ source target stored apart owned other here

end

theorem fits_outcome (request : Request) (clock : Nat → Timestamp) (backend : Backend) :
    (request.outcome backend clock).Fits backend.store request := by
  cases request with
  | createList user name =>
    simp only [outcome, Outcome.createList]
    exact fits_trimming fun text => .created user name text (clock 0)
  | getList list user => exact fits_finding fun found owned => .shown list user found owned
  | renameList list user name =>
    simp only [outcome, Outcome.renameList]
    refine fits_trimming fun text => fits_finding fun found owned => ?_
    exact .renamed list user name text (clock 1) found owned
  | deleteList list user =>
    exact fits_finding fun found owned => .deleted list user (clock 0) (by rw [owned]; rfl)
  | addItem list user title description =>
    simp only [outcome, Outcome.addItem]
    refine fits_trimming fun text => fits_finding fun found owned => ?_
    exact .added list user title description text (Text.trim description) (clock 1) found owned
  | deleteItem list item user =>
    refine fits_finding fun found owned => ?_
    split
    next here => exact .removed list item user _ found owned here
    next => exact fits_refused _
  | moveItem origin item destination user => exact fits_moveItem clock origin item destination user
  | reindex => exact .reindexed _

/-- Every request comes to its end and has one of its effects. -/
theorem takes_job (request : Request) {clock : Nat → Timestamp} {backend : Backend} :
    Takes request clock 0 request.job backend :=
  ⟨_, _, _, ends_job request, fits_outcome request clock backend⟩

end Request

namespace Backend

theorem run_eq_serve {α : Type} (now : Timestamp) (served : Nat) (job : Job α) (backend : Backend) :
    (backend.run now job).rest = (job.advance (serve (fun _ => now) none) (backend, served)).rest ∧
      (backend.run now job).state =
        (job.advance (serve (fun _ => now) none) (backend, served)).state.1 := by
  unfold run
  induction job generalizing backend served with
  | done value => exact ⟨rfl, rfl⟩
  | stalled => exact ⟨rfl, rfl⟩
  | panic reason => exact ⟨rfl, rfl⟩
  | call request next meanwhile ih =>
    have answer : treat now request backend =
        (.answer (backend.perform now request).1, (backend.perform now request).2) := rfl
    obtain ⟨served', given⟩ : ∃ served', serve (fun _ => now) none request (backend, served) =
        (.answer (backend.perform now request).1, (backend.perform now request).2, served') := by
      cases request with
      | store call => exact ⟨served + 1, rfl⟩
      | _ => exact ⟨served, rfl⟩
    simp only [Program.advance, answer, given]
    exact ih _ served' _

end Backend

theorem Request.run_job (request : Request) (now : Timestamp) (backend : Backend) :
    ∃ result store events, (backend.run now request.job).rest = .done result ∧
      (backend.run now request.job).state = Backend.publishAll { backend with store } events ∧
        backend.store.Effect request result store events := by
  obtain ⟨rest, state⟩ := backend.run_eq_serve now 0 request.job
  obtain ⟨result, store, events, ends, effect⟩ := takes_job request
  exact ⟨result, store, events, rest.trans ends.rest, state.trans ends.state, effect⟩

end ListKeeper
