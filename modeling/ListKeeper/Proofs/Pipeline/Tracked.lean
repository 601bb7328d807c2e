import ListKeeper.Proofs.Pipeline.Mirrors

namespace ListKeeper

/-- Some of the events are about this list. -/
def Names (events : List Envelope) (list : ListId) : Prop :=
  ∃ event ∈ events, event.payload.list? = some list

theorem names_cons {event : Envelope} {rest : List Envelope} {list : ListId} :
    Names (event :: rest) list ↔ event.payload.list? = some list ∨ Names rest list := by
  simp [Names]

theorem not_names_of_nil {events : List Envelope} (quiet : events = []) (list : ListId) :
    ¬Names events list := by
  rintro ⟨event, member, _⟩
  rw [quiet] at member
  cases member

/-- The projections follow the store, given the events on their way to each worker: a count or a
document may be out of date, but then an event about the list is on its way to the worker that
brings it up to date. -/
structure Tracked (store : Store) (index : Index) (pending : ChannelId → List Envelope) : Prop
    extends mirrors : Mirrors store index (Names (pending 1)) (Names (pending 2)) where
  counted : ∀ k list, store.lists.get? k = some list →
    list.itemCount = list.countOfItems ∨ Names (pending 0) k

section

variable {store after : Store} {index : Index} {pending later : ChannelId → List Envelope}

/-- Only the events of the first three workers matter. -/
theorem Tracked.congr (tracked : Tracked store index pending)
    (same : ∀ id < 3, later id = pending id) : Tracked store index later := by
  obtain ⟨mirrors, counted⟩ := tracked
  rw [← same 0 (by decide)] at counted
  rw [← same 1 (by decide), ← same 2 (by decide)] at mirrors
  exact ⟨mirrors, counted⟩

/-- Events have been sent to their audience. -/
def Pipeline.Delivered (events : List Envelope) (pending later : ChannelId → List Envelope) : Prop :=
  ∀ id < 4, ∀ event, event ∈ later id ↔
    event ∈ pending id ∨ event ∈ events ∧ id ∈ audience event.topic

section

variable {events : List Envelope} {id : ChannelId} {k : ListId}

theorem Pipeline.Delivered.names (delivered : Delivered events pending later) (inside : id < 4)
    (names : Names (pending id) k) : Names (later id) k := by
  obtain ⟨event, member, about⟩ := names
  exact ⟨event, (delivered id inside event).mpr (Or.inl member), about⟩

theorem Pipeline.Delivered.told (delivered : Delivered events pending later) (inside : id < 4)
    {topic : Topic} (member : ⟨topic, .list k⟩ ∈ events) (hears : id ∈ audience topic) :
    Names (later id) k :=
  ⟨⟨topic, .list k⟩, (delivered id inside _).mpr (Or.inr ⟨member, hears⟩), rfl⟩

/-- What is on its way to be acted on, once events have been sent. -/
theorem Pipeline.Delivered.all (delivered : Delivered events pending later) :
    Told events (Names (pending 1)) (Names (pending 2)) (Names (later 1)) (Names (later 2)) where
  stillSaves _ := delivered.names (by decide)
  stillRemoves _ := delivered.names (by decide)
  toSave _ _ member hears := delivered.told (by decide) member hears
  toRemove _ member := delivered.told (by decide) member (by decide)
  onlyRemoved k names := by
    obtain ⟨event, member, about⟩ := names
    rcases (delivered 2 (by decide) event).mp member with before | ⟨published, hears⟩
    · exact Or.inl ⟨event, before, about⟩
    · obtain ⟨topic, payload⟩ := event
      cases topic <;> simp [audience] at hears
      cases payload with
      | empty => cases about
      | list k' =>
        obtain rfl := Option.some.inj about
        exact Or.inr published

end

/-- A request is tracked when its events go to their audience. -/
theorem Tracked.request {events : List Envelope} (tracked : Tracked store index pending)
    (sound : store.Sound) (unwrapped : store.Unwrapped after)
    (announced : store.Announced after events)
    (delivered : Pipeline.Delivered events pending later) : Tracked after index later := by
  refine ⟨tracked.mirrors.change sound.numbered unwrapped announced delivered.all,
    fun k list there => ?_⟩
  rcases announced.stored k list there with before | updated | ⟨_, counted⟩
  · exact (tracked.counted k list before).imp_right (delivered.names (by decide))
  · exact Or.inr (delivered.told (by decide) updated (by decide))
  · exact Or.inl counted

/-- One event is taken off the way to one worker. -/
structure Taken (pending later : ChannelId → List Envelope) (id : ChannelId) (event : Envelope) :
    Prop where
  first : pending id = event :: later id
  others : ∀ other, other ≠ id → later other = pending other

theorem Taken.named {id : ChannelId} {event : Envelope} (taken : Taken pending later id event)
    {k : ListId} (about : event.payload.list? = some k) : Names (pending id) k := by
  rw [taken.first]
  exact names_cons.mpr (Or.inl about)

theorem Taken.names {id : ChannelId} {event : Envelope} (taken : Taken pending later id event)
    {k : ListId} (names : Names (pending id) k) :
    event.payload.list? = some k ∨ Names (later id) k := by
  rw [taken.first] at names
  exact names_cons.mp names

theorem Taken.names_of_later {id : ChannelId} {event : Envelope} (taken : Taken pending later id event)
    {other : ChannelId} {k : ListId} (names : Names (later other) k) : Names (pending other) k := by
  by_cases here : other = id
  · subst here
    rw [taken.first]
    exact names_cons.mpr (Or.inr names)
  · rwa [taken.others other here] at names

theorem Tracked.count {event : Envelope} {list : ListId} {now : Timestamp}
    (tracked : Tracked store index pending) (taken : Taken pending later 0 event)
    (about : event.payload.list? = some list) :
    Tracked (store.perform now (.setItemCount list
      ((store.lists.get? list).elim 0 ItemList.countOfItems))).2 index later := by
  have one := taken.others 1 (by decide)
  have two := taken.others 2 (by decide)
  generalize counts : (store.lists.get? list).elim 0 ItemList.countOfItems = count
  refine ⟨?_, fun k list' there => ?_⟩
  · rw [one, two]
    exact tracked.mirrors.recount
  rw [store.get?_setItemCount now list k count] at there
  split at there
  next here =>
    subst here
    obtain ⟨before, found, rfl⟩ := Option.map_eq_some_iff.mp there
    rw [found] at counts
    exact Or.inl counts.symm
  next elsewhere =>
    refine (tracked.counted k list' there).imp_right fun names => ?_
    refine (taken.names names).resolve_left fun same => elsewhere ?_
    exact Option.some.inj (same.symm.trans about)

theorem Tracked.save {event : Envelope} {id : ChannelId} {ids : List ListId}
    (tracked : Tracked store index pending) (sound : store.Sound)
    (taken : Taken pending later id event) (counts : 0 ≠ id) (removals : 2 ≠ id)
    (covered : ∀ k, Names (pending 1) k → k ∈ ids ∨ Names (later 1) k) :
    Tracked store (index.save (Handler.documentsOf store ids)) later := by
  have zero := taken.others 0 counts
  have two := taken.others 2 removals
  refine ⟨?_, fun k list there => ?_⟩
  · rw [two]
    refine tracked.mirrors.save (fun document member => ?_) fun k names => ?_
    · obtain ⟨k, _, list, there, rfl⟩ := Handler.mem_documentsOf.mp member
      exact Document.fresh_ofList sound.keyed there
    · rcases covered k names with listed | later
      · cases there : store.lists.get? k with
        | none => exact Or.inr (Or.inr rfl)
        | some list =>
          have member := Handler.mem_documentsOf.mpr ⟨k, listed, list, there, rfl⟩
          exact Or.inl ⟨_, member, congrArg Document.keyOf (sound.keyed k list there)⟩
      · exact Or.inr (Or.inl later)
  · rw [zero]
    exact tracked.counted k list there

theorem Tracked.remove {event : Envelope} {list : ListId} (tracked : Tracked store index pending)
    (taken : Taken pending later 2 event) (about : event.payload.list? = some list) :
    Tracked store (index.delete (Document.keyOf list)) later := by
  have zero := taken.others 0 (by decide)
  have one := taken.others 1 (by decide)
  refine ⟨?_, fun k found there => ?_⟩
  · rw [one]
    refine tracked.mirrors.remove (taken.named about) (fun k names => ?_) fun k names =>
      taken.names_of_later names
    refine (taken.names names).symm.imp_right fun same => ?_
    exact Option.some.inj (same.symm.trans about)
  · rw [zero]
    exact tracked.counted k found there

theorem Tracked.ignore {event : Envelope} {id : ChannelId} (tracked : Tracked store index pending)
    (taken : Taken pending later id event) (about : event.payload.list? = none) :
    Tracked store index later := by
  have still {other k} (names : Names (pending other) k) : Names (later other) k := by
    by_cases here : other = id
    · subst here
      refine (taken.names names).resolve_left fun same => ?_
      rw [about] at same
      cases same
    · rwa [taken.others other here]
  refine ⟨tracked.mirrors.mono (fun k names => Or.inl (still names)) fun k =>
    ⟨still, taken.names_of_later⟩, fun k list there => ?_⟩
  exact (tracked.counted k list there).imp_right still

/-- When no event is on its way, every projection is current. -/
theorem Tracked.current (tracked : Tracked store index pending) (quiet : ∀ id, pending id = []) :
    (∀ k list, store.lists.get? k = some list → list.itemCount = list.countOfItems) ∧
      ∀ key document, index.document? key = some document ↔
        ∃ k list, store.lists.get? k = some list ∧ key = Document.keyOf k ∧
          document = Document.ofList list := by
  have silent {id} (k) : ¬Names (pending id) k := not_names_of_nil (quiet id) k
  exact ⟨fun k list there => (tracked.counted k list there).resolve_right (silent k),
    tracked.mirrors.current silent silent⟩

end

end ListKeeper
