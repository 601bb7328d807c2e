import ListKeeper.Proofs.Session.History

namespace ListKeeper

namespace Request

variable {past : Past} {request : Request} {job : Job Result}

theorem Standing.known (standing : Standing past request job) {item : Item}
    (carries : carried job = some item) : past.items item.card := by
  cases standing with
  | calm calm =>
    rw [calm.free] at carries
    cases carries
  | placing origin destination user stored moved failed known home left there same elsewhere =>
    obtain rfl : moved = item := Option.some.inj carries
    exact same ▸ known
  | restoring origin destination user stored failed known =>
    obtain rfl : stored = item := Option.some.inj carries
    exact known
  | _ => cases carries

theorem Standing.free (standing : Standing past request job) (none : ∀ list, ¬past.lists list) :
    carried job = Option.none := by
  cases standing with
  | calm calm => exact calm.free
  | placing origin destination user stored moved failed known home left => exact (none _ left).elim
  | restoring origin destination user stored failed known home left => exact (none _ left).elim
  | _ => rfl

theorem Standing.truthful {result : Result} (standing : Standing past request job)
    (ended : job = .done result) : past.Truthful request result := by
  cases standing with
  | calm calm =>
    subst ended
    cases calm with
    | done _ truthful => exact truthful
  | _ => cases ended

end Request

namespace Session

inductive Place where
  | store
  | hands (index : Nat)

def carried (session : Session) (index : Nat) : Option Item :=
  session.jobs[index]?.bind Request.carried

/-- An item is in a place. -/
def Keeps (session : Session) (card : Card) : Place → Prop
  | .store => ∃ list item, session.backend.store.Has list item ∧ item.card = card
  | .hands index => ∃ item, session.carried index = some item ∧ item.card = card

/-- An item is where it has been, or it is the one that comes to another place. -/
def Brings (session : Session) (id : ItemId) (target : Place) (card : Card) (place : Place) : Prop :=
  session.Keeps card place ∧ card.id ≠ id ∨ card.id = id ∧ place = target

variable {session : Session} {schedule : List (Nat × Timestamp)} {requests : List Request}
  {index t : Nat} {request : Request} {job job' : Job Request.Result}

section

variable (turn : session.Turn requests schedule t index request job job')
include turn

theorem Turn.carried : (session.moment schedule t).carried index = Request.carried job := by
  rw [Session.carried, turn.before]
  rfl

theorem Turn.carried_succ :
    (session.moment schedule (t + 1)).carried index = Request.carried job' := by
  rw [Session.carried, turn.after]
  rfl

theorem Turn.carried_other {other : Nat} (different : other ≠ index) :
    (session.moment schedule (t + 1)).carried other =
      (session.moment schedule t).carried other := by
  rw [Session.carried, Session.carried, turn.others other different]

/-- To go through the places where an item can be after a call. -/
theorem Turn.places {P : Card → Place → Prop}
    (stored : ∀ list item, (session.store schedule (t + 1)).Has list item → P item.card .store)
    (carries : ∀ item, Request.carried job' = some item → P item.card (.hands index))
    (others : ∀ card other, other ≠ index → (session.moment schedule t).Keeps card (.hands other) →
      P card (.hands other))
    {card : Card} {place : Place} (kept : (session.moment schedule (t + 1)).Keeps card place) :
    P card place := by
  cases place with
  | store =>
    obtain ⟨list, item, has, rfl⟩ := kept
    exact stored list item has
  | hands other =>
    by_cases here : other = index
    · subst here
      obtain ⟨item, inHands, rfl⟩ := kept
      exact carries item (turn.carried_succ.symm.trans inHands)
    · obtain ⟨item, inHands, rfl⟩ := kept
      rw [turn.carried_other here] at inHands
      exact others item.card other here ⟨item, inHands, rfl⟩

theorem Turn.keeps_carried {item : Item} (carries : Request.carried job = some item) :
    (session.moment schedule t).Keeps item.card (.hands index) :=
  ⟨item, turn.carried.trans carries, rfl⟩

theorem Turn.keeps_of_fewer
    (stored : ∀ list item, (session.store schedule (t + 1)).Has list item →
      (session.store schedule t).Has list item)
    (carries : ∀ item, Request.carried job' = some item →
      ∃ item', Request.carried job = some item' ∧ item'.card = item.card)
    {card : Card} {place : Place} (kept : (session.moment schedule (t + 1)).Keeps card place) :
    (session.moment schedule t).Keeps card place := by
  refine turn.places (fun list item has => ?_) (fun item inHands => ?_)
    (fun card other _ kept => kept) kept
  · exact ⟨list, item, stored list item has, rfl⟩
  · obtain ⟨item', before, card⟩ := carries item inHands
    exact card ▸ turn.keeps_carried before

end

theorem Serves.stands_of_carried (serves : session.Serves requests schedule) {item : Item}
    (inHands : (session.moment schedule t).carried index = some item) :
    ∃ request job, Request.Standing (session.past schedule index t) request job ∧
      Request.carried job = some item := by
  obtain ⟨job, there, carries⟩ := Option.bind_eq_some_iff.mp inHands
  obtain ⟨inside, _⟩ := List.getElem?_eq_some_iff.mp there
  rw [serves.length_jobs t] at inside
  obtain ⟨job', there', standing⟩ := serves.stands (List.getElem?_eq_getElem inside) t
  obtain rfl : job = job' := Option.some.inj (there.symm.trans there')
  exact ⟨_, job, standing, carries⟩

theorem Serves.seen_of_keeps (serves : session.Serves requests schedule) {card : Card}
    {place : Place} (kept : (session.moment schedule t).Keeps card place) :
    session.Seen schedule t card := by
  cases place with
  | store =>
    obtain ⟨list, item, has, rfl⟩ := kept
    exact seen_of_has has
  | hands index =>
    obtain ⟨item, inHands, rfl⟩ := kept
    obtain ⟨request, job, standing, carries⟩ := serves.stands_of_carried inHands
    exact standing.known carries

theorem Turn.seen_or_new (turn : session.Turn requests schedule t index request job job')
    {list : ListId} {item : Item} (has : (session.store schedule (t + 1)).Has list item) :
    session.Seen schedule t item.card ∨ item.id = ⟨(session.store schedule t).nextItem⟩ ∧
      (session.store schedule (t + 1)).nextItem = (session.store schedule t).nextItem + 1 := by
  cases turn.deed with
  | apart same => exact .inl (seen_of_has ((same _ _).mp has))
  | dropped _ _ same => exact .inl (seen_of_has ((same _ _).mp has).1)
  | inserted new fresh next same =>
    rcases (same _ _).mp has with before | ⟨_, rfl⟩
    · exact .inl (seen_of_has before)
    · exact .inr ⟨fresh, next⟩
  | removed _ _ _ _ _ same => exact .inl (seen_of_has ((same _ _).mp has).1)
  | lifted _ _ same => exact .inl (seen_of_has ((same _ _).mp has).1)
  | put stored same carries =>
    rcases (same _ _).mp has with ⟨before, _⟩ | ⟨_, rfl⟩
    · exact .inl (seen_of_has before)
    · exact .inl (turn.stood.known carries)
  | lost _ _ _ _ _ _ _ same => exact .inl (seen_of_has ((same _ _).mp has))

theorem Turn.ne_next (turn : session.Turn requests schedule t index request job job')
    (next : (session.store schedule (t + 1)).nextItem = (session.store schedule t).nextItem + 1)
    {id : ItemId} (used : UsedUp id.number (session.store schedule t).nextItem) :
    id ≠ ⟨(session.store schedule t).nextItem⟩ := by
  rintro rfl
  have unwrapped := turn.unwrapped.2
  rw [next] at unwrapped
  exact Int32.lt_irrefl (used.lt unwrapped)

/-- What holds of items at each moment of a session. -/
structure Orderly (session : Session) (schedule : List (Nat × Timestamp)) (t : Nat) : Prop where
  /-- A number has never stood for two items. -/
  agree : ∀ card card', session.Seen schedule t card → session.Seen schedule t card' →
    card.id = card'.id → card = card'
  used : ∀ card, session.Seen schedule t card →
    UsedUp card.id.number (session.store schedule t).nextItem
  /-- An item is in one place at most. -/
  single : ∀ card p q, (session.moment schedule t).Keeps card p →
    (session.moment schedule t).Keeps card q → p = q

/-- A call leaves items where they are, or it brings one item from where it is to one place. -/
theorem Turn.keeps (turn : session.Turn requests schedule t index request job job')
    (serves : session.Serves requests schedule) (orderly : session.Orderly schedule t) :
    (∀ card place, (session.moment schedule (t + 1)).Keeps card place →
      (session.moment schedule t).Keeps card place) ∨
    ∃ id target, ∀ card place, (session.moment schedule (t + 1)).Keeps card place →
      (session.moment schedule t).Brings id target card place := by
  -- What comes to a place has been nowhere else, since no number stands for two items.
  have different {card card' : Card} {p q : Place} (kept : (session.moment schedule t).Keeps card p)
      (kept' : (session.moment schedule t).Keeps card' q) (elsewhere : p ≠ q) :
      card.id ≠ card'.id := by
    intro same
    obtain rfl :=
      orderly.agree card card' (serves.seen_of_keeps kept) (serves.seen_of_keeps kept') same
    exact elsewhere (orderly.single card p q kept kept')
  have empty {P : Item → Prop} (free : Request.carried job' = none) (item)
      (carries : Request.carried job' = some item) : P item := by
    rw [free] at carries
    cases carries
  cases turn.deed with
  | apart has same =>
    left
    refine fun card place => turn.keeps_of_fewer (fun _ _ => (has _ _).mp) fun item carries => ?_
    rw [carries] at same
    exact Option.map_eq_some_iff.mp same.symm
  | dropped gone _ has _ free' =>
    exact .inl fun card place =>
      turn.keeps_of_fewer (fun _ _ stored => ((has _ _).mp stored).1) (empty free')
  | removed list id user _ _ has _ free' =>
    exact .inl fun card place =>
      turn.keeps_of_fewer (fun _ _ stored => ((has _ _).mp stored).1) (empty free')
  | lost item _ _ _ _ _ _ has _ free' =>
    exact .inl fun card place => turn.keeps_of_fewer (fun _ _ => (has _ _).mp) (empty free')
  | inserted item fresh next has _ free' =>
    right
    refine ⟨item.id, .store, fun card place => turn.places (fun list item' stored => ?_)
      (empty free') fun card other _ kept => ?_⟩
    · rcases (has _ _).mp stored with before | ⟨_, rfl⟩
      · refine .inl ⟨⟨list, item', before, rfl⟩, ?_⟩
        exact fresh ▸ turn.ne_next next (orderly.used item'.card (seen_of_has before))
      · exact .inr ⟨rfl, rfl⟩
    · exact .inl ⟨kept, fresh ▸ turn.ne_next next (orderly.used card (serves.seen_of_keeps kept))⟩
  | lifted item held has _ carries =>
    obtain ⟨origin, old, before, number⟩ := held
    have home : (session.moment schedule t).Keeps old.card .store := ⟨origin, old, before, rfl⟩
    right
    refine ⟨item.id, .hands index, fun card place => turn.places (fun list item' stored => ?_)
      (fun item' carries' => ?_) fun card other _ kept => ?_⟩
    · obtain ⟨before, other⟩ := (has _ _).mp stored
      exact .inl ⟨⟨list, item', before, rfl⟩, other⟩
    · obtain rfl : item = item' := Option.some.inj (carries.symm.trans carries')
      exact .inr ⟨rfl, rfl⟩
    · exact .inl ⟨kept, number ▸ different kept home nofun⟩
  | put item has carries free' =>
    right
    refine ⟨item.id, .store, fun card place => turn.places (fun list item' stored => ?_)
      (empty free') fun card other elsewhere kept => ?_⟩
    · rcases (has _ _).mp stored with ⟨before, other⟩ | ⟨_, rfl⟩
      · exact .inl ⟨⟨list, item', before, rfl⟩, other⟩
      · exact .inr ⟨rfl, rfl⟩
    · have apart : Place.hands other ≠ .hands index := fun same => elsewhere (Place.hands.inj same)
      exact .inl ⟨kept, different kept (turn.keeps_carried carries) apart⟩

theorem Seen.succ_cases {card : Card} (seen : session.Seen schedule (t + 1) card) :
    session.Seen schedule t card ∨
      ∃ list item, (session.store schedule (t + 1)).Has list item ∧ item.card = card := by
  obtain ⟨t', within, here⟩ := seen
  rcases Nat.le_succ_iff.mp within with earlier | rfl
  · exact .inl ⟨t', earlier, here⟩
  · exact .inr here

theorem orderly_zero (serves : session.Serves requests schedule) : session.Orderly schedule 0 := by
  have stored {card} (seen : session.Seen schedule 0 card) :
      ∃ list item, session.backend.store.Has list item ∧ item.card = card := by
    obtain ⟨t', within, here⟩ := seen
    obtain rfl := Nat.le_zero.mp within
    exact here
  have inStore {card place} (kept : session.Keeps card place) : place = .store := by
    cases place with
    | store => rfl
    | hands index =>
      obtain ⟨item, inHands, rfl⟩ := kept
      obtain ⟨request, job, standing, carries⟩ := serves.stands_of_carried (t := 0) inHands
      -- No list has been there yet for any request, so none can be in the middle of a move.
      have free : Request.carried job = none := standing.free fun list past => by
        obtain ⟨t', within, begun, _⟩ := past
        obtain rfl := Nat.le_zero.mp within
        cases begun
      rw [free] at carries
      cases carries
  refine ⟨fun card card' seen seen' same => ?_, fun card seen => ?_, fun card p q kept kept' => ?_⟩
  · obtain ⟨list, item, has, rfl⟩ := stored seen
    obtain ⟨list', item', has', rfl⟩ := stored seen'
    exact congrArg Item.card (serves.formed.unique.item_eq has has' same)
  · obtain ⟨list, item, ⟨found, there, member⟩, rfl⟩ := stored seen
    exact serves.formed.itemNumbers list found there item member
  · rw [inStore kept, inStore kept']

theorem Orderly.idle (orderly : session.Orderly schedule t)
    (same : session.moment schedule (t + 1) = session.moment schedule t) :
    session.Orderly schedule (t + 1) := by
  have store : session.store schedule (t + 1) = session.store schedule t :=
    congrArg (fun session => session.backend.store) same
  have old {card} (seen : session.Seen schedule (t + 1) card) : session.Seen schedule t card := by
    rcases seen.succ_cases with before | ⟨list, item, has, rfl⟩
    · exact before
    · exact seen_of_has (store ▸ has)
  refine ⟨fun card card' seen seen' => orderly.agree card card' (old seen) (old seen'),
    fun card seen => ?_, ?_⟩
  · rw [store]
    exact orderly.used card (old seen)
  · rw [same]
    exact orderly.single

theorem Turn.orderly (turn : session.Turn requests schedule t index request job job')
    (serves : session.Serves requests schedule) (orderly : session.Orderly schedule t) :
    session.Orderly schedule (t + 1) := by
  have formed := serves.formed_store (t + 1)
  have new {card} (seen : session.Seen schedule (t + 1) card) : session.Seen schedule t card ∨
      (∀ old, session.Seen schedule t old → old.id ≠ card.id) ∧
        ∃ list item, (session.store schedule (t + 1)).Has list item ∧ item.card = card := by
    rcases seen.succ_cases with before | ⟨list, item, has, rfl⟩
    · exact .inl before
    rcases turn.seen_or_new has with before | ⟨fresh, next⟩
    · exact .inl before
    · refine .inr ⟨fun old seen same => ?_, list, item, has, rfl⟩
      exact turn.ne_next next (orderly.used old seen) (same.trans fresh)
  refine ⟨fun card card' seen seen' same => ?_, fun card seen => ?_, fun card p q kept kept' => ?_⟩
  · rcases new seen with old | ⟨fresh, list, item, has, rfl⟩
    · rcases new seen' with old' | ⟨fresh', _⟩
      · exact orderly.agree card card' old old' same
      · exact absurd same (fresh' card old)
    · rcases new seen' with old' | ⟨_, list', item', has', rfl⟩
      · exact absurd same.symm (fresh card' old')
      · exact congrArg Item.card (formed.unique.item_eq has has' same)
  · rcases new seen with old | ⟨_, list, item, ⟨found, there, member⟩, rfl⟩
    · exact (orderly.used card old).mono turn.unwrapped.2
    · exact formed.itemNumbers list found there item member
  · rcases turn.keeps serves orderly with same | ⟨id, target, brings⟩
    · exact orderly.single card p q (same card p kept) (same card q kept')
    · rcases brings card p kept with ⟨before, other⟩ | ⟨here, rfl⟩
      · rcases brings card q kept' with ⟨before', _⟩ | ⟨here, _⟩
        · exact orderly.single card p q before before'
        · exact absurd here other
      · rcases brings card q kept' with ⟨_, other⟩ | ⟨_, rfl⟩
        · exact absurd here other
        · rfl

theorem Serves.orderly (serves : session.Serves requests schedule) (t : Nat) :
    session.Orderly schedule t := by
  induction t with
  | zero => exact orderly_zero serves
  | succ t ih =>
    rcases serves.turn t with idle | ⟨index, request, job, job', turn⟩
    · exact ih.idle idle
    · exact turn.orderly serves ih

end Session

end ListKeeper
