import ListKeeper.Proofs.Request.Duty
import ListKeeper.Proofs.Session.Places
import ListKeeper.Proofs.Shift.Basic
import ListKeeper.Proofs.Shift.Projected

namespace ListKeeper

open Request (Duty)

namespace Session

/-- What a request has in its hands is in no list and in nobody else's hands. -/
structure Hands (session : Session) : Prop where
  free : ∀ index item, session.carried index = some item →
    (∀ list, ¬session.backend.store.Holds list item.id) ∧
      UsedUp item.id.number session.backend.store.nextItem
  apart : ∀ index item, session.carried index = some item →
    ∀ other item', session.carried other = some item' → item.id = item'.id → index = other

/-- What a request has still to do. There is nothing to do for a request that does not exist. -/
def job (session : Session) (index : Nat) : Job Request.Result :=
  session.jobs[index]?.getD (.done (.ok .done))

variable {session after : Session} {index : Nat} {now : Timestamp} {job : Job Request.Result}

theorem carried_eq (session : Session) (index : Nat) :
    session.carried index = Request.carried (session.job index) := by
  rw [Session.carried, Session.job]
  cases session.jobs[index]? <;> rfl

theorem job_of_all {P : Job Request.Result → Prop} (done : ∀ result, P (.done result))
    (all : ∀ job ∈ session.jobs, P job) (index : Nat) : P (session.job index) := by
  rw [Session.job]
  cases there : session.jobs[index]? with
  | none => exact done _
  | some job => exact all job (List.mem_of_getElem? there)

theorem job_step_self (there : session.jobs[index]? = some job) :
    (session.step index now).job index = (job.step (Backend.treat now) session.backend).1 := by
  rw [Session.job, jobs_step_self there, Option.getD_some]

theorem job_step_other {other : Nat} (different : other ≠ index) :
    (session.step index now).job other = session.job other := by
  rw [Session.job, Session.job, jobs_step_other different]

theorem carried_step_self (there : session.jobs[index]? = some job) :
    (session.step index now).carried index =
      Request.carried (job.step (Backend.treat now) session.backend).1 := by
  rw [Session.carried, jobs_step_self there]
  rfl

theorem carried_step_other {other : Nat} (different : other ≠ index) :
    (session.step index now).carried other = session.carried other := by
  rw [Session.carried, Session.carried, jobs_step_other different]

theorem backend_step (there : session.jobs[index]? = some job) :
    (session.step index now).backend = (job.step (Backend.treat now) session.backend).2 := by
  rw [step_of_some there]

/-- A call that leaves the store as it is leaves everything as it is. -/
theorem step_idle {call : StoreCall} {next : call.Answer → Job Request.Result}
    {meanwhile : Job Request.Result} {backend : Backend} {answer : call.Answer}
    (idle : backend.store.perform now call = (answer, backend.store)) :
    Program.step (Backend.treat now) (.call (.store call) next meanwhile) backend =
      (next answer, backend) := by
  simp only [Program.step, Backend.treat, Backend.perform, idle]

theorem Hands.change (hands : session.Hands)
    (others : ∀ other, other ≠ index → after.carried other = session.carried other)
    (kept : ∀ other item, other ≠ index → session.carried other = some item →
      (∀ list, ¬after.backend.store.Holds list item.id) ∧
        UsedUp item.id.number after.backend.store.nextItem)
    (takes : ∀ item, after.carried index = some item →
      ((∀ list, ¬after.backend.store.Holds list item.id) ∧
        UsedUp item.id.number after.backend.store.nextItem) ∧
      ∀ other item', other ≠ index → session.carried other = some item' → item.id ≠ item'.id) :
    after.Hands := by
  refine ⟨fun place item carries => ?_, fun place item carries other item' carries' same => ?_⟩
  · by_cases here : place = index
    · subst here
      exact (takes item carries).1
    · rw [others place here] at carries
      exact kept place item here carries
  · by_cases here : place = index
    · by_contra different
      subst here
      have elsewhere : other ≠ place := Ne.symm different
      rw [others other elsewhere] at carries'
      exact (takes item carries).2 other item' elsewhere carries' same
    · rw [others place here] at carries
      by_cases there : other = index
      · subst there
        exact absurd same.symm ((takes item' carries').2 place item here carries)
      · rw [others other there] at carries'
        exact hands.apart place item carries other item' carries' same

/-- A call that is not on the store, or is refused, leaves hands as they are. -/
theorem Hands.idle (hands : session.Hands) (there : session.jobs[index]? = some job)
    (same : (session.step index now).backend.store = session.backend.store)
    (takes : ∀ item, Request.carried (job.step (Backend.treat now) session.backend).1 = some item →
      ∃ before, Request.carried job = some before ∧ before.id = item.id) :
    (session.step index now).Hands := by
  refine hands.change (fun other different => carried_step_other different)
    (fun other item _ carries => same ▸ hands.free other item carries) fun item carries => ?_
  rw [carried_step_self there] at carries
  obtain ⟨before, had, number⟩ := takes item carries
  have mine : session.carried index = some before := by
    rw [Session.carried, there]
    exact had
  rw [same, ← number]
  refine ⟨hands.free index before mine, fun other item' different theirs again => ?_⟩
  exact different (hands.apart index before mine other item' theirs again).symm

/-- A call on the store is made by a request that then has nothing in its hands, or an item that
it has just taken out of its list. -/
theorem Hands.store (hands : session.Hands) {call : StoreCall}
    {next : call.Answer → Job Request.Result} {meanwhile : Job Request.Result}
    (there : session.jobs[index]? = some (.call (.store call) next meanwhile))
    (sound : session.backend.store.Sound)
    (unwrapped : Store.Unwrapped session.backend.store (session.step index now).backend.store)
    (takes : ∀ item, Request.carried (next (session.backend.store.perform now call).1) = some item →
      ∃ list, call = .deleteItem list item.id ∧ session.backend.store.Holds list item.id) :
    (session.step index now).Hands := by
  have backend : (session.step index now).backend.store =
      (session.backend.store.perform now call).2 := by
    rw [backend_step there]
    rfl
  rw [backend] at unwrapped
  refine hands.change (fun other different => carried_step_other different)
    (fun other item different carries => ?_) fun item carries => ?_
  · obtain ⟨free, used⟩ := hands.free other item carries
    rw [backend]
    refine ⟨sound.free_perform unwrapped free used fun mine same again => ?_, used.mono unwrapped.2⟩
    subst same
    have held : session.carried index = some mine := by
      rw [Session.carried, there]
      rfl
    exact different (hands.apart index mine held other item carries again).symm
  · rw [carried_step_self there] at carries
    obtain ⟨list, rfl, held⟩ := takes item carries
    rw [backend]
    refine ⟨⟨Store.free_deleteItem sound.unique held, ?_⟩, fun other item' _ theirs same => ?_⟩
    · rw [Store.nextItem_perform (by simp) (by simp)]
      obtain ⟨stored, ⟨found, there, member⟩, number⟩ := held
      exact number ▸ sound.itemNumbers list found there stored member
    · exact (hands.free other item' theirs).1 list (same ▸ held)

end Session

namespace Shift

/-- An event about the list is on its way to the worker, or a request has still to publish one. -/
def Out (bus : Bus) (owed : Nat → List Envelope) (place : ChannelId) (list : ListId) : Prop :=
  Names (bus.inTransit place) list ∨
    ∃ index topic, ⟨topic, .list list⟩ ∈ owed index ∧ place ∈ Pipeline.audience topic

/-- A worker is the one of its place in the pipeline, and at this task. -/
def Posted (batch place : Nat) : Option (Worker Call.interface) → Task → Prop
  | some worker, task => (Pipeline.crew batch)[place]? = some { worker with phase := .idle } ∧
      task.At place worker.phase
  | none, task => task = .free

/-- Each request publishes what it owes, each worker is at its task, and the index follows. -/
structure Steady (batch : Nat) (shift : Shift) (owed : Nat → List Envelope) (tasks : Nat → Task) :
    Prop where
  wired : Pipeline.Wired shift.session.backend.bus
  sound : shift.session.backend.store.Sound
  hands : shift.session.Hands
  duties : ∀ index, Duty (owed index) (shift.session.job index)
  posts : ∀ place, Posted batch place shift.workers[place]? (tasks place)
  noted : ∀ place, ∀ document ∈ (tasks place).held, (place, document) ∈ shift.made
  projected : Projected shift.session.backend.store shift.session.backend.index
    (Out shift.session.backend.bus owed) tasks shift.crossings

section

variable {batch index : Nat} {shift : Shift} {owed : Nat → List Envelope} {tasks : Nat → Task}
  {now : Timestamp} {job : Job Request.Result} {bus : Bus} {events : List Envelope}

/-- What a request comes to owe in addition is told of. -/
theorem told_owed (bus : Bus) (owed : Nat → List Envelope) (index : Nat) (events : List Envelope) :
    Pipeline.Told events (Out bus owed 1) (Out bus owed 2)
      (Out bus (Function.update owed index (events ++ owed index)) 1)
      (Out bus (Function.update owed index (events ++ owed index)) 2) := by
  have still (place k) (out : Out bus owed place k) :
      Out bus (Function.update owed index (events ++ owed index)) place k := by
    refine out.imp_right fun ⟨other, topic, member, hears⟩ => ⟨other, topic, ?_, hears⟩
    by_cases here : other = index
    · subst here
      rw [Function.update_self]
      exact List.mem_append_right _ member
    · rwa [Function.update_of_ne here]
  have more (place topic k) (member : ⟨topic, .list k⟩ ∈ events)
      (hears : place ∈ Pipeline.audience topic) :
      Out bus (Function.update owed index (events ++ owed index)) place k := by
    refine Or.inr ⟨index, topic, ?_, hears⟩
    rw [Function.update_self]
    exact List.mem_append_left _ member
  refine ⟨still 1, still 2, more 1, fun k member => more 2 _ k member (by decide), fun k out => ?_⟩
  rcases out with names | ⟨other, topic, member, hears⟩
  · exact Or.inl (Or.inl names)
  by_cases here : other = index
  · subst here
    rw [Function.update_self] at member
    rcases List.mem_append.mp member with new | old
    · cases topic <;> simp [Pipeline.audience] at hears
      exact Or.inr new
    · exact Or.inl (Or.inr ⟨other, topic, old, hears⟩)
  · rw [Function.update_of_ne here] at member
    exact Or.inl (Or.inr ⟨other, topic, member, hears⟩)

/-- A request has made a call, and everything else is as it was. -/
theorem Steady.served (steady : Steady batch shift owed tasks)
    (there : shift.session.jobs[index]? = some job)
    (wired : Pipeline.Wired (shift.session.step index now).backend.bus)
    (sound : (shift.session.step index now).backend.store.Sound)
    (hands : (shift.session.step index now).Hands)
    (duty : Duty events (job.step (Backend.treat now) shift.session.backend).1)
    (projected : Projected (shift.session.step index now).backend.store
      (shift.session.step index now).backend.index
      (Out (shift.session.step index now).backend.bus (Function.update owed index events)) tasks
      shift.crossings) :
    Steady batch { shift with session := shift.session.step index now }
      (Function.update owed index events) tasks := by
  refine ⟨wired, sound, hands, fun other => ?_, steady.posts, steady.noted, projected⟩
  by_cases here : other = index
  · subst here
    rw [Function.update_self, Session.job_step_self there]
    exact duty
  · rw [Function.update_of_ne here, Session.job_step_other here]
    exact steady.duties other

/-- A request has made a call that leaves the store and the index alone. -/
theorem Steady.passed (steady : Steady batch shift owed tasks) {rest : Job Request.Result}
    {after : Backend} (there : shift.session.jobs[index]? = some job)
    (step : job.step (Backend.treat now) shift.session.backend = (rest, after))
    (store : after.store = shift.session.backend.store)
    (documents : after.index = shift.session.backend.index) (wired : Pipeline.Wired after.bus)
    (saved : ∀ k, Out shift.session.backend.bus owed 1 k →
      Out after.bus (Function.update owed index events) 1 k ∨
        shift.session.backend.store.lists.get? k = none)
    (removed : ∀ k, Out shift.session.backend.bus owed 2 k ↔
      Out after.bus (Function.update owed index events) 2 k)
    (takes : ∀ item, Request.carried rest = some item →
      ∃ before, Request.carried job = some before ∧ before.id = item.id)
    (duty : Duty events rest) :
    ∃ owed', Steady batch { shift with session := shift.session.step index now } owed' tasks := by
  have backend : (shift.session.step index now).backend = _ := Session.backend_step there
  have same : (shift.session.step index now).backend.store = shift.session.backend.store := by
    rw [backend, step]
    exact store
  have hands := steady.hands.idle there same (by rw [step]; exact takes)
  have owes : Duty events (job.step (Backend.treat now) shift.session.backend).1 := by
    rw [step]
    exact duty
  rw [step] at backend
  refine ⟨_, steady.served there (backend ▸ wired) (same ▸ steady.sound) hands owes ?_⟩
  rw [backend, store, documents]
  refine steady.projected.retask (fun k due => ?_) (fun k => or_congr_left (removed k))
    (fun document member => ?_) steady.projected.fetched
  · rcases due with due | later
    · exact (saved k due).imp_left Or.inl
    · exact Or.inl (Or.inr later)
  · exact (steady.projected.saving document member).mono (fun k _ => saved k) fun k _ => id

/-- A request that makes a call on the store then owes the events about what it has changed. -/
theorem Steady.stored (steady : Steady batch shift owed tasks) {call : StoreCall}
    {next : call.Answer → Job Request.Result} {meanwhile : Job Request.Result}
    (there : shift.session.jobs[index]? = some (.call (.store call) next meanwhile))
    (uncounted : ∀ list count, call ≠ .setItemCount list count)
    (unwrapped : Store.Unwrapped shift.session.backend.store
      (shift.session.step index now).backend.store)
    (takes : ∀ item,
      Request.carried (next (shift.session.backend.store.perform now call).1) = some item →
        ∃ list, call = .deleteItem list item.id ∧ shift.session.backend.store.Holds list item.id)
    (duty : Duty (call.changes (shift.session.backend.store.perform now call).1 ++ owed index)
      (next (shift.session.backend.store.perform now call).1)) :
    ∃ owed', Steady batch { shift with session := shift.session.step index now } owed' tasks := by
  have backend : (shift.session.step index now).backend = { shift.session.backend with
      store := (shift.session.backend.store.perform now call).2 } := by
    rw [Session.backend_step there]
    rfl
  have free (item) (puts : call = .putItem item) (list) :
      ¬shift.session.backend.store.Holds list item.id := by
    subst puts
    have mine : shift.session.carried index = some item := by
      rw [Session.carried, there]
      rfl
    exact (steady.hands.free index item mine).1 list
  have hands := steady.hands.store there steady.sound unwrapped takes
  rw [backend] at unwrapped
  have announced := Store.announced_perform call unwrapped uncounted free
  refine ⟨_, steady.served there ?_ ?_ hands duty ?_⟩
  · rw [backend]
    exact steady.wired
  · rw [backend]
    exact steady.sound.perform now call unwrapped
  · rw [backend]
    exact steady.projected.change steady.sound unwrapped announced (told_owed _ _ _ _)

/-- When an event has been published it is on its way, and not owed any more. -/
theorem out_publish {event : Envelope} {backend : Backend} {rest : List Envelope}
    (delivered : Pipeline.Delivered [event] backend.bus.inTransit
      (backend.publish event).2.bus.inTransit)
    (covers : ∀ topic list, ⟨topic, .list list⟩ ∈ owed index ↔
      ⟨topic, .list list⟩ = event ∨ ⟨topic, .list list⟩ ∈ rest) {place : ChannelId}
    (inside : place < 4) (k : ListId) :
    Out backend.bus owed place k ↔
      Out (backend.publish event).2.bus (Function.update owed index rest) place k := by
  constructor
  · rintro (names | ⟨other, topic, member, hears⟩)
    · exact Or.inl (delivered.names inside names)
    by_cases here : other = index
    · subst here
      rcases (covers topic k).mp member with same | later
      · exact Or.inl (delivered.told inside (same ▸ List.mem_singleton_self _) hears)
      · exact Or.inr ⟨other, topic, by rwa [Function.update_self], hears⟩
    · exact Or.inr ⟨other, topic, by rwa [Function.update_of_ne here], hears⟩
  · rintro (⟨other, member, about⟩ | ⟨other, topic, member, hears⟩)
    · rcases (delivered place inside other).mp member with before | ⟨published, hears⟩
      · exact Or.inl ⟨other, before, about⟩
      · obtain rfl := List.mem_singleton.mp published
        obtain ⟨topic, payload⟩ := other
        cases payload with
        | empty => cases about
        | list list =>
          obtain rfl := Option.some.inj about
          exact Or.inr ⟨index, topic, (covers topic list).mpr (Or.inl rfl), hears⟩
    by_cases here : other = index
    · subst here
      rw [Function.update_self] at member
      exact Or.inr ⟨other, topic, (covers topic k).mpr (Or.inr member), hears⟩
    · rw [Function.update_of_ne here] at member
      exact Or.inr ⟨other, topic, member, hears⟩

/-- What is owed about a list that has only been updated can be forgotten but for that list. -/
theorem out_forget {list k : ListId} {place : ChannelId}
    (owes : owed index = [⟨.listUpdated, .list list⟩]) (out : Out bus owed place k) :
    Out bus (Function.update owed index []) place k ∨ k = list := by
  rcases out with names | ⟨other, topic, member, hears⟩
  · exact Or.inl (Or.inl names)
  by_cases here : other = index
  · subst here
    rw [owes, List.mem_singleton] at member
    cases member
    exact Or.inr rfl
  · exact Or.inl (Or.inr ⟨other, topic, by rwa [Function.update_of_ne here], hears⟩)

theorem out_forget_iff {list k : ListId} (owes : owed index = [⟨.listUpdated, .list list⟩]) :
    Out bus owed 2 k ↔ Out bus (Function.update owed index []) 2 k := by
  refine or_congr_right (exists_congr fun other => exists_congr fun topic => ?_)
  refine and_congr_left fun hears => ?_
  by_cases here : other = index
  · subst here
    rw [Function.update_self, owes]
    cases topic <;> simp [Pipeline.audience] at hears ⊢
  · rw [Function.update_of_ne here]

/-- The next thing that a request does is to tell of a move that was rolled back. -/
def tellsNext : Job Request.Result → Bool
  | .call (.tell (.moveRolledBack ..)) _ _ => true
  | _ => false

/-- A request that lifts an item out of its list has it in its hands and owes the event. -/
theorem Steady.lifted (steady : Steady batch shift owed tasks) {origin : ListId} {stored moved : Item}
    {fault failed : StorageFault → RequestFault} {missing : RequestFault}
    (there : shift.session.jobs[index]? =
      some (Request.lifting origin stored moved fault failed missing))
    (owes : owed index = []) (home : stored.list = origin) (same : moved.id = stored.id)
    (unwrapped : Store.Unwrapped shift.session.backend.store
      (shift.session.step index now).backend.store) :
    ∃ owed', Steady batch { shift with session := shift.session.step index now } owed' tasks := by
  by_cases held : shift.session.backend.store.Holds origin stored.id
  · have answer : (shift.session.backend.store.perform now (.deleteItem origin stored.id)).1 =
        .ok true := Store.perform_deleteItem_of_holds held
    refine steady.stored there (by simp) unwrapped (fun item carries => ?_) ?_
    · rw [answer] at carries
      obtain rfl : moved = item := Option.some.inj carries
      exact ⟨origin, by rw [same], same ▸ held⟩
    · rw [answer, owes]
      exact .placing origin stored moved failed home same
  · have answer : (shift.session.backend.store.perform now (.deleteItem origin stored.id)).1 =
        .ok false := by rw [Store.perform_deleteItem_of_not_holds held]
    refine steady.stored there (by simp) unwrapped (fun item carries => ?_) ?_
    · rw [answer] at carries
      cases carries
    · rw [answer, owes]
      exact Request.duty_failing missing

/-- A call of a request that leaves what it owes as it is, and the backend but for its notices. -/
theorem Steady.idle (steady : Steady batch shift owed tasks)
    (there : shift.session.jobs[index]? = some job) {rest : Job Request.Result}
    {notices : List Notice}
    (idle : job.step (Backend.treat now) shift.session.backend =
      (rest, { shift.session.backend with notices }))
    (takes : ∀ item, Request.carried rest = some item →
      ∃ before, Request.carried job = some before ∧ before.id = item.id)
    (duty : Duty (owed index) rest) :
    ∃ owed', Steady batch { shift with session := shift.session.step index now } owed' tasks := by
  have still : Function.update owed index (owed index) = owed := Function.update_eq_self index owed
  refine steady.passed there idle rfl rfl steady.wired (fun k due => ?_) (fun k => ?_) takes duty
  · rw [still]
    exact Or.inl due
  · rw [still]

/-- A request that has an item in its hands stores it, or comes to put it back. -/
theorem Steady.placed (steady : Steady batch shift owed tasks) {origin : ListId}
    {stored moved : Item} {failed : StorageFault → RequestFault}
    (there : shift.session.jobs[index]? = some (Request.placing origin stored moved failed))
    (owes : owed index = [⟨.listUpdated, .list origin⟩]) (home : stored.list = origin)
    (same : moved.id = stored.id)
    (unwrapped : Store.Unwrapped shift.session.backend.store
      (shift.session.step index now).backend.store) :
    ∃ owed', Steady batch { shift with session := shift.session.step index now } owed' tasks := by
  cases target : shift.session.backend.store.lists.get? moved.list with
  | some found =>
    have answer : (shift.session.backend.store.perform now (.putItem moved)).1 = .ok () := by
      simp only [Store.perform, target]
    refine steady.stored there (by simp) unwrapped (fun item carries => ?_) ?_
    · rw [answer] at carries
      cases carries
    · rw [answer, owes]
      exact Request.duty_placed
  | none =>
    have refused := shift.session.backend.store.perform_putItem_of_none now target
    refine steady.idle there (Session.step_idle refused) ?_ ?_
    · rintro item ⟨⟩
      exact ⟨moved, rfl, same⟩
    · rw [owes, ← home]
      exact .restoring stored _

/-- A request that has an item to put back finds that its list is gone as well, or the move is
rolled back. -/
theorem Steady.restored (steady : Steady batch shift owed tasks) {stored : Item}
    {failed : RequestFault}
    (there : shift.session.jobs[index]? = some (Request.restoring stored failed))
    (owes : owed index = [⟨.listUpdated, .list stored.list⟩])
    (kept : tellsNext ((shift.session.step index now).job index) = false) :
    ∃ owed', Steady batch { shift with session := shift.session.step index now } owed' tasks := by
  cases home : shift.session.backend.store.lists.get? stored.list with
  | some found =>
    have rolled : ((Request.restoring stored failed).step (Backend.treat now)
        shift.session.backend).1 = .call (.tell (.moveRolledBack stored.id stored.list))
          (fun _ => Request.failing failed) .stalled := by
      simp only [Request.restoring, Request.calling, Program.step, Backend.treat, Backend.perform,
        Store.perform, home]
    rw [Session.job_step_self there, rolled] at kept
    cases kept
  | none =>
    have refused := shift.session.backend.store.perform_putItem_of_none now home
    have step : (Request.restoring stored failed).step (Backend.treat now) shift.session.backend =
        (_, shift.session.backend) := Session.step_idle refused
    exact steady.passed there step rfl rfl steady.wired
      (fun k due => (out_forget owes due).imp_right fun same => by rw [same, home])
      (fun k => out_forget_iff owes) (fun _ carries => by cases carries)
      (.telling _ _ _ rfl (Request.duty_failing _))

/-- A request that publishes an event does not owe it any more. -/
theorem Steady.published (steady : Steady batch shift owed tasks) {event : Envelope}
    {rest : List Envelope} {next : Nat → Job Request.Result} {meanwhile : Job Request.Result}
    (there : shift.session.jobs[index]? = some (.call (.publish event) next meanwhile))
    (covers : ∀ topic list, ⟨topic, .list list⟩ ∈ owed index ↔
      ⟨topic, .list list⟩ = event ∨ ⟨topic, .list list⟩ ∈ rest)
    (empty : ∀ reached, Request.carried (next reached) = none)
    (later : ∀ reached, Duty rest (next reached))
    (undropped : (shift.session.step index now).backend.bus.dropped =
      shift.session.backend.bus.dropped) :
    ∃ owed', Steady batch { shift with session := shift.session.step index now } owed' tasks := by
  have backend : (shift.session.step index now).backend =
      (shift.session.backend.publish event).2 := Session.backend_step there
  rw [backend] at undropped
  obtain ⟨wired, delivered⟩ : Pipeline.Wired (shift.session.backend.publish event).2.bus ∧
      Pipeline.Delivered [event] shift.session.backend.bus.inTransit
        (shift.session.backend.publish event).2.bus.inTransit :=
    @Pipeline.Wired.delivered _ steady.wired [event] (Nat.le_succ 1) undropped
  refine steady.passed there rfl rfl rfl wired
    (fun k due => Or.inl ((out_publish delivered covers (by decide) k).mp due))
    (out_publish delivered covers (by decide)) (fun item carries => ?_) (later _)
  exact absurd ((empty _).symm.trans carries) nofun

/-- As long as no move is rolled back, no number wraps around and nothing is dropped, requests
publish what they change. -/
theorem Steady.request (steady : Steady batch shift owed tasks) (index : Nat) (now : Timestamp)
    (unwrapped : Store.Unwrapped shift.session.backend.store
      (shift.session.step index now).backend.store)
    (undropped : (shift.session.step index now).backend.bus.dropped =
      shift.session.backend.bus.dropped)
    (kept : tellsNext ((shift.session.step index now).job index) = false) :
    ∃ owed', Steady batch { shift with session := shift.session.step index now } owed' tasks := by
  cases there : shift.session.jobs[index]? with
  | none =>
    rw [Session.step_of_none there]
    exact ⟨owed, steady⟩
  | some job =>
    have duty := steady.duties index
    rw [Session.job, there, Option.getD_some] at duty
    generalize owes : owed index = events at duty
    cases duty with
    | done result => exact steady.idle there rfl (fun _ => nofun) (owes ▸ .done result)
    | telling notice next meanwhile empty later =>
      refine steady.idle there rfl (fun item carries => ?_) (owes ▸ later)
      exact absurd (empty.symm.trans carries) nofun
    | asking call next meanwhile plain empty later =>
      refine steady.stored there (fun list count same => ?_) unwrapped (fun item carries => ?_) ?_
      · subst same
        exact plain
      · rw [empty] at carries
        cases carries
      · rw [owes, List.append_nil]
        exact later _ (steady.sound.finds now call)
    | lifting origin stored moved fault failed missing home same =>
      exact steady.lifted there owes home same unwrapped
    | placing origin stored moved failed home same =>
      exact steady.placed there owes home same unwrapped
    | restoring stored failed => exact steady.restored there owes kept
    | publishing event _ rest next meanwhile covers empty later =>
      exact steady.published there (owes ▸ covers) empty later undropped

end

end Shift

end ListKeeper
