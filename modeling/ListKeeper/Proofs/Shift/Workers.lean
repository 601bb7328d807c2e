import ListKeeper.Proofs.Shift.Steady

namespace ListKeeper

namespace Task

variable {event : Envelope} {k : ListId} {place : Nat} {task : Task}

theorem saves_begun : (begun 1 event).Saves k ↔ event.payload.list? = some k := by
  cases about : event.payload.list? with
  | none => simp [begun, about, Saves]
  | some list => simp [begun, about, Saves, eq_comm]

theorem removes_begun : (begun 2 event).Removes k ↔ event.payload.list? = some k := by
  cases about : event.payload.list? with
  | none => simp [begun, about, Removes]
  | some list => simp [begun, about, Removes, eq_comm]

theorem held_begun (place : Nat) (event : Envelope) : (begun place event).held = [] := by
  match place with
  | 0 | 3 | _ + 4 => rfl
  | 1 | 2 => cases about : event.payload.list? <;> simp [begun, about, held]

/-- A worker whose work has come to an end has nothing to store or to remove for an event. -/
theorem At.of_result {rest : Job (Except ProjectionFault Unit)}
    (here : task.At place (.processing event rest)) {result : Except ProjectionFault Unit}
    (ended : Worker.result? rest = some result) : ¬task.Saves k ∧ ¬task.Removes k := by
  cases here with
  | loading | saving | removing => cases ended
  | ended | counting | fetching => exact ⟨nofun, nofun⟩

end Task

namespace Shift

open Projection

variable {callback : Callback} {batch place : Nat} {shift : Shift} {owed : Nat → List Envelope}
  {tasks : Nat → Task} {now : Timestamp} {worker : Worker Call.interface} {bus after : Bus}
  {k : ListId}

/-- An event that a worker takes is no longer on its way to it. -/
theorem out_take {event : Envelope} {id : ChannelId}
    (taken : Taken bus.inTransit after.inTransit id event) (place : ChannelId) :
    Out bus owed place k ↔ Out after owed place k ∨ place = id ∧ event.payload.list? = some k := by
  by_cases here : place = id
  · subst here
    simp only [Out, taken.first, names_cons, true_and]
    rw [or_comm (b := Names _ _), or_right_comm]
  · simp only [Out, taken.others place here, here, false_and, or_false]

theorem out_congr (same : after.inTransit place = bus.inTransit place) :
    Out after owed place k ↔ Out bus owed place k := by
  rw [Out, Out, same]

theorem mem_note_store (call : StoreCall) {entry : Nat × Document} (before : entry ∈ shift.made) :
    entry ∈ shift.note place (.store call) := by
  cases call with
  | loadList list => exact List.mem_append_right _ before
  | _ => exact before

/-- What one worker notes leaves alone what the others have made. -/
theorem mem_note {call : Call} {entry : Nat × Document} (different : entry.1 ≠ place)
    (before : entry ∈ shift.made) : entry ∈ shift.note place call := by
  cases call with
  | store call => exact mem_note_store call before
  | saveDocuments => exact List.mem_filter.mpr ⟨before, by simpa using different⟩
  | _ => exact before

/-- One worker has got on, and nothing has happened to the requests or to the other workers. -/
theorem Steady.moved (steady : Steady batch shift owed tasks) {backend : Backend}
    {phase : Phase Call.interface} {task : Task} {made : List (Nat × Document)}
    {crossings : Crossings}
    (there : shift.workers[place]? = some worker) (here : task.At place phase)
    (wired : Pipeline.Wired backend.bus) (sound : backend.store.Sound)
    (hands : Session.Hands { shift.session with backend })
    (noted : ∀ document ∈ task.held, (place, document) ∈ made)
    (others : ∀ entry ∈ shift.made, entry.1 ≠ place → entry ∈ made)
    (projected : Projected backend.store backend.index (Out backend.bus owed)
      (Function.update tasks place task) crossings) :
    Steady batch ⟨{ shift.session with backend }, shift.workers.set place { worker with phase },
      made, crossings⟩ owed (Function.update tasks place task) := by
  refine ⟨wired, sound, hands, steady.duties, fun other => ?_, fun other document member => ?_,
    projected⟩
  · by_cases self : other = place
    · subst self
      have post := steady.posts other
      rw [there] at post
      obtain ⟨inside, _⟩ := List.getElem?_eq_some_iff.mp there
      rw [Function.update_self, List.getElem?_set_self inside]
      exact ⟨post.1, here⟩
    · rw [Function.update_of_ne self, List.getElem?_set_ne (Ne.symm self)]
      exact steady.posts other
  · by_cases self : other = place
    · subst self
      rw [Function.update_self] at member
      exact noted document member
    · rw [Function.update_of_ne self] at member
      exact others _ (steady.noted other document member) self

section

variable {store : Store} {index : Index} {crossings : Crossings}

/-- An event comes into the hands of the worker that takes it. -/
theorem projected_take {id : ChannelId} {event : Envelope}
    (projected : Projected store index (Out bus owed) tasks crossings)
    (taken : Taken bus.inTransit after.inTransit id event) (idle : tasks id = .free) :
    Projected store index (Out after owed) (Function.update tasks id (.begun id event)) crossings := by
  have saves (k) : Out bus owed 1 k ∨ (tasks 1).Saves k ↔
      Out after owed 1 k ∨ (Function.update tasks id (.begun id event) 1).Saves k := by
    rw [out_take taken]
    by_cases here : 1 = id
    · subst here
      rw [idle, Function.update_self, Task.saves_begun]
      simp [Task.Saves]
    · rw [Function.update_of_ne here]
      simp [here]
  have removes (k) : Out bus owed 2 k ∨ (tasks 2).Removes k ↔
      Out after owed 2 k ∨ (Function.update tasks id (.begun id event) 2).Removes k := by
    rw [out_take taken]
    by_cases here : 2 = id
    · subst here
      rw [idle, Function.update_self, Task.removes_begun]
      simp [Task.Removes]
    · rw [Function.update_of_ne here]
      simp [here]
  have held {place document}  (member : document ∈ (Function.update tasks id (.begun id event) place).held) :
      place ≠ id ∧ document ∈ (tasks place).held := by
    by_cases here : place = id
    · subst here
      rw [Function.update_self, Task.held_begun] at member
      cases member
    · rw [Function.update_of_ne here] at member
      exact ⟨here, member⟩
  refine projected.retask (fun k due => Or.inl ((saves k).mp due)) removes
    (fun document member => ?_) fun document member => projected.fetched document (held member).2
  obtain ⟨elsewhere, member⟩ := held member
  refine (projected.saving document member).mono (fun k _ due => Or.inl ?_) fun k _ leaves => leaves
  exact (out_congr (taken.others 1 elsewhere)).mpr due

/-- A worker gets on with its task, and what it has made in addition is of lists that are stored. -/
theorem projected_progress {out : ChannelId → ListId → Prop}
    (projected : Projected store index out tasks crossings) (sound : store.Sound) {task : Task}
    (saves : ∀ k, (tasks place).Saves k → task.Saves k ∨ store.lists.get? k = none)
    (removes : ∀ k, (tasks place).Removes k ↔ task.Removes k)
    (made : ∀ document ∈ task.held, document ∈ (tasks place).held ∨
      ∃ k list, store.lists.get? k = some list ∧ document = Document.ofList list) :
    Projected store index out (Function.update tasks place task) crossings := by
  have held {other document} (member : document ∈ (Function.update tasks place task other).held) :
      document ∈ (tasks other).held ∨
        ∃ k list, store.lists.get? k = some list ∧ document = Document.ofList list := by
    by_cases here : other = place
    · subst here
      rw [Function.update_self] at member
      exact made document member
    · rw [Function.update_of_ne here] at member
      exact Or.inl member
  refine projected.retask (fun k => ?_) (fun k => or_congr_right ?_) (fun document member => ?_)
    fun document member => ?_
  · by_cases here : 1 = place
    · subst here
      rw [Function.update_self]
      rintro (due | due)
      · exact Or.inl (Or.inl due)
      · exact (saves k due).imp_left Or.inr
    · rw [Function.update_of_ne here]
      exact Or.inl
  · by_cases here : 2 = place
    · subst here
      rw [Function.update_self]
      exact removes k
    · rw [Function.update_of_ne here]
  · rcases held member with before | ⟨k, list, stored, rfl⟩
    · exact projected.saving document before
    · exact Document.fresh_ofList sound.keyed stored
  · rcases held member with before | ⟨k, list, stored, rfl⟩
    · exact projected.fetched document before
    · exact Document.fresh_ofList sound.keyed stored

end

/-- What is known of a worker. -/
theorem Steady.at_task (steady : Steady batch shift owed tasks)
    (there : shift.workers[place]? = some worker) :
    (Pipeline.crew batch)[place]? = some { worker with phase := .idle } ∧
      (tasks place).At place worker.phase := by
  have post := steady.posts place
  rwa [there] at post

theorem set_same (there : shift.workers[place]? = some worker) :
    shift.workers.set place worker = shift.workers := by
  obtain ⟨inside, rfl⟩ := List.getElem?_eq_some_iff.mp there
  exact List.set_getElem_self inside

theorem Steady.take (steady : Steady batch shift owed tasks) (callback : Callback) (place : Nat) :
    ∃ tasks', Steady batch (act callback shift (.take place)) owed tasks' := by
  cases there : shift.workers[place]? with
  | none =>
    simp only [act, there]
    exact ⟨tasks, steady⟩
  | some worker =>
    obtain ⟨crew, here⟩ := steady.at_task there
    have unchanged (same : worker.take shift.session.backend.bus =
        (worker, shift.session.backend.bus, [])) :
        ∃ tasks', Steady batch (act callback shift (.take place)) owed tasks' := by
      simp only [act, there, same, set_same there]
      exact ⟨tasks, steady⟩
    obtain ⟨handler, topics, id, phase⟩ := worker
    generalize begins : tasks place = task at here
    cases here with
    | ended | counting | loading | saving | removing | fetching => exact unchanged rfl
    | idle =>
      obtain ⟨rfl, inside, _⟩ := Task.at_begun crew default
      rcases steady.wired.recv inside with empty | ⟨event, bus, received, wired, taken⟩
      · refine unchanged ?_
        simp only [Worker.take, empty]
      · simp only [act, there, Worker.take, received]
        refine ⟨_, steady.moved there (Task.at_begun crew event).2.2 wired steady.sound
          ⟨steady.hands.free, steady.hands.apart⟩ (fun document member => ?_)
          (fun _ before _ => before) (projected_take steady.projected taken begins)⟩
        rw [Task.held_begun] at member
        cases member

/-- A worker that is done with its event becomes idle. -/
theorem Steady.finish (steady : Steady batch shift owed tasks) (callback : Callback) (place : Nat) :
    ∃ tasks', Steady batch (act callback shift (.finish place)) owed tasks' := by
  cases there : shift.workers[place]? with
  | none =>
    simp only [act, there]
    exact ⟨tasks, steady⟩
  | some worker =>
    obtain ⟨_, here⟩ := steady.at_task there
    have unchanged (same : (worker.finish callback).1 = worker) :
        ∃ tasks', Steady batch (act callback shift (.finish place)) owed tasks' := by
      simp only [act, there, same, set_same there]
      exact ⟨tasks, steady⟩
    obtain ⟨handler, topics, id, phase⟩ := worker
    cases phase with
    | idle | stopped => exact unchanged rfl
    | processing event rest =>
      cases ended : Worker.result? rest with
      | none =>
        refine unchanged ?_
        simp only [Worker.finish, ended]
      | some result =>
        have nothing (k) := here.of_result ended (k := k)
        simp only [act, there, Worker.finish, ended]
        refine ⟨_, steady.moved there (.idle place) steady.wired steady.sound steady.hands
          (fun _ => nofun) (fun _ before _ => before) ?_⟩
        exact projected_progress steady.projected steady.sound (fun k due => absurd due (nothing k).1)
          (fun k => iff_of_false (nothing k).2 nofun) fun _ => nofun

theorem Steady.drain (steady : Steady batch shift owed tasks) (callback : Callback) (task : Nat) :
    Steady batch (act callback shift (.drain task)) owed tasks := by
  obtain ⟨wired, transit⟩ := steady.wired.drainStep task
  have out {place k} (inside : place < 4) :
      Out (shift.session.backend.bus.drainStep task).2 owed place k ↔
        Out shift.session.backend.bus owed place k := out_congr (transit place inside)
  refine ⟨wired, steady.sound, ⟨steady.hands.free, steady.hands.apart⟩, steady.duties, steady.posts,
    steady.noted, ?_⟩
  refine steady.projected.retask (fun k due => Or.inl (due.imp_left (out (by decide)).mpr))
    (fun k => or_congr_left (out (by decide)).symm) (fun document member => ?_)
    steady.projected.fetched
  exact (steady.projected.saving document member).mono
    (fun k _ due => Or.inl ((out (by decide)).mpr due)) fun k _ leaves => leaves

section

variable {event : Envelope} {meanwhile : Job (Except ProjectionFault Unit)} {before task : Task}

/-- A worker makes a call that leaves the bus alone. -/
theorem Steady.called (steady : Steady batch shift owed tasks) {call : Call}
    {next : call.Answer → Job (Except ProjectionFault Unit)}
    (there : shift.workers[place]? = some worker)
    (working : worker.phase = .processing event (.call call next meanwhile))
    (here : task.At place (.processing event (next (shift.session.backend.perform now call).1)))
    (bus : (shift.session.backend.perform now call).2.bus = shift.session.backend.bus)
    (sound : (shift.session.backend.perform now call).2.store.Sound)
    (holds : ∀ list item, (shift.session.backend.perform now call).2.store.Holds list item ↔
      shift.session.backend.store.Holds list item)
    (numbers : (shift.session.backend.perform now call).2.store.nextItem =
      shift.session.backend.store.nextItem)
    (noted : ∀ document ∈ task.held, (place, document) ∈ shift.note place call)
    (projected : Projected (shift.session.backend.perform now call).2.store
      (shift.session.backend.perform now call).2.index (Out shift.session.backend.bus owed)
      (Function.update tasks place task) (shift.cross place call)) :
    ∃ tasks', Steady batch (shift.work place worker now) owed tasks' := by
  have hands : Session.Hands
      { shift.session with backend := (shift.session.backend.perform now call).2 } := by
    refine ⟨fun index item carries => ?_, steady.hands.apart⟩
    obtain ⟨free, used⟩ := steady.hands.free index item carries
    exact ⟨fun list => mt (holds list item.id).mp (free list), numbers ▸ used⟩
  simp only [work, working]
  refine ⟨_, steady.moved there here (bus ▸ steady.wired) sound hands noted
    (fun entry before different => mem_note different before) ?_⟩
  rw [bus]
  exact projected

/-- A worker makes a call that only reads the store. -/
theorem Steady.reads (steady : Steady batch shift owed tasks) {call : StoreCall}
    {next : call.Answer → Job (Except ProjectionFault Unit)}
    (there : shift.workers[place]? = some worker) (begins : tasks place = before)
    (working : worker.phase = .processing event (.call (.store call) next meanwhile))
    (reads : (shift.session.backend.store.perform now call).2 = shift.session.backend.store)
    (here : task.At place
      (.processing event (next (shift.session.backend.store.perform now call).1)))
    (saves : ∀ k, before.Saves k →
      task.Saves k ∨ shift.session.backend.store.lists.get? k = none)
    (removes : ∀ k, before.Removes k ↔ task.Removes k)
    (made : ∀ document ∈ task.held, document ∈ before.held ∨
      ∃ list found, call = .loadList list ∧
        shift.session.backend.store.lists.get? list = some found ∧
        document = Document.ofList found) :
    ∃ tasks', Steady batch (shift.work place worker now) owed tasks' := by
  subst begins
  have same : (shift.session.backend.perform now (.store call)).2 = shift.session.backend := by
    simp only [Backend.perform, reads]
  refine steady.called there working here ?_ ?_ (fun _ _ => ?_) ?_ (fun document member => ?_) ?_
  · rw [same]
  · rw [same]
    exact steady.sound
  · rw [same]
  · rw [same]
  · rcases made document member with before | ⟨list, found, rfl, stored, rfl⟩
    · exact mem_note_store call (steady.noted place document before)
    · rw [note, stored]
      exact List.mem_cons_self
  · rw [same]
    refine projected_progress steady.projected steady.sound saves removes fun document member => ?_
    refine (made document member).imp_right fun read => ?_
    obtain ⟨list, found, _, stored, same⟩ := read
    exact ⟨list, found, stored, same⟩

end

/-- A worker that makes a call stays on track. -/
theorem Steady.work (steady : Steady batch shift owed tasks)
    (there : shift.workers[place]? = some worker) (now : Timestamp) :
    ∃ tasks', Steady batch (shift.work place worker now) owed tasks' := by
  obtain ⟨_, here⟩ := steady.at_task there
  obtain ⟨handler, topics, id, phase⟩ := worker
  generalize begins : tasks place = task at here
  cases here with
  | idle | ended => exact ⟨tasks, steady⟩
  | counting event rest tallies =>
    cases tallies with
    | done => exact ⟨tasks, steady⟩
    | call call next meanwhile counts later =>
      match call, counts with
      | .countItems list, _ =>
        exact steady.reads there begins rfl rfl (.counting event _ (later _)) (fun _ => nofun)
          (fun _ => Iff.rfl) fun _ => nofun
      | .setItemCount list count, _ =>
        let after := (shift.session.backend.store.perform now (.setItemCount list count)).2
        have sound : after.Sound := steady.sound.recount
        have holds (other item) :
            after.Holds other item ↔ shift.session.backend.store.Holds other item :=
          exists_congr fun stored => and_congr_left fun _ => Store.has_setItemCount
        have numbers : after.nextItem = shift.session.backend.store.nextItem :=
          Store.nextItem_perform nofun nofun
        have projected : Projected after shift.session.backend.index
            (Out shift.session.backend.bus owed) tasks shift.crossings := steady.projected.recount
        refine steady.called there rfl (.counting event _ (later _)) rfl sound holds numbers
          (fun _ => nofun) ?_
        rw [← begins, Function.update_eq_self]
        exact projected
  | loading event list =>
    obtain ⟨next, meanwhile, course, here⟩ :=
      Task.at_loaded event list (shift.session.backend.store.lists.get? list)
    refine steady.reads there begins (congrArg (Phase.processing event) course) rfl here
      (fun k due => ?_) (fun k => ?_) fun document member => ?_
    · obtain rfl : k = list := due
      cases stored : shift.session.backend.store.lists.get? k with
      | none => exact Or.inr rfl
      | some found => exact Or.inl (steady.sound.keyed k found stored).symm
    · cases shift.session.backend.store.lists.get? list <;> exact Iff.rfl
    · cases stored : shift.session.backend.store.lists.get? list with
      | none =>
        rw [stored] at member
        cases member
      | some found =>
        rw [stored] at member
        exact Or.inr ⟨list, found, rfl, stored, List.mem_singleton.mp member⟩
  | saving event found =>
    refine steady.called there rfl (.ended 1 event _) rfl steady.sound
      (fun _ _ => Iff.rfl) rfl (fun _ => nofun) ?_
    refine steady.projected.saveOne begins (Function.update_self ..)
      (fun _ different => Function.update_of_ne different ..) fun document member => ?_
    exact List.mem_map_of_mem (List.mem_filter.mpr ⟨steady.noted 3 document member, decide_eq_true rfl⟩)
  | removing event list =>
    refine steady.called there rfl (.ended 2 event _) rfl steady.sound
      (fun _ _ => Iff.rfl) rfl (fun _ => nofun) ?_
    exact steady.projected.remove begins (Function.update_self ..)
      (fun _ different => Function.update_of_ne different ..)
      fun place document member => List.mem_map_of_mem (steady.noted place document member)
  | fetching event rest held fetches =>
    cases fetches with
    | done | failed | stalled => exact ⟨tasks, steady⟩
    | load _ list next meanwhile later fails =>
      refine steady.reads there begins rfl rfl (.fetching event _ _ (later _)) (fun _ => nofun)
        (fun _ => Iff.rfl) fun document member => ?_
      refine (List.mem_append.mp member).imp_right fun read => ?_
      obtain ⟨found, stored, rfl⟩ : ∃ found, _ ∧ _ = _ := by
        simpa using read
      exact ⟨list, found, rfl, stored, rfl⟩
    | ids _ after limit next meanwhile later =>
      exact steady.reads there begins rfl rfl (.fetching event _ _ (later _)) (fun _ => nofun)
        (fun _ => Iff.rfl) fun _ => Or.inl
    | save _ documents next meanwhile known later =>
      refine steady.called there rfl (.fetching event _ _ (later _)) rfl steady.sound
        (fun _ _ => Iff.rfl) rfl (fun _ => nofun) ?_
      exact steady.projected.saveMany (begins ▸ known) (Function.update_self ..)
        (fun _ different => Function.update_of_ne different ..)

end Shift

end ListKeeper
