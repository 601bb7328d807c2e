import ListKeeper.Proofs.Bus.Traffic
import ListKeeper.Proofs.Pipeline.Tracked

namespace ListKeeper

/-- The bus has the channels of the workers, in their order, and nothing has been taken down. -/
structure Pipeline.Wired (bus : Bus) : Prop where
  sound : bus.Sound
  registry : ∀ topic, (bus.registry topic).map Registration.channel = Pipeline.audience topic
  opened : ∀ id < 4, (bus.channel id).isOpen = true
  handle : bus.hasHandle = true

namespace Bus

theorem drops_le (bus : Bus) (canSpawn : Bool) (envelope : Envelope) (entries : List Registration) :
    Copy.drops (bus.copies canSpawn envelope entries) ≤ entries.length := by
  refine Nat.le_trans List.countP_le_length ?_
  rw [copies, List.length_zipWith]
  exact Nat.min_le_left ..

/-- What is offered without a drop is on its way to those who are registered, and to nobody else. -/
theorem Sound.mem_inTransit_publish {bus : Bus} (sound : bus.Sound) (canSpawn : Bool)
    (envelope : Envelope) {id : ChannelId} (opened : (bus.channel id).isOpen = true)
    (undropped : Copy.drops (bus.copies canSpawn envelope (bus.registry envelope.topic)) = 0)
    (event : Envelope) :
    event ∈ (bus.publish canSpawn envelope).2.inTransit id ↔
      event ∈ bus.inTransit id ∨
        event = envelope ∧ id ∈ (bus.registry envelope.topic).map Registration.channel := by
  have registered : (bus.registry envelope.topic).countP (fun entry => entry.channel = id) ≠ 0 ↔
      id ∈ (bus.registry envelope.topic).map Registration.channel := by
    rw [← Nat.pos_iff_ne_zero, List.countP_pos_iff, List.mem_map]
    simp
  rw [publish, sound.inTransit_offerAll canSpawn envelope (fun _ member => member) opened,
    List.mem_append, Copy.kept_of_drops (Copy.drops_forChannel undropped id), forChannel_copies, List.mem_replicate, registered,
    and_comm]

theorem inTransit_of_pending {bus : Bus} (quiet : bus.pending = 0) (id : ChannelId) :
    bus.inTransit id = [] := by
  obtain ⟨waiting, channels⟩ := Nat.add_eq_zero_iff.mp quiet
  obtain ⟨backlogs, tasks⟩ := Nat.add_eq_zero_iff.mp waiting
  have slots : (bus.channel id).slots = [] := by
    rw [channel, List.getD_eq_getElem?_getD]
    cases there : bus.channels[id]? with
    | none => rfl
    | some found =>
      have none := List.flatMap_eq_nil_iff.mp (List.length_eq_zero_iff.mp channels)
      exact none found (List.mem_of_getElem? there)
  have held : bus.held id = [] := by
    refine List.flatMap_eq_nil_iff.mpr fun task member => ?_
    have unheld := List.filter_eq_nil_iff.mp (List.length_eq_zero_iff.mp tasks) task member
    split
    · exact Option.toList_eq_nil_iff.mpr (by simpa using unheld)
    · rfl
  have queued : bus.queued id = [] := by
    unfold queued
    cases bus.backlogOf? id with
    | none => rfl
    | some backlog =>
      simp only [Option.elim_some, Bus.backlog, List.getD_eq_getElem?_getD]
      cases there : bus.backlogs[backlog]? with
      | none => rfl
      | some found =>
        have none := List.flatMap_eq_nil_iff.mp (List.length_eq_zero_iff.mp backlogs)
        exact none found (List.mem_of_getElem? there)
  rw [inTransit, slots, held, queued]
  rfl

end Bus

namespace Pipeline

theorem length_audience_le (topic : Topic) : (audience topic).length ≤ 2 := by
  cases topic <;> decide

theorem Wired.congr {bus after : Bus} (wired : Wired bus) (sound : after.Sound)
    (registry : after.registry = bus.registry)
    (opened : ∀ id, (after.channel id).isOpen = (bus.channel id).isOpen)
    (handle : after.hasHandle = bus.hasHandle) : Wired after where
  sound := sound
  registry topic := by rw [registry]; exact wired.registry topic
  opened id inside := (opened id).trans (wired.opened id inside)
  handle := handle.trans wired.handle

theorem Wired.publish {bus : Bus} (wired : Wired bus) (event : Envelope) :
    Wired (bus.publish true event).2 := by
  obtain ⟨registry, opened⟩ := bus.offerAll_frame true event (bus.registry event.topic)
  exact wired.congr (wired.sound.offerAll true event fun _ member => member) registry opened
    (bus.hasHandle_offerAll true event _)

theorem Wired.drainStep {bus : Bus} (wired : Wired bus) (index : Nat) :
    Wired (bus.drainStep index).2 ∧
      ∀ id < 4, (bus.drainStep index).2.inTransit id = bus.inTransit id := by
  have effect := bus.drainStep_drained index
  exact ⟨wired.congr (effect.sound wired.sound) effect.registry effect.isOpen effect.hasHandle,
    fun id inside => effect.inTransit wired.sound (wired.opened id inside)⟩

/-- A worker finds an event, or its channel is empty; it is never told to stop. -/
theorem Wired.recv {bus : Bus} (wired : Wired bus) {id : ChannelId} (inside : id < 4) :
    bus.recv id = (.empty, bus) ∨ ∃ event after, bus.recv id = (.envelope event, after) ∧
      Wired after ∧ Taken bus.inTransit after.inTransit id event := by
  have effect := bus.recv_handed id
  rcases received : bus.recv id with ⟨found, after⟩
  rw [received] at effect
  have stays : Wired after :=
    wired.congr (effect.sound wired.sound) effect.registry effect.isOpen effect.hasHandle
  have transit := effect.inTransit
  cases effect with
  | envelope event rest =>
    refine Or.inr ⟨event, _, rfl, stays, ?_, fun other different => ?_⟩
    · have first := transit id
      rwa [if_pos rfl] at first
    · have other := transit other
      rw [if_neg different] at other
      exact other.symm
  | empty => exact Or.inl rfl
  | disconnected _ _ senderless =>
    rw [Bus.hasSender, wired.handle] at senderless
    cases senderless
  | closed closed =>
    rw [wired.opened id inside] at closed
    cases closed

theorem Wired.publishAll {backend : Backend} (wired : Wired backend.bus) (events : List Envelope) :
    Wired (backend.publishAll events).bus ∧ ∃ drops ≤ 2 * events.length,
      (backend.publishAll events).bus.dropped = backend.bus.dropped + UInt64.ofNat drops ∧
        (drops = 0 → ∀ id < 4, ∀ event,
          event ∈ (backend.publishAll events).bus.inTransit id ↔
            event ∈ backend.bus.inTransit id ∨ event ∈ events ∧ id ∈ audience event.topic) := by
  induction events generalizing backend with
  | nil =>
    refine ⟨wired, 0, Nat.zero_le _, (UInt64.add_zero _).symm, fun _ id _ event => ?_⟩
    simp [Backend.publishAll]
  | cons first rest ih =>
    let middle : Backend := (backend.publish first).2
    obtain ⟨later, drops, bound, dropped, delivered⟩ :
        Wired (middle.publishAll rest).bus ∧ ∃ drops ≤ 2 * rest.length, _ ∧ (drops = 0 → _) :=
      ih (wired.publish first)
    let copies := backend.bus.copies true first (backend.bus.registry first.topic)
    have few : Copy.drops copies ≤ 2 := by
      refine Nat.le_trans (backend.bus.drops_le true first _) ?_
      rw [← List.length_map Registration.channel, wired.registry]
      exact length_audience_le first.topic
    have counted : middle.bus.dropped = backend.bus.dropped + UInt64.ofNat (Copy.drops copies) :=
      backend.bus.dropped_offerAll true first _
    refine ⟨later, Copy.drops copies + drops, ?_, ?_, fun none id inside event => ?_⟩
    · rw [List.length_cons]
      omega
    · rw [UInt64.ofNat_add, ← UInt64.add_assoc, ← counted]
      exact dropped
    · obtain ⟨undropped, rest_undropped⟩ := Nat.add_eq_zero_iff.mp none
      have published := wired.sound.mem_inTransit_publish true first (wired.opened id inside)
        undropped event
      rw [wired.registry] at published
      rw [List.mem_cons, or_and_right, ← or_assoc]
      refine (delivered rest_undropped id inside event).trans (or_congr_left ?_)
      refine published.trans (or_congr_right (and_congr_right fun same => ?_))
      rw [same]

/-- Events of which none is dropped reach their audience. -/
theorem Wired.delivered {backend : Backend} (wired : Wired backend.bus) {events : List Envelope}
    (few : events.length ≤ 2)
    (undropped : (backend.publishAll events).bus.dropped = backend.bus.dropped) :
    Wired (backend.publishAll events).bus ∧
      Delivered events backend.bus.inTransit (backend.publishAll events).bus.inTransit := by
  obtain ⟨stays, drops, bound, dropped, delivered⟩ := wired.publishAll events
  refine ⟨stays, delivered ?_⟩
  have same : backend.bus.dropped + UInt64.ofNat drops = backend.bus.dropped + 0 :=
    dropped.symm.trans (undropped.trans (UInt64.add_zero _).symm)
  have value := congrArg UInt64.toNat ((UInt64.add_right_inj _).mp same)
  rw [UInt64.toNat_ofNat'] at value
  change drops % 2 ^ 64 = 0 at value
  omega

end Pipeline

end ListKeeper
