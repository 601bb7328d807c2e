import ListKeeper.Proofs.Bus.Transit

namespace ListKeeper

/-- What can happen to a bus. -/
inductive Bus.Action where
  | subscribe (topic : Topic) (channel : ChannelId)
  | publish (canSpawn : Bool) (envelope : Envelope)
  | recv (channel : ChannelId)
  /-- One step of the drain task at an index. -/
  | drain (index : Nat)
  /-- The end of a receiver. -/
  | close (channel : ChannelId)
  deriving DecidableEq

/-- A copy of an envelope that was offered to a channel, and what became of it. -/
structure Copy where
  channel : ChannelId
  envelope : Envelope
  outcome : Offer

namespace Bus

/-- A new bus with a channel of each of the given capacities. -/
def withChannels (maxInflight : Nat) (capacities : List Nat) : Bus :=
  capacities.foldl (fun bus capacity => (bus.openChannel capacity).2) (Bus.new maxInflight)

def act (bus : Bus) : Action → Bus
  | .subscribe topic channel => bus.subscribe topic channel
  | .publish canSpawn envelope => (bus.publish canSpawn envelope).2
  | .recv channel => (bus.recv channel).2
  | .drain index => (bus.drainStep index).2
  | .close channel => bus.close channel

/-- The copies of an envelope that are offered to the given registrations, in order. -/
def copies (bus : Bus) (canSpawn : Bool) (envelope : Envelope) (entries : List Registration) :
    List Copy :=
  List.zipWith (fun entry offer => ⟨entry.channel, envelope, offer⟩) entries
    (bus.offerAll canSpawn envelope entries).1

def run (bus : Bus) (actions : List Action) : Bus :=
  actions.foldl act bus

def offeredBy (bus : Bus) : Action → List Copy
  | .publish canSpawn envelope => bus.copies canSpawn envelope (bus.registry envelope.topic)
  | _ => []

/-- What an action brings to the receiver of a channel. -/
def receivedBy (bus : Bus) (id : ChannelId) : Action → List Envelope
  | .recv channel => if id = channel then (bus.recv channel).1.toList else []
  | _ => []

def offered (bus : Bus) : List Action → List Copy
  | [] => []
  | action :: rest => bus.offeredBy action ++ (bus.act action).offered rest

/-- What a run brings to the receiver of a channel, in order. -/
def received (bus : Bus) (id : ChannelId) : List Action → List Envelope
  | [] => []
  | action :: rest => bus.receivedBy id action ++ (bus.act action).received id rest

/-- What the publications of a run mean for a channel: a copy for each earlier subscription of the
channel to the topic. -/
def addressed (id : ChannelId) : (earlier : List Action) → List Action → List Envelope
  | _, [] => []
  | earlier, .publish canSpawn envelope :: rest =>
    List.replicate (earlier.count (.subscribe envelope.topic id)) envelope ++
      addressed id (earlier ++ [.publish canSpawn envelope]) rest
  | earlier, action :: rest => addressed id (earlier ++ [action]) rest

end Bus

def Copy.forChannel (id : ChannelId) (copies : List Copy) : List Copy :=
  copies.filter fun copy => copy.channel = id

/-- The envelopes of the copies that were not dropped. -/
def Copy.kept (copies : List Copy) : List Envelope :=
  (copies.filter fun copy => !copy.outcome.isDropped).map Copy.envelope

def Copy.drops (copies : List Copy) : Nat :=
  copies.countP fun copy => copy.outcome.isDropped

theorem Copy.drops_cons (copy : Copy) (rest : List Copy) :
    Copy.drops (copy :: rest) = Copy.drops rest + if copy.outcome.isDropped then 1 else 0 :=
  List.countP_cons

theorem Copy.drops_append (first second : List Copy) :
    Copy.drops (first ++ second) = Copy.drops first + Copy.drops second :=
  List.countP_append

theorem Copy.forChannel_append (id : ChannelId) (first second : List Copy) :
    Copy.forChannel id (first ++ second) = Copy.forChannel id first ++ Copy.forChannel id second :=
  List.filter_append ..

theorem Copy.kept_append (first second : List Copy) :
    Copy.kept (first ++ second) = Copy.kept first ++ Copy.kept second := by
  rw [Copy.kept, List.filter_append, List.map_append, Copy.kept, Copy.kept]

theorem Copy.kept_of_drops {copies : List Copy} (undropped : Copy.drops copies = 0) :
    Copy.kept copies = copies.map Copy.envelope := by
  have kept (copy) (member : copy ∈ copies) : (!copy.outcome.isDropped) = true := by
    have none := List.countP_eq_zero.mp undropped copy member
    simpa using none
  rw [Copy.kept, List.filter_eq_self.mpr kept]

theorem Copy.drops_forChannel {copies : List Copy} (undropped : Copy.drops copies = 0)
    (id : ChannelId) : Copy.drops (Copy.forChannel id copies) = 0 := by
  rw [drops, List.countP_eq_zero] at undropped ⊢
  exact fun copy member => undropped copy (List.mem_of_mem_filter member)

namespace Bus

section

variable {bus : Bus}

theorem offerAll_cons (bus : Bus) (canSpawn : Bool) (envelope : Envelope) (entry : Registration)
    (rest : List Registration) :
    bus.offerAll canSpawn envelope (entry :: rest) =
      ((bus.offer canSpawn entry envelope).1 ::
          ((bus.offer canSpawn entry envelope).2.offerAll canSpawn envelope rest).1,
        ((bus.offer canSpawn entry envelope).2.offerAll canSpawn envelope rest).2) := rfl

theorem copies_cons (bus : Bus) (canSpawn : Bool) (envelope : Envelope) (entry : Registration)
    (rest : List Registration) :
    bus.copies canSpawn envelope (entry :: rest) =
      ⟨entry.channel, envelope, (bus.offer canSpawn entry envelope).1⟩ ::
        (bus.offer canSpawn entry envelope).2.copies canSpawn envelope rest := rfl

theorem offerAll_frame (bus : Bus) (canSpawn : Bool) (envelope : Envelope)
    (entries : List Registration) :
    (bus.offerAll canSpawn envelope entries).2.registry = bus.registry ∧
      ∀ id, ((bus.offerAll canSpawn envelope entries).2.channel id).isOpen =
        (bus.channel id).isOpen := by
  induction entries generalizing bus with
  | nil => exact ⟨rfl, fun _ => rfl⟩
  | cons entry rest ih =>
    have first := bus.offer_offered canSpawn entry envelope
    obtain ⟨registry, opened⟩ := ih (bus.offer canSpawn entry envelope).2
    rw [offerAll_cons]
    exact ⟨registry.trans first.registry, fun id => (opened id).trans (first.isOpen id)⟩

theorem hasHandle_offerAll (bus : Bus) (canSpawn : Bool) (envelope : Envelope)
    (entries : List Registration) :
    (bus.offerAll canSpawn envelope entries).2.hasHandle = bus.hasHandle := by
  induction entries generalizing bus with
  | nil => rfl
  | cons entry rest ih =>
    have first := bus.offer_offered canSpawn entry envelope
    rw [offerAll_cons, ih, first.hasHandle]

theorem Sound.offerAll (sound : bus.Sound) (canSpawn : Bool) (envelope : Envelope) {topic : Topic}
    {entries : List Registration} (registered : ∀ entry ∈ entries, entry ∈ bus.registry topic) :
    (bus.offerAll canSpawn envelope entries).2.Sound := by
  induction entries generalizing bus with
  | nil => exact sound
  | cons entry rest ih =>
    have effect := bus.offer_offered canSpawn entry envelope
    rw [offerAll_cons]
    refine ih (effect.sound sound (registered entry (List.mem_cons_self ..))) fun other member => ?_
    rw [effect.registry]
    exact registered other (List.mem_cons_of_mem _ member)

/-- Of the copies offered one after the other, those for an open channel that are not dropped join
the envelopes on their way to it. -/
theorem Sound.inTransit_offerAll (sound : bus.Sound) (canSpawn : Bool) (envelope : Envelope)
    {topic : Topic} {entries : List Registration}
    (registered : ∀ entry ∈ entries, entry ∈ bus.registry topic) {id : ChannelId}
    (opened : (bus.channel id).isOpen = true) :
    (bus.offerAll canSpawn envelope entries).2.inTransit id =
      bus.inTransit id ++ Copy.kept (Copy.forChannel id (bus.copies canSpawn envelope entries)) := by
  induction entries generalizing bus with
  | nil => exact (List.append_nil _).symm
  | cons entry rest ih =>
    have effect := bus.offer_offered canSpawn entry envelope
    have member := registered entry (List.mem_cons_self ..)
    have later : ∀ other ∈ rest, other ∈ (bus.offer canSpawn entry envelope).2.registry topic := by
      intro other inRest
      rw [effect.registry]
      exact registered other (List.mem_cons_of_mem _ inRest)
    have opened' := (effect.isOpen id).trans opened
    rw [offerAll_cons, ih (effect.sound sound member) later opened', effect.inTransit sound member opened,
      copies_cons, List.append_assoc]
    congr 1
    by_cases same : entry.channel = id
    · cases dropped : (bus.offer canSpawn entry envelope).1.isDropped <;>
        simp [Copy.forChannel, Copy.kept, same, dropped]
    · simp [Copy.forChannel, same, Ne.symm same]

theorem dropped_offerAll (bus : Bus) (canSpawn : Bool) (envelope : Envelope)
    (entries : List Registration) :
    (bus.offerAll canSpawn envelope entries).2.dropped =
      bus.dropped + UInt64.ofNat (Copy.drops (bus.copies canSpawn envelope entries)) := by
  induction entries generalizing bus with
  | nil => exact (UInt64.add_zero _).symm
  | cons entry rest ih =>
    have first := (bus.offer_offered canSpawn entry envelope).dropped_eq
    rw [offerAll_cons, ih, first, copies_cons, Copy.drops_cons, UInt64.add_assoc]
    congr 1
    cases (bus.offer canSpawn entry envelope).1.isDropped with
    | false => exact UInt64.zero_add _
    | true => rw [UInt64.ofNat_add]; exact UInt64.add_comm ..

theorem forChannel_copies (bus : Bus) (canSpawn : Bool) (envelope : Envelope)
    (entries : List Registration) (id : ChannelId) :
    (Copy.forChannel id (bus.copies canSpawn envelope entries)).map Copy.envelope =
      List.replicate (entries.countP fun entry => entry.channel = id) envelope := by
  induction entries generalizing bus with
  | nil => rfl
  | cons entry rest ih =>
    have later := ih (bus.offer canSpawn entry envelope).2
    rw [Copy.forChannel] at later
    rw [copies_cons, Copy.forChannel, List.countP_cons, List.filter_cons]
    by_cases same : entry.channel = id
    · simp only [same, decide_true, if_true, List.map_cons, later, List.replicate_succ]
    · simp only [same, decide_false, Bool.false_eq_true, if_false, later, Nat.add_zero]

theorem Sound.act (sound : bus.Sound) (action : Action) : (bus.act action).Sound := by
  cases action with
  | subscribe topic channel => exact sound.subscribe topic channel
  | publish canSpawn envelope => exact sound.offerAll canSpawn envelope fun _ member => member
  | recv channel => exact (bus.recv_handed channel).sound sound
  | drain index => exact (bus.drainStep_drained index).sound sound
  | close channel => exact sound.congr rfl rfl rfl

theorem isOpen_of_isOpen_act {action : Action} {id : ChannelId}
    (opened : ((bus.act action).channel id).isOpen = true) : (bus.channel id).isOpen = true := by
  cases action with
  | subscribe topic channel =>
    have same : (bus.subscribe topic channel).channel id = bus.channel id := by
      unfold Bus.subscribe
      split <;> rfl
    rwa [act, same] at opened
  | publish canSpawn envelope =>
    rwa [act, publish, (bus.offerAll_frame canSpawn envelope _).2 id] at opened
  | recv channel => rwa [act, (bus.recv_handed channel).isOpen id] at opened
  | drain index => rwa [act, (bus.drainStep_drained index).isOpen id] at opened
  | close channel =>
    rw [act, close, channel_modifyChannel] at opened
    split at opened
    · cases opened
    · exact opened

/-- What is on its way to a receiver before an action and what the action adds is what the action
brings to the receiver and what is on its way afterwards. -/
theorem Sound.inTransit_act (sound : bus.Sound) {action : Action} {id : ChannelId}
    (opened : ((bus.act action).channel id).isOpen = true) :
    bus.inTransit id ++ Copy.kept (Copy.forChannel id (bus.offeredBy action)) =
      bus.receivedBy id action ++ (bus.act action).inTransit id := by
  have before := isOpen_of_isOpen_act opened
  cases action with
  | subscribe topic channel =>
    exact (List.append_nil _).trans (sound.inTransit_subscribe topic channel id).symm
  | publish canSpawn envelope =>
    exact (sound.inTransit_offerAll canSpawn envelope (fun _ member => member) before).symm
  | recv channel => exact (List.append_nil _).trans ((bus.recv_handed channel).inTransit id)
  | drain index =>
    exact (List.append_nil _).trans ((bus.drainStep_drained index).inTransit sound before).symm
  | close channel =>
    have different : id ≠ channel := by
      rintro rfl
      rw [Bus.act, close, channel_modifyChannel, if_pos ⟨rfl, lt_of_isOpen before⟩] at opened
      cases opened
    exact (List.append_nil _).trans (inTransit_close channel different).symm

theorem dropped_act (bus : Bus) (action : Action) :
    (bus.act action).dropped = bus.dropped + UInt64.ofNat (Copy.drops (bus.offeredBy action)) := by
  cases action with
  | subscribe topic channel =>
    have same : (bus.subscribe topic channel).dropped = bus.dropped := by
      unfold Bus.subscribe
      split <;> rfl
    exact same.trans (UInt64.add_zero _).symm
  | publish canSpawn envelope => exact bus.dropped_offerAll canSpawn envelope _
  | recv channel =>
    have same : (bus.recv channel).2.dropped = bus.dropped := (bus.recv_handed channel).dropped_eq
    exact same.trans (UInt64.add_zero _).symm
  | drain index =>
    have same : (bus.drainStep index).2.dropped = bus.dropped :=
      (bus.drainStep_drained index).dropped_eq
    exact same.trans (UInt64.add_zero _).symm
  | close channel => exact (UInt64.add_zero _).symm

/-- Only a subscription adds a registration, at its own channel and topic. -/
theorem countP_registry_act (bus : Bus) (action : Action) (topic : Topic) (id : ChannelId) :
    ((bus.act action).registry topic).countP (fun entry => entry.channel = id) =
      (bus.registry topic).countP (fun entry => entry.channel = id) +
        [action].count (.subscribe topic id) := by
  cases action with
  | subscribe topic' channel =>
    rw [act, registry_subscribe, List.countP_append]
    by_cases same : topic = topic'
    · subst same
      by_cases here : channel = id <;> simp [here]
    · simp [same, Ne.symm same]
  | publish canSpawn envelope =>
    rw [act, publish, (bus.offerAll_frame canSpawn envelope _).1]
    rfl
  | recv channel => rw [act, (bus.recv_handed channel).registry]; rfl
  | drain index => rw [act, (bus.drainStep_drained index).registry]; rfl
  | close channel => rfl

theorem hasHandle_act (bus : Bus) (action : Action) : (bus.act action).hasHandle = bus.hasHandle := by
  cases action with
  | subscribe topic channel => exact (bus.subscribe_frame topic channel).2.2
  | publish canSpawn envelope => exact bus.hasHandle_offerAll canSpawn envelope _
  | recv channel => exact (bus.recv_handed channel).hasHandle
  | drain index => exact (bus.drainStep_drained index).hasHandle
  | close channel => rfl

theorem received_append (bus : Bus) (id : ChannelId) (first second : List Action) :
    bus.received id (first ++ second) =
      bus.received id first ++ (bus.run first).received id second := by
  induction first generalizing bus with
  | nil => rfl
  | cons action rest ih =>
    rw [List.cons_append, received, received, ih, List.append_assoc]
    rfl

theorem Sound.run (sound : bus.Sound) (actions : List Action) : (bus.run actions).Sound := by
  induction actions generalizing bus with
  | nil => exact sound
  | cons action rest ih => exact ih (sound.act action)

theorem isOpen_of_isOpen_run {actions : List Action} {id : ChannelId}
    (opened : ((bus.run actions).channel id).isOpen = true) : (bus.channel id).isOpen = true := by
  induction actions generalizing bus with
  | nil => exact opened
  | cons action rest ih => exact isOpen_of_isOpen_act (ih opened)

/-- What was on its way to a receiver at the start of a run and the kept copies of the run are, in
this order, what the run brings to the receiver and what is on its way at the end. -/
theorem Sound.inTransit_run (sound : bus.Sound) {actions : List Action} {id : ChannelId}
    (opened : ((bus.run actions).channel id).isOpen = true) :
    bus.inTransit id ++ Copy.kept (Copy.forChannel id (bus.offered actions)) =
      bus.received id actions ++ (bus.run actions).inTransit id := by
  induction actions generalizing bus with
  | nil => exact List.append_nil _
  | cons action rest ih =>
    have first := sound.inTransit_act (isOpen_of_isOpen_run opened)
    have later := ih (sound.act action) opened
    calc bus.inTransit id ++ Copy.kept (Copy.forChannel id (bus.offered (action :: rest)))
      _ = bus.inTransit id ++ Copy.kept (Copy.forChannel id (bus.offeredBy action)) ++
            Copy.kept (Copy.forChannel id ((bus.act action).offered rest)) := by
          rw [offered, Copy.forChannel_append, Copy.kept_append, List.append_assoc]
      _ = bus.receivedBy id action ++ ((bus.act action).received id rest ++
            ((bus.act action).run rest).inTransit id) := by
          rw [first, List.append_assoc, later]
      _ = bus.received id (action :: rest) ++ (bus.run (action :: rest)).inTransit id := by
          rw [received, List.append_assoc]
          rfl

theorem dropped_run (bus : Bus) (actions : List Action) :
    (bus.run actions).dropped = bus.dropped + UInt64.ofNat (Copy.drops (bus.offered actions)) := by
  induction actions generalizing bus with
  | nil => exact (UInt64.add_zero _).symm
  | cons action rest ih =>
    have later := ih (bus.act action)
    rw [dropped_act, UInt64.add_assoc, ← UInt64.ofNat_add, ← Copy.drops_append] at later
    exact later

/-- The copies that a run offers to a channel are those that its publications address to it. -/
theorem forChannel_offered {earlier : List Action} {id : ChannelId}
    (counted : ∀ topic, (bus.registry topic).countP (fun entry => entry.channel = id) =
      earlier.count (.subscribe topic id)) (actions : List Action) :
    (Copy.forChannel id (bus.offered actions)).map Copy.envelope = addressed id earlier actions := by
  induction actions generalizing bus earlier with
  | nil => rfl
  | cons action rest ih =>
    have counted' : ∀ topic, ((bus.act action).registry topic).countP (fun entry => entry.channel = id) =
        (earlier ++ [action]).count (.subscribe topic id) := by
      intro topic
      rw [countP_registry_act, counted topic, List.count_append]
    rw [offered, Copy.forChannel_append, List.map_append, ih counted']
    cases action with
    | publish canSpawn envelope => rw [offeredBy, forChannel_copies, counted, addressed]
    | subscribe => rfl
    | recv => rfl
    | drain => rfl
    | close => rfl

theorem channel_openChannel (bus : Bus) (capacity : Nat) (id : ChannelId) :
    (bus.openChannel capacity).2.channel id =
      if id = bus.channels.length then ⟨capacity, [], true⟩ else bus.channel id := by
  simp only [openChannel, channel, List.getD_eq_getElem?_getD, List.getElem?_append]
  split
  next inside => rw [if_neg (Nat.ne_of_lt inside)]
  next outside =>
    split
    next last => simp [last]
    next beyond =>
      have above : bus.channels.length < id := Nat.lt_of_le_of_ne (Nat.le_of_not_lt outside) (Ne.symm beyond)
      rw [List.getElem?_eq_none (Nat.le_of_not_lt outside), List.getElem?_eq_none]
      rw [List.length_singleton]
      exact Nat.le_sub_of_add_le' above

theorem withChannels_eq (maxInflight : Nat) (capacities : List Nat) :
    withChannels maxInflight capacities =
      { Bus.new maxInflight with channels := capacities.map fun capacity => ⟨capacity, [], true⟩ } := by
  have extend (bus : Bus) : capacities.foldl (fun bus capacity => (bus.openChannel capacity).2) bus =
      { bus with channels := bus.channels ++ capacities.map fun capacity => ⟨capacity, [], true⟩ } := by
    induction capacities generalizing bus with
    | nil => rw [List.map_nil, List.append_nil]; rfl
    | cons capacity rest ih =>
      rw [List.foldl_cons, ih, List.map_cons, openChannel, List.append_assoc]
      rfl
  exact extend _

theorem sound_withChannels (maxInflight : Nat) (capacities : List Nat) :
    (withChannels maxInflight capacities).Sound := by
  rw [withChannels_eq]
  exact (sound_new maxInflight).congr rfl rfl rfl

theorem inTransit_withChannels (maxInflight : Nat) (capacities : List Nat) (id : ChannelId) :
    (withChannels maxInflight capacities).inTransit id = [] := by
  have slots : ((withChannels maxInflight capacities).channel id).slots = [] := by
    rw [withChannels_eq, channel, List.getD_eq_getElem?_getD, List.getElem?_map]
    cases capacities[id]? <;> rfl
  rw [inTransit, slots, withChannels_eq]
  rfl

/-- In any run of a new bus, what the receiver of a channel has got, what is in the channel, what
its drain task holds and what is in its backlog are together the copies that were offered to the
channel, in the order of their publication and without those that were dropped; each publication
offers one copy for each earlier subscription of the channel to its topic; and the dropped copies
have all been counted. The receiver must not have been given up. -/
theorem received_in_order (maxInflight : Nat) (capacities : List Nat) (actions : List Action)
    (id : ChannelId)
    (opened : (((withChannels maxInflight capacities).run actions).channel id).isOpen = true) :
    let start := withChannels maxInflight capacities
    let bus := start.run actions
    let copies := start.offered actions
    start.received id actions ++ (bus.channel id).slots ++ bus.held id ++ bus.queued id =
        Copy.kept (Copy.forChannel id copies) ∧
      (bus.held id).length ≤ 1 ∧
      (Copy.forChannel id copies).map Copy.envelope = addressed id [] actions ∧
      (Copy.drops copies < 2 ^ 64 → bus.dropped.toNat = Copy.drops copies) := by
  intro start bus copies
  have sound : start.Sound := sound_withChannels maxInflight capacities
  refine ⟨?_, ?_, ?_, ?_⟩
  · have balance := sound.inTransit_run opened
    rw [inTransit_withChannels, List.nil_append] at balance
    rw [List.append_assoc, List.append_assoc, ← List.append_assoc (bus.channel id).slots]
    exact balance.symm
  · exact (sound.run actions).length_held_le_one id
  · refine forChannel_offered (fun topic => ?_) actions
    rw [show start = _ from withChannels_eq maxInflight capacities]
    rfl
  · intro bound
    have counted := start.dropped_run actions
    rw [show start.dropped = 0 from by rw [show start = _ from withChannels_eq ..]; rfl,
      UInt64.zero_add] at counted
    rw [counted, UInt64.toNat_ofNat']
    exact Nat.mod_eq_of_lt bound

/-- A channel of one slot, registered three times, on a bus where one envelope may wait: the copy
of the second event is dropped, and the one of the third arrives behind those of the first. -/
theorem received_in_order_behind_drop :
    let first : Envelope := ⟨.listUpdated, .list ⟨1⟩⟩
    let third : Envelope := ⟨.listCreated, .list ⟨3⟩⟩
    let start := withChannels 1 [1, 2]
    let actions : List Action := [.subscribe .listUpdated 0, .subscribe .listCreated 0,
      .subscribe .listUpdated 1, .subscribe .listUpdated 0, .publish true first,
      .publish true ⟨.listCreated, .list ⟨2⟩⟩, .drain 0, .recv 0, .drain 0, .publish false third,
      .close 1]
    let bus := start.run actions
    (bus.channel 0).isOpen = true ∧
      start.received 0 actions ++ (bus.channel 0).slots ++ bus.held 0 ++ bus.queued 0 =
        [first, first, third] ∧
      bus.dropped.toNat = 1 := by
  intro first third start actions bus
  have opened : (bus.channel 0).isOpen = true := by decide
  obtain ⟨order, _, _, counted⟩ := received_in_order 1 [1, 2] actions 0 opened
  exact ⟨opened, order.trans (by decide), (counted (by decide)).trans (by decide)⟩

end

end Bus

end ListKeeper
