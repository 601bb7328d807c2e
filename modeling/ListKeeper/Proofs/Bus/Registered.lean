import ListKeeper.Proofs.Bus.Traffic

namespace ListKeeper.Bus

/-- The backlog of the first registration of a channel, when the topics are gone through in the
given order. -/
def backlogAmong? (bus : Bus) (order : List Topic) (channel : ChannelId) : Option BacklogId :=
  ((order.flatMap bus.registry).find? fun entry => entry.channel == channel).map
    Registration.backlog

/-- Registers a channel, which keeps the backlog that is found for it. -/
def subscribeBy (bus : Bus) (order : List Topic) (topic : Topic) (channel : ChannelId) : Bus :=
  match bus.backlogAmong? order channel with
  | some backlog => bus.register topic ⟨channel, backlog⟩
  | none =>
    let fresh := { bus with backlogs := bus.backlogs ++ [⟨[], false⟩] }
    register fresh topic ⟨channel, bus.backlogs.length⟩

/-- The channels that are subscribed to a topic in a run, in the order of the subscriptions. -/
def subscribed (topic : Topic) (actions : List Action) : List ChannelId :=
  actions.filterMap fun
    | .subscribe wanted channel => if wanted = topic then some channel else none
    | _ => none

theorem subscribed_append (topic : Topic) (first second : List Action) :
    subscribed topic (first ++ second) = subscribed topic first ++ subscribed topic second :=
  List.filterMap_append

variable {bus : Bus}

theorem mem_of_backlogAmong? {order : List Topic} {id : ChannelId} {backlog : BacklogId}
    (found : bus.backlogAmong? order id = some backlog) :
    ∃ topic, ⟨id, backlog⟩ ∈ bus.registry topic := by
  obtain ⟨entry, first, rfl⟩ := Option.map_eq_some_iff.mp found
  obtain ⟨topic, _, member⟩ := List.mem_flatMap.mp (List.mem_of_find?_eq_some first)
  have same : entry.channel = id := by simpa using List.find?_some first
  exact ⟨topic, same ▸ member⟩

/-- All registrations of a channel name one backlog, so it does not matter which is found first. A
topic without registrations may be left out. -/
theorem Sound.backlogAmong? (sound : bus.Sound) {order : List Topic}
    (complete : ∀ topic, bus.registry topic ≠ [] → topic ∈ order) (id : ChannelId) :
    bus.backlogAmong? order id = bus.backlogOf? id := by
  cases found : bus.backlogAmong? order id with
  | some backlog =>
    obtain ⟨topic, member⟩ := mem_of_backlogAmong? found
    exact (sound.backlogOf? member).symm
  | none =>
    refine (backlogOf?_eq_none.mpr fun topic entry member => ?_).symm
    have inside := complete topic (List.ne_nil_of_mem member)
    have unfound := List.find?_eq_none.mp (Option.map_eq_none_iff.mp found) entry
      (List.mem_flatMap.mpr ⟨topic, inside, member⟩)
    simpa using unfound

theorem Sound.subscribeBy (sound : bus.Sound) {order : List Topic}
    (complete : ∀ topic, bus.registry topic ≠ [] → topic ∈ order) (topic : Topic) (id : ChannelId) :
    bus.subscribeBy order topic id = bus.subscribe topic id := by
  rw [Bus.subscribeBy, sound.backlogAmong? complete]
  rfl

/-- An action leaves the registrations of a topic as they are, but for one that it may put behind
them. -/
theorem registry_act (bus : Bus) (action : Action) (topic : Topic) :
    ∃ added, (bus.act action).registry topic = bus.registry topic ++ added ∧
      added.map Registration.channel = subscribed topic [action] := by
  have unchanged {other : Action} (same : (bus.act other).registry = bus.registry)
      (silent : subscribed topic [other] = []) :
      ∃ added, (bus.act other).registry topic = bus.registry topic ++ added ∧
        added.map Registration.channel = subscribed topic [other] :=
    ⟨[], by rw [same, List.append_nil], silent.symm⟩
  cases action with
  | subscribe wanted channel =>
    refine ⟨_, bus.registry_subscribe wanted topic channel, ?_⟩
    by_cases same : topic = wanted
    · subst same
      simp [subscribed]
    · simp [subscribed, same, Ne.symm same]
  | publish canSpawn envelope => exact unchanged (bus.offerAll_frame canSpawn envelope _).1 rfl
  | recv channel => exact unchanged (bus.recv_handed channel).registry rfl
  | drain index => exact unchanged (bus.drainStep_drained index).registry rfl
  | close channel => exact unchanged rfl rfl

theorem registry_run (bus : Bus) (actions : List Action) (topic : Topic) :
    ∃ added, (bus.run actions).registry topic = bus.registry topic ++ added ∧
      added.map Registration.channel = subscribed topic actions := by
  induction actions generalizing bus with
  | nil => exact ⟨[], (List.append_nil _).symm, rfl⟩
  | cons action rest ih =>
    obtain ⟨first, before, one⟩ := bus.registry_act action topic
    obtain ⟨others, after, more⟩ := ih (bus.act action)
    refine ⟨first ++ others, ?_, ?_⟩
    · rw [before, List.append_assoc] at after
      exact after
    · rw [List.map_append, one, more, ← subscribed_append, List.singleton_append]

/-- In any run of a new bus, registrations share a backlog just if they are of one channel. The
registrations of a topic are one for each subscription to it, in the order of the subscriptions, and
stay where they are. The next subscription finds the same backlog in whatever order it goes through
the topics that have registrations. -/
theorem one_backlog_for_each (maxInflight : Nat) (capacities : List Nat) (actions : List Action) :
    let bus := (withChannels maxInflight capacities).run actions
    (∀ topic, ∀ entry ∈ bus.registry topic, ∀ topic', ∀ entry' ∈ bus.registry topic',
      entry.backlog = entry'.backlog ↔ entry.channel = entry'.channel) ∧
    (∀ topic, (bus.registry topic).map Registration.channel = subscribed topic actions ∧
      bus.subscriberCount topic = (subscribed topic actions).length ∧
      ∀ later, bus.registry topic <+: (bus.run later).registry topic) ∧
    ∀ order : List Topic, (∀ topic, bus.registry topic ≠ [] → topic ∈ order) →
      ∀ topic id, bus.subscribeBy order topic id = bus.subscribe topic id := by
  intro bus
  have sound : bus.Sound := (sound_withChannels maxInflight capacities).run actions
  have listed (topic : Topic) :
      (bus.registry topic).map Registration.channel = subscribed topic actions := by
    obtain ⟨added, registry, channels⟩ :=
      (withChannels maxInflight capacities).registry_run actions topic
    have blank : (withChannels maxInflight capacities).registry topic = [] := by
      rw [withChannels_eq]
      rfl
    rw [blank, List.nil_append] at registry
    exact (congrArg _ registry).trans channels
  refine ⟨fun topic entry member topic' entry' member' => ?_, fun topic => ⟨listed topic, ?_, ?_⟩,
    fun order complete => sound.subscribeBy complete⟩
  · exact (sound.shared topic entry member topic' entry' member').symm
  · rw [subscriberCount, ← listed topic, List.length_map]
  · intro later
    obtain ⟨added, registry, _⟩ := bus.registry_run later topic
    exact ⟨added, registry.symm⟩

/-- Two channels, of which one is registered again on another topic and then twice on the first. The
subscription of the other to that topic finds its backlog from behind. -/
theorem one_backlog_for_each_twice :
    let actions : List Action := [.subscribe .listUpdated 0, .subscribe .listUpdated 1,
      .subscribe .listDeleted 0, .publish true ⟨.listDeleted, .list ⟨1⟩⟩, .subscribe .listUpdated 0]
    let bus := (withChannels 1 [1, 1]).run actions
    bus.registry .listUpdated = [⟨0, 0⟩, ⟨1, 1⟩, ⟨0, 0⟩] ∧ bus.registry .listDeleted = [⟨0, 0⟩] ∧
      bus.subscriberCount .listUpdated = 3 ∧
      (bus.subscribeBy [.listDeleted, .listUpdated] .listDeleted 1).registry .listDeleted =
        [⟨0, 0⟩, ⟨1, 1⟩] := by
  intro actions bus
  obtain ⟨_, listed, found⟩ := one_backlog_for_each 1 [1, 1] actions
  have complete : ∀ topic, bus.registry topic ≠ [] → topic ∈ [Topic.listDeleted, .listUpdated] := by
    intro topic some
    cases topic with
    | listUpdated | listDeleted => decide
    | listCreated | indexAllListsRequested => exact absurd (by decide) some
  refine ⟨by decide, by decide, (listed .listUpdated).2.1, ?_⟩
  rw [found _ complete]
  decide

end ListKeeper.Bus
