import ListKeeper.Config
import ListKeeper.Pipeline
import Mathlib

namespace ListKeeper

namespace Config.Source

variable {source : Source} {key value default : String} {bound limit fallback : Nat}

theorem not_blank_of_get? (given : source.get? key = some value) : ¬Text.isBlankText value := by
  have kept := (Option.filter_eq_some_iff.mp given).2
  simpa using kept

theorem not_blank_string (filled : ¬Text.isBlankText default) :
    ¬Text.isBlankText (source.string key default) := by
  rw [string]
  cases given : source.get? key with
  | none => exact filled
  | some value => exact not_blank_of_get? given

/-- The number that a setting gives, if it gives one. -/
def number? (source : Source) (bound : Nat) (key : String) : Option Nat :=
  (source.get? key).bind fun value => Decimal.below? bound (Text.trimChars value.toList)

/-- A number whose default is within a limit is so too, unless a larger one is given. -/
theorem number_le_iff (within : fallback ≤ limit) :
    source.number bound key fallback ≤ limit ↔ ∀ n ∈ source.number? bound key, n ≤ limit := by
  have same : source.number bound key fallback = (source.number? bound key).getD fallback := rfl
  rw [same]
  cases source.number? bound key with
  | none => simpa using within
  | some n => simp

/-- What has become of the settings that other parts depend on. -/
theorem of_read {config : Config} (read : source.read = .ok config) :
    source.maxInflight = .ok config.maxInflight ∧ config.search = source.search? ∧
      config.channelCapacity = source.number bound64 "PROCESSOR_CHANNEL_CAPACITY" 256 := by
  rw [Source.read] at read
  cases address : source.listenAddress with
  | error fault =>
    rw [address] at read
    cases read
  | ok listen =>
    cases limit : source.maxInflight with
    | error fault =>
      rw [address, limit] at read
      cases read
    | ok most =>
      rw [address, limit] at read
      cases read
      exact ⟨rfl, rfl, rfl⟩

theorem permits_of_maxInflight {most : Nat} (read : source.maxInflight = .ok most) :
    (Bus.new most).permits = most := by
  rw [maxInflight] at read
  split at read
  next within =>
    cases read
    exact (Nat.min_eq_left (Nat.max_le.mpr ⟨within.2, by decide⟩)).trans
      (Nat.max_eq_left within.1)
  next => cases read

theorem connect_search? {settings : RemoteIndex.Settings}
    (given : source.search? = some settings) :
    ∃ remote, RemoteIndex.connect settings = .ok remote := by
  obtain ⟨application, named, rest⟩ := Option.bind_eq_some_iff.mp given
  obtain ⟨secret, -, same⟩ := Option.bind_eq_some_iff.mp rest
  obtain rfl := Option.some.inj same
  have index : ¬Text.isBlankText (source.string "SEARCH_INDEX_NAME" "lists") :=
    not_blank_string (by decide)
  rw [RemoteIndex.connect, if_neg (not_blank_of_get? named), if_neg index]
  exact ⟨_, rfl⟩

end Config.Source

theorem Worker.isSome_start?_iff {I : Interface} (bus : Bus) (handler : Handler I)
    (topics : List Topic) {wanted : Nat} :
    (start? bus handler topics wanted).isSome ↔ wanted ≤ Channel.maxCapacity := by
  have least : 1 ≤ Channel.maxCapacity := by decide
  have fits : max wanted 1 ≤ Channel.maxCapacity ↔ wanted ≤ Channel.maxCapacity :=
    Nat.max_le.trans (and_iff_left least)
  rw [start?, Option.isSome_map, capacity?]
  exact Option.isSome_ite.trans fits

theorem Pipeline.isSome_startAll? {capacity : Nat} (fits : capacity ≤ Channel.maxCapacity)
    (handlers : List (Handler Call.interface × List Topic)) (bus : Bus) :
    (startAll? capacity handlers bus).isSome := by
  induction handlers generalizing bus with
  | nil => rfl
  | cons first rest ih =>
    obtain ⟨handler, topics⟩ := first
    obtain ⟨⟨worker, joined⟩, started⟩ :=
      Option.isSome_iff_exists.mp ((Worker.isSome_start?_iff bus handler topics).mpr fits)
    obtain ⟨⟨others, all⟩, rest'⟩ := Option.isSome_iff_exists.mp (ih joined)
    simp [startAll?, started, rest']

theorem Pipeline.isSome_start?_iff {settings : Settings} {bus : Bus} :
    (start? settings bus).isSome ↔ settings.channelCapacity ≤ Channel.maxCapacity := by
  refine ⟨fun all => ?_, fun fits => isSome_startAll? fits _ bus⟩
  by_contra large
  have refused :
      Worker.start? bus Handler.itemCount [.listUpdated] settings.channelCapacity = none :=
    Option.not_isSome_iff_eq_none.mp (large ∘ (Worker.isSome_start?_iff bus _ _).mp)
  simp [start?, handlers, startAll?, refused] at all

namespace Config

/-- A configuration that has been read is one that the program can start with, unless the settings
ask for a channel that is larger than any channel: the limit of the bus stays as it is, and the
remote index has all it needs. -/
theorem usable_of_read (source : Source) (config : Config) (read : source.read = .ok config) :
    (Bus.new config.maxInflight).permits = config.maxInflight ∧
    (∀ settings, config.search = some settings →
      ∃ remote, RemoteIndex.connect settings = .ok remote) ∧
    (∀ (I : Interface) bus (handler : Handler I) topics,
      (Worker.start? bus handler topics config.channelCapacity).isSome ↔
        ∀ n ∈ source.number? Source.bound64 "PROCESSOR_CHANNEL_CAPACITY",
          n ≤ Channel.maxCapacity) ∧
    ∀ bus, (Pipeline.start? ⟨config.channelCapacity, config.reindexBatch⟩ bus).isSome ↔
      ∀ n ∈ source.number? Source.bound64 "PROCESSOR_CHANNEL_CAPACITY",
        n ≤ Channel.maxCapacity := by
  obtain ⟨limit, search, capacity⟩ := Source.of_read read
  have fits : config.channelCapacity ≤ Channel.maxCapacity ↔
      ∀ n ∈ source.number? Source.bound64 "PROCESSOR_CHANNEL_CAPACITY",
        n ≤ Channel.maxCapacity := capacity ▸ Source.number_le_iff (by decide)
  refine ⟨Source.permits_of_maxInflight limit, fun settings given => ?_,
    fun I bus handler topics => ?_, fun bus => ?_⟩
  · exact Source.connect_search? (search.symm.trans given)
  · exact (Worker.isSome_start?_iff bus handler topics).trans fits
  · exact Pipeline.isSome_start?_iff.trans fits

/-- A source with these settings only. -/
def Source.ofList (settings : List (String × String)) : Source :=
  ⟨fun key => List.lookup key settings⟩

/-- A channel of 64 and a remote index. -/
def connected : Source :=
  .ofList [("SEARCH_APP_ID", "application"), ("SEARCH_API_KEY", "secret"),
    ("PROCESSOR_CHANNEL_CAPACITY", " 64 ")]

theorem usable_of_read_connected : ∃ config, connected.read = .ok config ∧
    (Bus.new config.maxInflight).permits = config.maxInflight ∧
    (∃ settings remote, config.search = some settings ∧
      RemoteIndex.connect settings = .ok remote) ∧
    (Pipeline.start? ⟨config.channelCapacity, config.reindexBatch⟩
      (Bus.new config.maxInflight)).isSome := by
  have readable : connected.read.isOk := by cbv
  have remote : connected.search?.isSome := by cbv
  have within : ∀ n ∈ connected.number? Source.bound64 "PROCESSOR_CHANNEL_CAPACITY",
      n ≤ Channel.maxCapacity := by
    have given : connected.number? Source.bound64 "PROCESSOR_CHANNEL_CAPACITY" = some 64 := by cbv
    rw [given]
    decide
  obtain ⟨settings, given⟩ := Option.isSome_iff_exists.mp remote
  cases read : connected.read with
  | error fault => cases read ▸ readable
  | ok config =>
    obtain ⟨permits, connects, -, starts⟩ := usable_of_read connected config read
    have search : config.search = some settings := (Source.of_read read).2.1.trans given
    obtain ⟨remote, reached⟩ := connects settings search
    exact ⟨config, rfl, permits, ⟨settings, remote, search, reached⟩, (starts _).mpr within⟩

/-- One slot more than a channel can have. -/
def outsized : Source :=
  .ofList [("PROCESSOR_CHANNEL_CAPACITY", "2305843009213693952")]

/-- It is accepted, and no worker can be started with it. -/
theorem not_usable_of_read : ∃ config, outsized.read = .ok config ∧
    config.channelCapacity = 2305843009213693952 ∧
    ∀ (I : Interface) bus (handler : Handler I) topics,
      Worker.start? bus handler topics config.channelCapacity = none := by
  have readable : outsized.read.isOk := by cbv
  have asked : outsized.number Source.bound64 "PROCESSOR_CHANNEL_CAPACITY" 256 =
      2305843009213693952 := by cbv
  cases read : outsized.read with
  | error fault => cases read ▸ readable
  | ok config =>
    have capacity : config.channelCapacity = 2305843009213693952 :=
      (Source.of_read read).2.2.trans asked
    refine ⟨config, rfl, capacity, fun I bus handler topics => ?_⟩
    rw [← Option.not_isSome_iff_eq_none, Worker.isSome_start?_iff, capacity]
    decide

end Config

end ListKeeper
