import ListKeeper.Worker

namespace ListKeeper

structure Pipeline.Settings where
  channelCapacity : Nat
  reindexBatch : Nat

def Pipeline.Settings.standard : Pipeline.Settings :=
  ⟨256, 100⟩

/-- The handlers of the pipeline with their topics, in the order of registration. One worker stores
the documents of new and of changed lists, in the order in which their events were published. -/
def Pipeline.handlers (reindexBatch : Nat) : List (Handler Call.interface × List Topic) :=
  [(Handler.itemCount, [.listUpdated]),
    (Handler.searchIndex, [.listCreated, .listUpdated]),
    (Handler.searchDeindex, [.listDeleted]),
    (Handler.searchReindex reindexBatch, [.indexAllListsRequested])]

/-- Starts a worker for each of the given handlers, in order. -/
def Pipeline.startAll? (capacity : Nat) : List (Handler Call.interface × List Topic) → Bus →
    Option (List (Worker Call.interface) × Bus)
  | [], bus => some ([], bus)
  | (handler, topics) :: rest, bus => do
    let (worker, bus) ← Worker.start? bus handler topics capacity
    let (others, bus) ← Pipeline.startAll? capacity rest bus
    return (worker :: others, bus)

/-- Starts the pipeline on a bus, unless its channels would be too large. -/
def Pipeline.start? (settings : Pipeline.Settings) (bus : Bus) :
    Option (List (Worker Call.interface) × Bus) :=
  Pipeline.startAll? settings.channelCapacity (Pipeline.handlers settings.reindexBatch) bus

end ListKeeper
