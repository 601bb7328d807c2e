import ListKeeper.Worker

namespace ListKeeper

class HasBus (σ : Type) where
  bus : σ → Bus
  setBus : σ → Bus → σ

/-- Workers, and the state that they work on. Workers and drain tasks take turns, and every turn
hands over or moves an envelope, so the turns are bounded by the envelopes that wait. -/
structure Crew (I : Interface) (σ : Type) where
  workers : List (Worker I)
  state : σ

namespace Crew

variable {I : Interface} {σ : Type} [HasBus σ]

/-- Lets the handler that a worker is running get as far as it can. -/
def work (treat : Program.Surroundings I σ) (callback : Callback) (worker : Worker I) (state : σ) :
    Worker I × σ × List Worker.Event :=
  match worker.phase with
  | .processing envelope rest =>
    let progress := rest.advance treat state
    let (worker, events) :=
      Worker.finish callback { worker with phase := .processing envelope progress.rest }
    (worker, progress.state, events)
  | _ => (worker, state, [])

/-- Lets one worker handle envelopes until its channel is empty or it is stuck, `fuel` of them at
most. -/
def turn (treat : Program.Surroundings I σ) (callback : Callback) :
    (fuel : Nat) → Worker I → σ → Worker I × σ × List Worker.Event
  | 0, worker, state => (worker, state, [])
  | fuel + 1, worker, state =>
    let (worker, state, before) := work treat callback worker state
    let (worker, bus, taken) := worker.take (HasBus.bus state)
    let state := HasBus.setBus state bus
    if taken.isEmpty then (worker, state, before)
    else
      let (worker, state, after) := turn treat callback fuel worker state
      (worker, state, before ++ taken ++ after)

def turns (treat : Program.Surroundings I σ) (callback : Callback) :
    List (Worker I) → σ → List (Worker I) × σ × List Worker.Event
  | [], state => ([], state, [])
  | worker :: rest, state =>
    let slots := ((HasBus.bus state).channel worker.channel).slots.length
    let (worker, state, first) := turn treat callback (slots + 2) worker state
    let (others, state, later) := turns treat callback rest state
    (worker :: others, state, first ++ later)

def round (treat : Program.Surroundings I σ) (callback : Callback) (crew : Crew I σ) :
    Crew I σ × List Worker.Event :=
  let state := HasBus.setBus crew.state (HasBus.bus crew.state).settle
  let (workers, state, events) := turns treat callback crew.workers state
  (⟨workers, state⟩, events)

/-- Rounds until one brings nothing, `fuel` of them at most. -/
def rounds (treat : Program.Surroundings I σ) (callback : Callback) :
    (fuel : Nat) → Crew I σ → Crew I σ × List Worker.Event
  | 0, crew => (crew, [])
  | fuel + 1, crew =>
    match crew.round treat callback with
    | (crew, []) => (crew, [])
    | (crew, first) =>
      let (crew, later) := rounds treat callback fuel crew
      (crew, first ++ later)

/-- Rounds until nothing more can be done. Each round but the first and the last hands over an
envelope. -/
def settle (treat : Program.Surroundings I σ) (callback : Callback) (crew : Crew I σ) :
    Crew I σ × List Worker.Event :=
  crew.rounds treat callback ((HasBus.bus crew.state).pending + 2)

def abort (crew : Crew I σ) : Crew I σ :=
  crew.workers.foldl
    (fun crew worker =>
      let (worker, bus) := worker.abort (HasBus.bus crew.state)
      ⟨crew.workers ++ [worker], HasBus.setBus crew.state bus⟩)
    ⟨[], crew.state⟩

def abortAt (crew : Crew I σ) (index : Nat) : Crew I σ :=
  match crew.workers[index]? with
  | none => crew
  | some worker =>
    let (worker, bus) := worker.abort (HasBus.bus crew.state)
    ⟨crew.workers.set index worker, HasBus.setBus crew.state bus⟩

end Crew

end ListKeeper
