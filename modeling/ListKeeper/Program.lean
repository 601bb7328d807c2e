/-!
Programs that work by calls on their surroundings.

A program is a tree: it is done, or it makes one call and goes on with the answer. The tree says
nothing about what a call does, so the same program can run to its end in one go, be interleaved
with others call by call, be given failing answers, or be cut off at any call.
-/
namespace ListKeeper

/-- The calls that programs can make, and the type of the answer to each. -/
structure Interface where
  Call : Type
  Answer : Call → Type

/-- What a panic carries: a text, or something that is no text. -/
inductive PanicReason where
  | text (message : String)
  | other
  deriving DecidableEq

def PanicReason.message : PanicReason → String
  | .text message => message
  | .other => "non-string panic payload"

/-- A program that makes calls of `I` and ends with a value of `α`. -/
inductive Program (I : Interface) (α : Type) where
  | done (value : α)
  /-- Makes a call and goes on with its answer, and in the meantime, if the answer never comes,
  does something else. -/
  | call (request : I.Call) (next : I.Answer request → Program I α) (meanwhile : Program I α)
  /-- Waits for something that never comes. -/
  | stalled
  | panic (reason : PanicReason)

namespace Program

variable {I : Interface} {α β σ : Type}

def bind (program : Program I α) (next : α → Program I β) : Program I β :=
  match program with
  | .done value => next value
  | .call request answered meanwhile =>
    .call request (fun answer => (answered answer).bind next) (meanwhile.bind next)
  | .stalled => .stalled
  | .panic reason => .panic reason

instance : Monad (Program I) where
  pure := .done
  bind := bind

/-- Makes one call and returns its answer. -/
def ask (request : I.Call) : Program I (I.Answer request) :=
  .call request .done .stalled

/-- What comes of a call. -/
inductive Reply (α : Type) where
  | answer (value : α)
  /-- No answer for now; the call can be made again. -/
  | notYet
  | never
  | panics (reason : PanicReason)

/-- How surroundings in a state of type `σ` treat calls. -/
abbrev Surroundings (I : Interface) (σ : Type) :=
  (request : I.Call) → σ → Reply (I.Answer request) × σ

/-- Makes the first call of a program, if there is one. -/
def step (treat : Surroundings I σ) : Program I α → σ → Program I α × σ
  | .call request next meanwhile, state =>
    match treat request state with
    | (.answer value, state) => (next value, state)
    | (.notYet, state) => (.call request next meanwhile, state)
    | (.never, state) => (meanwhile, state)
    | (.panics reason, state) => (.panic reason, state)
  | program, state => (program, state)

/-- What a program has come to: what is left of it, the calls it made, and the state it left. -/
structure Progress (I : Interface) (σ α : Type) where
  rest : Program I α
  calls : List I.Call
  state : σ

/-- Lets a program make calls until it is done or does not get on. -/
def advance (treat : Surroundings I σ) : Program I α → σ → Progress I σ α
  | .call request next meanwhile, state =>
    match treat request state with
    | (.answer value, state) =>
      let later := (next value).advance treat state
      { later with calls := request :: later.calls }
    | (.notYet, state) => ⟨.call request next meanwhile, [], state⟩
    | (.never, state) =>
      let later := meanwhile.advance treat state
      { later with calls := request :: later.calls }
    | (.panics reason, state) => ⟨.panic reason, [request], state⟩
  | program, state => ⟨program, [], state⟩

end Program

end ListKeeper
