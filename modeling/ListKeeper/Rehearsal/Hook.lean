import ListKeeper.Backend

namespace ListKeeper.Rehearsal

/-- What becomes of a call on which a hook has fired. -/
inductive Fate (ε : Type) where
  /-- The call is made as if there were no hook. -/
  | proceeds
  | fails (fault : ε)
  | panics (message : String)
  | hangs

inductive Aside where
  | call (call : StoreCall)
  | seed (lists : List ItemList)

/-- Interference with calls that fail with `ε`. -/
structure Hook (ε : Type) where
  on : String
  /-- The key that the call must have, if it matters. -/
  key : Option String
  /-- How many matching calls go by before the hook fires. -/
  skip : Nat
  /-- How many times the hook fires, if there is a limit. -/
  times : Option Nat
  /-- What happens to the store just before the call. -/
  before : List Aside
  fate : Fate ε
  /-- How many matching calls have been counted. -/
  seen : Nat

namespace Hook

variable {ε : Type}

/-- A hook matches the calls of its kind that have its key. -/
def isFor (hook : Hook ε) (kind : String) (key : Option String) : Bool :=
  hook.on == kind && (hook.key.isNone || hook.key == key)

def isDue (hook : Hook ε) : Bool :=
  hook.skip ≤ hook.seen && hook.times.all fun times => hook.seen < hook.skip + times

/-- The first hook that fires on a call, and the hooks with the call counted. -/
def consult (kind : String) (key : Option String) : List (Hook ε) → Option (Hook ε) × List (Hook ε)
  | [] => (none, [])
  | hook :: rest =>
    if hook.isFor kind key then
      let counted := { hook with seen := hook.seen + 1 }
      if hook.isDue then (some hook, counted :: rest)
      else
        let (found, rest) := consult kind key rest
        (found, counted :: rest)
    else
      let (found, rest) := consult kind key rest
      (found, hook :: rest)

end Hook

end ListKeeper.Rehearsal
