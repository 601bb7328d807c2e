import ListKeeper.Crew

namespace ListKeeper.Rehearsal

inductive ScriptCall where
  | release (player : Nat)

abbrev ScriptCall.interface : Interface :=
  ⟨ScriptCall, fun _ => Unit⟩

inductive Cue where
  | succeed
  | fail (fault : ProjectionFault)
  | panic (reason : PanicReason)
  | await

def Cue.play (player : Nat) : Cue → Program ScriptCall.interface (Except ProjectionFault Unit)
  | .succeed => .done (.ok ())
  | .fail fault => .done (.error fault)
  | .panic reason => .panic reason
  | .await => .call (.release player) (fun _ => .done (.ok ())) .stalled

/-- What a handler does about each payload, which is given as text. Where a script says nothing, its
handler succeeds. -/
abbrev Script := List (String × Cue)

/-- The handler that follows a script. -/
def Script.handler (script : Script) (player : Nat) (name : String) (forwards : Bool) :
    Handler ScriptCall.interface where
  name := name
  forwards := forwards
  handle envelope := ((script.lookup envelope.payload.text).getD .succeed).play player

/-- The bus that scripted workers share, and the releases that are kept. -/
structure Scene where
  bus : Bus
  released : List Nat

instance : HasBus Scene where
  bus := Scene.bus
  setBus scene bus := { scene with bus }

def Scene.release (scene : Scene) (player : Nat) : Scene :=
  if player ∈ scene.released then scene
  else { scene with released := player :: scene.released }

/-- A handler goes on when a release is kept for it, which is then used up. -/
def Scene.treat : Program.Surroundings ScriptCall.interface Scene := fun request scene =>
  match request with
  | .release player =>
    if player ∈ scene.released then
      (.answer (), { scene with released := scene.released.filter (· != player) })
    else (.notYet, scene)

end ListKeeper.Rehearsal
