import SessionKeeper.Task.Routine

/-! # Telling listeners

Listeners are told of an occasion one after the other, those that are registered when the first one
is told. A listener that fails is reported and does not keep the others from being told; only a
demand to stop ends the round. A callback that pauses is waited for.
-/

namespace SessionKeeper.Listener

/-- The listener with a name. A name that nobody has is a fault. -/
def named (name : Text) : Routine Listener := do
  let shared ← Routine.get
  match shared.listener? name with
  | some listener => pure listener
  | none => throw (.foreign (.unknownListener name))

/-- Do one thing that a callback does. -/
def perform (listener : Listener) (occasion : Occasion) : Move → Routine Unit
  | .pause => Routine.yieldTurn
  | .note => Routine.modify (·.note listener.name occasion)
  | .say level message => Routine.say level message
  | .enlist name => do
    let other ← named name
    Routine.modify fun shared => (shared.enlist other).2
  | .dismiss name => do
    let other ← named name
    Routine.modify fun shared => (shared.dismiss other).2
  | .fail fault => throw fault

def performAll (listener : Listener) (occasion : Occasion) : List Move → Routine Unit
  | [] => pure ()
  | move :: rest => do
    listener.perform occasion move
    listener.performAll occasion rest

def failureLine (listener : Listener) (occasion : Occasion) (fault : Fault) : Text :=
  "⚠️ Unexpected error from listener " ++ listener.describe ++ s!" during {occasion.method}: " ++
    fault.labelled

def notify (listener : Listener) (occasion : Occasion) : Routine Unit := do
  let shared ← Routine.get
  Routine.modify (·.tell ⟨listener.name, occasion⟩)
  let moves := listener.moves occasion shared.notices
  try
    listener.performAll occasion moves
  catch raised =>
    let fault := if moves.any (·.isPause) then raised.awaited else raised
    if fault.isFailure then Routine.say .warning (listener.failureLine occasion fault)
    else throw fault

def notifyEach (occasion : Occasion) : List Listener → Routine Unit
  | [] => pure ()
  | listener :: rest => do
    listener.notify occasion
    notifyEach occasion rest

def notifyAll (occasion : Occasion) : Routine Unit := do
  let shared ← Routine.get
  notifyEach occasion shared.listeners.members

end SessionKeeper.Listener
