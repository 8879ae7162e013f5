import SessionKeeper.Fault.Basic
import SessionKeeper.Json.Same
import SessionKeeper.Listener.Registry
import SessionKeeper.Log

/-! # Listeners

A listener is told of every login and logout. What it does then is a list of moves, which may depend
on all that listeners were told before: it may wait for a turn, note the occasion, register or
unregister listeners, and fail. Other listeners are named, not held, so that listeners may register
each other and themselves.
-/

namespace SessionKeeper

/-- What listeners are told of. -/
inductive Occasion where
  | login (token instanceUrl : Text)
  | logout
deriving DecidableEq, Repr

def Occasion.method : Occasion → String
  | login .. => "on_login"
  | logout => "on_logout"

structure Notice where
  listener : Text
  occasion : Occasion
deriving DecidableEq, Repr

/-- A listener's own note of an occasion, with the token that was held when it was written. -/
structure Note where
  listener : Text
  occasion : Occasion
  held : Option String
deriving DecidableEq, Repr

/-- One thing that a callback does. -/
inductive Move where
  | pause
  | note
  | say (level : Level) (message : Text)
  | enlist (listener : Text)
  | dismiss (listener : Text)
  | fail (fault : Fault)

def Move.isPause : Move → Bool
  | pause => true
  | _ => false

/-- What a callback does on an occasion, after the notices given so far. -/
abbrev Reaction := Occasion → List Notice → List Move

/-- What makes a listener the same as another. -/
inductive ListenerKind where
  /-- Itself alone. -/
  | plain
  /-- Every listener of this kind with the same key. -/
  | keyed (key : Json)
  /-- Itself alone; it wraps callbacks, each of which may be left out, and shows a label. -/
  | hook (label : Text)

/-- A listener, identified by its name. -/
structure Listener where
  name : Text
  kind : ListenerKind := .plain
  onLogin : Option Reaction := none
  onLogout : Option Reaction := none

namespace Listener

def same (first second : Listener) : Bool :=
  first.name == second.name ||
    match first.kind, second.kind with
    | .keyed key, .keyed key' => key.same key'
    | _, _ => false

/-- The label of a hook that is given none. -/
def defaultLabel : Text := "hook"

/-- The printable form of a listener. -/
def describe (listener : Listener) : Text :=
  match listener.kind with
  | .hook label => "HookListener(" ++ (if label.isEmpty then defaultLabel else label) ++ ")"
  | _ => "Listener(" ++ listener.name ++ ")"

def typeName (listener : Listener) : String :=
  match listener.kind with
  | .plain => "PlainListener"
  | .keyed _ => "ValueListener"
  | .hook _ => "HookListener"

def callback? (listener : Listener) : Occasion → Option Reaction
  | .login .. => listener.onLogin
  | .logout => listener.onLogout

/-- The listener answers to both occasions; a hook always does. -/
def isComplete (listener : Listener) : Bool :=
  match listener.kind with
  | .hook _ => true
  | _ => listener.onLogin.isSome && listener.onLogout.isSome

/-- What a listener does when it is told of an occasion. A hook without a callback does nothing, any
other listener without one fails. -/
def moves (listener : Listener) (occasion : Occasion) (earlier : List Notice) : List Move :=
  match listener.callback? occasion, listener.kind with
  | some reaction, _ => reaction occasion earlier
  | none, .hook _ => []
  | none, _ =>
    [.fail (.foreign (.missingCallback listener.typeName occasion.method))]

end Listener

end SessionKeeper
