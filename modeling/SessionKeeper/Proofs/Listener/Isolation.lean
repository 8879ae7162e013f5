import SessionKeeper.Proofs.Listener.Changes
import SessionKeeper.Proofs.Session.Round

/-! # Rounds are isolated from what callbacks do

A round of telling calls the listeners that were registered when it began, one after the other, and
none of their callbacks can change whom it calls. What a callback does up to where it fails is the
same as if it were alone: its log lines, its notes and its changes of who is registered stand behind
those of the callbacks before it. A failure adds one warning and the round goes on; a demand to stop
ends the round with the call that made it (`Listener.Isolated`, `Listener.isolated_notifyAll`).
-/

namespace SessionKeeper

open Registry (Change)

namespace Move

variable (roster : List Listener)

/-- The fault that a move ends its callback with. Who is not on the roster cannot be named. -/
def fault? : Move → Option Fault
  | .fail fault => some fault
  | .enlist name | .dismiss name =>
    if (roster.find? (·.name == name)).isSome then none
    else some (.foreign (.unknownListener name))
  | .pause | .note | .say .. => none

/-- What a move asks of the registered listeners. -/
def change? : Move → Option (Change Listener)
  | .enlist name => (roster.find? (·.name == name)).map .add
  | .dismiss name => (roster.find? (·.name == name)).map .remove
  | _ => none

def record? : Move → Option Record
  | .say level message => if level.isKept then some ⟨level, message⟩ else none
  | _ => none

def notes? : Move → Bool
  | .note => true
  | _ => false

end Move

/-- A call of a listener: what it is told, and what its callback sets out to do then. -/
structure Callback where
  listener : Listener
  occasion : Occasion
  moves : List Move

namespace Callback

variable (roster : List Listener) (callback : Callback)

def notice : Notice := ⟨callback.listener.name, callback.occasion⟩

/-- The moves before one that fails. -/
def done : List Move := callback.moves.takeWhile fun move => (move.fault? roster).isNone

/-- The fault that the callback ends with, as whoever waits for it meets it. -/
def raised? : Option Fault :=
  (callback.moves.findSome? (·.fault? roster)).map fun fault =>
    if callback.moves.any (·.isPause) then fault.awaited else fault

/-- The demand to stop that the callback ends with. -/
def demand? : Option Fault := (callback.raised? roster).filter (!·.isFailure)

/-- One warning about the failure that the callback ends with, if it does. -/
def warnings : Log :=
  ((callback.raised? roster).filter (·.isFailure)).toList.map fun fault =>
    ⟨.warning, callback.listener.failureLine callback.occasion fault⟩

def records : Log := (callback.done roster).filterMap (·.record?) ++ callback.warnings roster

def changes : List (Change Listener) := (callback.done roster).filterMap (·.change? roster)

def notes (token : Option String) : List Note :=
  ((callback.done roster).filter (·.notes?)).map fun _ =>
    ⟨callback.listener.name, callback.occasion, token⟩

end Callback

namespace Listener

/-- The calls of listeners that are told of an occasion one after the other. A callback knows what
was told before. -/
def callbacks (occasion : Occasion) : List Notice → List Listener → List Callback
  | _, [] => []
  | earlier, listener :: rest =>
    ⟨listener, occasion, listener.moves occasion earlier⟩ ::
      callbacks occasion (earlier ++ [⟨listener.name, occasion⟩]) rest

/-- The calls up to the first that ends with a demand to stop. -/
def reached (roster : List Listener) : List Callback → List Callback
  | [] => []
  | callback :: rest =>
    if (callback.demand? roster).isSome then [callback] else callback :: reached roster rest

/-- What a round of telling comes to, and what of the round before it is still there: it made some
calls of those that it set out to make. -/
structure Isolated (occasion : Occasion) (before : Shared) (called : List Callback)
    (outcome : Except Fault Unit) (after : Shared) : Prop where
  /-- It set out to call those who were registered at its beginning. -/
  isPrefix : called <+: callbacks occasion before.notices before.listeners.members
  /-- If no callback demands to stop, all of them are called, in the order of registration. -/
  everybody : (∀ callback ∈ callbacks occasion before.notices before.listeners.members,
      callback.demand? before.roster = none) →
    outcome = .ok () ∧ called.map (·.listener) = before.listeners.members
  /-- The first demand to stop is the outcome, and nobody behind is called. -/
  stopped : ∀ position callback fault,
    (callbacks occasion before.notices before.listeners.members)[position]? = some callback →
    callback.demand? before.roster = some fault →
    (∀ earlier ∈ (callbacks occasion before.notices before.listeners.members).take position,
      earlier.demand? before.roster = none) →
      outcome = .error fault ∧
        called.map (·.listener) = before.listeners.members.take (position + 1)
  /-- Every call is made once, and all of the same occasion. -/
  told : after.notices = before.notices ++ called.map fun callback =>
    ⟨callback.listener.name, occasion⟩
  /-- Every call leaves its own records, and one warning if it fails. -/
  logged : after.log = before.log ++ called.flatMap (·.records before.roster)
  /-- Who is registered has changed by what the callbacks did, in the order of the calls. -/
  enrolled : after.listeners =
    before.listeners.after Listener.same (called.flatMap (·.changes before.roster))
  noted : after.notes = before.notes ++ called.flatMap (·.notes before.roster before.token?)
  /-- Nothing else has changed. -/
  rest : after = { before with
    notices := after.notices
    log := after.log
    listeners := after.listeners
    notes := after.notes }

end Listener

/-! ## One callback -/

namespace Shared

variable (before : Shared)

/-- What moves leave behind that do not fail. -/
def made (listener : Listener) (occasion : Occasion) (moves : List Move) : Shared :=
  { before with
    log := before.log ++ moves.filterMap (·.record?)
    listeners := before.listeners.after Listener.same (moves.filterMap (·.change? before.roster))
    notes := before.notes ++ (moves.filter (·.notes?)).map fun _ =>
      ⟨listener.name, occasion, before.token?⟩ }

/-- What calls leave behind. -/
def called (callbacks : List Callback) : Shared :=
  { before with
    notices := before.notices ++ callbacks.map (·.notice)
    log := before.log ++ callbacks.flatMap (·.records before.roster)
    listeners := before.listeners.after Listener.same
      (callbacks.flatMap (·.changes before.roster))
    notes := before.notes ++ callbacks.flatMap (·.notes before.roster before.token?) }

theorem made_nil (listener : Listener) (occasion : Occasion) :
    before.made listener occasion [] = before := by
  simp [made, Registry.after]

theorem made_cons (listener : Listener) (occasion : Occasion) (move : Move) (rest : List Move) :
    before.made listener occasion (move :: rest) =
      (before.made listener occasion [move]).made listener occasion rest := by
  rw [← List.singleton_append]
  simp only [made, token?, List.filterMap_append, List.filter_append, List.map_append,
    List.append_assoc, Registry.after_append]

theorem called_singleton (callback : Callback) :
    let after := (before.tell callback.notice).made callback.listener callback.occasion
      (callback.done before.roster)
    before.called [callback] =
      { after with log := after.log ++ callback.warnings before.roster } := by
  simp [called, made, tell, token?, Callback.records, Callback.changes, Callback.notes,
    List.append_assoc]

theorem called_cons (callback : Callback) (rest : List Callback) :
    before.called (callback :: rest) = (before.called [callback]).called rest := by
  rw [← List.singleton_append]
  simp only [called, token?, List.map_append, List.flatMap_append, List.append_assoc,
    Registry.after_append]

end Shared

namespace Listener

variable (endpoint : Endpoint) (occasion : Occasion)

/-- A change for a listener by its name, if some listener has it. -/
theorem run_modify_named {name : Text} (change : Shared → Listener → Bool × Shared)
    (before : Shared) :
    (do let other ← named name
        Routine.modify fun shared => (change shared other).2 : Routine Unit).run endpoint before =
      match before.roster.find? (·.name == name) with
      | some other => ((change before other).2, .ok ())
      | none => (before, .error (.foreign (.unknownListener name))) := by
  rw [Routine.run_bind, run_named, Shared.listener?]
  cases before.roster.find? (·.name == name) <;> rfl

theorem run_perform_eq (listener : Listener) (move : Move) (before : Shared) :
    (listener.perform occasion move).run endpoint before =
      match move.fault? before.roster with
      | some fault => (before, .error fault)
      | none => (before.made listener occasion [move], .ok ()) := by
  cases move with
  | pause => simp [perform, Move.fault?, Shared.made, Registry.after, Move.record?, Move.change?,
      Move.notes?]
  | note => simp [perform, Move.fault?, Shared.made, Shared.note, Registry.after, Move.record?,
      Move.change?, Move.notes?]
  | say level message =>
    cases kept : level.isKept <;>
      simp [perform, Move.fault?, Shared.made, Shared.say, Registry.after, Log.write, Move.record?,
        Move.change?, Move.notes?, kept]
  | enlist name =>
    refine (run_modify_named endpoint Shared.enlist before).trans ?_
    cases known : before.roster.find? (·.name == name) <;>
      simp [Move.fault?, known, Shared.made, Shared.enlist, Registry.after, Registry.change,
        Move.record?, Move.change?, Move.notes?]
  | dismiss name =>
    refine (run_modify_named endpoint Shared.dismiss before).trans ?_
    cases known : before.roster.find? (·.name == name) <;>
      simp [Move.fault?, known, Shared.made, Shared.dismiss, Registry.after, Registry.change,
        Move.record?, Move.change?, Move.notes?]
  | fail fault => rfl

/-- A callback does its moves up to one that fails. -/
theorem run_performAll_eq (listener : Listener) (moves : List Move) (before : Shared) :
    (listener.performAll occasion moves).run endpoint before =
      (before.made listener occasion
          (moves.takeWhile fun move => (move.fault? before.roster).isNone),
        match moves.findSome? (·.fault? before.roster) with
        | some fault => .error fault
        | none => .ok ()) := by
  induction moves generalizing before with
  | nil => rw [List.takeWhile_nil, Shared.made_nil]; rfl
  | cons move rest ih =>
    unfold performAll
    rw [Routine.run_bind, run_perform_eq]
    cases failed : move.fault? before.roster with
    | some fault => simp [failed, Shared.made_nil]
    | none =>
      simp only [failed, Option.isNone_none, List.takeWhile_cons, List.findSome?_cons, if_true]
      exact (ih _).trans (congrArg (·, _) (before.made_cons listener occasion move _).symm)

/-- The call of one listener leaves behind what its callback does, and a warning if that fails; only
a demand to stop gets out. -/
theorem run_notify_eq (callback : Callback) (before : Shared)
    (moves : callback.listener.moves callback.occasion before.notices = callback.moves) :
    (callback.listener.notify callback.occasion).run endpoint before =
      (before.called [callback],
        match callback.demand? before.roster with
        | some fault => .error fault
        | none => .ok ()) := by
  have performed := run_performAll_eq endpoint callback.occasion callback.listener callback.moves
    (before.tell callback.notice)
  have roster : (before.tell callback.notice).roster = before.roster := rfl
  rw [roster, ← Callback.done] at performed
  unfold notify
  rw [Routine.run_bind_of_ok endpoint (Routine.run_get endpoint before),
    Routine.run_bind_of_ok endpoint (Routine.run_modify endpoint _ before), moves,
    before.called_singleton]
  cases failed : callback.moves.findSome? (·.fault? before.roster) with
  | none =>
    rw [failed] at performed
    refine (Routine.run_tryCatch_of_ok endpoint performed _).trans ?_
    simp [Callback.demand?, Callback.warnings, Callback.raised?, failed]
  | some raised =>
    rw [failed] at performed
    refine (Routine.run_tryCatch_of_error endpoint performed _).trans ?_
    simp only [Callback.demand?, Callback.warnings, Callback.raised?, failed, Option.map_some]
    -- From here on it does not matter whether the callback was waited for.
    generalize (if callback.moves.any (·.isPause) then raised.awaited else raised) = fault
    cases failure : fault.isFailure with
    | true =>
      simp [Option.filter, failure, Shared.say, Log.write, Level.isKept, Level.warning, Level.debug]
    | false => simp [Option.filter, failure]

/-- The calls of listeners are those up to the first demand to stop. -/
theorem run_notifyEach_eq (listeners : List Listener) (before : Shared) :
    (notifyEach occasion listeners).run endpoint before =
      (before.called (reached before.roster (callbacks occasion before.notices listeners)),
        match (callbacks occasion before.notices listeners).findSome?
          (·.demand? before.roster) with
        | some fault => .error fault
        | none => .ok ()) := by
  induction listeners generalizing before with
  | nil => simp [notifyEach, callbacks, reached, Shared.called, Registry.after]
  | cons listener rest ih =>
    have first := run_notify_eq endpoint
      ⟨listener, occasion, listener.moves occasion before.notices⟩ before rfl
    unfold notifyEach
    rw [Routine.run_bind, first]
    simp only [callbacks, reached, List.findSome?_cons]
    cases demand : Callback.demand? before.roster
        ⟨listener, occasion, listener.moves occasion before.notices⟩ with
    | some fault => simp
    | none =>
      simp only [Option.isSome_none, Bool.false_eq_true, if_false]
      exact (ih _).trans (congrArg (·, _) (before.called_cons _ _).symm)

/-! ## A round -/

variable {occasion} {roster : List Listener} {calls : List Callback} {earlier : List Notice}
  {listeners : List Listener}

theorem map_listener_callbacks :
    (callbacks occasion earlier listeners).map (·.listener) = listeners := by
  induction listeners generalizing earlier with
  | nil => rfl
  | cons listener rest ih => rw [callbacks, List.map_cons, ih]

theorem occasion_of_mem_callbacks {callback : Callback}
    (member : callback ∈ callbacks occasion earlier listeners) : callback.occasion = occasion := by
  induction listeners generalizing earlier with
  | nil => cases member
  | cons listener rest ih =>
    rcases List.mem_cons.mp member with rfl | later
    · rfl
    · exact ih later

theorem reached_isPrefix : reached roster calls <+: calls := by
  induction calls with
  | nil => exact List.prefix_rfl
  | cons callback rest ih =>
    rw [reached]
    split
    · exact ⟨rest, rfl⟩
    · exact List.cons_prefix_cons.mpr ⟨rfl, ih⟩

theorem reached_of_calm (calm : ∀ callback ∈ calls, callback.demand? roster = none) :
    reached roster calls = calls := by
  induction calls with
  | nil => rfl
  | cons callback rest ih =>
    rw [reached, calm callback List.mem_cons_self,
      ih fun other member => calm other (List.mem_cons_of_mem _ member)]
    rfl

theorem reached_of_demand {position : Nat} {callback : Callback} {fault : Fault}
    (at? : calls[position]? = some callback) (demand : callback.demand? roster = some fault)
    (calm : ∀ earlier ∈ calls.take position, earlier.demand? roster = none) :
    reached roster calls = calls.take (position + 1) ∧
      calls.findSome? (·.demand? roster) = some fault := by
  induction calls generalizing position with
  | nil => cases at?
  | cons first rest ih =>
    cases position with
    | zero =>
      obtain rfl : first = callback := Option.some.inj at?
      simp [reached, demand]
    | succ position =>
      have quiet := calm first List.mem_cons_self
      obtain ⟨taken, found⟩ := ih at? fun other member => calm other (List.mem_cons_of_mem _ member)
      simp [reached, quiet, taken, found]

theorem isolated_of_run (endpoint : Endpoint) (occasion : Occasion) (before : Shared) :
    ∃ called, Isolated occasion before called ((notifyAll occasion).run endpoint before).2
      ((notifyAll occasion).run endpoint before).1 := by
  have round := run_notifyEach_eq endpoint occasion before.listeners.members before
  generalize calling : callbacks occasion before.notices before.listeners.members = calls at round
  have names : calls.map (·.listener) = before.listeners.members :=
    calling ▸ map_listener_callbacks
  have occasions : (reached before.roster calls).map (·.notice) =
      (reached before.roster calls).map fun callback => ⟨callback.listener.name, occasion⟩ :=
    List.map_congr_left fun callback member => by
      rw [Callback.notice, occasion_of_mem_callbacks (calling ▸ reached_isPrefix.subset member)]
  unfold notifyAll
  rw [Routine.run_bind_of_ok endpoint (Routine.run_get endpoint before), round]
  refine ⟨reached before.roster calls, ?_⟩
  exact
    { isPrefix := calling ▸ reached_isPrefix
      everybody := by
        rw [calling]
        intro calm
        rw [reached_of_calm calm, List.findSome?_eq_none_iff.mpr calm]
        exact ⟨rfl, names⟩
      stopped := by
        rw [calling]
        intro position callback fault at? demand calm
        obtain ⟨taken, found⟩ := reached_of_demand at? demand calm
        rw [taken, found, List.map_take, names]
        exact ⟨rfl, rfl⟩
      told := congrArg (before.notices ++ ·) occasions
      logged := rfl
      enrolled := rfl
      noted := rfl
      rest := rfl }

/-- What a round of telling comes to while other tasks go on, who may change who is registered as
well: those are called, in their order, who were registered at its beginning, unless one of the
calls ends with a demand to stop. -/
def CallsAmid (occasion : Occasion) (number : Nat) (world : World) (outcome : Except Fault Unit)
    (after : World) : Prop :=
  ∃ called missed, world.shared.listeners.members = called ++ missed ∧
    after.past.toldBy number = world.past.toldBy number ++
      called.map (fun listener => ⟨listener.name, occasion⟩) ∧
    (outcome = .ok () → missed = []) ∧
    ∀ fault, outcome = .error fault → fault.isFailure = false

theorem Told.exists_called {regime : Regime} {number : Nat} {world after : World}
    {outcome : Except Fault Unit}
    (told : Told regime number occasion listeners world outcome after) :
    ∃ called missed, listeners = called ++ missed ∧
      after.past.toldBy number = world.past.toldBy number ++
        called.map (fun listener => ⟨listener.name, occasion⟩) ∧
      (outcome = .ok () → missed = []) := by
  have telling (world : World) (notice : Notice) :
      (world.tells number notice).past.toldBy number = world.past.toldBy number ++ [notice] := by
    simp [World.tells, History.toldBy]
  induction told with
  | nobody world => exact ⟨[], [], rfl, by simp, fun _ => rfl⟩
  | @next listener rest world between after outcome calmly others ih =>
    obtain ⟨called, missed, split, heard, complete⟩ := ih
    refine ⟨listener :: called, missed, congrArg (listener :: ·) split, ?_, complete⟩
    rw [heard, calmly.toldBy, telling, List.map_cons, List.append_assoc, List.singleton_append]
  | @stopped listener rest world after fault calmly halts demand =>
    refine ⟨[listener], rest, rfl, ?_, ?_⟩
    · rw [calmly.toldBy, telling]
      rfl
    · intro completed
      cases completed

/-- **Rounds are isolated from what callbacks do.** For all listeners and callbacks, a round that is
carried out alone makes the calls that it set out to make, up to a demand to stop, and leaves behind
what each of them does by itself. While callbacks wait, other tasks may go on as they please; this
has no influence on who is called. -/
theorem isolated_notifyAll (occasion : Occasion) :
    (∀ endpoint before, ∃ called,
        Isolated occasion before called ((notifyAll occasion).run endpoint before).2
          ((notifyAll occasion).run endpoint before).1) ∧
      ∀ regime number (world : World), world.holder .session = some number →
        (notifyAll occasion).Ensures regime number (CallsAmid occasion number world) world := by
  refine ⟨fun endpoint before => isolated_of_run endpoint occasion before, ?_⟩
  intro regime number world holding
  apply (does_notifyAll occasion world holding).mono
  intro outcome after told
  obtain ⟨called, missed, split, heard, complete⟩ := told.exists_called
  exact ⟨called, missed, split, heard, complete, fun fault failed => told.demand failed⟩

/-- The first listener unregisters the second and itself, registers a fourth and fails; the second
has no callback; the third is interrupted. -/
theorem isolated_notifyAll_interrupted :
    let first : Listener :=
      { name := "A", onLogout := some fun _ _ =>
          [.dismiss "B", .dismiss "A", .enlist "D",
            .fail (.foreign (.ordinary "ValueError" "no"))] }
    let second : Listener := { name := "B" }
    let third : Listener :=
      { name := "C", onLogout := some fun _ _ => [.pause, .fail (.foreign .keyboardInterrupt)] }
    let fourth : Listener := { name := "D" }
    let shared : Shared :=
      { listeners := ⟨[first, second, third]⟩, roster := [first, second, third, fourth] }
    let world := (⟨shared, []⟩ : World).takes 0 .session
    let endpoint : Endpoint := fun _ _ => .later (.error (.foreign .noAnswerLeft))
    let regime := Regime.ofFree endpoint (fun _ => True) fun _ => True
    let ended := (notifyAll .logout).run endpoint shared
    ended.1.notices = [⟨"A", .logout⟩, ⟨"B", .logout⟩, ⟨"C", .logout⟩] ∧
      ended.1.names = ["C", "D"] ∧ ended.1.log.map (·.level) = [.warning, .warning] ∧
      (∃ called, Isolated .logout shared called ended.2 ended.1) ∧
      (notifyAll .logout).Ensures regime 0 (CallsAmid .logout 0 world) world := by
  intro first second third fourth shared world endpoint regime ended
  exact ⟨by decide +kernel, by decide +kernel, by decide +kernel,
    (isolated_notifyAll .logout).1 endpoint shared,
    (isolated_notifyAll .logout).2 regime 0 world World.holder_takes⟩

end Listener

end SessionKeeper
