import SessionKeeper.Proofs.Listener.Roster
import SessionKeeper.Proofs.Task.Likeness
import SessionKeeper.Proofs.Task.Run

/-! # Rounds of telling that are carried out alone

A round of telling tells every listener that is registered when it begins, once and in the order of
registration, and leaves everything else alone but the log, the notes that listeners make and who is
registered (`Listener.run_notifyAll`). A listener that demands to stop is the last one to be told
(`Listener.Circulated`). What the log says makes no difference to a round, and neither does the
endpoint (`Listener.upToLog_notifyAll`).
-/

namespace SessionKeeper

@[simp] theorem Shared.unlock_lock (shared : Shared) (lock : Lock) :
    (shared.lock lock).unlock lock = shared := by
  simp [Shared.lock, Shared.unlock]

/-- None of the registered listeners ever demands to stop. -/
def Shared.Calm (shared : Shared) : Prop := ∀ listener ∈ shared.listeners.members, ¬ listener.Halts

/-- Nothing but the log may differ. -/
def Shared.UpToLog (first second : Shared) : Prop := ∃ log, second = { first with log := log }

namespace Shared.UpToLog

variable {first second third : Shared}

protected theorem refl (shared : Shared) : shared.UpToLog shared := ⟨shared.log, rfl⟩

protected theorem symm (same : first.UpToLog second) : second.UpToLog first := by
  obtain ⟨log, rfl⟩ := same
  exact ⟨first.log, rfl⟩

protected theorem trans (same : first.UpToLog second) (again : second.UpToLog third) :
    first.UpToLog third := by
  obtain ⟨log, rfl⟩ := same
  obtain ⟨other, rfl⟩ := again
  exact ⟨other, rfl⟩

theorem say (shared : Shared) (level : Level) (message : Text) :
    shared.UpToLog (shared.say level message) := ⟨_, rfl⟩

theorem report (shared : Shared) (lines : List (Level × Text)) :
    shared.UpToLog (lines.foldl (fun shared line => shared.say line.1 line.2) shared) := by
  induction lines generalizing shared with
  | nil => exact .refl shared
  | cons line rest ih => exact (say shared line.1 line.2).trans (ih _)

/-- A change that has nothing to do with the log keeps the rest the same. -/
theorem change (same : first.UpToLog second) (change : Shared → Shared)
    (blind : ∀ shared log, (change { shared with log := log }).UpToLog (change shared)) :
    (change first).UpToLog (change second) := by
  obtain ⟨log, rfl⟩ := same
  exact (blind first log).symm

variable (same : first.UpToLog second)

include same

theorem lock (taken : Lock) : (first.lock taken).UpToLog (second.lock taken) :=
  same.change (·.lock taken) fun shared _ => ⟨shared.log, rfl⟩

theorem unlock (given : Lock) : (first.unlock given).UpToLog (second.unlock given) :=
  same.change (·.unlock given) fun shared _ => ⟨shared.log, rfl⟩

theorem hold (held : Option Credential) : (first.hold held).UpToLog (second.hold held) :=
  same.change (·.hold held) fun shared _ => ⟨shared.log, rfl⟩

theorem send (request : Request) : (first.send request).UpToLog (second.send request) :=
  same.change (·.send request) fun shared _ => ⟨shared.log, rfl⟩

theorem tame (tame : first.Tame) : second.Tame := by
  obtain ⟨log, rfl⟩ := same
  exact ⟨tame.registered, tame.known⟩

theorem calm (calm : first.Calm) : second.Calm := by
  obtain ⟨log, rfl⟩ := same
  exact calm

end Shared.UpToLog

/-- Runs that differ in the log, whatever is answered in them. -/
def Likeness.upToLog : Likeness where
  shared := Shared.UpToLog
  request := Eq
  answer _ _ _ := True
  fault := Eq
  same_fault _ := rfl
  locked := by
    rintro first _ ⟨log, rfl⟩
    rfl
  lock taken same := Shared.UpToLog.lock same taken
  unlock given same := Shared.UpToLog.unlock same given
  sent := by
    rintro first _ ⟨log, rfl⟩
    exact List.forall₂_same.mpr fun _ _ => rfl
  send := by
    rintro first _ request _ same rfl
    exact Shared.UpToLog.send same request
  broken _ _ := trivial

namespace Listener

/-- What a round of telling makes of what is shared: the listeners are told, and may make notes of
the occasion with what was held all the time. -/
structure Round (occasion : Occasion) (told : List Notice) (before after : Shared) : Prop where
  held : after.held = before.held
  sent : after.sent = before.sent
  locked : after.locked = before.locked
  stage : after.stage = before.stage
  ledger : after.ledger = before.ledger
  roster : after.roster = before.roster
  enrolled : before.Tame → after.Tame
  notices : after.notices = before.notices ++ told
  noted : ∃ notes, after.notes = before.notes ++ notes ∧
    ∀ note ∈ notes, note.occasion = occasion ∧ note.held = before.token?

variable {occasion : Occasion} {listener : Listener}
  {before between after : Shared} {told rest : List Notice} {fault : Fault}

namespace Round

theorem refl : Round occasion [] before before :=
  ⟨rfl, rfl, rfl, rfl, rfl, rfl, id, by simp, [], by simp⟩

theorem trans (first : Round occasion told before between)
    (second : Round occasion rest between after) :
    Round occasion (told ++ rest) before after := by
  obtain ⟨some, noted, first_notes⟩ := first.noted
  obtain ⟨more, added, second_notes⟩ := second.noted
  have token : between.token? = before.token? := by rw [Shared.token?, first.held]; rfl
  refine ⟨second.held.trans first.held, second.sent.trans first.sent,
    second.locked.trans first.locked, second.stage.trans first.stage,
    second.ledger.trans first.ledger, second.roster.trans first.roster,
    second.enrolled ∘ first.enrolled, ?_, some ++ more, ?_, fun note member => ?_⟩
  · rw [second.notices, first.notices, List.append_assoc]
  · rw [added, noted, List.append_assoc]
  · rcases List.mem_append.mp member with early | late
    · exact first_notes note early
    · exact token ▸ second_notes note late

theorem say (level : Level) (message : Text) :
    Round occasion [] before (before.say level message) :=
  ⟨rfl, rfl, rfl, rfl, rfl, rfl, fun tame => ⟨tame.registered, tame.known⟩,
    (List.append_nil _).symm, [], (List.append_nil _).symm, by simp⟩

theorem note (name : Text) : Round occasion [] before (before.note name occasion) :=
  ⟨rfl, rfl, rfl, rfl, rfl, rfl, fun tame => ⟨tame.registered, tame.known⟩,
    (List.append_nil _).symm, [_], rfl, by simp⟩

theorem tell (notice : Notice) : Round occasion [notice] before (before.tell notice) :=
  ⟨rfl, rfl, rfl, rfl, rfl, rfl, fun tame => ⟨tame.registered, tame.known⟩, rfl, [],
    (List.append_nil _).symm, by simp⟩

/-- Some listener of the roster is registered or unregistered. -/
theorem enrolment (known : listener ∈ before.roster) {registry : Registry Listener}
    (change : registry = (before.enlist listener).2.listeners ∨
      registry = (before.dismiss listener).2.listeners) :
    Round occasion [] before { before with listeners := registry } :=
  ⟨rfl, rfl, rfl, rfl, rfl, rfl, fun tame => tame.enrolment (.inr ⟨listener, known, change⟩) rfl,
    (List.append_nil _).symm, [], (List.append_nil _).symm, by simp⟩

/-- A round shows neither the log before it nor the log after it. -/
theorem upToLog {first last : Shared} (round : Round occasion told before after)
    (start : first.UpToLog before) (finish : after.UpToLog last) :
    Round occasion told first last := by
  obtain ⟨_, rfl⟩ := start
  obtain ⟨_, rfl⟩ := finish
  exact ⟨round.held, round.sent, round.locked, round.stage, round.ledger, round.roster,
    fun tame => ⟨(round.enrolled ⟨tame.registered, tame.known⟩).registered,
      (round.enrolled ⟨tame.registered, tame.known⟩).known⟩,
    round.notices, round.noted⟩

/-- A lock that is in hand during a round does not show in it. -/
theorem unlock {lock : Lock} (round : Round occasion told (before.lock lock) after) :
    Round occasion told before (after.unlock lock) := by
  refine ⟨round.held, round.sent, ?_, round.stage, round.ledger, round.roster, fun tame => ?_,
    round.notices, round.noted⟩
  · exact (congrArg (List.erase · lock) round.locked).trans
      (List.erase_cons_head lock before.locked)
  · have still := round.enrolled ⟨tame.registered, tame.known⟩
    exact ⟨still.registered, still.known⟩

end Round

/-- What a round of telling comes to: everybody is told, or the listeners are told up to one that
demands to stop. -/
inductive Circulated (occasion : Occasion) (listeners : List Listener) (before : Shared) :
    Except Fault Unit → Shared → Prop
  | everybody (after : Shared)
      (round : Round occasion (listeners.map fun listener => ⟨listener.name, occasion⟩) before
        after) :
      Circulated occasion listeners before (.ok ()) after
  | stopped (reached : List Listener) (last : Listener) (missed : List Listener)
      (split : listeners = reached ++ last :: missed) (halts : last.Halts) (fault : Fault)
      (demand : fault.isFailure = false) (after : Shared)
      (round : Round occasion
        ((reached ++ [last]).map fun listener => ⟨listener.name, occasion⟩) before after) :
      Circulated occasion listeners before (.error fault) after

namespace Circulated

variable {listeners : List Listener} {outcome : Except Fault Unit}

/-- In any case the first listeners are told. -/
theorem round (circulated : Circulated occasion listeners before outcome after) :
    ∃ reached, reached <+: listeners ∧
      Round occasion (reached.map fun listener => ⟨listener.name, occasion⟩) before after := by
  cases circulated with
  | everybody after round => exact ⟨listeners, List.prefix_rfl, round⟩
  | stopped reached last missed split halts fault demand after round =>
    exact ⟨reached ++ [last], ⟨missed, by simp [split]⟩, round⟩

/-- Only a demand to stop keeps a round from coming to its end. -/
theorem of_calm (circulated : Circulated occasion listeners before outcome after)
    (calm : ∀ listener ∈ listeners, ¬ listener.Halts) :
    Round occasion (listeners.map fun listener => ⟨listener.name, occasion⟩) before after ∧
      outcome = .ok () := by
  cases circulated with
  | everybody after round => exact ⟨round, rfl⟩
  | stopped reached last missed split halts fault demand after round =>
    exact absurd halts (calm last (by simp [split]))

theorem demand (circulated : Circulated occasion listeners before (.error fault) after) :
    fault.isFailure = false := by
  cases circulated with
  | stopped reached last missed split halts fault demand after round => exact demand

/-- Once one listener is told, the others are. -/
theorem next (first : Circulated occasion [listener] before (.ok ()) between)
    (others : Circulated occasion listeners between outcome after) :
    Circulated occasion (listener :: listeners) before outcome after := by
  cases first with
  | everybody between begun =>
    cases others with
    | everybody after round => exact .everybody after (begun.trans round)
    | stopped reached last missed split halts fault demand after round =>
      exact .stopped (listener :: reached) last missed (by rw [split]; rfl) halts fault demand after
        (begun.trans round)

/-- A demand to stop keeps the others from being told. -/
theorem stops (first : Circulated occasion [listener] before (.error fault) after)
    (others : List Listener) :
    Circulated occasion (listener :: others) before (.error fault) after := by
  cases first with
  | stopped reached last missed split halts fault demand after round =>
    exact .stopped reached last (missed ++ others) (by simpa using congrArg (· ++ others) split)
      halts fault demand after round

theorem upToLog {first : Shared} (circulated : Circulated occasion listeners before outcome after)
    (start : first.UpToLog before) : Circulated occasion listeners first outcome after := by
  cases circulated with
  | everybody after round => exact .everybody after (round.upToLog start (.refl after))
  | stopped reached last missed split halts fault demand after round =>
    exact .stopped reached last missed split halts fault demand after
      (round.upToLog start (.refl after))

/-- A lock that is in hand during a round does not show in it. -/
theorem unlock {lock : Lock}
    (circulated : Circulated occasion listeners (before.lock lock) outcome after) :
    Circulated occasion listeners before outcome (after.unlock lock) := by
  cases circulated with
  | everybody after round => exact .everybody _ round.unlock
  | stopped reached last missed split halts fault demand after round =>
    exact .stopped reached last missed split halts fault demand _ round.unlock

end Circulated

/-! ## What a round does -/

theorem run_named (endpoint : Endpoint) (name : Text) (before : Shared) :
    (named name).run endpoint before =
      (before, match before.listener? name with
        | some listener => .ok listener
        | none => .error (.foreign (.unknownListener name))) := by
  unfold named
  rw [Routine.run_bind, Routine.run_get]
  simp only
  cases before.listener? name <;> rfl

/-- A part of a callback tells nobody; if it ends with a demand to stop, it says so. -/
theorem run_perform (endpoint : Endpoint) (listener : Listener) (occasion : Occasion) (move : Move)
    (before : Shared) :
    Round occasion [] before ((listener.perform occasion move).run endpoint before).1 ∧
      ∀ fault, ((listener.perform occasion move).run endpoint before).2 = .error fault →
        fault.isFailure = false → move = .fail fault := by
  have renamed {name : Text} (change : Shared → Listener → Bool × Shared)
      (enrols : ∀ other ∈ before.roster, Round occasion [] before (change before other).2) :
      Round occasion [] before ((do
          let other ← named name
          Routine.modify fun shared => (change shared other).2 : Routine Unit).run endpoint
            before).1 ∧
        ∀ fault, ((do
          let other ← named name
          Routine.modify fun shared => (change shared other).2 : Routine Unit).run endpoint
            before).2 = .error fault → fault.isFailure = true := by
    rw [Routine.run_bind, run_named]
    cases known : before.listener? name with
    | none => exact ⟨.refl, by rintro _ ⟨rfl⟩; rfl⟩
    | some other => exact ⟨enrols other (List.mem_of_find?_eq_some known), nofun⟩
  cases move with
  | pause => exact ⟨.refl, nofun⟩
  | note => exact ⟨.note listener.name, nofun⟩
  | say level message => exact ⟨.say level message, nofun⟩
  | enlist name =>
    obtain ⟨round, mild⟩ := renamed Shared.enlist fun other known => .enrolment known (.inl rfl)
    refine ⟨round, fun fault failed demand => ?_⟩
    cases (mild fault failed).symm.trans demand
  | dismiss name =>
    obtain ⟨round, mild⟩ := renamed Shared.dismiss fun other known => .enrolment known (.inr rfl)
    refine ⟨round, fun fault failed demand => ?_⟩
    cases (mild fault failed).symm.trans demand
  | fail fault => exact ⟨.refl, by rintro _ ⟨rfl⟩ _; rfl⟩

theorem run_performAll (endpoint : Endpoint) (listener : Listener) (occasion : Occasion)
    (moves : List Move) (before : Shared) :
    Round occasion [] before ((listener.performAll occasion moves).run endpoint before).1 ∧
      ∀ fault, ((listener.performAll occasion moves).run endpoint before).2 = .error fault →
        fault.isFailure = false → Move.fail fault ∈ moves := by
  induction moves generalizing before with
  | nil => exact ⟨.refl, nofun⟩
  | cons move others ih =>
    obtain ⟨first, own⟩ := run_perform endpoint listener occasion move before
    unfold performAll
    rw [Routine.run_bind]
    generalize (listener.perform occasion move).run endpoint before = result at first own
    obtain ⟨between, fault | value⟩ := result
    · refine ⟨first, ?_⟩
      rintro _ ⟨rfl⟩ demand
      exact List.mem_cons.mpr (.inl (own fault rfl demand).symm)
    · refine ⟨first.trans (ih between).1, fun fault failed demand => ?_⟩
      exact List.mem_cons_of_mem move ((ih between).2 fault failed demand)

/-- Telling one listener comes to a fault only if that listener demands to stop. -/
theorem circulated_notify (endpoint : Endpoint) (occasion : Occasion) (listener : Listener)
    (before : Shared) :
    Circulated occasion [listener] before ((listener.notify occasion).run endpoint before).2
      ((listener.notify occasion).run endpoint before).1 := by
  unfold notify
  rw [Routine.run_bind_of_ok endpoint (Routine.run_get endpoint before),
    Routine.run_bind_of_ok endpoint (Routine.run_modify endpoint _ before)]
  obtain ⟨performed, demands⟩ := run_performAll endpoint listener occasion
    (listener.moves occasion before.notices) (before.tell ⟨listener.name, occasion⟩)
  generalize ended : (listener.performAll occasion (listener.moves occasion before.notices)).run
    endpoint (before.tell ⟨listener.name, occasion⟩) = result at performed demands
  have telling := (Round.tell ⟨listener.name, occasion⟩).trans performed
  obtain ⟨between, raised | ⟨⟨⟩⟩⟩ := result
  · rw [Routine.run_tryCatch_of_error endpoint ended]
    simp only
    generalize awaited : (if (listener.moves occasion before.notices).any (·.isPause)
      then raised.awaited else raised) = fault
    have same : fault.isFailure = raised.isFailure := by
      rw [← awaited]
      split
      · exact isFailure_awaited raised
      · rfl
    cases failure : fault.isFailure with
    | true =>
      rw [if_pos rfl]
      exact .everybody _ (telling.trans (.say _ _))
    | false =>
      have demand : raised.isFailure = false := same.symm.trans failure
      rw [if_neg Bool.false_ne_true]
      exact .stopped [] listener [] rfl ⟨occasion, _, raised, demands raised rfl demand, demand⟩
        fault failure _ telling
  · rw [Routine.run_tryCatch_of_ok endpoint ended]
    exact .everybody _ telling

theorem circulated_notifyEach (endpoint : Endpoint) (occasion : Occasion)
    (listeners : List Listener) (before : Shared) :
    Circulated occasion listeners before ((notifyEach occasion listeners).run endpoint before).2
      ((notifyEach occasion listeners).run endpoint before).1 := by
  induction listeners generalizing before with
  | nil => exact .everybody before .refl
  | cons listener others ih =>
    have first := circulated_notify endpoint occasion listener before
    unfold notifyEach
    rw [Routine.run_bind]
    generalize (listener.notify occasion).run endpoint before = result at first
    obtain ⟨between, fault | ⟨⟨⟩⟩⟩ := result
    · exact first.stops others
    · exact first.next (ih between)

/-- The listeners that are registered at the beginning are told. -/
theorem circulated_notifyAll (endpoint : Endpoint) (occasion : Occasion) (before : Shared) :
    Circulated occasion before.listeners.members before
      ((notifyAll occasion).run endpoint before).2
      ((notifyAll occasion).run endpoint before).1 := by
  unfold notifyAll
  rw [Routine.run_bind_of_ok endpoint (Routine.run_get endpoint before)]
  exact circulated_notifyEach endpoint occasion before.listeners.members before

/-- Every listener that is registered at the beginning is told once. -/
theorem run_notifyAll (endpoint : Endpoint) (occasion : Occasion) (calm : before.Calm) :
    Round occasion (before.listeners.members.map fun listener => ⟨listener.name, occasion⟩) before
        ((notifyAll occasion).run endpoint before).1 ∧
      ((notifyAll occasion).run endpoint before).2 = .ok () :=
  (circulated_notifyAll endpoint occasion before).of_calm calm

/-! ## What makes no difference to a round -/

private theorem alike_modify {change : Shared → Shared}
    (blind : ∀ shared log, (change { shared with log := log }).UpToLog (change shared)) :
    Routine.Alike Likeness.upToLog Eq (Routine.modify change) (Routine.modify change) :=
  Routine.alike_modify fun first second (same : first.UpToLog second) => same.change _ blind

private theorem upToLog_named (name : Text) :
    Routine.Alike Likeness.upToLog Eq (named name) (named name) := by
  refine Routine.alike_get.bind ?_
  rintro first second (⟨log, rfl⟩ : first.UpToLog second)
  have same : Shared.listener? { first with log := log } name = first.listener? name := rfl
  simp only [same]
  cases first.listener? name with
  | none => exact Routine.alike_throw rfl
  | some listener => exact Routine.alike_pure rfl

private theorem upToLog_perform (listener : Listener) (occasion : Occasion) (move : Move) :
    Routine.Alike Likeness.upToLog Eq (listener.perform occasion move)
      (listener.perform occasion move) := by
  cases move with
  | pause => exact Routine.alike_yieldTurn
  | note => exact alike_modify fun shared _ => ⟨shared.log, rfl⟩
  | say level message => exact alike_modify fun shared _ => ⟨_, rfl⟩
  | enlist name =>
    refine (upToLog_named name).bind ?_
    rintro other _ rfl
    exact alike_modify fun shared _ => ⟨shared.log, rfl⟩
  | dismiss name =>
    refine (upToLog_named name).bind ?_
    rintro other _ rfl
    exact alike_modify fun shared _ => ⟨shared.log, rfl⟩
  | fail fault => exact Routine.alike_throw rfl

private theorem upToLog_performAll (listener : Listener) (occasion : Occasion)
    (moves : List Move) :
    Routine.Alike Likeness.upToLog Eq (listener.performAll occasion moves)
      (listener.performAll occasion moves) := by
  induction moves with
  | nil => exact Routine.alike_pure rfl
  | cons move others ih => exact (upToLog_perform listener occasion move).bind fun _ _ _ => ih

private theorem upToLog_notify (listener : Listener) (occasion : Occasion) :
    Routine.Alike Likeness.upToLog Eq (listener.notify occasion) (listener.notify occasion) := by
  refine Routine.alike_get.bind ?_
  rintro first second (⟨log, rfl⟩ : first.UpToLog second)
  refine (alike_modify fun shared _ => ⟨shared.log, rfl⟩).bind fun _ _ _ => ?_
  refine (upToLog_performAll listener occasion _).tryCatch ?_
  rintro raised _ rfl
  have reported (fault : Fault) : Routine.Alike Likeness.upToLog Eq
      (if fault.isFailure then Routine.say .warning (listener.failureLine occasion fault)
        else throw fault : Routine Unit)
      (if fault.isFailure then Routine.say .warning (listener.failureLine occasion fault)
        else throw fault : Routine Unit) := by
    split
    · exact alike_modify fun shared _ => ⟨_, rfl⟩
    · exact Routine.alike_throw rfl
  exact reported _

private theorem upToLog_notifyEach (occasion : Occasion) (listeners : List Listener) :
    Routine.Alike Likeness.upToLog Eq (notifyEach occasion listeners)
      (notifyEach occasion listeners) := by
  induction listeners with
  | nil => exact Routine.alike_pure rfl
  | cons listener others ih => exact (upToLog_notify listener occasion).bind fun _ _ _ => ih

/-- A round shows neither the log nor the endpoint. -/
theorem upToLog_notifyAll (endpoint other : Endpoint) (occasion : Occasion)
    (same : before.UpToLog after) :
    ((notifyAll occasion).run endpoint before).1.UpToLog
      ((notifyAll occasion).run other after).1 := by
  have alike : Routine.Alike Likeness.upToLog Eq (notifyAll occasion) (notifyAll occasion) := by
    refine Routine.alike_get.bind ?_
    rintro first second (⟨log, rfl⟩ : first.UpToLog second)
    exact upToLog_notifyEach occasion _
  exact (alike.run (fun _ _ _ _ _ _ => trivial) same).1

end Listener

end SessionKeeper
