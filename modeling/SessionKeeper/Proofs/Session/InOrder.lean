import SessionKeeper.Proofs.Session.Serial
import SessionKeeper.Proofs.Task.Stint

/-! # Transitions in the order of the lock

Logging in, logging out and taking over a response are done wholly under the lock of the session
(`Session.isEnclosed_answer`). So whatever the endpoint answers and whatever the listeners do, tasks
that ask for them leave everything as if they had come one after the other
(`Session.serialised_follow`).
-/

namespace SessionKeeper

/-- The call is one that changes what is held, and does nothing else. -/
def Call.IsTransition : Call → Prop
  | .login _ | .logout | .stop | .applyLogin _ => True
  | _ => False

theorem Request.isModest_send (request : Request) : request.send.IsModest := fun _ => trivial

namespace Listener

theorem isModest_named (name : Text) : (named name).IsModest := by
  refine Routine.isModest_get.bind fun shared => ?_
  split <;> trivial

theorem isModest_perform (listener : Listener) (occasion : Occasion) (move : Move) :
    (listener.perform occasion move).IsModest := by
  cases move with
  | pause => exact Routine.isModest_yieldTurn
  | note => exact Routine.isModest_modify (fun _ => rfl) fun _ => rfl
  | say level message => exact Routine.isModest_say level message
  | enlist name =>
    exact (isModest_named name).bind fun _ => Routine.isModest_modify (fun _ => rfl) fun _ => rfl
  | dismiss name =>
    exact (isModest_named name).bind fun _ => Routine.isModest_modify (fun _ => rfl) fun _ => rfl
  | fail fault => trivial

theorem isModest_performAll (listener : Listener) (occasion : Occasion) (moves : List Move) :
    (listener.performAll occasion moves).IsModest := by
  induction moves with
  | nil => trivial
  | cons move rest ih => exact (listener.isModest_perform occasion move).bind fun _ => ih

theorem isModest_notify (listener : Listener) (occasion : Occasion) :
    (listener.notify occasion).IsModest := by
  refine Routine.isModest_get.bind fun shared => ?_
  refine Routine.IsModest.bind (Routine.isModest_modify (fun _ => rfl) fun _ => rfl) fun _ => ?_
  have reported (fault : Fault) :
      (if fault.isFailure then Routine.say .warning (listener.failureLine occasion fault)
        else throw fault : Routine Unit).IsModest := by
    split
    · exact Routine.isModest_say _ _
    · trivial
  exact (listener.isModest_performAll occasion _).tryCatch fun raised => reported _

theorem isModest_notifyAll (occasion : Occasion) : (notifyAll occasion).IsModest := by
  refine Routine.isModest_get.bind fun shared => ?_
  induction shared.listeners.members with
  | nil => trivial
  | cons listener rest ih => exact (listener.isModest_notify occasion).bind fun _ => ih

end Listener

namespace Session

variable (session : Session)

theorem isModest_clear : clear.IsModest :=
  Routine.IsModest.bind (Routine.isModest_modify (fun _ => rfl) fun _ => rfl) fun _ =>
    Listener.isModest_notifyAll .logout

theorem isModest_revokeAndClear (token : Text) (url : Option Text) :
    (session.revokeAndClear token url).IsModest := by
  refine Routine.IsModest.ensuring ?_ isModest_clear
  refine (Routine.isModest_ofExcept _).bind fun request => request.isModest_send.bind ?_
  intro response
  split
  · exact Routine.IsModest.bind trivial fun _ => Routine.isModest_say _ _
  · exact Routine.isModest_say _ _

theorem isModest_revokeStale (token : Text) : (session.revokeStale token).IsModest := by
  refine Routine.isModest_get.bind fun shared => ?_
  refine (session.isModest_revokeAndClear token _).tryCatch fun fault => ?_
  split
  · exact Routine.isModest_say _ _
  · trivial

theorem isModest_install (response : Response) : (install response).IsModest := by
  refine (Routine.isModest_ofExcept _).bind fun grant => ?_
  refine (Routine.isModest_say _ _).bind fun _ => ?_
  refine Routine.IsModest.bind (Routine.isModest_modify (fun _ => rfl) fun _ => rfl) fun _ => ?_
  exact (Listener.isModest_notifyAll _).bind fun _ => trivial

theorem isModest_relogin (old : Option Text) : (session.relogin old).IsModest := by
  have login (url : Option Text) :
      (do
        let request ← Routine.ofReported (session.settings.draftLogin url)
        let response ← request.send
        install response : Routine String).IsModest :=
    (Routine.isModest_ofReported _).bind fun request =>
      request.isModest_send.bind fun response => isModest_install response
  refine Routine.isModest_get.bind fun shared => ?_
  cases old with
  | none => exact login shared.instanceUrl?
  | some token => exact (session.isModest_revokeStale token).bind fun _ => login _

theorem isModest_loginLocked (old : Option Text) : (session.loginLocked old).IsModest := by
  refine Routine.isModest_get.bind fun shared => ?_
  split
  · split
    · exact session.isModest_relogin old
    · exact (Routine.isModest_say _ _).bind fun _ => trivial
  · exact session.isModest_relogin old

theorem isModest_logoutLocked : session.logoutLocked.IsModest := by
  refine Routine.isModest_get.bind fun shared => ?_
  split
  · exact session.isModest_revokeAndClear _ _
  · trivial

/-- A transition is done under the lock of the session. -/
theorem isEnclosed_answer {call : Call} (transition : call.IsTransition) :
    (session.answer call).IsEnclosed .session := by
  have logout : session.logout.IsEnclosed .session :=
    Routine.isEnclosed_withLock session.isModest_logoutLocked.isLockless .session
  cases call with
  | login old =>
    exact (Routine.isEnclosed_withLock (session.isModest_loginLocked old).isLockless .session).map _
  | logout => exact logout.map _
  | stop => exact logout.map _
  | applyLogin response =>
    exact (Routine.isEnclosed_withLock (isModest_install response).isLockless .session).map _
  | _ => exact transition.elim

/-- **Transitions are serial.** Any number of tasks log in, log out or take over a response, in
whatever order they go on, whatever the endpoint answers and whatever the listeners do on being
told. However the turns are given, as long as no wait is broken off, the tasks come to their end.
Then no task did anything between two deeds of another one, and the outcome of every task as well as
all that is shared, the requests, the notices and the log included, are those of the same calls made
one after the other in the order in which they took the lock of the session. -/
theorem serialised_follow (session : Session) (endpoint : Endpoint) {shared : Shared}
    (unlocked : shared.locked = []) {events : List (Event Call)}
    (transitions : ∀ call ∈ Event.begun events, call.IsTransition)
    (unbroken : Event.Breaks (fun _ => False) events) :
    Course.Inevitably endpoint
      (fun final => final.crew.tasks.length = (Event.begun events).length ∧
        final.Serialised endpoint shared ((Event.begun events).map session.answer))
      ((Course.initial shared).follow endpoint session.answer events) :=
  Course.inevitably_serialised unlocked
    (fun call begun => session.isEnclosed_answer (transitions call begun)) unbroken

theorem serialised_follow_three :
    let session : Session := ⟨⟨"https://login.test", "id", "secret", "user", "password", 5000⟩⟩
    let endpoint : Endpoint := fun earlier _ => .later (.ok
      (if earlier.length < 2 then ⟨500, none, .bytes []⟩ else ⟨200, none,
        .text "\x7b\"access_token\": \"t2\", \"instance_url\": \"https://a.test\"\x7d"⟩))
    let patient : Listener :=
      { name := "patient", onLogin := some fun _ _ => [.note, .pause, .dismiss "patient"] }
    let shared : Shared :=
      { held := some ⟨"t1", "https://a.test"⟩, listeners := ⟨[patient]⟩, roster := [patient] }
    let events : List (Event Call) :=
      [.begins (.login (some "t1")), .begins .logout, .turn 0, .begins (.login none)]
    Course.Inevitably endpoint
      (fun final => final.crew.tasks.length = 3 ∧
        final.Serialised endpoint shared
          [session.answer (.login (some "t1")), session.answer .logout,
            session.answer (.login none)])
      ((Course.initial shared).follow endpoint session.answer events) := by
  intro session endpoint patient shared events
  have transitions : ∀ call ∈ Event.begun events, call.IsTransition := by
    simp [events, Event.begun, Call.IsTransition]
  have unbroken : Event.Breaks (fun _ => False) events := by simp [Event.Breaks, events]
  exact serialised_follow session endpoint rfl transitions unbroken

end Session

end SessionKeeper
