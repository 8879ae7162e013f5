import SessionKeeper.Application.Check
import SessionKeeper.Proofs.Application.Shutdown
import SessionKeeper.Proofs.Session.Usability
import SessionKeeper.Proofs.Settings.Loading

/-! # The check of a configuration, from end to end

A check is carried out alone. Its requests and its exit code follow from the answer to its login
(`Check.run_load`): whatever else is answered, and whatever closing the HTTP session comes to, it
ends with nothing held and no HTTP session left open. Behind that stand the runs of starting an
application that holds nothing (`Application.run_start`) and of shutting one down
(`Application.run_shutdown`).
-/

namespace SessionKeeper

/-- The answer to a login request leaves the stage of the application and the ledger alone. -/
theorem Request.Concludes.kept {request : Request} {answer : Answer} {before after : Shared}
    {outcome : Except Fault String} (concludes : request.Concludes answer before outcome after) :
    after.stage = before.stage ∧ after.ledger = before.ledger ∧ (before.Tame → after.Tame) := by
  cases concludes with
  | granted grant accepted after told =>
    exact ⟨told.stage, told.ledger, fun tame => told.enrolled ⟨tame.registered, tame.known⟩⟩
  | refused fault refusal after same =>
    obtain ⟨log, rfl⟩ := same
    exact ⟨rfl, rfl, fun tame => ⟨tame.registered, tame.known⟩⟩

/-- The request that revokes a granted token goes to the instance that the token is for. -/
theorem Request.revokes_of_grant {request : Request} {answer : Answer} {grant : Grant}
    (accepted : request.grant answer = .ok grant) (settings : Settings) (timeout : Binary64) :
    (settings.revocation timeout (some ↑grant.instanceUrl) grant.accessToken).Revokes
      grant.credential := by
  obtain ⟨response, _, classified⟩ := Except.ok_of_bind accepted
  have filled := (Grant.ne_empty (Response.of_classifyLogin classified).2).2
  exact ⟨rfl, by rw [Settings.revocation, Settings.logoutAddress,
    settings.baseUrl_of_ne_empty filled]; rfl⟩

/-- Closing an HTTP session fails as the HTTP client or the system does, if at all. -/
def Application.ClosesMildly (closing : Except Fault Unit) : Prop :=
  ∀ raised, closing = .error raised → raised.isClientOrSystem = true

theorem Fault.isClientOrSystem_awaited {fault : Fault} (mild : fault.isClientOrSystem = true) :
    fault.awaited.isClientOrSystem = true := by
  cases fault with
  | foreign incident =>
    simp only [Fault.awaited]
    split
    · rename_i exhausted
      simp [Fault.isClientOrSystem, exhausted, Nature.isClient, Nature.isSystem] at mild
    · exact mild
  | _ => cases mild

theorem Shared.disconnected_of_stage {first second : Shared} (same : first.stage = second.stage) :
    first.disconnected = second.disconnected := by
  simp only [Shared.stage, Prod.mk.injEq] at same
  simp [Shared.disconnected, same]

namespace Session

variable {session : Session} {timeout : Binary64} {endpoint : Endpoint} {before : Shared}

/-- A start with nothing held asks for a login, and for nothing else. -/
theorem run_start (usable : session.settings.timeout = .ok timeout)
    (wrapped : endpoint.WrapsRevocations) (tame : before.Tame) (unheld : before.held = none) :
    let request := session.settings.loginRequest timeout none
    ∃ outcome last,
      request.Concludes (endpoint before.sent request).answer (before.lock .session) outcome last ∧
      session.start.run endpoint before =
        (last.unlock .session, outcome.map fun _ => ()) := by
  intro request
  have holding : (before.lock .session).Tame := ⟨tame.registered, tame.known⟩
  have spent : Spent none (before.lock .session).held := by
    intro credential held
    cases unheld.symm.trans held
  have nowhere : (before.lock .session).instanceUrl? = none := by
    rw [Shared.instanceUrl?, show (before.lock .session).held = none from unheld]
    rfl
  obtain ⟨dropped, rfl, concludes, _⟩ := run_loginLocked usable wrapped holding spent
  rw [nowhere] at concludes
  refine ⟨_, _, concludes, ?_⟩
  unfold start
  rw [Routine.run_bind_of_ok endpoint (Routine.run_get endpoint before), Routine.run_bind]
  simp only [Shared.token?, unheld, Option.map_none]
  unfold login
  rw [Routine.run_withLock]
  generalize (session.loginLocked none).run endpoint (before.lock .session) = result
  obtain ⟨last, fault | token⟩ := result <;> rfl

/-- A logout asks for the held token to be revoked, if there is one, and leaves nothing held. -/
theorem run_stop (usable : before.held ≠ none → session.settings.timeout = .ok timeout)
    (wrapped : endpoint.WrapsRevocations) (tame : before.Tame) :
    ∃ result after, session.stop.run endpoint before = (after, result) ∧
      (∀ fault, result = .error fault → before.held ≠ none ∧ fault.isSession = true) ∧
      after.Tame ∧ after.held = none ∧ after.stage = before.stage ∧ after.ledger = before.ledger ∧
      after.sent = before.sent ++ before.held.toList.map fun credential =>
        session.settings.revocation timeout (some ↑credential.instanceUrl) credential.token := by
  unfold stop
  cases current : before.held with
  | none =>
    exact ⟨_, before, run_logout_of_unheld endpoint current, nofun, tame, current, rfl, rfl,
      by simp⟩
  | some credential =>
    obtain ⟨cleared, after, circulated, ran⟩ :=
      run_logout_of_held (usable (by simp [current])) endpoint current
    obtain ⟨round, rfl⟩ := circulated.of_calm tame.registered
    refine ⟨_, after, ran, fun fault failed => ⟨by simp, ?_⟩,
      round.enrolled ⟨tame.registered, tame.known⟩, round.held, round.stage, round.ledger,
      round.sent⟩
    exact isSession_of_revokeOutcome wrapped rfl rfl fault failed

end Session

namespace Application

variable {application : Application} {session : Session} {timeout : Binary64} {endpoint : Endpoint}
  {before : Shared}

/-- A start of an application that holds nothing and was not started: it comes to what its login was
answered. -/
theorem run_start (present : application.session = some session)
    (usable : session.settings.timeout = .ok timeout) (wrapped : endpoint.WrapsRevocations)
    (tame : before.Tame) (unheld : before.held = none) (unstarted : before.started = false) :
    let request := session.settings.loginRequest timeout none
    ∃ result after, application.start.run endpoint before = (after, result) ∧ after.Tame ∧
      after.ledger = before.ledger ∧ after.sent = before.sent ++ [request] ∧
      match request.grant (endpoint before.sent request).answer with
      | .ok grant => result = .ok () ∧ after.held = some grant.credential ∧
          after.stage = (true, before.stage.2)
      | .error fault => result = .error fault ∧ after.held = none ∧ after.stage = before.stage := by
  intro request
  have locked : (before.lock .lifecycle).Tame := ⟨tame.registered, tame.known⟩
  obtain ⟨outcome, last, concludes, started⟩ :=
    Session.run_start usable wrapped locked unheld
  obtain ⟨stage, ledger, still⟩ := concludes.kept
  have sent := concludes.sent
  have tame := still ⟨tame.registered, tame.known⟩
  unfold start
  rw [Routine.run_withLock,
    Routine.run_bind_of_ok endpoint (Routine.run_get endpoint (before.lock .lifecycle))]
  have fresh : (!(before.lock .lifecycle).started) = true := by simp [Shared.lock, unstarted]
  simp only [fresh, present, if_true]
  cases concludes with
  | granted grant accepted after told =>
    rw [Routine.run_bind_of_ok endpoint started]
    have granted : request.grant (endpoint before.sent request).answer = .ok grant := accepted
    simp only [granted]
    refine ⟨_, _, rfl, ⟨tame.registered, tame.known⟩, ledger, sent, rfl, told.held, ?_⟩
    exact congrArg (fun stage => (true, stage.2)) stage
  | refused fault refusal after same =>
    rw [Routine.run_bind_of_error endpoint started]
    have refused : request.grant (endpoint before.sent request).answer = .error fault := refusal
    simp only [refused]
    obtain ⟨log, rfl⟩ := same
    exact ⟨_, _, rfl, ⟨tame.registered, tame.known⟩, ledger, sent, rfl, unheld, stage⟩

/-- What a shutdown that nothing interferes with makes of what is shared. -/
structure Quits (session : Session) (timeout : Binary64) (before after : Shared) : Prop where
  tame : after.Tame
  unheld : after.held = none
  stage : after.stage = (false, before.disconnected.2)
  ledger : before.held = none → after.ledger = before.ledger
  sent : after.sent = before.sent ++ before.held.toList.map fun credential =>
    session.settings.revocation timeout (some ↑credential.instanceUrl) credential.token

theorem run_stopSession (present : application.session = some session)
    (usable : before.held ≠ none → session.settings.timeout = .ok timeout)
    (wrapped : endpoint.WrapsRevocations) (tame : before.Tame) :
    ∃ after, application.stopSession.run endpoint before = (after, .ok ()) ∧ after.Tame ∧
      after.held = none ∧ after.stage = before.stage ∧
      (before.held = none → after.ledger = before.ledger) ∧
      after.sent = before.sent ++ before.held.toList.map fun credential =>
        session.settings.revocation timeout (some ↑credential.instanceUrl) credential.token := by
  obtain ⟨result, after, ran, mild, still, unheld, stage, ledger, sent⟩ :=
    Session.run_stop usable wrapped tame
  unfold stopSession
  simp only [present]
  cases result with
  | ok value =>
    rw [Routine.run_tryCatch_of_ok endpoint ran]
    exact ⟨after, rfl, still, unheld, stage, fun _ => ledger, sent⟩
  | error fault =>
    obtain ⟨held, forgiven⟩ := mild fault rfl
    rw [Routine.run_tryCatch_of_error endpoint ran]
    simp only [forgiven, if_true]
    exact ⟨_, rfl, ⟨still.registered, still.known⟩, unheld, stage,
      fun absent => absurd absent held, sent⟩

/-- The wait for an HTTP session that closes mildly leaves a line in the log at most. -/
theorem run_waitClosed (mild : ClosesMildly application.closing) (endpoint : Endpoint)
    (before : Shared) :
    ∃ after, before.UpToLog after ∧
      application.waitClosed.run endpoint before = (after, .ok ()) := by
  have waited (outcome : Except Fault Unit) : (do
      Routine.yieldTurn
      Routine.ofExcept outcome : Routine Unit).run endpoint before = (before, outcome) := rfl
  unfold waitClosed
  cases closing : application.closing with
  | ok value => exact ⟨before, .refl _, Routine.run_tryCatch_of_ok endpoint (waited _) _⟩
  | error raised =>
    rw [Routine.run_tryCatch_of_error endpoint (waited _)]
    simp only [Fault.isClientOrSystem_awaited (mild raised closing), if_true]
    exact ⟨_, .say before _ _, rfl⟩

/-- The HTTP session is closed, if there is one, whatever comes of it. -/
theorem run_disconnect (mild : ClosesMildly application.closing) (endpoint : Endpoint)
    (before : Shared) :
    ∃ after, application.disconnect.run endpoint before = (after, .ok ()) ∧
      (before.Tame → after.Tame) ∧ after.held = before.held ∧ after.stage = before.disconnected ∧
      after.ledger = before.ledger ∧ after.sent = before.sent := by
  unfold disconnect
  rw [Routine.run_bind_of_ok endpoint (Routine.run_get endpoint before)]
  cases connected : before.connected with
  | false =>
    refine ⟨before, by simp, id, rfl, ?_, rfl, rfl⟩
    simp [Shared.stage, Shared.disconnected, connected]
  | true =>
    let counted : Shared := { before with closings := before.closings + 1 }
    obtain ⟨after, same, closed⟩ : ∃ after, counted.UpToLog after ∧
        application.close.run endpoint before = (after, .ok ()) := by
      unfold close
      rw [Routine.run_bind_of_ok endpoint (Routine.run_modify endpoint _ before)]
      exact run_waitClosed mild endpoint counted
    have ended : (Routine.modify ({ · with connected := false })).run endpoint
        (application.close.run endpoint before).1 =
          ({ after with connected := false }, .ok ()) := by
      rw [closed]
      rfl
    simp only [if_true]
    rw [Routine.run_ensuring endpoint ended, closed]
    obtain ⟨log, rfl⟩ := same
    refine ⟨_, rfl, fun tame => ⟨tame.registered, tame.known⟩, rfl, ?_, rfl, rfl⟩
    simp [Shared.stage, Shared.disconnected, connected, counted]

/-- A shutdown leaves nothing behind, whatever the revocation is answered. -/
theorem run_shutdown (present : application.session = some session)
    (usable : before.held ≠ none → session.settings.timeout = .ok timeout)
    (wrapped : endpoint.WrapsRevocations) (mild : ClosesMildly application.closing)
    (tame : before.Tame) :
    ∃ after, application.shutdown.run endpoint before = (after, .ok ()) ∧
      Quits session timeout before after := by
  let begun := (before.lock .lifecycle).say .info "🔻 Application context shutdown initiated"
  have still : begun.Tame := ⟨tame.registered, tame.known⟩
  have needed : begun.held ≠ none → session.settings.timeout = .ok timeout := usable
  obtain ⟨off, stopped, quiet, unheld, stage, ledger, sent⟩ :=
    run_stopSession present needed wrapped still
  obtain ⟨closed, disconnected, calm, held, staged, kept, silent⟩ :=
    run_disconnect mild endpoint off
  unfold shutdown
  rw [Routine.run_withLock, Routine.run_bind_of_ok endpoint (Routine.run_say endpoint _ _ _),
    Routine.run_bind_of_ok endpoint stopped, Routine.run_bind_of_ok endpoint disconnected,
    Routine.run_bind_of_ok endpoint (Routine.run_modify endpoint _ _),
    Routine.run_bind_of_ok endpoint (Routine.run_say endpoint _ _ _)]
  unfold reportErrors
  rw [Routine.run_modify]
  obtain ⟨log, reported⟩ := Shared.UpToLog.report (({ closed with started := false } : Shared).say
    .info "✅ Application context shutdown complete") closed.ledger.report
  refine ⟨_, Prod.ext (congrArg (Shared.unlock · .lifecycle) reported) rfl,
    ⟨(calm quiet).registered, (calm quiet).known⟩, held.trans unheld, ?_,
    fun absent => kept.trans (ledger absent), silent.trans sent⟩
  have disconnected : closed.stage = before.disconnected :=
    staged.trans (Shared.disconnected_of_stage stage)
  exact congrArg (fun stage => (false, stage.2)) disconnected

/-- A line of the log between start and shutdown: it is written if the start succeeds. In any case
nothing is held in the end, and the HTTP session is closed. -/
theorem run_inside (present : application.session = some session)
    (usable : session.settings.timeout = .ok timeout) (wrapped : endpoint.WrapsRevocations)
    (mild : ClosesMildly application.closing) (tame : before.Tame) (unheld : before.held = none)
    (unstarted : before.started = false) (connected : before.connected = true) (level : Level)
    (message : Text) :
    let request := session.settings.loginRequest timeout none
    ∃ result after, (application.inside (Routine.say level message)).run endpoint before =
        (after, result) ∧
      after.held = none ∧
      after.stage = (false, false, before.openings, before.closings + 1) ∧
      match request.grant (endpoint before.sent request).answer with
      | .ok grant => result = .ok () ∧ after.sent = before.sent ++ [request,
          session.settings.revocation timeout (some ↑grant.instanceUrl) grant.accessToken]
      | .error fault => result = .error fault ∧ after.sent = before.sent ++ [request] ∧
          after.ledger = before.ledger := by
  intro request
  obtain ⟨result, started, ran, still, ledger, sent, outcome⟩ :=
    run_start present usable wrapped tame unheld unstarted
  have closes {last : Shared} (stage : last.stage.2 = before.stage.2) :
      last.disconnected.2 = (false, before.openings, before.closings + 1) := by
    simp only [Shared.stage, Prod.mk.injEq] at stage
    simp [Shared.disconnected, stage, connected]
  unfold inside
  cases granted : request.grant (endpoint before.sent request).answer with
  | ok grant =>
    simp only [request, granted] at outcome
    obtain ⟨rfl, held, stage⟩ := outcome
    have said : (started.say level message).Tame := ⟨still.registered, still.known⟩
    obtain ⟨after, shut, quits⟩ := run_shutdown present (fun _ => usable) wrapped mild said
    rw [Routine.run_bind_of_ok endpoint (Routine.run_tryCatch_of_ok endpoint ran _),
      Routine.run_ensuring endpoint shut]
    refine ⟨_, after, rfl, quits.unheld, ?_, rfl, ?_⟩
    · have same : started.stage.2 = before.stage.2 := by rw [stage]
      rw [quits.stage]
      exact congrArg (Prod.mk false) (closes same)
    · rw [quits.sent, show (started.say level message).held = _ from held]
      simp [Shared.say, sent, Grant.credential, request]
  | error fault =>
    simp only [request, granted] at outcome
    obtain ⟨rfl, held, stage⟩ := outcome
    obtain ⟨after, shut, quits⟩ := run_shutdown present (fun _ => usable) wrapped mild still
    have failed : (do application.shutdown; throw fault : Routine Unit).run endpoint started =
        (after, .error fault) := Routine.run_bind_of_ok endpoint shut _
    rw [Routine.run_bind_of_error endpoint
      ((Routine.run_tryCatch_of_error endpoint ran _).trans failed)]
    refine ⟨_, after, rfl, quits.unheld, ?_, rfl, ?_, (quits.ledger held).trans ledger⟩
    · rw [quits.stage, closes (congrArg Prod.snd stage)]
    · rw [quits.sent, held]
      simp [sent, request]

end Application

namespace Check

variable {endpoint : Endpoint} {reported : Reported Settings} {closing : Except Fault Unit}
  {settings : Settings} {timeout : Binary64}

theorem calm_loginLogger : ¬ loginLogger.Halts := by
  rintro ⟨occasion, earlier, fault, member, _⟩
  cases occasion <;> simp [loginLogger, Listener.moves, Listener.callback?] at member

/-- A check with settings: its outcome is that of its login. -/
theorem run_verify (loaded : reported.outcome = .ok settings)
    (usable : settings.timeout = .ok timeout) (wrapped : endpoint.WrapsRevocations)
    (mild : Application.ClosesMildly closing) :
    let request := settings.loginRequest timeout none
    ∃ result after, (verify reported closing).run endpoint {} = (after, result) ∧
      after.held = none ∧ after.stage = (false, false, 1, 1) ∧
      match request.grant (endpoint [] request).answer with
      | .ok grant => result = .ok () ∧ after.sent = [request,
          settings.revocation timeout (some ↑grant.instanceUrl) grant.accessToken]
      | .error fault => result = .error fault ∧ after.sent = [request] ∧ after.ledger = {} := by
  intro request
  obtain ⟨log, written⟩ := Shared.UpToLog.report {} reported.lines
  have loading : (Routine.ofReported reported).run endpoint {} =
      ({ ({} : Shared) with log := log }, .ok settings) := Prod.ext written loaded
  obtain ⟨opened, created, shown⟩ : ∃ opened, (Application.create (some settings) true closing).run
      endpoint { ({} : Shared) with log := log } = (opened, .ok ⟨some ⟨settings⟩, closing⟩) ∧
        ({ connected := true, openings := 1 } : Shared).UpToLog opened := ⟨_, rfl, _, rfl⟩
  obtain ⟨log, rfl⟩ := shown
  unfold verify
  rw [Routine.run_bind_of_ok endpoint loading, Routine.run_bind_of_ok endpoint created,
    Routine.run_bind_of_ok endpoint (Routine.run_modify endpoint _ _)]
  set ready := (Shared.enlist { ({ connected := true, openings := 1 } : Shared) with log := log }
    loginLogger).2 with enlisted
  have tame : ready.Tame := by
    refine ⟨fun listener member => ?_, nofun⟩
    obtain rfl : listener = loginLogger := by simpa [ready, Shared.enlist, Registry.add,
      Registry.contains] using member
    exact calm_loginLogger
  exact Application.run_inside rfl usable wrapped mild tame rfl rfl rfl _ _

theorem run_of_verified {after : Shared}
    (verified : (verify reported closing).run endpoint {} = (after, .ok ())) :
    run endpoint reported closing = (after, .ok (.int 0)) := by
  rw [run, routine, Routine.run_bind, Routine.run_tryCatch_of_ok endpoint
    ((Routine.run_bind_of_ok endpoint verified _).trans rfl)]
  rfl

/-- A fault of this library that ends a check is recorded. -/
theorem run_of_error {after : Shared} {fault : Fault}
    (failed : (verify reported closing).run endpoint {} = (after, .error fault))
    (internal : fault.isInternal = true) :
    run endpoint reported closing =
      (after.reportError (.ofFault "Session check failed" fault), .ok (.int 1)) := by
  rw [run, routine, Routine.run_bind, Routine.run_tryCatch_of_error endpoint
    (Routine.run_bind_of_error endpoint failed _)]
  simp only [internal, if_true]
  rfl

/-- **A check of a configuration from end to end.** Whatever the files, the environment and the
command line: settings that cannot be loaded end the check with the exit code 1, and nothing is
sent. With settings that can, a login is asked for. If it is granted, then the obtained token is
asked to be revoked, and the exit code is 0 whatever comes of that. If it is not, nothing else is
sent, its fault is the one error that is recorded, and the exit code is 1. In the end nothing is
held, and an HTTP session that was opened is closed, whatever comes of that, too. -/
theorem run_load (files : FileReader) (defaults : Defaults) (path : Option Text)
    (environment : Environment) {endpoint : Endpoint} (wrapped : ∀ request, endpoint.Wraps request)
    {closing : Except Fault Unit} (mild : Application.ClosesMildly closing) :
    let loading := Settings.load files defaults path environment
    let check := run endpoint loading closing
    (∀ problem, loading.outcome = .error (.configuration problem) →
      check.2 = .ok (.int 1) ∧ check.1.sent = [] ∧ check.1.held = none ∧
        check.1.stage = (false, false, 0, 0)) ∧
    ∀ settings timeout, loading.outcome = .ok settings → settings.timeout = .ok timeout →
      let request := settings.loginRequest timeout none
      request.method = "POST" ∧ request.url = ↑settings.loginUrl ++ Settings.tokenPath ∧
      check.1.held = none ∧ check.1.stage = (false, false, 1, 1) ∧
      match request.grant (endpoint [] request).answer with
      | .ok grant => check.2 = .ok (.int 0) ∧
          ∃ revoke, revoke.Revokes grant.credential ∧ check.1.sent = [request, revoke]
      | .error fault => check.2 = .ok (.int 1) ∧ check.1.sent = [request] ∧
          ∃ entry, check.1.ledger.categories = [(↑fault.category.name, [entry])] := by
  intro loading check
  constructor
  · intro problem failed
    obtain ⟨log, written⟩ := Shared.UpToLog.report {} loading.lines
    have loaded : (Routine.ofReported loading).run endpoint {} =
        ({ ({} : Shared) with log := log }, .error (.configuration problem)) :=
      Prod.ext written failed
    have refused : check = _ := run_of_error (Routine.run_bind_of_error endpoint loaded _) rfl
    rw [refused]
    exact ⟨rfl, rfl, rfl, rfl⟩
  · intro settings timeout loaded usable request
    obtain ⟨result, after, verified, unheld, stage, outcome⟩ :=
      run_verify loaded usable (fun request _ _ => wrapped request) mild
    refine ⟨rfl, rfl, ?_⟩
    cases granted : request.grant (endpoint [] request).answer with
    | ok grant =>
      simp only [request, granted] at outcome
      obtain ⟨rfl, sent⟩ := outcome
      have succeeded : check = _ := run_of_verified verified
      rw [succeeded]
      exact ⟨unheld, stage, rfl, _, Request.revokes_of_grant granted settings timeout, sent⟩
    | error fault =>
      simp only [request, granted] at outcome
      obtain ⟨rfl, sent, unrecorded⟩ := outcome
      have internal := Fault.isInternal_of_isSession
        (Request.isSession_of_grant (wrapped request) granted)
      have failed : check = _ := run_of_error verified internal
      let notice := ErrorNotice.ofFault "Session check failed" fault
      rw [failed]
      refine ⟨unheld, stage, rfl, sent, ⟨notice.message, notice.details⟩, ?_⟩
      simp only [Shared.reportError, unrecorded]
      simp [Ledger.enter, Ledger.record, Ledger.entries, Ledger.trimmed, Ledger.capacity,
        Dictionary.set, notice, ErrorNotice.ofFault]

theorem run_load_failing_to_close :
    let environment : Environment := [("SFAUTH_LOGIN_URL", "https://login.test"),
      ("SFAUTH_CLIENT_ID", "id"), ("SFAUTH_CLIENT_SECRET", "secret"), ("SFAUTH_USERNAME", "user"),
      ("SFAUTH_PASSWORD", "password")]
    let endpoint : Endpoint := fun earlier _ => .later (.ok (if earlier.isEmpty then ⟨200, none,
        .text "\x7b\"access_token\": \"t1\", \"instance_url\": \"https://a.test\"\x7d"⟩
      else ⟨500, none, .bytes []⟩))
    let closing : Except Fault Unit := .error (.foreign ⟨"OSError", "", .system, none⟩)
    let check := run endpoint (Settings.load (fun _ => .ok []) {} none environment) closing
    check.2 = .ok (.int 0) ∧ check.1.held = none ∧ check.1.stage = (false, false, 1, 1) ∧
      ∃ request revoke : Request, request.url = "https://login.test/services/oauth2/token" ∧
        revoke.Revokes ⟨"t1", "https://a.test"⟩ ∧ check.1.sent = [request, revoke] := by
  intro environment endpoint closing
  have wrapped (request : Request) : endpoint.Wraps request :=
    fun earlier fault failed => nomatch failed
  have mild : Application.ClosesMildly closing := by
    intro raised failed
    obtain rfl := Except.error.inj failed
    rfl
  let settings : Settings := ⟨"https://login.test", "id", "secret", "user", "password", 60000⟩
  let response : Response := ⟨200, some "", .text
    "\x7b\"access_token\": \"t1\", \"instance_url\": \"https://a.test\"\x7d"⟩
  have loaded : (Settings.load (fun _ => .ok []) {} none environment).outcome = .ok settings :=
    Except.ok_of_toOption (by decide +kernel)
  have spelled : Grant.ofBody response.body =
      .ok ⟨"t1", "https://a.test", none, none, none, none⟩ :=
    Except.ok_of_toOption (by decide +kernel)
  obtain ⟨timeout, usable⟩ := settings.exists_timeout (by decide +kernel)
  have settled : (settings.loginRequest timeout none).settle
      (endpoint [] (settings.loginRequest timeout none)).answer = .ok response := rfl
  have granted := (Request.grant_of_settled settled).trans
    (Response.classifyLogin_of_grant rfl spelled)
  have ended := (run_load (fun _ => .ok []) {} none environment wrapped mild).2 settings timeout
    loaded usable
  -- The check is too large to be unfolded from here on.
  generalize run endpoint (Settings.load (fun _ => .ok []) {} none environment) closing = check
    at ended ⊢
  simp only [granted] at ended
  obtain ⟨_, url, unheld, stage, code, revoke, revokes, sent⟩ := ended
  exact ⟨code, unheld, stage, _, revoke, url.trans (by decide), revokes, sent⟩

end Check

end SessionKeeper
