import SessionKeeper.Proofs.Session.Login

/-! # Logouts that are carried out alone

A logout asks the instance of the held token to revoke it. Whatever ends the exchange, and whatever
the listeners do, nothing is held afterwards (`Session.LoggedOut`), so another logout finds nothing
to do (`Session.run_logout`). Unless a listener demands to stop, all of them are told, and the
logout comes to what the exchange came to. There is one failure of a transport that does not reach
the caller as it is, the end of an iteration (`Request.Surfaces`, `Session.run_logout_exhausted`).
-/

namespace SessionKeeper

/-- What a failure of the transport is to whoever sent the request: the failure of an exchange, if
it means one, and the same fault otherwise. But no computation that is waited for lets out the end
of an iteration. -/
inductive Request.Surfaces (request : Request) : Fault → Fault → Prop
  | meant (incident : Incident) (failure : TransportFailure)
      (meaning : request.failureOf incident = some failure) :
      Surfaces request (.foreign incident) (.transport failure)
  | escaped (incident : Incident) (exhausted : incident.nature = .exhausted) :
      Surfaces request (.foreign incident) (.foreign .escapedEnd)
  | same (fault : Fault)
      (unmeant : ∀ incident, fault = .foreign incident →
        request.failureOf incident = none ∧ incident.nature ≠ .exhausted) :
      Surfaces request fault fault

theorem Request.surfaces_wrap (request : Request) (fault : Fault) :
    request.Surfaces fault (request.wrap fault) := by
  cases fault with
  | foreign incident =>
    simp only [wrap]
    cases meaning : request.failureOf incident with
    | some failure => exact .meant incident failure meaning
    | none =>
      simp only [Fault.awaited]
      split
      · rename_i exhausted
        exact .escaped incident exhausted
      · rename_i lasting
        refine .same _ fun other same => ?_
        obtain rfl := Fault.foreign.inj same
        exact ⟨meaning, lasting⟩
  | _ => exact .same _ fun incident foreign => by cases foreign

namespace Session

/-- What a logout that finds a credential makes of what is shared, and what it comes to, by the
answer to its request. -/
structure LoggedOut (session : Session) (timeout : Binary64) (credential : Credential)
    (answer : Answer) (before : Shared) (outcome : Except Fault Unit) (after : Shared) : Prop where
  unheld : after.held = none
  sent : after.sent = before.sent ++
    [session.settings.revocation timeout (some ↑credential.instanceUrl) credential.token]
  /-- Whoever is told is told of a logout with nothing held. -/
  told : ∃ reached, reached <+: before.listeners.members ∧
    Listener.Round .logout (reached.map fun listener => ⟨listener.name, .logout⟩)
      ((before.send (session.settings.revocation timeout (some ↑credential.instanceUrl)
        credential.token)).hold none) after
  /-- Unless one of them demands to stop, every listener is told once. -/
  everybody : before.Calm → after.notices =
    before.notices ++ before.listeners.members.map fun listener => ⟨listener.name, .logout⟩
  returned : before.Calm →
    (outcome = .ok () ↔ ∃ response, answer = .ok response ∧ response.status = Response.okStatus)
  /-- Any other status is refused with just this status and its reason. -/
  refused : before.Calm → ∀ response, answer = .ok response →
    response.status ≠ Response.okStatus →
      ∃ refusal, outcome = .error (.refused refusal) ∧ refusal.status = response.status ∧
        refusal.description = some (response.reason.getD "")
  failed : before.Calm → ∀ raised, answer = .error raised →
    ∃ fault, outcome = .error fault ∧
      (session.settings.revocation timeout (some ↑credential.instanceUrl)
        credential.token).Surfaces raised fault

variable {session : Session} {timeout : Binary64}

/-- A revocation goes on with the listeners being told of a logout, and comes to what was answered
unless that round is stopped. -/
theorem run_revokeAndClear_circulated (usable : session.settings.timeout = .ok timeout)
    (endpoint : Endpoint) (before : Shared) (token : String) (url : Option Text) :
    let request := session.settings.revocation timeout url token
    ∃ cleared after, Listener.Circulated .logout before.listeners.members
        ((before.send request).hold none) cleared after ∧
      (session.revokeAndClear ↑token url).run endpoint before = (after, cleared.bind fun _ =>
        revokeOutcome (request.settle (endpoint before.sent request).answer)) := by
  intro request
  obtain ⟨between, same, revoked⟩ := run_revoke usable endpoint token url before
  have members : (between.hold none).listeners.members = before.listeners.members := by
    obtain ⟨log, rfl⟩ := same
    rfl
  have circulated := Listener.circulated_notifyAll endpoint .logout (between.hold none)
  rw [members] at circulated
  exact ⟨_, _, circulated.upToLog (same.hold none), run_revokeAndClear_of_revoke revoked⟩

/-- With the lock in hand and nothing held, a logout does nothing. -/
theorem run_logoutLocked_of_unheld (endpoint : Endpoint) {before : Shared}
    (unheld : before.held = none) :
    session.logoutLocked.run endpoint before = (before, .ok ()) := by
  unfold logoutLocked
  rw [Routine.run_bind_of_ok endpoint (Routine.run_get endpoint _)]
  simp only [unheld]
  rfl

theorem run_logout_of_unheld (endpoint : Endpoint) {before : Shared}
    (unheld : before.held = none) : session.logout.run endpoint before = (before, .ok ()) := by
  have locked : (before.lock .session).held = none := unheld
  unfold logout
  rw [Routine.run_withLock, run_logoutLocked_of_unheld endpoint locked, Shared.unlock_lock]

/-- A logout that finds a credential revokes it, and then the listeners are told. -/
theorem run_logout_of_held (usable : session.settings.timeout = .ok timeout) (endpoint : Endpoint)
    {before : Shared} {credential : Credential} (held : before.held = some credential) :
    let request :=
      session.settings.revocation timeout (some ↑credential.instanceUrl) credential.token
    ∃ cleared after, Listener.Circulated .logout before.listeners.members
        ((before.send request).hold none) cleared after ∧
      session.logout.run endpoint before = (after, cleared.bind fun _ =>
        revokeOutcome (request.settle (endpoint before.sent request).answer)) := by
  intro request
  obtain ⟨cleared, after, circulated, revoked⟩ := run_revokeAndClear_circulated usable endpoint
    (before.lock .session) credential.token (some ↑credential.instanceUrl)
  have begun : Listener.Circulated .logout before.listeners.members
      (((before.send request).hold none).lock .session) cleared after := circulated
  have locked : session.logoutLocked.run endpoint (before.lock .session) =
      (after, cleared.bind fun _ =>
        revokeOutcome (request.settle (endpoint before.sent request).answer)) := by
    unfold logoutLocked
    rw [Routine.run_bind_of_ok endpoint (Routine.run_get endpoint _)]
    simp only [show (before.lock .session).held = some credential from held]
    exact revoked
  refine ⟨cleared, after.unlock .session, begun.unlock, ?_⟩
  unfold logout
  rw [Routine.run_withLock, locked]

/-- A round after a revocation, and what was answered to that, make up a logout. -/
theorem loggedOut_of_circulated {credential : Credential} {before after : Shared} {answer : Answer}
    {cleared : Except Fault Unit}
    (circulated : Listener.Circulated .logout before.listeners.members
      ((before.send (session.settings.revocation timeout (some ↑credential.instanceUrl)
        credential.token)).hold none) cleared after) :
    session.LoggedOut timeout credential answer before (cleared.bind fun _ =>
      revokeOutcome ((session.settings.revocation timeout (some ↑credential.instanceUrl)
        credential.token).settle answer)) after := by
  obtain ⟨reached, first, round⟩ := circulated.round
  refine ⟨round.held, round.sent, ⟨reached, first, round⟩, fun calm => ?_, fun calm => ?_,
    fun calm => ?_, fun calm => ?_⟩
  · exact (circulated.of_calm calm).1.notices
  all_goals
    obtain ⟨_, rfl⟩ := circulated.of_calm calm
  · cases answer with
    | error raised => exact ⟨nofun, nofun⟩
    | ok response =>
      simp only [Request.settle, revokeOutcome, Except.bind]
      constructor
      · intro returned
        split at returned
        · exact ⟨response, rfl, ‹_›⟩
        · cases returned
      · rintro ⟨_, ⟨rfl⟩, accepted⟩
        rw [if_pos accepted]
  · rintro response rfl rejected
    simp only [Request.settle, revokeOutcome, Except.bind]
    rw [if_neg rejected]
    exact ⟨_, rfl, rfl, rfl⟩
  · rintro raised rfl
    exact ⟨_, rfl, Request.surfaces_wrap _ raised⟩

/-- **A logout always clears.** Whatever is held, whoever is registered and whatever ends the
exchange: a logout with nothing held does nothing. Any other one sends one request, which asks the
instance of the held token to revoke it, and nothing is held afterwards, even if a listener demands
to stop. If none does, all of them are told, and the logout comes to what the exchange came to. In
any case another logout does nothing. -/
theorem run_logout (session : Session) {timeout : Binary64}
    (usable : session.settings.timeout = .ok timeout) (endpoint : Endpoint) (before : Shared) :
    (before.held = none → session.logout.run endpoint before = (before, .ok ())) ∧
      ∀ credential, before.held = some credential →
        let request :=
          session.settings.revocation timeout (some ↑credential.instanceUrl) credential.token
        let ended := session.logout.run endpoint before
        (credential.instanceUrl ≠ "" → request.Revokes credential) ∧
          session.LoggedOut timeout credential (endpoint before.sent request).answer before ended.2
            ended.1 ∧
          ∀ other, session.logout.run other ended.1 = (ended.1, .ok ()) := by
  refine ⟨run_logout_of_unheld endpoint, ?_⟩
  intro credential held request ended
  obtain ⟨cleared, after, circulated, ran⟩ := run_logout_of_held usable endpoint held
  have loggedOut : session.LoggedOut timeout credential (endpoint before.sent request).answer before
      ended.2 ended.1 := by
    simp only [ended, ran]
    exact loggedOut_of_circulated circulated
  refine ⟨fun filled => ?_, loggedOut, fun other => run_logout_of_unheld other loggedOut.unheld⟩
  exact Settings.revokes_draftLogout filled (Settings.draftLogout_of_usable _ usable _)

theorem run_logout_refused :
    let session : Session := ⟨⟨"https://login.test", "id", "secret", "user", "password", 5000⟩⟩
    let endpoint : Endpoint := fun _ _ => .later (.ok ⟨500, some "down", .bytes []⟩)
    let failing : Listener :=
      { name := "failing", onLogout := some fun _ _ => [.fail (.foreign .noAnswerLeft)] }
    let before : Shared :=
      { held := some ⟨"t", "https://a.test"⟩, listeners := ⟨[failing]⟩ }
    let ended := session.logout.run endpoint before
    ended.1.held = none ∧ ended.1.notices = [⟨"failing", .logout⟩] ∧
      (∃ refusal, ended.2 = .error (.refused refusal) ∧ refusal.status = 500 ∧
        refusal.description = some "down") ∧
      ended.1.sent.map (·.url) = ["https://a.test/services/oauth2/revoke?token=t"] ∧
      session.logout.run endpoint ended.1 = (ended.1, .ok ()) := by
  intro session endpoint failing before ended
  obtain ⟨timeout, usable⟩ := session.settings.exists_timeout (by decide +kernel)
  obtain ⟨_, loggedOut, again⟩ := (run_logout session usable endpoint before).2 _ rfl
  have calm : before.Calm := by
    intro listener member
    obtain rfl := List.mem_singleton.mp member
    rintro ⟨occasion, earlier, fault, raised, demand⟩
    cases occasion <;> obtain rfl := Move.fail.inj (List.mem_singleton.mp raised) <;> cases demand
  have refused := loggedOut.refused calm ⟨500, some "down", .bytes []⟩ rfl (by decide)
  exact ⟨by decide +kernel, by decide +kernel, refused, by decide +kernel, again endpoint⟩

/-- The failure of a transport may be the end of an iteration. The exchange does not make a failure
of its own of that, and yet the logout ends with another fault. -/
theorem run_logout_exhausted :
    let session : Session := ⟨⟨"https://login.test", "id", "secret", "user", "password", 5000⟩⟩
    let ending : Incident := ⟨"StopIteration", "", .exhausted, none⟩
    let endpoint : Endpoint := fun _ _ => .later (.error (.foreign ending))
    let before : Shared := { held := some ⟨"t", "https://a.test"⟩ }
    let ended := session.logout.run endpoint before
    (∀ request : Request, request.failureOf ending = none) ∧
      ended.1.sent.map (·.url) = ["https://a.test/services/oauth2/revoke?token=t"] ∧
      ended.2 ≠ .error (.foreign ending) ∧ ended.2 = .error (.foreign .escapedEnd) := by
  intro session ending endpoint before ended
  obtain ⟨timeout, usable⟩ := session.settings.exists_timeout (by decide +kernel)
  obtain ⟨cleared, after, circulated, ran⟩ :=
    run_logout_of_held usable endpoint (show before.held = some ⟨"t", "https://a.test"⟩ from rfl)
  have failed : ended.2 = .error (.foreign .escapedEnd) := by
    obtain ⟨_, rfl⟩ := circulated.of_calm nofun
    exact congrArg Prod.snd ran
  refine ⟨fun request => rfl, by decide +kernel, fun same => ?_, failed⟩
  have equal := Fault.foreign.inj (Except.error.inj (same.symm.trans failed))
  exact absurd (congrArg Incident.label equal) (by decide)

end Session

end SessionKeeper
