import SessionKeeper.Proofs.Session.Renewal
import SessionKeeper.Proofs.Session.Round

/-! # Logins that are carried out alone

A login that nothing interferes with, stage by stage: the old token is revoked and nothing is held
any more (`Session.Dropped`), then a login is asked for at the instance that was logged in to before
that, and its answer decides on what is held in the end (`Request.Concludes`). The answer to the
revocation shows in the log and nowhere else (`Session.run_login`).
-/

namespace SessionKeeper

namespace Settings

variable (settings : Settings) (timeout : Binary64) (url : Option Text)

/-- The request of a login, once the timeout is known. -/
def loginRequest : Request :=
  ⟨"POST", settings.loginAddress url, timeout, some settings.loginForm, none, "Login"⟩

/-- The request that revokes a token, once the timeout is known. -/
def revocation (token : String) : Request :=
  ⟨"GET", settings.logoutAddress (FormUrl.encode token) url, timeout, none, none, "Logout"⟩

variable {settings timeout}

theorem draftLogin_of_usable (usable : settings.timeout = .ok timeout) :
    (settings.draftLogin url).outcome = .ok (settings.loginRequest timeout url) := by
  rw [outcome_draftLogin, usable]
  rfl

theorem draftLogin_of_unusable {fault : Fault} (unusable : settings.timeout = .error fault) :
    (settings.draftLogin url).outcome = .error fault := by
  rw [outcome_draftLogin, unusable]
  rfl

theorem draftLogout_of_usable (usable : settings.timeout = .ok timeout) (token : String) :
    settings.draftLogout ↑token url = .ok (settings.revocation timeout url token) := by
  rw [draftLogout_ofString, usable]
  rfl

theorem draftLogout_of_unusable {fault : Fault} (unusable : settings.timeout = .error fault)
    (token : String) : settings.draftLogout ↑token url = .error fault := by
  rw [draftLogout_ofString, unusable]
  rfl

end Settings

/-- What the answer to a login request grants. -/
def Request.grant (request : Request) (answer : Answer) : Except Fault Grant :=
  request.settle answer >>= Response.classifyLogin

theorem Request.grant_of_settled {request : Request} {answer : Answer} {response : Response}
    (settled : request.settle answer = .ok response) :
    request.grant answer = response.classifyLogin := by
  rw [grant, settled]
  rfl

/-- What the answer to a login request makes of what is shared: the grant is held and the listeners
are told of it, or there is none. -/
inductive Request.Concludes (request : Request) (answer : Answer) (before : Shared) :
    Except Fault String → Shared → Prop
  | granted (grant : Grant) (accepted : request.grant answer = .ok grant) (after : Shared)
      (told : Listener.Round (.login grant.accessToken grant.instanceUrl)
        (before.listeners.members.map fun listener =>
          ⟨listener.name, .login grant.accessToken grant.instanceUrl⟩)
        ((before.send request).hold (some grant.credential)) after) :
    Concludes request answer before (.ok grant.accessToken) after
  | refused (fault : Fault) (refusal : request.grant answer = .error fault) (after : Shared)
      (same : (before.send request).UpToLog after) :
    Concludes request answer before (.error fault) after

theorem Request.Concludes.sent {request : Request} {answer : Answer} {before after : Shared}
    {outcome : Except Fault String} (concludes : request.Concludes answer before outcome after) :
    after.sent = before.sent ++ [request] := by
  cases concludes with
  | granted grant accepted after told => exact told.sent
  | refused fault refusal after same =>
    obtain ⟨log, rfl⟩ := same
    rfl

/-- The token that is held in the end is the one that was granted. -/
theorem Request.Concludes.token? {request : Request} {answer : Answer} {before after : Shared}
    {outcome : Except Fault String} (concludes : request.Concludes answer before outcome after)
    (unheld : before.held = none) : after.token? = outcome.toOption := by
  cases concludes with
  | granted grant accepted after told =>
    rw [Shared.token?, told.held]
    rfl
  | refused fault refusal after same =>
    obtain ⟨log, rfl⟩ := same
    rw [Shared.token?, show (before.send request).held = none from unheld]
    rfl

namespace Session

/-- What a login makes of what is shared before it asks for a token: if there is an old one, that
was asked to be revoked, and the listeners were told of a logout with nothing held any more. -/
def Dropped (session : Session) (timeout : Binary64) (old : Option String)
    (before after : Shared) : Prop :=
  match old with
  | none => after = before
  | some token =>
    Listener.Round .logout (before.listeners.members.map fun listener => ⟨listener.name, .logout⟩)
      ((before.send (session.settings.revocation timeout before.instanceUrl? token)).hold none)
      after

variable {session : Session} {timeout : Binary64} {endpoint : Endpoint}
  {before again after : Shared}

theorem Dropped.tame {old : Option String} (dropped : session.Dropped timeout old before after)
    (tame : before.Tame) : after.Tame := by
  cases old with
  | none => exact dropped ▸ tame
  | some token => exact dropped.enrolled ⟨tame.registered, tame.known⟩

/-- Nothing is held once the old token is dropped, if nothing else was. -/
theorem Dropped.held {old : Option String} (dropped : session.Dropped timeout old before after)
    (spent : Spent old before.held) : after.held = none := by
  cases old with
  | none =>
    rw [show after = before from dropped]
    cases current : before.held with
    | none => rfl
    | some credential => cases spent credential current
  | some token => exact Listener.Round.held dropped

theorem Dropped.sent {old : Option String} (dropped : session.Dropped timeout old before after) :
    after.sent = before.sent ++
      old.toList.map (session.settings.revocation timeout before.instanceUrl?) := by
  cases old with
  | none => rw [show after = before from dropped]; simp
  | some token => exact Listener.Round.sent dropped

/-- A revocation sends its request and comes to what that was answered. -/
theorem run_revoke (usable : session.settings.timeout = .ok timeout) (endpoint : Endpoint)
    (token : String) (url : Option Text) (before : Shared) :
    ∃ after, (before.send (session.settings.revocation timeout url token)).UpToLog after ∧
      (session.revoke ↑token url).run endpoint before =
        (after, revokeOutcome ((session.settings.revocation timeout url token).settle
          (endpoint before.sent (session.settings.revocation timeout url token)).answer)) := by
  have sent : (session.settings.revocation timeout url token).send.run endpoint before =
      (before.send (session.settings.revocation timeout url token),
        (session.settings.revocation timeout url token).settle
          (endpoint before.sent (session.settings.revocation timeout url token)).answer) := rfl
  unfold revoke
  rw [Settings.draftLogout_of_usable url usable,
    Routine.run_bind_of_ok endpoint (Routine.run_ofExcept endpoint _ before)]
  generalize (session.settings.revocation timeout url token).settle
    (endpoint before.sent (session.settings.revocation timeout url token)).answer = settled at sent
  cases settled with
  | error fault => exact ⟨_, .refl _, Routine.run_bind_of_error endpoint sent _⟩
  | ok response =>
    rw [Routine.run_bind_of_ok endpoint sent]
    simp only [revokeOutcome]
    by_cases accepted : response.status = Response.okStatus
    · rw [if_neg (by simpa using accepted), if_pos accepted]
      exact ⟨_, .say _ _ _, rfl⟩
    · rw [if_pos accepted, if_neg accepted]
      exact ⟨_, .refl _, rfl⟩

/-- Without a timeout there is no revocation. -/
theorem run_revoke_of_unusable {fault : Fault} (unusable : session.settings.timeout = .error fault)
    (endpoint : Endpoint) (token : String) (url : Option Text) (before : Shared) :
    (session.revoke ↑token url).run endpoint before = (before, .error fault) := by
  unfold revoke
  rw [Settings.draftLogout_of_unusable url unusable]
  exact Routine.run_bind_of_error endpoint (Routine.run_ofExcept endpoint _ before) _

/-- However a revocation ends, the listeners are told of a logout after it, and its outcome stands
if they all are. -/
theorem run_revokeAndClear_of_revoke {token : Text} {url : Option Text}
    {outcome : Except Fault Unit}
    (revoked : (session.revoke token url).run endpoint before = (after, outcome)) :
    (session.revokeAndClear token url).run endpoint before =
      (((Listener.notifyAll .logout).run endpoint (after.hold none)).1,
        ((Listener.notifyAll .logout).run endpoint (after.hold none)).2.bind fun _ => outcome) := by
  have clearing : clear.run endpoint after =
      (Listener.notifyAll .logout).run endpoint (after.hold none) :=
    Routine.run_bind_of_ok endpoint (Routine.run_modify endpoint _ _) _
  unfold revokeAndClear
  rw [Routine.run_ensuring_bind, revoked, clearing]

/-- A revocation comes to what was answered, but the listeners are told of a logout first. -/
theorem run_revokeAndClear (usable : session.settings.timeout = .ok timeout) (endpoint : Endpoint)
    (calm : before.Calm) (token : String) (url : Option Text) :
    ∃ after, ((Listener.notifyAll .logout).run endpoint
        ((before.send (session.settings.revocation timeout url token)).hold none)).1.UpToLog
          after ∧
      (session.revokeAndClear ↑token url).run endpoint before =
        (after, revokeOutcome ((session.settings.revocation timeout url token).settle
          (endpoint before.sent (session.settings.revocation timeout url token)).answer)) := by
  obtain ⟨between, same, revoked⟩ := run_revoke usable endpoint token url before
  have emptied := same.hold none
  have cleared : (between.hold none).Calm := emptied.calm calm
  refine ⟨_, Listener.upToLog_notifyAll endpoint endpoint .logout emptied, ?_⟩
  rw [run_revokeAndClear_of_revoke revoked, (Listener.run_notifyAll endpoint .logout cleared).2]
  rfl

/-- Without a timeout nothing is sent, but the listeners are told of a logout all the same. -/
theorem run_revokeAndClear_of_unusable {fault : Fault}
    (unusable : session.settings.timeout = .error fault) (endpoint : Endpoint)
    (calm : before.Calm) (token : String) (url : Option Text) :
    (session.revokeAndClear ↑token url).run endpoint before =
      (((Listener.notifyAll .logout).run endpoint (before.hold none)).1, .error fault) := by
  obtain ⟨_, told⟩ := Listener.run_notifyAll endpoint .logout
    (show (before.hold none).Calm from calm)
  rw [run_revokeAndClear_of_revoke (run_revoke_of_unusable unusable endpoint token url before),
    told]
  rfl

/-- Whatever is answered, the revocation of a stale token goes on with the listeners being told of a
logout. -/
theorem run_revokeStale (usable : session.settings.timeout = .ok timeout)
    (wrapped : endpoint.WrapsRevocations) (calm : before.Calm) (token : String) :
    ∃ after, ((Listener.notifyAll .logout).run endpoint
        ((before.send (session.settings.revocation timeout before.instanceUrl? token)).hold
          none)).1.UpToLog after ∧
      (session.revokeStale ↑token).run endpoint before = (after, .ok ()) := by
  obtain ⟨between, same, revoked⟩ := run_revokeAndClear usable endpoint calm token
    before.instanceUrl?
  set request := session.settings.revocation timeout before.instanceUrl? token
  unfold revokeStale
  rw [Routine.run_bind_of_ok endpoint (Routine.run_get endpoint before)]
  cases result : revokeOutcome (request.settle (endpoint before.sent request).answer) with
  | ok value =>
    rw [result] at revoked
    exact ⟨between, same, Routine.run_tryCatch_of_ok endpoint revoked _⟩
  | error fault =>
    rw [result] at revoked
    have forgiven : fault.isSession = true :=
      isSession_of_revokeOutcome wrapped rfl rfl fault result
    rw [Routine.run_tryCatch_of_error endpoint revoked]
    simp only [forgiven, if_true]
    exact ⟨_, same.trans (.say _ _ _), rfl⟩

/-- Without a timeout a stale token is dropped, and there is no login. -/
theorem run_revokeStale_of_unusable (session : Session) (endpoint : Endpoint) {fault : Fault}
    (unusable : session.settings.timeout = .error fault) (calm : before.Calm) (token : String) :
    (session.revokeStale ↑token).run endpoint before =
      (((Listener.notifyAll .logout).run endpoint (before.hold none)).1, .error fault) := by
  have ended := run_revokeAndClear_of_unusable unusable endpoint calm token before.instanceUrl?
  obtain rfl := Settings.eq_of_timeout unusable
  unfold revokeStale
  rw [Routine.run_bind_of_ok endpoint (Routine.run_get endpoint before)]
  exact Routine.run_tryCatch_of_error endpoint ended _

/-- What is shared once the old token is dropped, but for the log. -/
private def dropped (session : Session) (endpoint : Endpoint) (timeout : Binary64)
    (old : Option String) (before : Shared) : Shared :=
  match old with
  | none => before
  | some token => ((Listener.notifyAll .logout).run endpoint
      ((before.send (session.settings.revocation timeout before.instanceUrl? token)).hold none)).1

private theorem dropped_spec (endpoint : Endpoint) (tame : before.Tame) (old : Option String) :
    session.Dropped timeout old before (session.dropped endpoint timeout old before) := by
  cases old with
  | none => rfl
  | some token =>
    have cleared : ((before.send (session.settings.revocation timeout before.instanceUrl?
        token)).hold none).Tame := ⟨tame.registered, tame.known⟩
    exact (Listener.run_notifyAll endpoint .logout cleared.registered).1

private theorem upToLog_dropped (endpoint other : Endpoint) (old : Option String) :
    (session.dropped endpoint timeout old before).UpToLog
      (session.dropped other timeout old before) := by
  cases old with
  | none => exact .refl before
  | some token => exact Listener.upToLog_notifyAll endpoint other .logout (.refl _)

private theorem run_drop (usable : session.settings.timeout = .ok timeout)
    (wrapped : endpoint.WrapsRevocations) (tame : before.Tame) (old : Option String) :
    ∃ after, (session.dropped endpoint timeout old before).UpToLog after ∧
      (match old.map Text.ofString with
        | some token => session.revokeStale token
        | none => pure () : Routine Unit).run endpoint before = (after, .ok ()) := by
  cases old with
  | none => exact ⟨before, .refl before, rfl⟩
  | some token => exact run_revokeStale usable wrapped tame.registered token

/-- What is shared once a login request is answered, but for the log, and what the login came to. -/
def concluded (endpoint : Endpoint) (request : Request) (answer : Answer)
    (before : Shared) : Shared × Except Fault String :=
  match request.grant answer with
  | .ok grant =>
    (((Listener.notifyAll (.login grant.accessToken grant.instanceUrl)).run endpoint
      ((before.send request).hold (some grant.credential))).1, .ok grant.accessToken)
  | .error fault => (before.send request, .error fault)

theorem concluded_spec (endpoint : Endpoint) (calm : before.Calm) (request : Request)
    (answer : Answer) {last : Shared}
    (same : (concluded endpoint request answer before).1.UpToLog last) :
    request.Concludes answer before (concluded endpoint request answer before).2 last := by
  unfold concluded at same ⊢
  cases result : request.grant answer with
  | ok grant =>
    simp only [result] at same ⊢
    have told := (Listener.run_notifyAll endpoint (.login grant.accessToken grant.instanceUrl)
      (show ((before.send request).hold (some grant.credential)).Calm from calm)).1
    exact .granted grant result last (told.upToLog (.refl _) same)
  | error fault =>
    simp only [result] at same ⊢
    exact .refused fault result last same

private theorem upToLog_concluded (endpoint other : Endpoint) (request : Request) (answer : Answer)
    (same : before.UpToLog again) :
    (concluded endpoint request answer before).1.UpToLog
        (concluded other request answer again).1 ∧
      (concluded other request answer again).2 = (concluded endpoint request answer before).2 := by
  unfold concluded
  cases request.grant answer with
  | ok grant =>
    exact ⟨Listener.upToLog_notifyAll endpoint other _ ((same.send request).hold _), rfl⟩
  | error fault => exact ⟨same.send request, rfl⟩

/-- Ask for a login at an address, and hold what is granted. -/
def ask (session : Session) (url : Option Text) : Routine String := do
  let request ← Routine.ofReported (session.settings.draftLogin url)
  let response ← request.send
  install response

theorem run_ask (usable : session.settings.timeout = .ok timeout) (endpoint : Endpoint)
    (calm : before.Calm) (url : Option Text) :
    let request := session.settings.loginRequest timeout url
    let conclusion := concluded endpoint request (endpoint before.sent request).answer before
    ∃ after, conclusion.1.UpToLog after ∧
      (session.ask url).run endpoint before = (after, conclusion.2) := by
  intro request conclusion
  obtain ⟨drafted, said, drafting⟩ : ∃ drafted, before.UpToLog drafted ∧
      (Routine.ofReported (session.settings.draftLogin url)).run endpoint before =
        (drafted, .ok request) :=
    ⟨_, .report before _, Prod.ext rfl (Settings.draftLogin_of_usable url usable)⟩
  have sent : drafted.sent = before.sent := by
    obtain ⟨log, rfl⟩ := said
    rfl
  have exchanged : request.send.run endpoint drafted =
      (drafted.send request, request.settle (endpoint before.sent request).answer) := by
    rw [← sent]
    rfl
  unfold ask
  rw [Routine.run_bind_of_ok endpoint drafting]
  simp only [conclusion, concluded]
  cases settled : request.settle (endpoint before.sent request).answer with
  | error fault =>
    rw [settled] at exchanged
    have refusal : request.grant (endpoint before.sent request).answer = .error fault := by
      rw [Request.grant, settled]
      rfl
    simp only [refusal]
    exact ⟨_, said.send request, Routine.run_bind_of_error endpoint exchanged _⟩
  | ok response =>
    rw [settled] at exchanged
    rw [Routine.run_bind_of_ok endpoint exchanged]
    simp only [Request.grant_of_settled settled, install]
    cases response.classifyLogin with
    | error fault => exact ⟨_, said.send request, rfl⟩
    | ok grant =>
      have installed := ((said.send request).trans
        (.say _ .info "✅ Login successful")).hold (some grant.credential)
      refine ⟨_, Listener.upToLog_notifyAll endpoint endpoint _ installed, ?_⟩
      have told := (Listener.run_notifyAll endpoint (.login grant.accessToken grant.instanceUrl)
        (installed.calm calm)).2
      rw [Routine.run_bind_of_ok endpoint (Routine.run_ofExcept endpoint _ _),
        Routine.run_bind_of_ok endpoint (Routine.run_say endpoint _ _ _),
        Routine.run_bind_of_ok endpoint (Routine.run_modify endpoint _ _),
        Routine.run_bind_of_ok endpoint (Prod.ext rfl told)]
      rfl

/-- Without a timeout nobody is asked for a login, which shows in the log and nowhere else. -/
theorem run_ask_of_unusable {fault : Fault} (unusable : session.settings.timeout = .error fault)
    (endpoint : Endpoint) (url : Option Text) (before : Shared) :
    ∃ after, before.UpToLog after ∧
      (session.ask url).run endpoint before = (after, .error fault) := by
  have undrafted : (Routine.ofReported (session.settings.draftLogin url)).run endpoint before =
      (_, .error fault) := Prod.ext rfl (Settings.draftLogin_of_unusable url unusable)
  exact ⟨_, .report before _, Routine.run_bind_of_error endpoint undrafted _⟩

private theorem run_relogin (usable : session.settings.timeout = .ok timeout)
    (wrapped : endpoint.WrapsRevocations) (tame : before.Tame) (old : Option String) :
    let request := session.settings.loginRequest timeout before.instanceUrl?
    let dropped := session.dropped endpoint timeout old before
    let conclusion := concluded endpoint request (endpoint dropped.sent request).answer dropped
    ∃ after, conclusion.1.UpToLog after ∧
      (session.relogin (old.map Text.ofString)).run endpoint before = (after, conclusion.2) := by
  intro request dropped conclusion
  obtain ⟨between, same, drop⟩ := run_drop usable wrapped tame old
  have still : between.Tame := same.tame ((dropped_spec endpoint tame old).tame tame)
  have sent : between.sent = dropped.sent := by
    obtain ⟨log, rfl⟩ := same
    rfl
  obtain ⟨after, concluding, asked⟩ :=
    run_ask usable endpoint still.registered before.instanceUrl?
  rw [sent] at concluding asked
  obtain ⟨alike, equal⟩ := upToLog_concluded endpoint endpoint request
    (endpoint dropped.sent request).answer same
  refine ⟨after, alike.trans concluding, ?_⟩
  unfold relogin
  rw [Routine.run_bind_of_ok endpoint (Routine.run_get endpoint before)]
  cases old with
  | none =>
    rw [← equal, ← asked]
    obtain ⟨rfl, _⟩ := Prod.mk.inj drop
    rfl
  | some token =>
    refine (Routine.run_bind_of_ok endpoint drop _).trans ?_
    exact asked.trans (by rw [equal])

theorem run_loginLocked_of_spent (endpoint : Endpoint) {old : Option String}
    (spent : Spent old before.held) :
    (session.loginLocked (old.map Text.ofString)).run endpoint before =
      (session.relogin (old.map Text.ofString)).run endpoint before := by
  unfold loginLocked
  rw [Routine.run_bind_of_ok endpoint (Routine.run_get endpoint before)]
  cases current : before.held with
  | none =>
    simp only [Shared.token?, current]
    rfl
  | some credential =>
    obtain rfl := spent credential current
    simp only [Shared.token?, current, Option.map_some, if_true]

theorem run_loginLocked_of_fresh (endpoint : Endpoint) {old : Option String}
    {credential : Credential} (current : before.held = some credential)
    (fresh : old ≠ some credential.token) :
    (session.loginLocked (old.map Text.ofString)).run endpoint before =
      (before.say .debug "🔁 Token already refreshed by another caller", .ok credential.token) := by
  have other : old.map Text.ofString ≠ some ↑credential.token := by
    intro same
    obtain ⟨token, rfl, spelled⟩ := Option.map_eq_some_iff.mp same
    exact fresh (congrArg some (Text.ofString_inj.mp spelled))
  unfold loginLocked
  rw [Routine.run_bind_of_ok endpoint (Routine.run_get endpoint before)]
  simp only [Shared.token?, current, Option.map_some]
  rw [if_neg other]
  rfl

/-- A login with the lock in hand that finds no other token, answer by answer. -/
theorem run_loginLocked (usable : session.settings.timeout = .ok timeout)
    (wrapped : endpoint.WrapsRevocations) (tame : before.Tame) {old : Option String}
    (spent : Spent old before.held) :
    let request := session.settings.loginRequest timeout before.instanceUrl?
    let login := session.loginLocked (old.map Text.ofString)
    ∃ dropped, session.Dropped timeout old before dropped ∧
      request.Concludes (endpoint dropped.sent request).answer dropped (login.run endpoint before).2
        (login.run endpoint before).1 ∧
      ∀ other : Endpoint, other.WrapsRevocations →
        (other dropped.sent request).answer = (endpoint dropped.sent request).answer →
        (login.run other before).2 = (login.run endpoint before).2 ∧
          (login.run endpoint before).1.UpToLog (login.run other before).1 := by
  intro request login
  have renews (endpoint : Endpoint) : login.run endpoint before =
      (session.relogin (old.map Text.ofString)).run endpoint before :=
    run_loginLocked_of_spent endpoint spent
  have dropping : session.Dropped timeout old before
      (session.dropped endpoint timeout old before) :=
    dropped_spec endpoint tame old
  obtain ⟨last, conclusion, renewed⟩ := run_relogin usable wrapped tame old
  refine ⟨_, dropping, ?_, fun other mild equal => ?_⟩
  · rw [renews, renewed]
    exact concluded_spec endpoint (dropping.tame tame).registered request _ conclusion
  · obtain ⟨final, ending, again⟩ := run_relogin usable mild tame old
    have same : (session.dropped endpoint timeout old before).UpToLog
        (session.dropped other timeout old before) := upToLog_dropped endpoint other old
    have sent : (session.dropped other timeout old before).sent =
        (session.dropped endpoint timeout old before).sent := by
      obtain ⟨log, alike⟩ := same
      rw [alike]
    rw [sent, equal] at ending again
    obtain ⟨alike, outcomes⟩ := upToLog_concluded endpoint other request _ same
    rw [renews, renews, renewed, again]
    exact ⟨outcomes, (conclusion.symm.trans alike).trans ending⟩

/-- **A login from end to end.** Whatever is held, whatever token the caller used last, whatever the
endpoint answers and the listeners do: a login that finds another token serves its caller with that
one and does nothing else. Any other login asks the instance that is logged in to for the old token
to be revoked, if there is one, whereupon nothing is held and the listeners are told so, and then
asks the same instance for a token, which is held in the end if it was granted. An endpoint that
answers the revocation in another way changes no more than the log. -/
theorem run_login (session : Session) {timeout : Binary64}
    (usable : session.settings.timeout = .ok timeout) {endpoint : Endpoint}
    (wrapped : endpoint.WrapsRevocations) (old : Option String) {before : Shared}
    (tame : before.Tame) :
    let login := session.login (old.map Text.ofString)
    let revocation := session.settings.revocation timeout before.instanceUrl?
    let request := session.settings.loginRequest timeout before.instanceUrl?
    (∀ credential, before.held = some credential → old ≠ some credential.token →
      login.run endpoint before =
        (before.say .debug "🔁 Token already refreshed by another caller",
          .ok credential.token)) ∧
    (Spent old before.held → ∃ dropped last,
      session.Dropped timeout old (before.lock .session) dropped ∧ dropped.held = none ∧
      request.Concludes (endpoint dropped.sent request).answer dropped (login.run endpoint before).2
        last ∧
      (login.run endpoint before).1 = last.unlock .session ∧
      (login.run endpoint before).1.sent =
        before.sent ++ old.toList.map revocation ++ [request] ∧
      (login.run endpoint before).1.token? = (login.run endpoint before).2.toOption ∧
      ∀ other : Endpoint, other.WrapsRevocations →
        (other dropped.sent request).answer = (endpoint dropped.sent request).answer →
        (login.run other before).2 = (login.run endpoint before).2 ∧
          (login.run endpoint before).1.UpToLog (login.run other before).1) := by
  intro login revocation request
  have locked (endpoint : Endpoint) : login.run endpoint before = _ :=
    Routine.run_withLock endpoint .session _ before
  have holding : (before.lock .session).Tame := ⟨tame.registered, tame.known⟩
  refine ⟨fun credential current fresh => ?_, fun spent => ?_⟩
  · have holds : (before.lock .session).held = some credential := current
    rw [locked, run_loginLocked_of_fresh endpoint holds fresh]
    simp [Shared.lock, Shared.unlock, Shared.say]
  · obtain ⟨dropped, dropping, concludes, indifferent⟩ :=
      run_loginLocked usable wrapped holding spent
    have emptied : dropped.held = none := dropping.held spent
    let body := session.loginLocked (old.map Text.ofString)
    refine ⟨dropped, (body.run endpoint (before.lock .session)).1, dropping, emptied, ?_, ?_, ?_,
      ?_, fun other mild equal => ?_⟩
    · rw [locked]
      exact concludes
    · rw [locked]
    · rw [locked]
      exact concludes.sent.trans (congrArg (· ++ [request]) dropping.sent)
    · rw [locked]
      exact concludes.token? emptied
    · obtain ⟨outcomes, alike⟩ := indifferent other mild equal
      rw [locked, locked]
      exact ⟨outcomes, alike.unlock .session⟩

theorem run_login_replaced :
    let session : Session := ⟨⟨"https://login.test", "id", "secret", "user", "password", 5000⟩⟩
    let endpoint (status : Int) : Endpoint := fun earlier _ => .later (.ok
      (if earlier.isEmpty then ⟨status, none, .bytes []⟩ else ⟨200, none,
        .text "\x7b\"access_token\": \"t2\", \"instance_url\": \"https://b.test\"\x7d"⟩))
    let recorder : Listener :=
      { name := "recorder", onLogin := some fun _ _ => [.note],
        onLogout := some fun _ _ => [.note] }
    let before : Shared :=
      { held := some ⟨"t1", "https://a.test"⟩, listeners := ⟨[recorder]⟩, roster := [recorder] }
    let login (old : Option String) := session.login (old.map Text.ofString)
    ((login none).run (endpoint 500) before).2 = .ok "t1" ∧
      ((login (some "t1")).run (endpoint 500) before).1.token? = some "t2" ∧
      ((login (some "t1")).run (endpoint 500) before).1.sent.map (·.url) =
        ["https://a.test/services/oauth2/revoke?token=t1",
          "https://a.test/services/oauth2/token"] ∧
      ((login (some "t1")).run (endpoint 500) before).1.notes.map (·.held) = [none, some "t2"] ∧
      ((login (some "t1")).run (endpoint 500) before).1.UpToLog
        ((login (some "t1")).run (endpoint 200) before).1 := by
  intro session endpoint recorder before login
  obtain ⟨timeout, usable⟩ := session.settings.exists_timeout (by decide +kernel)
  have wrapped (status : Int) : (endpoint status).WrapsRevocations :=
    fun request _ _ earlier fault failed => nomatch failed
  have calm : ¬ recorder.Halts := by
    rintro ⟨occasion, earlier, fault, member, _⟩
    cases occasion <;> simp [recorder, Listener.moves, Listener.callback?] at member
  have tame : before.Tame :=
    ⟨fun listener member => List.mem_singleton.mp member ▸ calm,
      fun listener member => List.mem_singleton.mp member ▸ calm⟩
  have served := (run_login session usable (wrapped 500) none tame).1 _ rfl (by decide)
  have spent : Spent (some "t1") before.held := by
    rintro _ ⟨rfl⟩
    rfl
  obtain ⟨dropped, last, dropping, _, _, _, _, _, indifferent⟩ :=
    (run_login session usable (wrapped 500) (some "t1") tame).2 spent
  have asked : dropped.sent ≠ [] := by
    rw [dropping.sent]
    simp [before]
  refine ⟨congrArg Prod.snd served, by decide +kernel, by decide +kernel, by decide +kernel,
    (indifferent (endpoint 200) (wrapped 200) ?_).2⟩
  simp [endpoint, asked, Delivery.answer]

end Session

end SessionKeeper
