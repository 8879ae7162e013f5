import SessionKeeper.Proofs.Binary64.Range
import SessionKeeper.Proofs.Credential.Grant
import SessionKeeper.Proofs.Session.Failures
import SessionKeeper.Proofs.Session.Logout
import SessionKeeper.Proofs.Settings.Offences

/-! # Settings that requests can be made with

Settings take any number of milliseconds above zero, however large, but a request is given its
timeout in seconds, as a number that must be finite. Only within that range (`Settings.InRange`)
settings that are accepted can be used (`Session.Usable`). Past it no request can be drafted at all
(`Session.Unusable`), which shows when the first one is needed (`Session.usable_of_ofValues`).
-/

namespace SessionKeeper

theorem Fault.isInternal_of_isSession {fault : Fault} (failure : fault.isSession = true) :
    fault.isInternal = true := by
  cases fault with
  | foreign incident => cases failure
  | _ => rfl

/-- A login that is granted nothing fails as exchanges do. -/
theorem Request.isSession_of_grant {request : Request} {endpoint : Endpoint}
    {earlier : List Request} {fault : Fault} (wrapped : endpoint.Wraps request)
    (refusal : request.grant (endpoint earlier request).answer = .error fault) :
    fault.isSession = true := by
  unfold grant at refusal
  cases delivered : (endpoint earlier request).answer with
  | error raised =>
    obtain ⟨failure, wraps⟩ := wrapped earlier raised delivered
    rw [delivered, settle, wraps] at refusal
    obtain rfl := Except.error.inj refusal
    rfl
  | ok response =>
    rw [delivered] at refusal
    have classified : fault.Accounted [] := .of_classifyLogin refusal
    cases classified <;> rfl

namespace Settings

variable {defaults : Defaults} {values : Values} {settings : Settings}

/-- The milliseconds come to a finite number of seconds. -/
def InRange (settings : Settings) : Prop := settings.timeoutMs.natAbs < Binary64.overflow * 1000

instance (settings : Settings) : Decidable settings.InRange := inferInstanceAs (Decidable (_ < _))

theorem InRange.exists_timeout (inRange : settings.InRange) :
    ∃ timeout, settings.timeout = .ok timeout :=
  Settings.exists_timeout ((Binary64.isFinite_ofRatio_iff (by decide) _).mpr inRange)

theorem timeout_of_not_inRange (beyond : ¬ settings.InRange) :
    settings.timeout = .error (.foreign .timeoutOverflow) := by
  unfold timeout
  cases seconds : Binary64.ofRatio (settings.timeoutMs < 0) settings.timeoutMs.natAbs 1000 with
  | infinite negative => rfl
  | nan => exact absurd seconds (Binary64.ofRatio_ne_nan _ _ _)
  | finite negative mantissa exponent =>
    exact absurd ((Binary64.isFinite_ofRatio_iff (by decide) _).mp (by rw [seconds]; rfl)) beyond

/-- Values with another timeout make settings with that one, as long as it is positive. -/
theorem Stores.set_timeout (stores : Stores defaults values settings) {milliseconds : Int}
    (positive : 0 < milliseconds) :
    Stores defaults (Dictionary.set values Field.timeout.name (.int milliseconds))
      { settings with timeoutMs := milliseconds } := by
  refine ⟨?_, fun entry member => ?_, .inr ⟨.int milliseconds, ?_, rfl, positive⟩⟩
  · rw [memberOf?_set_name, if_neg nofun]
    exact stores.loginUrl
  · have kept : entry ∈ settings.credentials := member
    rw [memberOf?_set_name, if_neg (required_of_mem_credentials kept).2]
    exact stores.credentials entry kept
  · rw [memberOf?_set_name, if_pos rfl]

end Settings

namespace Session

variable {session : Session} {endpoint : Endpoint} {before : Shared} {timeout : Binary64}

/-- Requests can be drafted for any instance and any token, and a login or a logout that is carried
out alone fails with faults of this library only, if the endpoint fails with what exchanges wrap. -/
structure Usable (session : Session) : Prop where
  draftLogin : ∀ url, ∃ request, (session.settings.draftLogin url).outcome = .ok request
  draftLogout : ∀ (token : String) url, ∃ request,
    session.settings.draftLogout ↑token url = .ok request
  login : ∀ {endpoint : Endpoint} {before : Shared},
    (∀ request, endpoint.Wraps request) → before.Tame → ∀ (old : Option String) fault,
      ((session.login (old.map Text.ofString)).run endpoint before).2 = .error fault →
        fault.isInternal = true
  logout : ∀ {endpoint : Endpoint} {before : Shared},
    (∀ request, endpoint.Wraps request) → before.Tame → ∀ fault,
      (session.logout.run endpoint before).2 = .error fault → fault.isInternal = true

/-- No request can be drafted. Where one is needed, nothing is sent and nothing is held in the end;
the fault is none of this library. -/
structure Unusable (session : Session) : Prop where
  draftLogin : ∀ url,
    (session.settings.draftLogin url).outcome = .error (.foreign .timeoutOverflow)
  draftLogout : ∀ (token : String) url,
    session.settings.draftLogout ↑token url = .error (.foreign .timeoutOverflow)
  login : ∀ (endpoint : Endpoint) {before : Shared}, before.Tame →
    ∀ old : Option String, Spent old before.held →
      let ended := (session.login (old.map Text.ofString)).run endpoint before
      ended.2 = .error (.foreign .timeoutOverflow) ∧ ended.1.sent = before.sent ∧
        ended.1.held = none
  logout : ∀ (endpoint : Endpoint) {before : Shared}, before.Tame → before.held ≠ none →
    let ended := session.logout.run endpoint before
    ended.2 = .error (.foreign .timeoutOverflow) ∧ ended.1.sent = before.sent ∧
      ended.1.held = none

/-! ## With a timeout -/

theorem isInternal_of_login (usable : session.settings.timeout = .ok timeout)
    (wrapped : ∀ request, endpoint.Wraps request) (tame : before.Tame) (old : Option String)
    {fault : Fault}
    (failed : ((session.login (old.map Text.ofString)).run endpoint before).2 = .error fault) :
    fault.isInternal = true := by
  have locked : (before.lock .session).Tame := ⟨tame.registered, tame.known⟩
  unfold login at failed
  rw [Routine.run_withLock] at failed
  by_cases spent : Spent old before.held
  · obtain ⟨dropped, _, concludes, _⟩ :=
      run_loginLocked usable (fun request _ _ => wrapped request) locked spent
    rw [failed] at concludes
    cases concludes with
    | refused _ refusal after same =>
      exact Fault.isInternal_of_isSession (Request.isSession_of_grant (wrapped _) refusal)
  · obtain ⟨credential, current, fresh⟩ : ∃ credential, before.held = some credential ∧
        old ≠ some credential.token := by
      simpa [Spent] using spent
    have holds : (before.lock .session).held = some credential := current
    rw [run_loginLocked_of_fresh endpoint holds fresh] at failed
    cases failed

theorem isInternal_of_logout (usable : session.settings.timeout = .ok timeout)
    (wrapped : ∀ request, endpoint.Wraps request) (tame : before.Tame) {fault : Fault}
    (failed : (session.logout.run endpoint before).2 = .error fault) :
    fault.isInternal = true := by
  cases held : before.held with
  | none =>
    rw [run_logout_of_unheld endpoint held] at failed
    cases failed
  | some credential =>
    obtain ⟨cleared, after, circulated, ended⟩ := run_logout_of_held usable endpoint held
    obtain ⟨_, rfl⟩ := circulated.of_calm tame.registered
    rw [ended] at failed
    exact Fault.isInternal_of_isSession
      (isSession_of_revokeOutcome (fun request _ _ => wrapped request) rfl rfl fault failed)

theorem usable_of_timeout (usable : session.settings.timeout = .ok timeout) : session.Usable where
  draftLogin := Settings.exists_draftLogin usable
  draftLogout := Settings.exists_draftLogout usable
  login wrapped tame old _ failed := isInternal_of_login usable wrapped tame old failed
  logout wrapped tame _ failed := isInternal_of_logout usable wrapped tame failed

/-! ## Without one -/

/-- Nobody is asked for anything, and what was held is dropped. -/
theorem run_relogin_of_unusable {fault : Fault} (unusable : session.settings.timeout = .error fault)
    (endpoint : Endpoint) (calm : before.Calm) {old : Option String}
    (spent : Spent old before.held) :
    ∃ after, (session.relogin (old.map Text.ofString)).run endpoint before =
        (after, .error fault) ∧ after.sent = before.sent ∧ after.held = none := by
  unfold relogin
  rw [Routine.run_bind_of_ok endpoint (Routine.run_get endpoint before)]
  cases old with
  | none =>
    obtain ⟨_, ⟨log, rfl⟩, asked⟩ :=
      run_ask_of_unusable unusable endpoint before.instanceUrl? before
    refine ⟨_, asked, rfl, ?_⟩
    cases held : before.held with
    | none => rfl
    | some credential => cases spent credential held
  | some token =>
    obtain ⟨round, _⟩ := Listener.run_notifyAll endpoint .logout
      (show (before.hold none).Calm from calm)
    exact ⟨_, Routine.run_bind_of_error endpoint
      (run_revokeStale_of_unusable session endpoint unusable calm token) _, round.sent, round.held⟩

theorem unusable_of_timeout (unusable : session.settings.timeout =
    .error (.foreign .timeoutOverflow)) : session.Unusable where
  draftLogin url := Settings.draftLogin_of_unusable url unusable
  draftLogout token url := Settings.draftLogout_of_unusable url unusable token
  login endpoint before tame old spent := by
    have locked : (before.lock .session).Calm := tame.registered
    have still : Spent old (before.lock .session).held := spent
    obtain ⟨after, ended, sent, held⟩ := run_relogin_of_unusable unusable endpoint locked still
    unfold login
    rw [Routine.run_withLock, run_loginLocked_of_spent endpoint still, ended]
    exact ⟨rfl, sent, held⟩
  logout endpoint before tame held := by
    obtain ⟨credential, current⟩ := Option.ne_none_iff_exists'.mp held
    have locked : (before.lock .session).Calm := tame.registered
    obtain ⟨round, _⟩ := Listener.run_notifyAll endpoint .logout
      (show ((before.lock .session).hold none).Calm from locked)
    have holds : (before.lock .session).held = some credential := current
    unfold logout logoutLocked
    rw [Routine.run_withLock, Routine.run_bind_of_ok endpoint (Routine.run_get endpoint _)]
    simp only [holds]
    rw [run_revokeAndClear_of_unusable unusable endpoint locked]
    exact ⟨rfl, round.sent, round.held⟩

/-- **Accepted settings and usable ones.** Whatever settings values make, they make the same ones
with any other positive timeout. If the timeout comes to a finite number of seconds, requests can be
drafted for all instances and tokens, and a login or a logout fails with nothing but a fault of this
library. Otherwise no request can be drafted: a login that has to be made sends nothing and ends
with a fault from outside, and what was held is lost; a logout ends likewise. -/
theorem usable_of_ofValues {defaults : Defaults} {values : Values} {settings : Settings}
    (built : Settings.ofValues defaults values = .ok settings) :
    (∀ milliseconds : Int, 0 < milliseconds →
      Settings.ofValues defaults
        (Dictionary.set values Settings.Field.timeout.name (.int milliseconds)) =
          .ok { settings with timeoutMs := milliseconds }) ∧
      (settings.InRange → Usable ⟨settings⟩) ∧ (¬ settings.InRange → Unusable ⟨settings⟩) := by
  have free := Settings.unreserved_of_built built
  have stores := (Settings.ofValues_eq_ok_iff free).mp built
  refine ⟨fun milliseconds positive => ?_, fun inRange => ?_, fun beyond => ?_⟩
  · exact (Settings.ofValues_eq_ok_iff (Settings.memberOf?_set_self.trans free)).mpr
      (stores.set_timeout positive)
  · obtain ⟨timeout, usable⟩ := inRange.exists_timeout
    exact usable_of_timeout usable
  · exact unusable_of_timeout (Settings.timeout_of_not_inRange beyond)

/-- A timeout of a minute is as acceptable as one that no request can be given. -/
theorem usable_of_ofValues_huge :
    let values : Values := [("client_id", .text "id"), ("client_secret", .text "secret"),
      ("username", .text "user"), ("password", .text "password")]
    let session (milliseconds : Int) : Session :=
      ⟨⟨"https://login.salesforce.com", "id", "secret", "user", "password", milliseconds⟩⟩
    Settings.ofValues {} values = .ok (session 60000).settings ∧ (session 60000).Usable ∧
      Settings.ofValues {} (Dictionary.set values "timeout_ms" (.int (10 ^ 400))) =
        .ok (session (10 ^ 400)).settings ∧ (session (10 ^ 400)).Unusable := by
  intro values session
  have minute : Settings.ofValues {} values = .ok (session 60000).settings :=
    Except.ok_of_toOption (by decide +kernel)
  obtain ⟨accepts, use, _⟩ := usable_of_ofValues minute
  have huge : Settings.ofValues {} (Dictionary.set values "timeout_ms" (.int (10 ^ 400))) =
      .ok (session (10 ^ 400)).settings := accepts (10 ^ 400) (by decide +kernel)
  obtain ⟨_, _, fails⟩ := usable_of_ofValues huge
  exact ⟨minute, use (by decide +kernel), huge, fails (by decide +kernel)⟩

end Session

end SessionKeeper
