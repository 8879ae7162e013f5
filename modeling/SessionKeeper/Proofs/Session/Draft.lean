import SessionKeeper.Proofs.Dictionary.Entries
import SessionKeeper.Session.Client

/-! # Shapes of requests

What the drafts of login and logout requests have in common: both leave the headers out, and both
are there whenever the timeout is defined, a logout also needs a token without surrogates. A request
to the API carries its token in a header.
-/

namespace SessionKeeper

/-- Characters can be encoded, whatever becomes of surrogates. -/
theorem Utf8.encodeFrom_scalars (byte? : Fin 2048 → Option UInt8) (position : Nat)
    (cs : List Char) :
    encodeFrom byte? position (cs.map .scalar) = .ok (cs.flatMap String.utf8EncodeChar) := by
  induction cs generalizing position with
  | nil => rfl
  | cons c rest ih =>
    rw [List.map_cons, encodeFrom, ih]
    rfl

/-- A string has a form-encoded spelling. -/
theorem FormUrl.encodeText_ofString (string : String) :
    encodeText ↑string = .ok (encode string) := by
  unfold encodeText Utf8.encodeText Text.ofString
  rw [Utf8.encodeFrom_scalars]
  rfl

/-- The request asks the instance that a token is for to revoke it. -/
def Request.Revokes (request : Request) (credential : Credential) : Prop :=
  request.method = "GET" ∧
    request.url = ↑credential.instanceUrl ++ Settings.revokePath ++ "?token=" ++
      FormUrl.encode credential.token

instance (request : Request) (credential : Credential) : Decidable (request.Revokes credential) :=
  inferInstanceAs (Decidable (_ ∧ _))

namespace Settings

variable {settings : Settings} {url : Option Text} {request : Request}

/-- The timeout is defined unless the number of seconds is too large. -/
theorem exists_timeout (finite :
    (Binary64.ofRatio (settings.timeoutMs < 0) settings.timeoutMs.natAbs 1000).isFinite) :
    ∃ timeout, settings.timeout = .ok timeout := by
  unfold timeout
  cases seconds : Binary64.ofRatio (settings.timeoutMs < 0) settings.timeoutMs.natAbs 1000 with
  | infinite negative =>
    rw [seconds] at finite
    cases finite
  | _ => exact ⟨_, rfl⟩

/-- Whatever is wrong with a timeout is that it is too large. -/
theorem eq_of_timeout {fault : Fault} (unusable : settings.timeout = .error fault) :
    fault = .foreign .timeoutOverflow := by
  unfold timeout at unusable
  split at unusable
  · exact (Except.error.inj unusable).symm
  · cases unusable

theorem outcome_draftLogin (settings : Settings) (url : Option Text) :
    (settings.draftLogin url).outcome = settings.timeout.map fun timeout =>
      ⟨"POST", settings.loginAddress url, timeout, some settings.loginForm, none, "Login"⟩ := by
  unfold draftLogin
  cases usable : settings.timeout with
  | error fault => simp [bind, Reported.bind, Reported.say, Reported.ofExcept, Except.map]
  | ok timeout =>
    simp [bind, Reported.bind, Reported.say, Reported.ofExcept, pure, Reported.pure, Except.map]

theorem eq_of_draftLogin (draft : (settings.draftLogin url).outcome = .ok request) :
    ∃ timeout, settings.timeout = .ok timeout ∧ request =
      ⟨"POST", settings.loginAddress url, timeout, some settings.loginForm, none, "Login"⟩ := by
  rw [outcome_draftLogin] at draft
  cases usable : settings.timeout with
  | error fault => simp [usable, Except.map] at draft
  | ok timeout =>
    simp only [usable, Except.map, Except.ok.injEq] at draft
    exact ⟨timeout, rfl, draft.symm⟩

/-- A drafted login is a form without headers. -/
theorem of_draftLogin (draft : (settings.draftLogin url).outcome = .ok request) :
    request.method = "POST" ∧ request.headers = none := by
  obtain ⟨_, _, rfl⟩ := eq_of_draftLogin draft
  exact ⟨rfl, rfl⟩

theorem eq_of_draftLogout {token : Text} (draft : settings.draftLogout token url = .ok request) :
    ∃ encoded timeout, FormUrl.encodeText token = .ok encoded ∧ settings.timeout = .ok timeout ∧
      request = ⟨"GET", settings.logoutAddress encoded url, timeout, none, none, "Logout"⟩ := by
  unfold draftLogout at draft
  split at draft
  · cases draft
  · rename_i encoded spelled
    cases usable : settings.timeout with
    | error fault => simp [usable, Except.map] at draft
    | ok timeout =>
      simp only [usable, Except.map, Except.ok.injEq] at draft
      exact ⟨encoded, timeout, spelled, rfl, draft.symm⟩

/-- A drafted logout has neither form nor headers. -/
theorem of_draftLogout {token : Text} (draft : settings.draftLogout token url = .ok request) :
    request.method = "GET" ∧ request.headers = none := by
  obtain ⟨_, _, _, _, rfl⟩ := eq_of_draftLogout draft
  exact ⟨rfl, rfl⟩

theorem exists_draftLogin {timeout : Binary64} (usable : settings.timeout = .ok timeout)
    (url : Option Text) : ∃ request, (settings.draftLogin url).outcome = .ok request := by
  rw [outcome_draftLogin, usable]
  exact ⟨_, rfl⟩

theorem draftLogout_ofString (settings : Settings) (token : String) (url : Option Text) :
    settings.draftLogout ↑token url = settings.timeout.map fun timeout =>
      ⟨"GET", settings.logoutAddress (FormUrl.encode token) url, timeout, none, none,
        "Logout"⟩ := by
  unfold draftLogout
  rw [FormUrl.encodeText_ofString]

theorem exists_draftLogout {timeout : Binary64} (usable : settings.timeout = .ok timeout)
    (token : String) (url : Option Text) :
    ∃ request, settings.draftLogout ↑token url = .ok request := by
  rw [draftLogout_ofString, usable]
  exact ⟨_, rfl⟩

end Settings

/-- The base of a session that is logged in is the address of its instance. -/
theorem Settings.baseUrl_of_ne_empty (settings : Settings) {instanceUrl : String}
    (filled : instanceUrl ≠ "") : settings.baseUrl (some ↑instanceUrl) = ↑instanceUrl := by
  have present : (Text.ofString instanceUrl).isEmpty = false := by
    simpa [Text.isEmpty, Text.ofString] using filled
  simp [baseUrl, Option.filter, present]

/-- The logout that is drafted for what is held goes to the instance of the token. -/
theorem Settings.revokes_draftLogout {settings : Settings} {credential : Credential}
    {request : Request} (filled : credential.instanceUrl ≠ "")
    (draft : settings.draftLogout ↑credential.token (some ↑credential.instanceUrl) = .ok request) :
    request.Revokes credential := by
  rw [draftLogout_ofString] at draft
  cases usable : settings.timeout with
  | error fault => simp [usable, Except.map] at draft
  | ok timeout =>
    simp only [usable, Except.map, Except.ok.injEq] at draft
    subst draft
    exact ⟨rfl, by rw [logoutAddress, settings.baseUrl_of_ne_empty filled]⟩

/-- The request carries a token in its header. -/
def Request.Carries (request : Request) (token : String) : Prop :=
  request.header? "Authorization" = some ↑(s!"Bearer {token}" : String)

instance (request : Request) (token : String) : Decidable (request.Carries token) :=
  inferInstanceAs (Decidable (_ = _))

/-- A request carries one token at most. -/
theorem Request.Carries.unique {request : Request} {first second : String}
    (one : request.Carries first) (other : request.Carries second) : first = second := by
  have same := Option.some.inj (one.symm.trans other)
  exact (String.append_right_inj _).mp (Text.ofString_inj.mp same)

/-- A request to the API carries the token that it is shaped with. -/
theorem ApiCall.carries_request (call : ApiCall) (base : Text) (token : String)
    (timeout : Binary64) : (call.request base token timeout).Carries token :=
  Dictionary.lookup_set (call.headers.getD []) "Authorization" _

/-- Whatever its path, unless that is an absolute address, a call goes to an address that continues
the base behind a slash. -/
theorem ApiCall.startsWith_address {call : ApiCall} (relative : call.isAbsolute = false)
    (base : Text) : (call.address base).startsWith (base ++ "/") = true := by
  rw [Text.startsWith_iff]
  simp only [address, relative, Bool.false_eq_true, if_false]
  split
  · rename_i slash
    obtain ⟨rest, path⟩ := Text.startsWith_iff.mp slash
    exact ⟨rest, by rw [path, Text.append_assoc]⟩
  · exact ⟨call.path, rfl⟩

end SessionKeeper
