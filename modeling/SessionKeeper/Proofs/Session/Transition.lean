import SessionKeeper.Proofs.Session.Telling
import SessionKeeper.Session.Coordinator

/-! # What is done under the lock of the session

For every part of a transition a relation between the world in which it starts, its outcome and the
world in which it ends, other tasks going on meanwhile; and the proof that the routine of that part
does no more than the relation says. At the top stand the two visits that a task pays to the session
while it holds the lock, to log in (`Session.LoginVisit`) and to log out (`Session.LogoutVisit`),
and the installation of a response that was got elsewhere (`Session.Installed`).
-/

namespace SessionKeeper.Session

/-- What a revocation comes to, by what its exchange comes to. -/
def revokeOutcome : Except Fault Response → Except Fault Unit
  | .ok response =>
    if response.status = Response.okStatus then .ok ()
    else .error (.refused (logoutRefusal response))
  | .error fault => .error fault

/-- What the revocation of a stale token comes to, failures of sessions being forgiven. -/
def staleOutcome : Except Fault Unit → Except Fault Unit
  | .ok () => .ok ()
  | .error fault => if fault.isSession then .ok () else .error fault

variable (session : Session) (regime : Regime) (number : Nat)

/-- A token was to be revoked. -/
inductive Revoked (token : Text) (url : Option Text) (world : World) :
    Except Fault Unit → World → Prop
  | undrafted (fault : Fault) (draft : session.settings.draftLogout token url = .error fault) :
    Revoked token url world (.error fault) world
  | exchanged (request : Request) (draft : session.settings.draftLogout token url = .ok request)
      (outcome : Except Fault Response) (between after : World)
      (exchanged : request.Exchanged regime number world outcome between)
      (calmly : between.Calmly number after) :
    Revoked token url world (revokeOutcome outcome) after

/-- Nothing is held any more, and the listeners were told. -/
def Cleared (world : World) (outcome : Except Fault Unit) (after : World) : Prop :=
  Listener.Told regime number .logout world.shared.listeners.members (world.assigns number none)
    outcome after

/-- A token was to be revoked, and then the session was cleared. -/
inductive RevokedAndCleared (token : Text) (url : Option Text) (world : World) :
    Except Fault Unit → World → Prop
  | intro (revoked cleared : Except Fault Unit) (between after : World)
      (revoking : session.Revoked regime number token url world revoked between)
      (clearing : Cleared regime number between cleared after) :
    RevokedAndCleared token url world (cleared.bind fun _ => revoked) after

/-- A stale token was to be revoked, and then the session was cleared. -/
inductive RevokedStale (token : Text) (url : Option Text) (world : World) :
    Except Fault Unit → World → Prop
  | intro (outcome : Except Fault Unit) (between after : World)
      (revoking : session.RevokedAndCleared regime number token url world outcome between)
      (calmly : between.Calmly number after) :
    RevokedStale token url world (staleOutcome outcome) after

/-- A response to a login was to be installed. -/
inductive Installed (response : Response) (world : World) : Except Fault String → World → Prop
  | rejected (fault : Fault) (refusal : response.classifyLogin = .error fault) :
    Installed response world (.error fault) world
  | accepted (grant : Grant) (granted : response.classifyLogin = .ok grant) (between : World)
      (calmly : world.Calmly number between) (told : Except Fault Unit) (after : World)
      (telling : Listener.Told regime number (.login grant.accessToken grant.instanceUrl)
        between.shared.listeners.members (between.assigns number (some grant.credential)) told
        after) :
    Installed response world (told.map fun _ => grant.accessToken) after

/-- A login at an address was to be asked for and its response to be installed. -/
inductive LoggedIn (url : Option Text) (world : World) : Except Fault String → World → Prop
  | undrafted (fault : Fault) (draft : (session.settings.draftLogin url).outcome = .error fault)
      (after : World) (calmly : world.Calmly number after) :
    LoggedIn url world (.error fault) after
  | unanswered (request : Request) (draft : (session.settings.draftLogin url).outcome = .ok request)
      (between : World) (calmly : world.Calmly number between) (fault : Fault) (after : World)
      (exchanged : request.Exchanged regime number between (.error fault) after) :
    LoggedIn url world (.error fault) after
  | answered (request : Request) (draft : (session.settings.draftLogin url).outcome = .ok request)
      (between : World) (calmly : world.Calmly number between) (response : Response)
      (middle : World) (exchanged : request.Exchanged regime number between (.ok response) middle)
      (outcome : Except Fault String) (after : World)
      (installed : Installed regime number response middle outcome after) :
    LoggedIn url world outcome after

/-- The session was to be logged in anew. -/
inductive Renewed (old : Option Text) (world : World) : Except Fault String → World → Prop
  | anew (absent : old = none) (outcome : Except Fault String) (after : World)
      (login : session.LoggedIn regime number world.shared.instanceUrl? world outcome after) :
    Renewed old world outcome after
  | replaced (token : Text) (present : old = some token) (between : World)
      (revoking : session.RevokedStale regime number token world.shared.instanceUrl? world (.ok ())
        between)
      (outcome : Except Fault String) (after : World)
      (login : session.LoggedIn regime number world.shared.instanceUrl? between outcome after) :
    Renewed old world outcome after
  | prevented (token : Text) (present : old = some token) (fault : Fault) (after : World)
      (revoking : session.RevokedStale regime number token world.shared.instanceUrl? world
        (.error fault) after) :
    Renewed old world (.error fault) after

/-- A task with the lock of the session was to get a current token. -/
inductive LoginVisit (old : Option Text) (world : World) : Except Fault String → World → Prop
  | current (credential : Credential) (held : world.shared.held = some credential)
      (fresh : old ≠ some ↑credential.token) (after : World) (calmly : world.Calmly number after) :
    LoginVisit old world (.ok credential.token) after
  | renewed (stale : ∀ credential, world.shared.held = some credential →
        old = some ↑credential.token)
      (outcome : Except Fault String) (after : World)
      (renewing : session.Renewed regime number old world outcome after) :
    LoginVisit old world outcome after

/-- A task with the lock of the session was to log out. -/
inductive LogoutVisit (world : World) : Except Fault Unit → World → Prop
  | absent (unheld : world.shared.held = none) : LogoutVisit world (.ok ()) world
  | present (credential : Credential) (held : world.shared.held = some credential)
      (outcome : Except Fault Unit) (after : World)
      (revoking : session.RevokedAndCleared regime number credential.token
        (some ↑credential.instanceUrl) world outcome after) :
    LogoutVisit world outcome after

/-! ## The locks in hand stay the same -/

section Grips

variable {session : Session} {regime : Regime} {number : Nat} {world after : World}
  {old url : Option Text} {token : Text} {result : Except Fault Unit} {login : Except Fault String}

theorem Revoked.grips (revoked : session.Revoked regime number token url world result after) :
    world.Grips number after := by
  cases revoked with
  | undrafted fault draft => exact .refl
  | exchanged request draft outcome between after exchanged calmly =>
    exact exchanged.grips.trans calmly.grips

theorem Cleared.grips (cleared : Cleared regime number world result after) :
    world.Grips number after :=
  (World.grips_did (by simp) (by simp)).trans (Listener.Told.grips cleared)

theorem RevokedAndCleared.grips
    (revoked : session.RevokedAndCleared regime number token url world result after) :
    world.Grips number after := by
  obtain ⟨_, _, between, _, revoking, clearing⟩ := revoked
  exact revoking.grips.trans clearing.grips

theorem RevokedStale.grips
    (revoked : session.RevokedStale regime number token url world result after) :
    world.Grips number after := by
  obtain ⟨_, between, _, revoking, calmly⟩ := revoked
  exact revoking.grips.trans calmly.grips

theorem Installed.grips {response : Response}
    (installed : Installed regime number response world login after) :
    world.Grips number after := by
  cases installed with
  | rejected fault refusal => exact .refl
  | accepted grant granted between calmly told after telling =>
    exact (calmly.grips.trans (World.grips_did (by simp) (by simp))).trans telling.grips

theorem LoggedIn.grips (loggedIn : session.LoggedIn regime number url world login after) :
    world.Grips number after := by
  cases loggedIn with
  | undrafted fault draft after calmly => exact calmly.grips
  | unanswered request draft between calmly fault after exchanged =>
    exact calmly.grips.trans exchanged.grips
  | answered request draft between calmly response middle exchanged outcome after installed =>
    exact (calmly.grips.trans exchanged.grips).trans installed.grips

theorem Renewed.grips (renewed : session.Renewed regime number old world login after) :
    world.Grips number after := by
  cases renewed with
  | anew absent outcome after login => exact login.grips
  | replaced token present between revoking outcome after login =>
    exact revoking.grips.trans login.grips
  | prevented token present fault after revoking => exact revoking.grips

theorem LoginVisit.grips (visit : session.LoginVisit regime number old world login after) :
    world.Grips number after := by
  cases visit with
  | current credential held fresh after calmly => exact calmly.grips
  | renewed stale outcome after renewing => exact renewing.grips

theorem LogoutVisit.grips (visit : session.LogoutVisit regime number world result after) :
    world.Grips number after := by
  cases visit with
  | absent unheld => exact .refl
  | present credential held outcome after revoking => exact revoking.grips

end Grips

/-! ## The routines do what the relations say -/

section Routines

variable {session : Session} {regime : Regime} {number : Nat} {world : World}

theorem entitles_of_session {request : Request} (held : world.holder .session = some number) :
    world.Entitles number (.sent request) := by
  intro lock needed
  simp only [Deed.needs] at needed
  split at needed
  · cases needed
  · obtain rfl := Option.some.inj needed
    exact held

/-- Sending a request with the lock of the session in hand. -/
theorem does_send (request : Request) :
    request.send.Does regime number (request.Exchanged regime number) :=
  fun _ held => Request.ensures_send (entitles_of_session held)

theorem ensures_hold {held : Option Credential} {post : Except Fault Unit → World → Prop}
    (holding : world.holder .session = some number)
    (assigned : post (.ok ()) (world.assigns number held)) :
    (Routine.modify (·.hold held)).Ensures regime number post world := by
  have deed := Deed.ofUpdate_hold held world.shared
  refine ⟨?_, fun lock released => ?_, ?_⟩
  · rw [deed]
    refine ⟨rfl, rfl, ?_, by simp⟩
    rintro lock ⟨rfl⟩
    exact holding
  · rw [deed] at released
    cases released
  · rw [World.updates, deed]
    exact assigned

theorem holder_assigns {held : Option Credential} {lock : Lock} :
    (world.assigns number held).holder lock = world.holder lock :=
  World.holder_add_of_apart (by simp) (by simp)

theorem does_revoke (token : Text) (url : Option Text) :
    (session.revoke token url).Does regime number (session.Revoked regime number token url) := by
  intro world held
  unfold revoke
  rw [Routine.ensures_bind, Routine.ensures_ofExcept]
  cases draft : session.settings.draftLogout token url with
  | error fault => exact .undrafted fault draft
  | ok request =>
    simp only
    rw [Routine.ensures_bind]
    apply (does_send request world held).mono
    rintro (fault | response) between exchanged
    · exact .exchanged request draft _ between between exchanged .refl
    · have refusal : revokeOutcome (.ok response) =
          if response.status = Response.okStatus then .ok ()
          else .error (.refused (logoutRefusal response)) := rfl
      by_cases okay : response.status = Response.okStatus
      · rw [if_pos okay] at refusal
        simp only [okay, ne_eq, not_true_eq_false, if_false]
        apply (Routine.ensures_say _ _).mono
        rintro _ after ⟨rfl, calmly⟩
        rw [← refusal]
        exact .exchanged request draft _ between after exchanged calmly
      · rw [if_neg okay] at refusal
        simp only [okay, ne_eq, not_false_eq_true, if_true]
        rw [Routine.ensures_bind, Routine.ensures_throw]
        simp only
        rw [← refusal]
        exact .exchanged request draft _ between between exchanged .refl

theorem does_clear : clear.Does regime number (Cleared regime number) := by
  intro world held
  unfold clear
  rw [Routine.ensures_bind]
  apply ensures_hold held
  exact Listener.does_notifyAll .logout (world.assigns number none) (holder_assigns.trans held)

theorem does_revokeAndClear (token : Text) (url : Option Text) :
    (session.revokeAndClear token url).Does regime number
      (session.RevokedAndCleared regime number token url) := by
  intro world held
  unfold revokeAndClear
  rw [Routine.ensures_ensuring]
  apply (does_revoke token url world held).mono
  intro revoked between revoking
  apply (does_clear between ((revoking.grips .session).mpr held)).mono
  rintro (fault | value) after clearing
  · exact .intro revoked (.error fault) between after revoking clearing
  · exact .intro revoked (.ok value) between after revoking clearing

theorem does_revokeStale (token : Text) :
    (session.revokeStale token).Does regime number fun world =>
      session.RevokedStale regime number token world.shared.instanceUrl? world := by
  intro world held
  unfold revokeStale
  rw [Routine.ensures_bind, Routine.ensures_get]
  simp only
  rw [Routine.ensures_tryCatch]
  apply (does_revokeAndClear token _ world held).mono
  rintro (fault | value) between revoking
  · have forgiven : staleOutcome (.error fault) =
        if fault.isSession then .ok () else .error fault := rfl
    simp only
    split
    · rename_i isSession
      rw [if_pos isSession] at forgiven
      apply (Routine.ensures_say _ _).mono
      rintro _ after ⟨rfl, calmly⟩
      rw [← forgiven]
      exact .intro _ between after revoking calmly
    · rename_i other
      rw [if_neg other] at forgiven
      rw [Routine.ensures_throw, ← forgiven]
      exact .intro _ between between revoking .refl
  · exact .intro _ between between revoking .refl

theorem does_install (response : Response) :
    (install response).Does regime number (Installed regime number response) := by
  intro world held
  unfold install
  rw [Routine.ensures_bind, Routine.ensures_ofExcept]
  cases granted : response.classifyLogin with
  | error fault => exact .rejected fault granted
  | ok grant =>
    simp only
    rw [Routine.ensures_bind]
    apply (Routine.ensures_say _ _).mono
    rintro _ between ⟨rfl, calmly⟩
    have holding := (calmly.grips .session).mpr held
    simp only
    rw [Routine.ensures_bind]
    apply ensures_hold holding
    simp only
    rw [Routine.ensures_bind]
    apply (Listener.does_notifyAll _ _ (holder_assigns.trans holding)).mono
    rintro (fault | value) after telling
    · exact .accepted grant granted between calmly _ after telling
    · exact .accepted grant granted between calmly _ after telling

/-- The second half of a renewal, from the draft of the login on. -/
private theorem does_logIn (url : Option Text) :
    (do
      let request ← Routine.ofReported (session.settings.draftLogin url)
      let response ← request.send
      install response : Routine String).Does regime number
        (session.LoggedIn regime number url) := by
  intro world held
  rw [Routine.ensures_bind]
  apply (Routine.ensures_ofReported _).mono
  rintro outcome between ⟨rfl, calmly⟩
  have holding := (calmly.grips .session).mpr held
  cases draft : (session.settings.draftLogin url).outcome with
  | error fault => exact .undrafted fault draft between calmly
  | ok request =>
    simp only
    rw [Routine.ensures_bind]
    apply (does_send request between holding).mono
    rintro (fault | response) middle exchanged
    · exact .unanswered request draft between calmly fault middle exchanged
    · apply (does_install response middle ((exchanged.grips .session).mpr holding)).mono
      exact fun outcome after installed =>
        .answered request draft between calmly response middle exchanged outcome after installed

theorem does_relogin (old : Option Text) :
    (session.relogin old).Does regime number (session.Renewed regime number old) := by
  intro world held
  unfold relogin
  rw [Routine.ensures_bind, Routine.ensures_get]
  simp only
  cases old with
  | none =>
    refine (does_logIn world.shared.instanceUrl? world held).mono ?_
    exact fun outcome after login => .anew rfl outcome after login
  | some token =>
    simp only
    rw [Routine.ensures_bind]
    apply (does_revokeStale token world held).mono
    rintro (fault | ⟨⟨⟩⟩) between revoking
    · exact .prevented token rfl fault between revoking
    · have holding := (revoking.grips .session).mpr held
      refine (does_logIn world.shared.instanceUrl? between holding).mono ?_
      exact fun outcome after login => .replaced token rfl between revoking outcome after login

theorem does_loginLocked (old : Option Text) :
    (session.loginLocked old).Does regime number (session.LoginVisit regime number old) := by
  intro world holding
  unfold loginLocked
  rw [Routine.ensures_bind, Routine.ensures_get]
  simp only [Shared.token?]
  have renewal (stale : ∀ credential, world.shared.held = some credential →
      old = some ↑credential.token) :
      (session.relogin old).Ensures regime number (session.LoginVisit regime number old world)
        world :=
    (does_relogin old world holding).mono fun outcome after renewing =>
      .renewed stale outcome after renewing
  cases held : world.shared.held with
  | none =>
    simp only [Option.map_none]
    exact renewal (by simp [held])
  | some credential =>
    simp only [Option.map_some]
    split
    · rename_i stale
      exact renewal fun other same => by
        obtain rfl : credential = other := by simpa [held] using same
        exact stale
    · rename_i fresh
      rw [Routine.ensures_bind]
      apply (Routine.ensures_say _ _).mono
      rintro _ after ⟨rfl, calmly⟩
      exact .current credential held fresh after calmly

theorem does_logoutLocked :
    session.logoutLocked.Does regime number (session.LogoutVisit regime number) := by
  intro world holding
  unfold logoutLocked
  rw [Routine.ensures_bind, Routine.ensures_get]
  simp only
  cases held : world.shared.held with
  | none => exact .absent held
  | some credential =>
    apply (does_revokeAndClear credential.token _ world holding).mono
    exact fun outcome after revoking => .present credential held outcome after revoking

end Routines

end SessionKeeper.Session
