import SessionKeeper.Proofs.Session.Visit

/-! # Logins among tasks

A task that wants a current token either is served, with the token that it finds, or renews the
session in an exchange of its own (`Visit.Yields`). This goes for every answer of the endpoint, as
long as nobody breaks off a wait, no listener demands to stop, and a failed revocation is one that
exchanges wrap.
-/

namespace SessionKeeper

/-- A failure to answer a request is one that its exchange wraps. -/
def Endpoint.Wraps (endpoint : Endpoint) (request : Request) : Prop :=
  ∀ earlier fault, (endpoint earlier request).answer = .error fault →
    ∃ failure, request.wrap fault = .transport failure

/-- A failure to answer a revocation is one that exchanges wrap. -/
def Endpoint.WrapsRevocations (endpoint : Endpoint) : Prop :=
  ∀ request : Request, request.method = "GET" → request.headers = none → endpoint.Wraps request

/-- What the answer to a login request comes to. -/
def Request.granted (request : Request) (answer : Answer) : Except Fault String :=
  (request.settle answer).bind fun response => response.classifyLogin.map (·.accessToken)

namespace Session

/-- Nothing is held, or just the old token. -/
def Spent (old : Option String) (held : Option Credential) : Prop :=
  ∀ credential, held = some credential → old = some credential.token

/-- The requests of a renewal at an address: the old token is revoked, if there is one, and then a
login is asked for. -/
def Asks (session : Session) (old : Option String) (url : Option Text) (asked : List Request) :
    Prop :=
  ∃ login, (session.settings.draftLogin url).outcome = .ok login ∧
    match old with
    | none => asked = [login]
    | some token => ∃ revoke, session.settings.draftLogout ↑token url = .ok revoke ∧
        asked = [revoke, login]

theorem Asks.ne_nil {session : Session} {old : Option String} {url : Option Text}
    {asked : List Request} (asks : session.Asks old url asked) : asked ≠ [] := by
  obtain ⟨login, _, asked⟩ := asks
  cases old with
  | none => simp [asked]
  | some token =>
    obtain ⟨revoke, _, rfl⟩ := asked
    simp

theorem Asks.bare {session : Session} {old : Option String} {url : Option Text}
    {asked : List Request} (asks : session.Asks old url asked) :
    ∀ request ∈ asked, request.headers = none := by
  obtain ⟨login, draft, asked⟩ := asks
  have bare := (Settings.of_draftLogin draft).2
  cases old with
  | none =>
    rw [asked]
    simpa using bare
  | some token =>
    obtain ⟨revoke, drafted, rfl⟩ := asked
    simpa using ⟨(Settings.of_draftLogout drafted).2, bare⟩

/-- A revocation fails as exchanges do, if at all. -/
theorem isSession_of_revokeOutcome {endpoint : Endpoint} {earlier : List Request}
    {request : Request} (wrapped : endpoint.WrapsRevocations) (get : request.method = "GET")
    (bare : request.headers = none) (fault : Fault)
    (failed : revokeOutcome (request.settle (endpoint earlier request).answer) = .error fault) :
    fault.isSession = true := by
  cases delivered : (endpoint earlier request).answer with
  | ok response =>
    simp only [delivered, Request.settle, revokeOutcome] at failed
    split at failed
    · cases failed
    · cases failed
      rfl
  | error raised =>
    obtain ⟨failure, wraps⟩ := wrapped request get bare earlier raised delivered
    simp only [delivered, Request.settle, wraps, revokeOutcome, Except.error.injEq] at failed
    rw [← failed]
    rfl

end Session

namespace Visit

/-- The visit renewed the session, or tried to: it made an exchange of its own, which came to an
outcome. -/
structure Renews (visit : Visit) (session : Session) (endpoint : Endpoint) (old : Option String)
    (outcome : Except Fault String) : Prop where
  asked : session.Asks old (visit.found.map fun credential => ↑credential.instanceUrl) visit.asked
  answered : visit.heard.map (·.1) = visit.asked
  granted : ∃ earlier, ∃ request : Request, request.method = "POST" ∧ request.headers = none ∧
    visit.heard.getLast? = some (request, (endpoint earlier request).answer) ∧
    outcome = request.granted (endpoint earlier request).answer

/-- What a login made of its visit, and what was held afterwards. -/
inductive Yields (visit : Visit) (session : Session) (endpoint : Endpoint) (old : Option String) :
    Option Credential → Except Fault String → Prop
  | served (credential : Credential) (found : visit.found = some credential)
      (fresh : old ≠ some credential.token) (unasked : visit.asked = [])
      (unheard : visit.heard = []) :
    Yields visit session endpoint old (some credential) (.ok credential.token)
  | renewed (spent : Session.Spent old visit.found) (held : Option Credential)
      (outcome : Except Fault String) (renews : visit.Renews session endpoint old outcome)
      (shown : held.map (·.token) = outcome.toOption) :
    Yields visit session endpoint old held outcome

end Visit

namespace Visiting

variable {session : Session} {regime : Regime} {number : Nat} {origin world after : World}
  {visit : Visit} {held : Option Credential} {url : Option Text} {timeout : Binary64}
  {outcome : Except Fault String}

/-- A token is revoked, and nothing is held afterwards. -/
theorem revokedAndCleared {token : String} {result : Except Fault Unit}
    (visiting : Visiting number origin visit held world)
    (holding : world.holder .session = some number)
    (usable : session.settings.timeout = .ok timeout)
    (unbroken : ∀ fault, ¬ regime.breaks fault)
    (revoked : session.RevokedAndCleared regime number ↑token url world result after) :
    ∃ earlier request, session.settings.draftLogout ↑token url = .ok request ∧
      result = Session.revokeOutcome
        (request.settle (regime.endpoint earlier request).answer) ∧
      Visiting number origin
        ((visit.ask request).hear request (regime.endpoint earlier request).answer) none after := by
  obtain ⟨revocation, cleared, between, _, revoking, clearing⟩ := revoked
  cases revoking with
  | undrafted fault draft =>
    obtain ⟨request, drafted⟩ := Settings.exists_draftLogout usable token url
    rw [drafted] at draft
    cases draft
  | exchanged request draft response first between exchanged quiet =>
    have bare := (Settings.of_draftLogout draft).2
    obtain ⟨answer, rfl, rfl, answered⟩ := visiting.exchanged holding bare unbroken exchanged
    have still : between.holder .session = some number :=
      ((exchanged.grips.trans quiet.grips) .session).mpr holding
    obtain ⟨rfl, emptied⟩ :=
      (answered.calmly ((exchanged.grips .session).mpr holding) quiet).assigned still
        (by simp [Visit.hear, Visit.ask]) unbroken clearing
    exact ⟨world.shared.sent, request, draft, rfl, emptied⟩

/-- A stale token is revoked, whatever is answered, and nothing is held afterwards. -/
theorem revoked {token : String} {result : Except Fault Unit}
    (visiting : Visiting number origin visit held world)
    (holding : world.holder .session = some number)
    (usable : session.settings.timeout = .ok timeout)
    (unbroken : ∀ fault, ¬ regime.breaks fault)
    (wrapped : regime.endpoint.WrapsRevocations)
    (revoked : session.RevokedStale regime number ↑token url world result after) :
    result = .ok () ∧ ∃ request answer, session.settings.draftLogout ↑token url = .ok request ∧
      Visiting number origin ((visit.ask request).hear request answer) none after := by
  obtain ⟨_, between, _, revoking, calmly⟩ := revoked
  obtain ⟨earlier, request, draft, rfl, emptied⟩ :=
    visiting.revokedAndCleared holding usable unbroken revoking
  have still := (revoking.grips .session).mpr holding
  refine ⟨?_, request, _, draft, emptied.calmly still calmly⟩
  obtain ⟨get, bare⟩ := Settings.of_draftLogout draft
  -- A refused or failed revocation is a failure of the session, which is forgiven.
  cases settled : Session.revokeOutcome
      (request.settle (regime.endpoint earlier request).answer) with
  | ok value => rfl
  | error fault =>
    simp only [Session.staleOutcome, Session.isSession_of_revokeOutcome wrapped get bare fault
      settled, if_true]

/-- A login is asked for, and what it grants is held afterwards. -/
theorem loggedIn (visiting : Visiting number origin visit held world)
    (holding : world.holder .session = some number)
    (usable : session.settings.timeout = .ok timeout)
    (unbroken : ∀ fault, ¬ regime.breaks fault)
    (login : session.LoggedIn regime number url world outcome after) :
    ∃ earlier request next, (session.settings.draftLogin url).outcome = .ok request ∧
      outcome = request.granted (regime.endpoint earlier request).answer ∧
      Visiting number origin
        ((visit.ask request).hear request (regime.endpoint earlier request).answer) next after ∧
      (∀ token, outcome = .ok token → next.map (·.token) = some token) ∧
      ∀ fault, outcome = .error fault → next = held := by
  cases login with
  | undrafted fault draft after calmly =>
    obtain ⟨request, drafted⟩ := Settings.exists_draftLogin usable url
    rw [drafted] at draft
    cases draft
  | unanswered request draft between calmly fault after exchanged =>
    obtain ⟨answer, rfl, failed, answered⟩ :=
      (visiting.calmly holding calmly).exchanged ((calmly.grips .session).mpr holding)
        (Settings.of_draftLogin draft).2 unbroken exchanged
    refine ⟨between.shared.sent, request, held, draft, ?_, answered,
      (fun _ same => by cases same), fun _ _ => rfl⟩
    rw [Request.granted, ← failed]
    rfl
  | answered request draft between calmly response middle exchanged outcome after installed =>
    have waiting := (calmly.grips .session).mpr holding
    obtain ⟨answer, rfl, success, answered⟩ :=
      (visiting.calmly holding calmly).exchanged waiting (Settings.of_draftLogin draft).2 unbroken
        exchanged
    have still := (exchanged.grips .session).mpr waiting
    have granted (grant : Except Fault Grant) (classified : response.classifyLogin = grant) :
        request.granted (regime.endpoint between.shared.sent request).answer =
          grant.map (·.accessToken) := by
      rw [Request.granted, ← success, Except.bind, classified]
    cases installed with
    | rejected fault refusal =>
      refine ⟨between.shared.sent, request, held, draft, ?_, answered,
        (fun _ same => by cases same), fun _ _ => rfl⟩
      rw [granted _ refusal]
      rfl
    | accepted grant accepted last quiet told after telling =>
      obtain ⟨rfl, assigned⟩ :=
        (answered.calmly still quiet).assigned ((quiet.grips .session).mpr still)
          (by simp [Visit.hear, Visit.ask]) unbroken telling
      refine ⟨between.shared.sent, request, some grant.credential, draft, ?_, assigned, ?_,
        fun _ same => by cases same⟩
      · rw [granted _ accepted]
        rfl
      · rintro token ⟨rfl⟩
        rfl

/-- A login serves its caller with the token that it finds, or renews the session. -/
theorem visited {old : Option String} (tame : world.shared.Tame)
    (usable : session.settings.timeout = .ok timeout)
    (unbroken : ∀ fault, ¬ regime.breaks fault)
    (wrapped : regime.endpoint.WrapsRevocations)
    (login : session.LoginVisit regime number (old.map Text.ofString)
      (world.takes number .session) outcome after) :
    ∃ (visit : Visit) (held : Option Credential), visit.task = number ∧
      visit.found = world.shared.held ∧ Visiting number world visit held after ∧
      visit.Yields session regime.endpoint old held outcome := by
  have began := Visiting.began number tame
  have holding : (world.takes number .session).holder .session = some number := World.holder_takes
  cases login with
  | current credential current fresh after calmly =>
    refine ⟨_, _, rfl, rfl, began.calmly holding calmly, ?_⟩
    rw [show world.shared.held = some credential from current]
    refine .served credential rfl (fun same => fresh ?_) rfl rfl
    rw [same]
    rfl
  | renewed stale outcome after renewing =>
    have spent : Session.Spent old world.shared.held := by
      intro credential current
      have same := stale credential current
      obtain ⟨token, rfl, spelled⟩ := Option.map_eq_some_iff.mp same
      rw [Text.ofString_inj.mp spelled]
    cases renewing with
    | anew absent outcome after login =>
      obtain rfl := Option.map_eq_none_iff.mp absent
      obtain ⟨earlier, request, next, draft, granted, visiting, success, failure⟩ :=
        began.loggedIn holding usable unbroken login
      obtain ⟨post, bare⟩ := Settings.of_draftLogin draft
      refine ⟨_, next, rfl, rfl, visiting, .renewed spent next outcome ⟨⟨request, draft, rfl⟩, rfl,
        earlier, request, post, bare, rfl, granted⟩ ?_⟩
      cases outcome with
      | ok token => exact success token rfl
      | error fault =>
        rw [failure fault rfl]
        cases current : world.shared.held with
        | none => rfl
        | some credential => cases spent credential current
    | prevented token present fault after revoking =>
      obtain ⟨token, rfl, rfl⟩ := Option.map_eq_some_iff.mp present
      cases (began.revoked holding usable unbroken wrapped revoking).1
    | replaced token present between revoking outcome after login =>
      obtain ⟨token, rfl, rfl⟩ := Option.map_eq_some_iff.mp present
      obtain ⟨_, revoke, answer, drafted, emptied⟩ :=
        began.revoked holding usable unbroken wrapped revoking
      obtain ⟨earlier, request, next, draft, granted, visiting, success, failure⟩ :=
        emptied.loggedIn ((revoking.grips .session).mpr holding) usable unbroken login
      obtain ⟨post, bare⟩ := Settings.of_draftLogin draft
      refine ⟨_, next, rfl, rfl, visiting, .renewed spent next outcome
        ⟨⟨request, draft, revoke, drafted, rfl⟩, rfl, earlier, request, post, bare, rfl, granted⟩
        ?_⟩
      cases outcome with
      | ok token => exact success token rfl
      | error fault => rw [failure fault rfl]; rfl

end Visiting

end SessionKeeper
