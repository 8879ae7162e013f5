import SessionKeeper.Proofs.Credential.Grant
import SessionKeeper.Proofs.Session.Login

/-! # Logins that somebody else sends

Somebody else may send the request of a login and hand the response over. The request is drafted
from what is held at that moment, while a login of the session's own keeps the address that it found
before the old token was dropped. They are the same request all the same, and the same comes of it:
unless it is granted, a login of the session's own leaves nothing held, and the other one leaves
what was held before (`Session.Concur`, `Session.run_delegatedLogin`). With nothing held, both are
one and the same (`Session.run_login_of_unheld`).
-/

namespace SessionKeeper

namespace Shared

/-- What listeners are told when everybody is told of an occasion. -/
def calls (shared : Shared) (occasion : Occasion) : List Notice :=
  shared.listeners.members.map fun listener => ⟨listener.name, occasion⟩

/-- What listeners are told when what is held is dropped, if something is. -/
def farewell (shared : Shared) : List Notice :=
  if shared.held.isSome then shared.calls .logout else []

/-- No callback of a registered listener changes who is registered. -/
def Steady (shared : Shared) : Prop :=
  ∀ listener ∈ shared.listeners.members, ∀ occasion endpoint (now : Shared),
    now.listeners = shared.listeners → now.roster = shared.roster →
      ((listener.notify occasion).run endpoint now).1.listeners = shared.listeners

/-- What neither a login nor a logout touches is the same. -/
structure Spares (before after : Shared) : Prop where
  listeners : after.listeners = before.listeners
  roster : after.roster = before.roster
  locked : after.locked = before.locked
  stage : after.stage = before.stage
  ledger : after.ledger = before.ledger

variable {before between after : Shared}

theorem Spares.trans (first : before.Spares between) (second : between.Spares after) :
    before.Spares after :=
  ⟨second.listeners.trans first.listeners, second.roster.trans first.roster,
    second.locked.trans first.locked, second.stage.trans first.stage,
    second.ledger.trans first.ledger⟩

theorem Spares.unlock {lock : Lock} (spares : (before.lock lock).Spares after) :
    before.Spares (after.unlock lock) :=
  ⟨spares.listeners, spares.roster,
    (congrArg (List.erase · lock) spares.locked).trans (List.erase_cons_head lock before.locked),
    spares.stage, spares.ledger⟩

theorem Spares.calm (spares : before.Spares after) (calm : before.Calm) : after.Calm := by
  rw [Calm, spares.listeners]
  exact calm

theorem Spares.steady (spares : before.Spares after) (steady : before.Steady) : after.Steady := by
  rw [Steady, spares.listeners, spares.roster]
  exact steady

theorem Spares.calls (spares : before.Spares after) (occasion : Occasion) :
    after.calls occasion = before.calls occasion := by
  rw [Shared.calls, spares.listeners]
  rfl

theorem Steady.notifyEach (steady : before.Steady) (endpoint : Endpoint) (occasion : Occasion)
    {listeners : List Listener} (registered : ∀ listener ∈ listeners,
      listener ∈ before.listeners.members)
    (same : between.listeners = before.listeners) (roster : between.roster = before.roster) :
    ((Listener.notifyEach occasion listeners).run endpoint between).1.listeners =
      before.listeners := by
  induction listeners generalizing between with
  | nil => exact same
  | cons listener others ih =>
    have kept := steady listener (registered listener List.mem_cons_self) occasion endpoint
      between same roster
    obtain ⟨reached, _, round⟩ :=
      (Listener.circulated_notify endpoint occasion listener between).round
    unfold Listener.notifyEach
    rw [Routine.run_bind]
    generalize (listener.notify occasion).run endpoint between = result at kept round
    obtain ⟨told, fault | ⟨⟨⟩⟩⟩ := result
    · exact kept
    · exact ih (fun other member => registered other (List.mem_cons_of_mem listener member)) kept
        (round.roster.trans roster)

/-- If callbacks keep who is registered, then a round of telling does. -/
theorem Steady.notifyAll (steady : before.Steady) (endpoint : Endpoint) (occasion : Occasion) :
    ((Listener.notifyAll occasion).run endpoint before).1.listeners = before.listeners := by
  unfold Listener.notifyAll
  rw [Routine.run_bind_of_ok endpoint (Routine.run_get endpoint before)]
  exact steady.notifyEach endpoint occasion (fun _ member => member) rfl rfl

end Shared

theorem Listener.Round.spares {occasion : Occasion} {told : List Notice} {before after : Shared}
    (round : Round occasion told before after) (listeners : after.listeners = before.listeners) :
    before.Spares after :=
  ⟨listeners, round.roster, round.locked, round.stage, round.ledger⟩

namespace Session

variable (session : Session)

/-- A login whose request is sent by somebody else, who hands the response over. -/
def delegatedLogin : Routine String := do
  let request ← session.draftLogin
  let response ← request.send
  applyLogin response

/-- The request of a login, unless there is none for want of a timeout. -/
def logins (before : Shared) : List Request :=
  (session.settings.draftLogin before.instanceUrl?).outcome.toOption.toList

/-- The request that revokes what is held, if something is and there is a timeout. -/
def revocations (before : Shared) : List Request :=
  (before.token?.bind fun token =>
    (session.settings.draftLogout ↑token before.instanceUrl?).toOption).toList

/-- What a login is granted, by the answer to its request. -/
def granted (before : Shared) (answer : Request → Answer) : Except Fault Grant :=
  (session.settings.draftLogin before.instanceUrl?).outcome >>= fun request =>
    request.grant (answer request)

variable {session} {timeout : Binary64} {before between after : Shared}

/-- A lock in hand shows neither in the draft of a login nor in its exchange, so that it can as well
be taken before them. -/
theorem run_withLock_ask (session : Session) (endpoint : Endpoint) (before : Shared) :
    (Routine.withLock .session (session.ask before.instanceUrl?)).run endpoint before =
      session.delegatedLogin.run endpoint before := by
  have reported (lines : List (Level × Text)) (shared : Shared) :
      lines.foldl (fun shared line => shared.say line.1 line.2) (shared.lock .session) =
        (lines.foldl (fun shared line => shared.say line.1 line.2) shared).lock .session := by
    induction lines generalizing shared with
    | nil => rfl
    | cons line rest ih => exact ih (shared.say line.1 line.2)
  set draft := session.settings.draftLogin before.instanceUrl? with drafted
  set said := draft.lines.foldl (fun shared line => shared.say line.1 line.2) before with saying
  have first : session.draftLogin.run endpoint before = (said, draft.outcome) := rfl
  have own : (Routine.ofReported draft).run endpoint (before.lock .session) =
      (said.lock .session, draft.outcome) := Prod.ext (reported draft.lines before) rfl
  rw [Routine.run_withLock]
  unfold ask delegatedLogin
  rw [← drafted, Routine.run_bind, Routine.run_bind endpoint session.draftLogin, first, own]
  cases draft.outcome with
  | error fault => simp only [Shared.unlock_lock]
  | ok request =>
    have sent (shared : Shared) : request.send.run endpoint shared =
      (shared.send request, request.settle (endpoint shared.sent request).answer) := rfl
    simp only
    rw [Routine.run_bind, Routine.run_bind, sent, sent]
    have same : (said.lock .session).send request = (said.send request).lock .session := rfl
    have earlier : (said.lock .session).sent = said.sent := rfl
    rw [same, earlier]
    cases request.settle (endpoint said.sent request).answer with
    | error fault => simp only [Shared.unlock_lock]
    | ok response => exact (Routine.run_withLock endpoint .session (install response) _).symm

/-- A login of the session's own with nothing held is one that somebody else may send. -/
theorem run_login_of_unheld (endpoint : Endpoint) (unheld : before.held = none) :
    (session.login none).run endpoint before = session.delegatedLogin.run endpoint before := by
  have spent : Spent none (before.lock .session).held := by
    rw [show (before.lock .session).held = none from unheld]
    exact nofun
  have asks : (session.loginLocked none).run endpoint (before.lock .session) =
      (session.ask before.instanceUrl?).run endpoint (before.lock .session) :=
    run_loginLocked_of_spent endpoint spent
  rw [← run_withLock_ask, login, Routine.run_withLock, Routine.run_withLock, asks]

/-! ## What asking for a login comes to -/

/-- What is shared once a login is asked for, by what is granted. -/
structure AskedFor (requests : List Request) (before : Shared) (result : Except Fault Grant)
    (after : Shared) : Prop where
  sent : after.sent = before.sent ++ requests
  spares : before.Spares after
  accepted : ∀ grant, result = .ok grant → after.held = some grant.credential ∧
    after.notices = before.notices ++ before.calls (.login grant.accessToken grant.instanceUrl)
  refused : ∀ fault, result = .error fault →
    after.held = before.held ∧ after.notices = before.notices

/-- Nothing comes of a login that fails before it is sent. -/
theorem AskedFor.unsent (fault : Fault) (same : before.UpToLog after) :
    AskedFor [] before (.error fault) after := by
  obtain ⟨log, rfl⟩ := same
  exact ⟨(List.append_nil _).symm, ⟨rfl, rfl, rfl, rfl, rfl⟩, nofun, fun _ _ => ⟨rfl, rfl⟩⟩

/-- What the log says is no matter. -/
theorem AskedFor.upToLog {requests : List Request} {result : Except Fault Grant}
    (asked : AskedFor requests before result between) (same : between.UpToLog after) :
    AskedFor requests before result after := by
  obtain ⟨log, rfl⟩ := same
  exact ⟨asked.sent, ⟨asked.spares.listeners, asked.spares.roster, asked.spares.locked,
    asked.spares.stage, asked.spares.ledger⟩, asked.accepted, asked.refused⟩

theorem asked_concluded (endpoint : Endpoint) (calm : before.Calm) (steady : before.Steady)
    (request : Request) (answer : Answer) :
    AskedFor [request] before (request.grant answer) (concluded endpoint request answer before).1 ∧
      (concluded endpoint request answer before).2 =
        (request.grant answer).map (·.accessToken) := by
  unfold concluded
  cases request.grant answer with
  | error fault =>
    exact ⟨⟨rfl, ⟨rfl, rfl, rfl, rfl, rfl⟩, nofun, fun _ _ => ⟨rfl, rfl⟩⟩, rfl⟩
  | ok grant =>
    let holding := (before.send request).hold (some grant.credential)
    have still : holding.Steady := steady
    obtain ⟨round, _⟩ := Listener.run_notifyAll endpoint
      (.login grant.accessToken grant.instanceUrl) (show holding.Calm from calm)
    have spares := round.spares (still.notifyAll endpoint _)
    refine ⟨⟨round.sent, ⟨spares.listeners, spares.roster, spares.locked, spares.stage,
      spares.ledger⟩, ?_, nofun⟩, rfl⟩
    rintro _ ⟨rfl⟩
    exact ⟨round.held, round.notices⟩

/-- Asking for a login comes to what is granted, whatever the timeout. -/
theorem asked_ask (session : Session) (endpoint : Endpoint) (calm : before.Calm)
    (steady : before.Steady) (url : Option Text) :
    let draft := (session.settings.draftLogin url).outcome
    let result := draft >>= fun request => request.grant (endpoint before.sent request).answer
    AskedFor draft.toOption.toList before result ((session.ask url).run endpoint before).1 ∧
      ((session.ask url).run endpoint before).2 = result.map (·.accessToken) := by
  intro draft result
  cases usable : session.settings.timeout with
  | error fault =>
    have undrafted : draft = .error fault := Settings.draftLogin_of_unusable url usable
    obtain ⟨after, same, asked⟩ := run_ask_of_unusable usable endpoint url before
    rw [asked]
    simp only [result, undrafted]
    exact ⟨.unsent fault same, rfl⟩
  | ok timeout =>
    have drafted : draft = .ok (session.settings.loginRequest timeout url) :=
      Settings.draftLogin_of_usable url usable
    obtain ⟨after, same, asked⟩ := run_ask usable endpoint calm url
    obtain ⟨concluded, outcome⟩ := asked_concluded endpoint calm steady
      (session.settings.loginRequest timeout url)
      (endpoint before.sent (session.settings.loginRequest timeout url)).answer
    rw [asked]
    simp only [result, drafted]
    exact ⟨concluded.upToLog same, outcome⟩

/-! ## What dropping the held token comes to -/

/-- What is shared once the held token is dropped: its revocation was asked for and the listeners
were told of a logout. -/
structure Vacated (revocations : List Request) (told : List Notice) (before after : Shared) :
    Prop where
  held : after.held = none
  sent : after.sent = before.sent ++ revocations
  notices : after.notices = before.notices ++ told
  spares : before.Spares after

theorem Vacated.upToLog {revocations : List Request} {told : List Notice}
    (vacated : Vacated revocations told before between) (same : between.UpToLog after) :
    Vacated revocations told before after := by
  obtain ⟨log, rfl⟩ := same
  exact ⟨vacated.held, vacated.sent, vacated.notices, vacated.spares.listeners,
    vacated.spares.roster, vacated.spares.locked, vacated.spares.stage, vacated.spares.ledger⟩

/-- A stale token is dropped whatever comes of its revocation, and the login goes on if there is a
timeout. -/
theorem vacated_revokeStale (session : Session) {endpoint : Endpoint}
    (wrapped : endpoint.WrapsRevocations)
    (calm : before.Calm) (steady : before.Steady) (token : String) :
    ∃ after, Vacated (session.settings.draftLogout ↑token before.instanceUrl?).toOption.toList
        (before.calls .logout) before after ∧
      (session.revokeStale ↑token).run endpoint before =
        (after, session.settings.timeout.map fun _ => ()) := by
  have dropped (requests : List Request) :
      Vacated requests (before.calls .logout) before ((Listener.notifyAll .logout).run endpoint
        ({ before with sent := before.sent ++ requests }.hold none)).1 := by
    set emptied := { before with sent := before.sent ++ requests }.hold none
    have still : emptied.Steady := steady
    obtain ⟨round, _⟩ := Listener.run_notifyAll endpoint .logout (show emptied.Calm from calm)
    have spares := round.spares (still.notifyAll endpoint .logout)
    exact ⟨round.held, round.sent, round.notices, spares.listeners, spares.roster, spares.locked,
      spares.stage, spares.ledger⟩
  cases usable : session.settings.timeout with
  | error fault =>
    have unsent := dropped []
    rw [List.append_nil] at unsent
    rw [Settings.draftLogout_of_unusable _ usable]
    exact ⟨_, unsent, run_revokeStale_of_unusable session endpoint usable calm token⟩
  | ok timeout =>
    obtain ⟨after, same, revoked⟩ := run_revokeStale usable wrapped calm token
    rw [Settings.draftLogout_of_usable _ usable]
    exact ⟨after, (dropped [_]).upToLog same, revoked⟩

/-! ## Both ways of logging in -/

/-- What is shared after a login that somebody else sends, and after one of the session's own, from
the same state, and what both come to. -/
structure Concur (session : Session) (before : Shared) (result : Except Fault Grant)
    (delegated own : Shared × Except Fault String) : Prop where
  outcome : delegated.2 = result.map (·.accessToken)
  own_outcome : own.2 = delegated.2
  sent : delegated.1.sent = before.sent ++ session.logins before
  own_sent : own.1.sent = before.sent ++ session.revocations before ++ session.logins before
  /-- What is granted is held, and everybody is told of it. -/
  accepted : ∀ grant, result = .ok grant →
    delegated.1.held = some grant.credential ∧ own.1.held = some grant.credential ∧
      delegated.1.notices =
        before.notices ++ before.calls (.login grant.accessToken grant.instanceUrl) ∧
      own.1.notices = before.notices ++ before.farewell ++
        before.calls (.login grant.accessToken grant.instanceUrl)
  /-- If nothing is granted, what was held is dropped by the session's own login only. -/
  refused : ∀ fault, result = .error fault →
    delegated.1.held = before.held ∧ own.1.held = none ∧
      delegated.1.notices = before.notices ∧ own.1.notices = before.notices ++ before.farewell
  spares : before.Spares delegated.1
  own_spares : before.Spares own.1

theorem Concur.unlock {result : Except Fault Grant} {delegated own : Shared × Except Fault String}
    (concur : session.Concur (before.lock .session) result delegated own) :
    session.Concur before result (delegated.1.unlock .session, delegated.2)
      (own.1.unlock .session, own.2) :=
  ⟨concur.outcome, concur.own_outcome, concur.sent, concur.own_sent, concur.accepted,
    concur.refused, concur.spares.unlock, concur.own_spares.unlock⟩

theorem concur_of_asked {result : Except Fault Grant} {delegated own : Shared × Except Fault String}
    (asked : AskedFor (session.logins before) before result delegated.1)
    (outcome : delegated.2 = result.map (·.accessToken))
    (vacated : Vacated (session.revocations before) before.farewell before between)
    (renewed : AskedFor (session.logins before) between result own.1)
    (own_outcome : own.2 = result.map (·.accessToken)) :
    session.Concur before result delegated own := by
  refine ⟨outcome, own_outcome.trans outcome.symm, asked.sent, ?_, fun grant granted => ?_,
    fun fault failed => ?_, asked.spares, vacated.spares.trans renewed.spares⟩
  · rw [renewed.sent, vacated.sent]
  · obtain ⟨held, notices⟩ := asked.accepted grant granted
    obtain ⟨own_held, own_notices⟩ := renewed.accepted grant granted
    rw [vacated.notices, vacated.spares.calls] at own_notices
    exact ⟨held, own_held, notices, own_notices⟩
  · obtain ⟨held, notices⟩ := asked.refused fault failed
    obtain ⟨own_held, own_notices⟩ := renewed.refused fault failed
    exact ⟨held, own_held.trans vacated.held, notices, own_notices.trans vacated.notices⟩

/-- A login in the place of what is held, with the lock in hand: that is dropped, and then a login
is asked for at the instance that it was for. -/
theorem asked_relogin (session : Session) {endpoint : Endpoint}
    (wrapped : endpoint.WrapsRevocations) (calm : before.Calm) (steady : before.Steady) :
    let ended := (session.relogin (before.token?.map Text.ofString)).run endpoint before
    let result := session.granted before fun request =>
      (endpoint (before.sent ++ session.revocations before) request).answer
    ∃ between, Vacated (session.revocations before) before.farewell before between ∧
      AskedFor (session.logins before) between result ended.1 ∧
      ended.2 = result.map (·.accessToken) := by
  intro ended result
  cases current : before.held with
  | none =>
    have asks : ended = (session.ask before.instanceUrl?).run endpoint before := by
      simp only [ended, Shared.token?, current]
      rfl
    have nothing : session.revocations before = [] := by
      simp [revocations, Shared.token?, current]
    have quiet : before.farewell = [] := by simp [Shared.farewell, current]
    have asked := asked_ask session endpoint calm steady before.instanceUrl?
    simp only [result, asks, nothing, quiet, List.append_nil]
    exact ⟨before, ⟨current, by simp, by simp, rfl, rfl, rfl, rfl, rfl⟩, asked⟩
  | some credential =>
    obtain ⟨between, vacated, dropped⟩ :=
      vacated_revokeStale session wrapped calm steady credential.token
    have token : before.token? = some credential.token := by simp [Shared.token?, current]
    have revocations : (session.settings.draftLogout ↑credential.token
        before.instanceUrl?).toOption.toList = session.revocations before := by
      simp only [Session.revocations, token, Option.bind_some]
    have farewell : before.calls .logout = before.farewell := by simp [Shared.farewell, current]
    rw [revocations, farewell] at vacated
    have renewal : ended = (do
        session.revokeStale ↑credential.token
        session.ask before.instanceUrl? : Routine String).run endpoint before := by
      simp only [ended, token]
      rfl
    rw [renewal]
    cases usable : session.settings.timeout with
    | error fault =>
      rw [usable] at dropped
      rw [Routine.run_bind_of_error endpoint dropped]
      simp only [result, granted, logins, Settings.draftLogin_of_unusable _ usable]
      exact ⟨between, vacated, .unsent fault (.refl between), rfl⟩
    | ok timeout =>
      rw [usable] at dropped
      rw [Routine.run_bind_of_ok endpoint dropped]
      have asked := asked_ask session endpoint (vacated.spares.calm calm)
        (vacated.spares.steady steady) before.instanceUrl?
      rw [vacated.sent] at asked
      exact ⟨between, vacated, asked⟩

/-- **Two ways of logging in that agree.** Whatever is held, whoever is registered and whatever the
endpoint answers, let the request of a login be drafted and sent by somebody else and the response
be handed over, or let the session log in by itself: the same request is sent, and the same comes of
it. If it is granted, the same is held afterwards and every listener is told of it in the same way.
Otherwise both fail alike, and only the login of the session's own leaves nothing held. It also asks
for what was held to be revoked, if anything was, and tells the listeners of that. -/
theorem run_delegatedLogin (session : Session) {before : Shared} (calm : before.Calm)
    (steady : before.Steady) {outer inner : Endpoint} (wrapped : inner.WrapsRevocations)
    (same : ∀ request ∈ session.logins before, (outer before.sent request).answer =
      (inner (before.sent ++ session.revocations before) request).answer) :
    session.Concur before
        (session.granted before fun request => (outer before.sent request).answer)
        (session.delegatedLogin.run outer before)
        ((session.login (before.token?.map Text.ofString)).run inner before) ∧
      (before.held = none → (session.login none).run outer before =
        session.delegatedLogin.run outer before) := by
  refine ⟨?_, run_login_of_unheld outer⟩
  let locked := before.lock .session
  have spent : Spent locked.token? locked.held := by
    intro credential current
    simp [Shared.token?, current]
  obtain ⟨asked, outcome⟩ := asked_ask session outer (show locked.Calm from calm)
    (show locked.Steady from steady) before.instanceUrl?
  obtain ⟨between, vacated, renewed, own_outcome⟩ := asked_relogin session wrapped
    (show locked.Calm from calm) (show locked.Steady from steady)
  have agree : (session.granted before fun request => (outer before.sent request).answer) =
      session.granted before fun request =>
        (inner (before.sent ++ session.revocations before) request).answer := by
    unfold granted
    cases draft : (session.settings.draftLogin before.instanceUrl?).outcome with
    | error fault => rfl
    | ok request =>
      have sent : request ∈ session.logins before := by simp [logins, draft, Except.toOption]
      exact congrArg request.grant (same request sent)
  have concur : session.Concur locked
      (session.granted before fun request => (outer before.sent request).answer)
      ((session.ask before.instanceUrl?).run outer locked)
      ((session.relogin (locked.token?.map Text.ofString)).run inner locked) := by
    refine concur_of_asked asked outcome vacated ?_ ?_
    · rw [agree]
      exact renewed
    · rw [agree]
      exact own_outcome
  rw [← run_withLock_ask, Routine.run_withLock, login, Routine.run_withLock]
  have renews : (session.loginLocked (before.token?.map Text.ofString)).run inner locked =
      (session.relogin (locked.token?.map Text.ofString)).run inner locked :=
    run_loginLocked_of_spent inner spent
  rw [renews]
  exact concur.unlock

theorem run_delegatedLogin_replaced :
    let session : Session := ⟨⟨"https://login.test", "id", "secret", "user", "password", 5000⟩⟩
    let endpoint : Endpoint := fun _ request => .later (.ok
      (if request.method = "GET" then ⟨500, none, .bytes []⟩ else ⟨200, none,
        .text "\x7b\"access_token\": \"t2\", \"instance_url\": \"https://b.test\"\x7d"⟩))
    let recorder : Listener :=
      { name := "recorder", onLogin := some fun _ _ => [.note],
        onLogout := some fun _ _ => [.note] }
    let before : Shared := { held := some ⟨"t1", "https://a.test"⟩, listeners := ⟨[recorder]⟩ }
    let grant : Grant := ⟨"t2", "https://b.test", none, none, none, none⟩
    let delegated := session.delegatedLogin.run endpoint before
    let own := (session.login (some "t1")).run endpoint before
    session.Concur before (.ok grant) delegated own ∧
      delegated.1.sent.map (·.url) = ["https://a.test/services/oauth2/token"] ∧
      own.1.sent.map (·.url) = ["https://a.test/services/oauth2/revoke?token=t1",
        "https://a.test/services/oauth2/token"] := by
  intro session endpoint recorder before grant delegated own
  have calm : before.Calm := by
    intro listener member
    obtain rfl := List.mem_singleton.mp member
    rintro ⟨occasion, earlier, fault, raised, _⟩
    cases occasion <;> cases List.mem_singleton.mp raised
  have steady : before.Steady := by
    intro listener member occasion endpoint now same _
    obtain rfl := List.mem_singleton.mp member
    cases occasion <;> exact same
  have wrapped : endpoint.WrapsRevocations := fun request _ _ earlier fault failed => nomatch failed
  have granted : (session.granted before fun request => (endpoint before.sent request).answer) =
      .ok grant := Except.ok_of_toOption (by decide +kernel)
  have same : ∀ request ∈ session.logins before, (endpoint before.sent request).answer =
      (endpoint (before.sent ++ session.revocations before) request).answer := fun _ _ => rfl
  have concur := (run_delegatedLogin session calm steady wrapped same).1
  rw [granted] at concur
  exact ⟨concur, by decide +kernel⟩

end Session

end SessionKeeper
