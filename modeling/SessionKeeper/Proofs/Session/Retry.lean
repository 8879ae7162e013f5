import SessionKeeper.Proofs.Session.Attempt
import SessionKeeper.Proofs.Session.Login
import SessionKeeper.Proofs.Session.Takeover

/-! # The attempts of a request that is made alone

A request is made in a limited number of attempts (`Session.Attempted`, `Session.run_call`). Each of
them gets a token and sends the request with it. A token that is rejected is stale for the next
attempt, which gets that of a login in its place. So a token is tried again only if the login was
granted it once more, in an exchange of its own (`Session.Issued`).

Whatever else fails ends the attempts with the same fault, but for two failures of the HTTP layer:
one that says that the session has expired makes for another attempt, and the end of a series ends
the attempts as if the session had expired (`Fault.IsPlain`, `Session.run_call_seriesEnd`).
-/

namespace SessionKeeper

/-- The requests to the API, which have headers. -/
def Shared.apiRequests (shared : Shared) : List Request :=
  shared.sent.filter (·.headers.isSome)

/-! ## Faults that end the attempts as what they are -/

/-- A fault that ends the attempts of a request as what it is. -/
def Fault.IsPlain (fault : Fault) : Prop := fault.isExpired = false ∧ fault.endsSeries = false

/-- The HTTP layer neither says that a session has expired nor ends a series. -/
def Endpoint.FailsPlainly (endpoint : Endpoint) : Prop :=
  ∀ earlier request fault, (endpoint earlier request).answer = .error fault → fault.IsPlain

theorem Fault.IsPlain.ofAttempt {fault : Fault} (plain : fault.IsPlain) (stale : Option String) :
    fault.ofAttempt stale = fault := by
  unfold Fault.ofAttempt
  rw [plain.2]
  rfl

/-- A demand to stop is taken for nothing else. -/
theorem Fault.isPlain_of_demand {fault : Fault} (demand : fault.isFailure = false) :
    fault.IsPlain := by
  cases fault with
  | foreign incident =>
    have halting : incident.nature = .halting := by simpa [isFailure] using demand
    exact ⟨rfl, by simp [endsSeries, halting]⟩
  | _ => cases demand

theorem Request.isPlain_wrap (request : Request) {fault : Fault} (plain : fault.IsPlain) :
    (request.wrap fault).IsPlain := by
  cases fault with
  | foreign incident =>
    simp only [wrap, Fault.awaited]
    cases request.failureOf incident with
    | some failure => exact ⟨rfl, rfl⟩
    | none =>
      simp only
      split
      · exact ⟨rfl, rfl⟩
      · exact plain
  | _ => exact plain

theorem Settings.isPlain_of_timeout {settings : Settings} {fault : Fault}
    (unusable : settings.timeout = .error fault) : fault.IsPlain := by
  rw [eq_of_timeout unusable]
  exact ⟨rfl, rfl⟩

theorem Settings.isPlain_of_draftLogin {settings : Settings} {url : Option Text} {fault : Fault}
    (undrafted : (settings.draftLogin url).outcome = .error fault) : fault.IsPlain := by
  cases usable : settings.timeout with
  | error other =>
    obtain rfl := Except.error.inj ((draftLogin_of_unusable url usable).symm.trans undrafted)
    exact isPlain_of_timeout usable
  | ok timeout => cases (draftLogin_of_usable url usable).symm.trans undrafted

theorem Settings.isPlain_of_draftLogout {settings : Settings} {token : Text} {url : Option Text}
    {fault : Fault} (undrafted : settings.draftLogout token url = .error fault) :
    fault.IsPlain := by
  unfold draftLogout at undrafted
  split at undrafted
  · obtain rfl := Except.error.inj undrafted
    exact ⟨rfl, rfl⟩
  · cases usable : settings.timeout with
    | error other =>
      rw [usable] at undrafted
      obtain rfl := Except.error.inj undrafted
      exact isPlain_of_timeout usable
    | ok timeout =>
      rw [usable] at undrafted
      cases undrafted

namespace Session

/-! ## What logins do besides the requests to the API -/

/-- Nothing is sent but requests without headers, and the faults are plain if those of the HTTP
layer are. -/
def aside (endpoint : Endpoint) : Routine.Manner where
  passes before after := ∃ bare : List Request,
    after.sent = before.sent ++ bare ∧ ∀ request ∈ bare, request.headers = none
  fails fault := endpoint.FailsPlainly → fault.IsPlain
  refl shared := ⟨[], by simp⟩
  trans := by
    rintro first second third ⟨bare, sent, plain⟩ ⟨more, resent, bared⟩
    refine ⟨bare ++ more, by rw [resent, sent, List.append_assoc], fun request member => ?_⟩
    rcases List.mem_append.mp member with early | late
    · exact plain request early
    · exact bared request late

variable {session : Session} {endpoint : Endpoint} {before after : Shared} {token : String}

theorem behaves_notifyAll (occasion : Occasion) :
    (Listener.notifyAll occasion).Behaves endpoint (aside endpoint) := by
  intro shared
  have circulated := Listener.circulated_notifyAll endpoint occasion shared
  obtain ⟨reached, _, round⟩ := circulated.round
  refine ⟨⟨[], by simpa using round.sent⟩, fun fault failed _ => ?_⟩
  rw [failed] at circulated
  exact Fault.isPlain_of_demand circulated.demand

theorem behaves_send {request : Request} (bare : request.headers = none) :
    request.send.Behaves endpoint (aside endpoint) := by
  intro shared
  refine ⟨⟨[request], rfl, by simpa using bare⟩, fun fault failed plain => ?_⟩
  have settled : request.settle (endpoint shared.sent request).answer = .error fault := failed
  cases answer : (endpoint shared.sent request).answer with
  | ok response =>
    rw [answer] at settled
    cases settled
  | error raised =>
    rw [answer] at settled
    obtain rfl := Except.error.inj settled
    exact request.isPlain_wrap (plain _ _ _ answer)

theorem behaves_say (level : Level) (message : Text) :
    (Routine.say level message).Behaves endpoint (aside endpoint) :=
  Routine.behaves_modify fun _ => ⟨[], by simp [Shared.say]⟩

theorem behaves_hold (held : Option Credential) :
    (Routine.modify (·.hold held)).Behaves endpoint (aside endpoint) :=
  Routine.behaves_modify fun _ => ⟨[], by simp [Shared.hold]⟩

theorem behaves_install (response : Response) :
    (install response).Behaves endpoint (aside endpoint) := by
  refine (Routine.behaves_ofExcept fun fault refusal _ => ?_).bind fun grant => ?_
  · rcases of_classifyLogin_eq_error refusal with ⟨_, rfl⟩ | ⟨_, rfl⟩ <;> exact ⟨rfl, rfl⟩
  · refine (behaves_say _ _).bind fun _ => (behaves_hold _).bind fun _ => ?_
    exact (behaves_notifyAll _).bind fun _ => Routine.behaves_pure grant.accessToken

theorem behaves_revoke (token : Text) (url : Option Text) :
    (session.revoke token url).Behaves endpoint (aside endpoint) := by
  refine (Routine.behaves_ofExcept fun fault undrafted _ =>
    Settings.isPlain_of_draftLogout undrafted).bind_of fun _ request drafted => ?_
  refine (behaves_send (Settings.of_draftLogout drafted).2).bind fun response => ?_
  split
  · exact (Routine.behaves_throw fun _ => ⟨rfl, rfl⟩).bind fun _ => behaves_say _ _
  · exact behaves_say _ _

/-- Whatever becomes of the revocation of a stale token, that is done aside. -/
theorem behaves_revokeStale (session : Session) (endpoint : Endpoint) (old : Text) :
    (session.revokeStale old).Behaves endpoint (aside endpoint) := by
  refine Routine.behaves_get.bind fun shared => ?_
  have cleared : clear.Behaves endpoint (aside endpoint) :=
    (behaves_hold none).bind fun _ => behaves_notifyAll _
  refine ((behaves_revoke old shared.instanceUrl?).ensuring cleared).tryCatch fun fault plain => ?_
  split
  · exact behaves_say _ _
  · exact Routine.behaves_throw plain

theorem behaves_ask (url : Option Text) :
    (session.ask url).Behaves endpoint (aside endpoint) := by
  have drafts : (Routine.ofReported (session.settings.draftLogin url)).Behaves endpoint
      (aside endpoint) := by
    refine fun shared => ⟨?_, fun fault undrafted _ => Settings.isPlain_of_draftLogin undrafted⟩
    obtain ⟨log, same⟩ := Shared.UpToLog.report shared (session.settings.draftLogin url).lines
    exact ⟨[], by simp [Routine.ofReported, Routine.run, same]⟩
  refine drafts.bind_of fun _ request drafted => ?_
  refine (behaves_send (Settings.of_draftLogin drafted).2).bind fun response => ?_
  exact behaves_install response

theorem behaves_login (session : Session) (endpoint : Endpoint) (old : Option Text) :
    (session.login old).Behaves endpoint (aside endpoint) := by
  have renews : (session.relogin old).Behaves endpoint (aside endpoint) := by
    refine Routine.behaves_get.bind fun shared => ?_
    cases old with
    | none => exact behaves_ask shared.instanceUrl?
    | some stale =>
      exact (behaves_revokeStale session endpoint stale).bind fun _ =>
        behaves_ask shared.instanceUrl?
  have body : (session.loginLocked old).Behaves endpoint (aside endpoint) := by
    refine Routine.behaves_get.bind fun shared => ?_
    cases shared.token? with
    | none => exact renews
    | some held =>
      simp only
      split
      · exact renews
      · exact (behaves_say _ _).bind fun _ => Routine.behaves_pure held
  exact body.withLock (fun shared => ⟨[], by simp [Shared.lock]⟩)
    fun shared => ⟨[], by simp [Shared.unlock]⟩

/-! ## What a login that succeeds comes from -/

/-- The last request that was sent is a login, which was granted a token. Whatever was sent before
it has no headers either. -/
def Issued (endpoint : Endpoint) (token : String) (before after : Shared) : Prop :=
  ∃ (bare : List Request) (request : Request) (grant : Grant),
    after.sent = before.sent ++ bare ++ [request] ∧
    (∀ other ∈ bare, other.headers = none) ∧ request.method = "POST" ∧ request.headers = none ∧
    request.grant (endpoint (before.sent ++ bare) request).answer = .ok grant ∧
    grant.accessToken = token

theorem run_ask_eq_ok {url : Option Text}
    (succeeded : (session.ask url).run endpoint before = (after, .ok token)) :
    Issued endpoint token before after := by
  obtain ⟨drafted, request, drafting, succeeded⟩ := Routine.run_bind_eq_ok endpoint succeeded
  obtain ⟨said, draft⟩ := Prod.mk.inj drafting
  obtain ⟨post, bare⟩ := Settings.of_draftLogin draft
  have sent : drafted.sent = before.sent := by
    obtain ⟨log, same⟩ : before.UpToLog drafted := said ▸ .report before _
    rw [same]
  obtain ⟨answered, response, exchange, succeeded⟩ := Routine.run_bind_eq_ok endpoint succeeded
  obtain ⟨rfl, settled⟩ : drafted.send request = answered ∧
      request.settle (endpoint drafted.sent request).answer = .ok response := Prod.mk.inj exchange
  rw [sent] at settled
  cases classified : response.classifyLogin with
  | error fault =>
    rw [run_install_of_refused endpoint classified] at succeeded
    cases (Prod.mk.inj succeeded).2
  | ok grant =>
    obtain ⟨result, final, circulated, ran⟩ :=
      run_install_of_granted endpoint classified (drafted.send request)
    obtain ⟨rfl, outcome⟩ := Prod.mk.inj (ran.symm.trans succeeded)
    obtain ⟨reached, _, round⟩ := circulated.round
    cases result with
    | error fault => cases outcome
    | ok value =>
      refine ⟨[], request, grant, ?_, nofun, post, bare, ?_, Except.ok.inj outcome⟩
      · rw [round.sent, List.append_nil, ← sent]
        rfl
      · rw [List.append_nil, Request.grant_of_settled settled, classified]

theorem run_relogin_eq_ok {old : Option String}
    (succeeded : (session.relogin (old.map Text.ofString)).run endpoint before =
      (after, .ok token)) : Issued endpoint token before after := by
  cases old with
  | none => exact run_ask_eq_ok succeeded
  | some stale =>
    have renewal : (do
        session.revokeStale ↑stale
        session.ask before.instanceUrl? : Routine String).run endpoint before =
          (after, .ok token) := succeeded
    obtain ⟨between, _, dropped, asked⟩ := Routine.run_bind_eq_ok endpoint renewal
    obtain ⟨⟨bare, sent, plain⟩, _⟩ :=
      behaves_revokeStale session endpoint ↑stale before
    rw [dropped] at sent
    obtain ⟨more, request, grant, resent, bared, post, headless, granted, same⟩ :=
      run_ask_eq_ok asked
    have chain : between.sent ++ more = before.sent ++ (bare ++ more) := by
      rw [sent, List.append_assoc]
    rw [chain] at resent granted
    refine ⟨bare ++ more, request, grant, resent, fun other member => ?_, post, headless, granted,
      same⟩
    exact (List.mem_append.mp member).elim (plain other) (bared other)

/-- A login that succeeds finds another token than the old one, or is granted one in an exchange of
its own. -/
theorem run_login_eq_ok (old : Option String)
    (succeeded : (session.login (old.map Text.ofString)).run endpoint before = (after, .ok token)) :
    (before.token? = some token ∧ old ≠ some token) ∨ Issued endpoint token before after := by
  unfold login at succeeded
  rw [Routine.run_withLock] at succeeded
  generalize ended : (session.loginLocked (old.map Text.ofString)).run endpoint
    (before.lock .session) = result at succeeded
  obtain ⟨last, outcome⟩ := result
  obtain ⟨rfl, rfl⟩ := Prod.mk.inj succeeded
  by_cases spent : Spent old (before.lock .session).held
  · rw [run_loginLocked_of_spent endpoint spent] at ended
    have issued : Issued endpoint token (before.lock .session) last := run_relogin_eq_ok ended
    exact .inr issued
  · obtain ⟨credential, current, fresh⟩ : ∃ credential,
        before.held = some credential ∧ old ≠ some credential.token := by
      simpa [Spent, Shared.lock] using spent
    rw [run_loginLocked_of_fresh endpoint (show (before.lock .session).held = _ from current)
      fresh] at ended
    obtain rfl : credential.token = token := Except.ok.inj (Prod.mk.inj ended).2
    exact .inl ⟨by rw [Shared.token?, current]; rfl, fresh⟩

/-! ## Attempts -/

/-- One attempt of a request: the token that is stale by then, the one that is got in its place, and
what the exchange came to. Without a token there is none. -/
structure Attempt where
  stale : Option String
  /-- What is shared when the attempt begins. -/
  start : Shared
  token : Except Fault String
  /-- What is shared once the token is there. -/
  ready : Shared
  request? : Option Request
  response : Except Fault Response
  /-- What is shared when the attempt is over. -/
  finish : Shared

namespace Attempt

/-- The token is the one that is held, if no other is stale and there is one. Else it is that of a
login in the place of the stale one. -/
inductive Obtained (session : Session) (endpoint : Endpoint) (attempt : Attempt) : Prop
  | held (token : String) (first : attempt.stale = none)
      (present : attempt.start.token? = some token) (got : attempt.token = .ok token)
      (still : attempt.ready = attempt.start)
  | login (first : attempt.stale = none) (absent : attempt.start.token? = none)
      (ran : (session.login none).run endpoint attempt.start = (attempt.ready, attempt.token))
  | again (stale : String) (rejected : attempt.stale = some stale)
      (ran : (session.login (some ↑stale)).run endpoint
        (attempt.start.say .info "🔄 Session expired, logging in again") =
          (attempt.ready, attempt.token))

/-- One request is sent, with the token and to the instance that is logged in to by then, unless
there is no token or no timeout. -/
inductive Exchanged (session : Session) (endpoint : Endpoint) (call : ApiCall)
    (attempt : Attempt) : Prop
  | unsent (fault : Fault) (why : attempt.token = .error fault ∨
        (attempt.token.toOption.isSome ∧ session.settings.timeout = .error fault))
      (nothing : attempt.request? = none) (failed : attempt.response = .error fault)
      (ended : attempt.finish = attempt.ready)
  | sent (token : String) (timeout : Binary64) (request : Request)
      (got : attempt.token = .ok token) (usable : session.settings.timeout = .ok timeout)
      (shape : request =
        call.request (session.settings.baseUrl attempt.ready.instanceUrl?) token timeout)
      (asked : attempt.request? = some request)
      (answered : attempt.response =
        request.settle (endpoint attempt.ready.sent request).answer)
      (ended : attempt.finish = attempt.ready.send request)

/-- What makes for another attempt: the token was rejected and is stale now, or the HTTP layer said
that the session has expired. -/
inductive Leads (attempt next : Attempt) : Prop
  | rejected (token : String) (response : Response) (got : attempt.token = .ok token)
      (heard : attempt.response = .ok response)
      (rejection : response.status = Response.unauthorizedStatus)
      (stale : next.stale = some token) (goes : next.start = attempt.finish)
  | expired (fault : Fault) (heard : attempt.response = .error fault)
      (expired : fault.isExpired = true) (stale : next.stale = attempt.stale)
      (goes : next.start = attempt.finish)

/-- What the last attempt makes of the request. It may be the last one because no more are left. -/
inductive Ends (attempt : Attempt) (exhausted : Prop) : Except Fault Response → Prop
  | accepted (response : Response) (heard : attempt.response = .ok response)
      (acceptance : response.status ≠ Response.unauthorizedStatus) :
      Ends attempt exhausted (.ok response)
  | rejected (token : String) (response : Response) (got : attempt.token = .ok token)
      (heard : attempt.response = .ok response)
      (rejection : response.status = Response.unauthorizedStatus) (last : exhausted) :
      Ends attempt exhausted (.error (.expired (some ↑token) Response.unauthorizedStatus))
  | failed (fault : Fault) (heard : attempt.response = .error fault)
      (last : fault.isExpired = true → exhausted) :
      Ends attempt exhausted (.error (fault.ofAttempt attempt.stale))

/-- What the attempt comes to. -/
inductive Comes (attempt : Attempt) : Except Fault Verdict → Prop
  | accepted (response : Response) (heard : attempt.response = .ok response)
      (acceptance : response.status ≠ Response.unauthorizedStatus) :
      Comes attempt (.ok (.accepted response))
  | rejected (token : String) (response : Response) (got : attempt.token = .ok token)
      (heard : attempt.response = .ok response)
      (rejection : response.status = Response.unauthorizedStatus) :
      Comes attempt (.ok (.rejected token Response.unauthorizedStatus))
  | failed (fault : Fault) (heard : attempt.response = .error fault) : Comes attempt (.error fault)

variable {call : ApiCall} {attempt : Attempt}

/-- The token for an attempt is held already, and not the stale one, or a login was granted it in an
exchange of its own. -/
theorem Obtained.issued (obtained : attempt.Obtained session endpoint) {token : String}
    (got : attempt.token = .ok token) :
    (attempt.start.token? = some token ∧ attempt.stale ≠ some token) ∨
      Issued endpoint token attempt.start attempt.ready := by
  cases obtained with
  | held other first present found still =>
    obtain rfl : other = token := Except.ok.inj (found.symm.trans got)
    exact .inl ⟨present, first ▸ nofun⟩
  | login first absent ran =>
    rw [got] at ran
    rcases run_login_eq_ok none ran with ⟨present, _⟩ | issued
    · rw [absent] at present
      cases present
    · exact .inr issued
  | again stale rejected ran =>
    rw [got] at ran
    have inverted : ((attempt.start.say .info "🔄 Session expired, logging in again").token? =
        some token ∧ some stale ≠ some token) ∨
          Issued endpoint token (attempt.start.say .info "🔄 Session expired, logging in again")
            attempt.ready := run_login_eq_ok (some stale) ran
    rw [rejected]
    exact inverted

/-- Before the request of an attempt, nothing is sent but requests without headers. -/
theorem Obtained.aside (obtained : attempt.Obtained session endpoint) :
    (Session.aside endpoint).passes attempt.start attempt.ready ∧
      ∀ fault, attempt.token = .error fault → (Session.aside endpoint).fails fault := by
  cases obtained with
  | held token first present got still =>
    rw [got, still]
    exact ⟨(Session.aside endpoint).refl _, nofun⟩
  | login first absent ran =>
    have ended := behaves_login session endpoint none attempt.start
    rw [ran] at ended
    exact ended
  | again stale rejected ran =>
    have ended := behaves_login session endpoint (some ↑stale)
      (attempt.start.say .info "🔄 Session expired, logging in again")
    rw [ran] at ended
    exact ended

theorem Exchanged.sent_eq (exchanged : attempt.Exchanged session endpoint call) :
    attempt.finish.sent = attempt.ready.sent ++ attempt.request?.toList := by
  cases exchanged with
  | unsent fault why nothing failed ended => simp [ended, nothing]
  | sent token timeout request got usable shape asked answered ended =>
    simp [ended, asked, Shared.send]

/-- The request of an attempt has headers, among them that of the token. -/
theorem Exchanged.carries (exchanged : attempt.Exchanged session endpoint call) {request : Request}
    (asked : attempt.request? = some request) :
    ∃ token, attempt.token = .ok token ∧ request.Carries token ∧ request.headers.isSome := by
  cases exchanged with
  | unsent fault why nothing failed ended =>
    rw [nothing] at asked
    cases asked
  | sent token timeout other got usable shape sent answered ended =>
    obtain rfl : other = request := Option.some.inj (sent.symm.trans asked)
    subst shape
    exact ⟨token, got, call.carries_request _ token timeout, rfl⟩

/-- A fault of an attempt is plain if those of the HTTP layer are. -/
theorem Exchanged.isPlain (exchanged : attempt.Exchanged session endpoint call)
    (obtained : attempt.Obtained session endpoint) (plain : endpoint.FailsPlainly) {fault : Fault}
    (failed : attempt.response = .error fault) : fault.IsPlain := by
  cases exchanged with
  | unsent other why nothing failure ended =>
    obtain rfl : other = fault := Except.error.inj (failure.symm.trans failed)
    rcases why with tokenless | ⟨_, unusable⟩
    · exact obtained.aside.2 other tokenless plain
    · exact Settings.isPlain_of_timeout unusable
  | sent token timeout request got usable shape asked answered ended =>
    have settled := answered.symm.trans failed
    cases answer : (endpoint attempt.ready.sent request).answer with
    | ok response =>
      rw [answer] at settled
      cases settled
    | error raised =>
      rw [answer] at settled
      obtain rfl := Except.error.inj settled
      exact request.isPlain_wrap (plain _ _ _ answer)

end Attempt

theorem obtained_tokenFor {attempt : Attempt}
    (ran : (session.tokenFor attempt.stale).run endpoint attempt.start =
      (attempt.ready, attempt.token)) : attempt.Obtained session endpoint := by
  unfold tokenFor at ran
  cases rejected : attempt.stale with
  | some token =>
    rw [rejected] at ran
    simp only at ran
    rw [Routine.run_bind_of_ok endpoint (Routine.run_say endpoint _ _ _)] at ran
    exact .again token rejected ran
  | none =>
    rw [rejected] at ran
    simp only at ran
    rw [Routine.run_bind_of_ok endpoint (Routine.run_get endpoint _)] at ran
    cases present : attempt.start.token? with
    | none =>
      rw [present] at ran
      exact .login rejected present ran
    | some token =>
      rw [present] at ran
      obtain ⟨still, got⟩ := Prod.mk.inj ran
      exact .held token rejected present got.symm still.symm

/-- Whatever is stale and shared, an attempt is made of it. -/
theorem run_tryCall (session : Session) (endpoint : Endpoint) (call : ApiCall)
    (stale : Option String) (start : Shared) :
    ∃ attempt : Attempt, attempt.stale = stale ∧ attempt.start = start ∧
      attempt.Obtained session endpoint ∧ attempt.Exchanged session endpoint call ∧
      ∃ verdict, (session.tryCall call stale).run endpoint start = (attempt.finish, verdict) ∧
        attempt.Comes verdict := by
  generalize got : (session.tokenFor stale).run endpoint start = result
  obtain ⟨ready, token⟩ := result
  unfold tryCall
  rw [Routine.run_bind, got]
  cases token with
  | error fault =>
    exact ⟨⟨stale, start, .error fault, ready, none, .error fault, ready⟩, rfl, rfl,
      obtained_tokenFor got, .unsent fault (.inl rfl) rfl rfl rfl, _, rfl, .failed fault rfl⟩
  | ok token =>
    simp only
    rw [Routine.run_bind_of_ok endpoint (Routine.run_get endpoint ready)]
    cases usable : session.settings.timeout with
    | error fault =>
      exact ⟨⟨stale, start, .ok token, ready, none, .error fault, ready⟩, rfl, rfl,
        obtained_tokenFor got, .unsent fault (.inr ⟨rfl, usable⟩) rfl rfl rfl, _, rfl,
        .failed fault rfl⟩
    | ok timeout =>
      rw [Routine.run_bind_of_ok endpoint (Routine.run_ofExcept endpoint _ ready)]
      let request := call.request (session.settings.baseUrl ready.instanceUrl?) token timeout
      let response := request.settle (endpoint ready.sent request).answer
      have exchange : request.send.run endpoint ready = (ready.send request, response) := rfl
      refine ⟨⟨stale, start, .ok token, ready, some request, response, ready.send request⟩, rfl,
        rfl, obtained_tokenFor got, .sent token timeout request rfl usable rfl rfl rfl rfl, ?_⟩
      rw [Routine.run_bind, exchange]
      cases heard : response with
      | error fault => exact ⟨_, rfl, .failed fault rfl⟩
      | ok reply =>
        simp only
        by_cases rejection : reply.status = Response.unauthorizedStatus
        · rw [if_pos rejection, rejection]
          exact ⟨_, rfl, .rejected token reply rfl rfl rejection⟩
        · rw [if_neg rejection]
          exact ⟨_, rfl, .accepted reply rfl rejection⟩

/-! ## All attempts of a request -/

/-- The attempts of a request, `limit` at most, from the first one with what is stale by then to the
last one, which decides about the outcome. -/
structure Attempted (session : Session) (endpoint : Endpoint) (call : ApiCall) (limit : Nat)
    (stale : Option String) (before : Shared) (tries : List Attempt)
    (outcome : Except Fault Response) (after : Shared) : Prop where
  made : ∀ attempt ∈ tries,
    attempt.Obtained session endpoint ∧ attempt.Exchanged session endpoint call
  begins : ∃ first, tries.head? = some first ∧ first.stale = stale ∧ first.start = before
  leads : tries.IsChain Attempt.Leads
  bounded : tries.length ≤ limit
  ends : ∃ last, tries.getLast? = some last ∧ last.finish = after ∧
    last.Ends (tries.length = limit) outcome
  /-- No other requests to the API are sent than those of the attempts. -/
  sent : after.apiRequests = before.apiRequests ++ tries.filterMap (·.request?)

variable {call : ApiCall} {limit : Nat} {attempt : Attempt} {outcome : Except Fault Response}

theorem Attempt.apiRequests_finish (obtained : attempt.Obtained session endpoint)
    (exchanged : attempt.Exchanged session endpoint call) :
    attempt.finish.apiRequests = attempt.start.apiRequests ++ attempt.request?.toList := by
  obtain ⟨⟨bare, sent, plain⟩, _⟩ := obtained.aside
  have aside : bare.filter (·.headers.isSome) = [] := by
    simpa [List.filter_eq_nil_iff] using plain
  have own : attempt.request?.toList.filter (·.headers.isSome) = attempt.request?.toList := by
    refine List.filter_eq_self.mpr fun request member => ?_
    obtain ⟨_, _, _, headed⟩ := exchanged.carries (Option.mem_toList.mp member)
    exact headed
  simp only [Shared.apiRequests, exchanged.sent_eq, sent, List.filter_append, aside, own,
    List.append_nil]

/-- An attempt that is not followed by another one. -/
theorem Attempted.last (obtained : attempt.Obtained session endpoint)
    (exchanged : attempt.Exchanged session endpoint call) (positive : 1 ≤ limit)
    (ends : attempt.Ends (1 = limit) outcome) :
    session.Attempted endpoint call limit attempt.stale attempt.start [attempt] outcome
      attempt.finish := by
  refine ⟨?_, ⟨attempt, rfl, rfl, rfl⟩, .singleton attempt, positive, ⟨attempt, rfl, rfl, ends⟩, ?_⟩
  · rintro _ (_ | ⟨_, ⟨⟩⟩)
    exact ⟨obtained, exchanged⟩
  · rw [attempt.apiRequests_finish obtained exchanged]
    cases asked : attempt.request? <;> simp [asked]

/-- An attempt that is followed by others. -/
theorem Attempted.cons {stale : Option String} {tries : List Attempt}
    (obtained : attempt.Obtained session endpoint)
    (exchanged : attempt.Exchanged session endpoint call)
    (leads : ∀ next : Attempt, next.stale = stale → next.start = attempt.finish →
      attempt.Leads next)
    (others : session.Attempted endpoint call limit stale attempt.finish tries outcome after) :
    session.Attempted endpoint call (limit + 1) attempt.stale attempt.start (attempt :: tries)
      outcome after := by
  obtain ⟨first, head, staled, started⟩ := others.begins
  obtain ⟨last, ending, finished, ends⟩ := others.ends
  refine ⟨?_, ⟨attempt, rfl, rfl, rfl⟩, ?_, ?_, ⟨last, ?_, finished, ?_⟩, ?_⟩
  · rintro _ (_ | ⟨_, member⟩)
    · exact ⟨obtained, exchanged⟩
    · exact others.made _ member
  · refine List.isChain_cons.mpr ⟨fun next member => ?_, others.leads⟩
    obtain rfl : first = next := Option.some.inj (head.symm.trans member)
    exact leads first staled started
  · exact Nat.succ_le_succ others.bounded
  · rw [List.getLast?_cons, ending]
    rfl
  · simpa using ends
  · rw [others.sent, attempt.apiRequests_finish obtained exchanged]
    cases asked : attempt.request? <;> simp [asked]

/-- The attempts of a request, whatever is stale when they begin. -/
theorem attempted_callFrom (session : Session) (endpoint : Endpoint) (call : ApiCall)
    (retries : Nat) (stale : Option String) (before : Shared) :
    let ended := (session.callFrom call retries stale).run endpoint before
    ∃ tries, session.Attempted endpoint call (retries + 1) stale before tries ended.2 ended.1 := by
  induction retries generalizing stale before with
  | zero =>
    obtain ⟨attempt, rfl, rfl, obtained, exchanged, verdict, tried, comes⟩ :=
      run_tryCall session endpoint call stale before
    unfold callFrom
    rw [Routine.run_bind_of_ok endpoint (Routine.run_attempt endpoint _ _), tried]
    refine ⟨[attempt], ?_⟩
    cases comes with
    | accepted response heard acceptance =>
      exact .last obtained exchanged le_rfl (.accepted response heard acceptance)
    | rejected token response got heard rejection =>
      exact .last obtained exchanged le_rfl (.rejected token response got heard rejection rfl)
    | failed fault heard => exact .last obtained exchanged le_rfl (.failed fault heard fun _ => rfl)
  | succ retries ih =>
    obtain ⟨attempt, rfl, rfl, obtained, exchanged, verdict, tried, comes⟩ :=
      run_tryCall session endpoint call stale before
    unfold callFrom
    rw [Routine.run_bind_of_ok endpoint (Routine.run_attempt endpoint _ _), tried]
    cases comes with
    | accepted response heard acceptance =>
      exact ⟨[attempt], .last obtained exchanged (by omega) (.accepted response heard acceptance)⟩
    | rejected token response got heard rejection =>
      obtain ⟨tries, attempted⟩ := ih (some token) attempt.finish
      exact ⟨attempt :: tries, attempted.cons obtained exchanged fun next staled goes =>
        .rejected token response got heard rejection staled goes⟩
    | failed fault heard =>
      cases expired : fault.isExpired with
      | true =>
        obtain ⟨tries, attempted⟩ := ih attempt.stale attempt.finish
        simp only [expired, if_true]
        exact ⟨attempt :: tries, attempted.cons obtained exchanged fun next staled goes =>
          .expired fault heard expired staled goes⟩
      | false =>
        simp only [expired, Bool.false_eq_true, if_false]
        exact ⟨[attempt], .last obtained exchanged (by omega)
          (.failed fault heard fun lapsed => by rw [expired] at lapsed; cases lapsed)⟩

theorem Attempted.length_apiRequests {stale : Option String} {tries : List Attempt}
    (attempted : session.Attempted endpoint call limit stale before tries outcome after) :
    after.apiRequests.length ≤ before.apiRequests.length + limit := by
  rw [attempted.sent, List.length_append]
  exact Nat.add_le_add_left ((List.length_filterMap_le _ _).trans attempted.bounded) _

/-- If the HTTP layer fails plainly, then whatever fails is the last attempt and decides about the
outcome. -/
theorem Attempted.fails {stale : Option String} {tries : List Attempt}
    (attempted : session.Attempted endpoint call limit stale before tries outcome after)
    (plain : endpoint.FailsPlainly) (member : attempt ∈ tries) {fault : Fault}
    (failed : attempt.response = .error fault) :
    tries.getLast? = some attempt ∧ outcome = .error fault := by
  have isPlain (attempt : Attempt) (member : attempt ∈ tries) {fault : Fault}
      (failed : attempt.response = .error fault) : fault.IsPlain :=
    (attempted.made attempt member).2.isPlain (attempted.made attempt member).1 plain failed
  -- Only an expired session leads from a failure to another attempt.
  have last : tries.getLast? = some attempt := by
    obtain ⟨earlier, later, rfl⟩ := List.append_of_mem member
    cases later with
    | nil => simp
    | cons next others =>
      have leads : attempt.Leads next :=
        (List.isChain_cons.mp (List.isChain_append.mp attempted.leads).2.1).1 next rfl
      cases leads with
      | rejected token response got heard rejection staled goes => cases failed.symm.trans heard
      | expired other heard expired staled goes =>
        rw [(isPlain attempt member heard).1] at expired
        cases expired
  refine ⟨last, ?_⟩
  obtain ⟨ending, same, finished, ends⟩ := attempted.ends
  obtain rfl : attempt = ending := Option.some.inj (last.symm.trans same)
  cases ends with
  | accepted response heard acceptance => cases failed.symm.trans heard
  | rejected token response got heard rejection exhausted => cases failed.symm.trans heard
  | failed other heard exhausted =>
    obtain rfl : fault = other := Except.error.inj (failed.symm.trans heard)
    rw [(isPlain attempt member failed).ofAttempt]

/-- **The attempts of a request are bounded.** Whatever is held, asked for and answered, and however
many attempts are allowed: there is one at least, and each other one follows a rejection, with
the token of a login in the place of the one that was rejected. The first response that is not
a rejection is the outcome. If all attempts are rejected, the outcome names the token of the last
one, and nothing is done after that. As long as the HTTP layer fails plainly, whatever else fails,
a login or a request, is the last attempt, and its fault is the outcome. -/
theorem run_call (session : Session) (endpoint : Endpoint) (call : ApiCall) (attempts : Int)
    (before : Shared) :
    let ended := (session.call call attempts).run endpoint before
    let limit := (max 1 attempts).toNat
    ∃ tries, session.Attempted endpoint call limit none before tries ended.2 ended.1 ∧
      ended.1.apiRequests.length ≤ before.apiRequests.length + limit ∧
      (∀ attempt ∈ tries, ∀ token, attempt.stale = some token → attempt.token = .ok token →
        Issued endpoint token attempt.start attempt.ready) ∧
      (endpoint.FailsPlainly → ∀ attempt ∈ tries, ∀ fault, attempt.response = .error fault →
        tries.getLast? = some attempt ∧ ended.2 = .error fault) := by
  intro ended limit
  have bound : (attempts - 1).toNat + 1 = limit := by omega
  obtain ⟨tries, attempted⟩ :=
    attempted_callFrom session endpoint call (attempts - 1).toNat none before
  rw [bound] at attempted
  refine ⟨tries, attempted, attempted.length_apiRequests,
    fun attempt member token rejected got => ?_,
    fun plain attempt member fault failed => attempted.fails plain member failed⟩
  rcases (attempted.made attempt member).1.issued got with ⟨_, fresh⟩ | issued
  · exact absurd rejected fresh
  · exact issued

/-- The end of a series ends the attempts as if the session had expired, even if no token was ever
rejected. -/
theorem run_call_seriesEnd :
    let session : Session := ⟨⟨"https://login.test", "id", "secret", "user", "password", 5000⟩⟩
    let ending : Incident := ⟨"StopAsyncIteration", "end", .seriesEnd, none⟩
    let endpoint : Endpoint := fun _ _ => .later (.error (.foreign ending))
    let call : ApiCall := { method := "GET", path := "/api" }
    let before : Shared := { held := some ⟨"t1", "https://a.test"⟩ }
    let ended := (session.call call 3).run endpoint before
    (∃ tries, session.Attempted endpoint call 3 none before tries ended.2 ended.1) ∧
      ended.2 = .error (.expired none Response.unauthorizedStatus) ∧
      ended.1.sent.map (·.url) = ["https://a.test/api"] := by
  intro session ending endpoint call before ended
  obtain ⟨timeout, usable⟩ := session.settings.exists_timeout (by decide +kernel)
  let request := call.request (session.settings.baseUrl before.instanceUrl?) "t1" timeout
  have token : (session.tokenFor none).run endpoint before = (before, .ok "t1") := rfl
  have raised : request.send.run endpoint before =
      (before.send request, .error (.foreign ending)) := rfl
  have tried : (session.tryCall call none).run endpoint before =
      (before.send request, .error (.foreign ending)) := by
    unfold tryCall
    rw [Routine.run_bind_of_ok endpoint token,
      Routine.run_bind_of_ok endpoint (Routine.run_get endpoint before), usable,
      Routine.run_bind_of_ok endpoint (Routine.run_ofExcept endpoint _ before)]
    exact Routine.run_bind_of_error endpoint raised _
  have lapsed : ((session.callFrom call 2 none).run endpoint before).2 =
      .error (.expired none Response.unauthorizedStatus) := by
    unfold callFrom
    rw [Routine.run_bind_of_ok endpoint (Routine.run_attempt endpoint _ before), tried]
    rfl
  exact ⟨(run_call session endpoint call 3 before).imp fun _ => And.left, lapsed,
    by decide +kernel⟩

end Session

end SessionKeeper
