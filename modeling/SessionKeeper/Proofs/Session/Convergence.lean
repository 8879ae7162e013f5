import SessionKeeper.Proofs.Credential.Grant
import SessionKeeper.Proofs.Session.Attempt
import SessionKeeper.Proofs.Session.Renewal
import SessionKeeper.Proofs.Task.Completion

/-! # Calls with an outdated token converge

Any number of tasks send requests to an API that accepts a single token, while the session holds
another one or none. Those that are turned down log in again, those that find nothing held log in at
once, and all of them get on with the token of the one login that is made
(`Session.converges_follow`).

The lock of the session is free in two phases only: nobody did anything in the session yet, or the
session was renewed once (`Session.Phase`). What a task knows of the token it used is that it was
held at some time (`Session.Outdated`); with the phase that the task finds when it gets the lock,
this is enough to tell whether the task renews the session or is served.
-/

namespace SessionKeeper

variable {number : Nat} {world after : World}

namespace History

/-- How many of some requests to the API were turned down for their token. -/
def countRejected (heard : List (Request × Answer)) : Nat :=
  heard.countP fun (request, answer) =>
    request.headers.isSome && answer.toOption.any (·.status == Response.unauthorizedStatus)

/-- How many requests of a task to the API were turned down for their token. -/
def rejections (number : Nat) (past : History) : Nat := countRejected (past.heardBy number)

theorem countRejected_of_bare {heard : List (Request × Answer)}
    (bare : ∀ request ∈ heard.map (·.1), request.headers = none) : countRejected heard = 0 := by
  apply List.countP_eq_zero.mpr
  rintro ⟨request, answer⟩ member
  have headless := bare request (List.mem_map.mpr ⟨(request, answer), member, rfl⟩)
  simp [headless]

end History

/-- An endpoint whose API accepts one token only. Every login grants it, and revocations are
answered somehow, or fail in a way that exchanges wrap. -/
structure Endpoint.Grants (endpoint : Endpoint) (fresh : String) : Prop where
  api : ∀ earlier, ∀ request : Request, request.headers.isSome → ∃ response,
    (endpoint earlier request).answer = .ok response ∧ response.status =
      if request.Carries fresh then Response.okStatus else Response.unauthorizedStatus
  login : ∀ earlier, ∀ request : Request, request.method = "POST" → request.headers = none →
    ∃ response grant, (endpoint earlier request).answer = .ok response ∧
      response.status = Response.okStatus ∧ Grant.ofBody response.body = .ok grant ∧
      grant.accessToken = fresh
  revoke : endpoint.WrapsRevocations

/-- Something was done in the session. -/
def World.Touched (world : World) : Prop := ∃ moment ∈ world.past, ¬ moment.IsApart

theorem World.Touched.suffix (touched : world.Touched) (suffix : world.past <:+ after.past) :
    after.Touched := by
  obtain ⟨moment, member, touching⟩ := touched
  exact ⟨moment, suffix.subset member, touching⟩

namespace Session

variable {session : Session} {endpoint : Endpoint} {fresh : String} {start : Shared}
  {timeout : Binary64} {old : Option String} {call : ApiCall}

theorem granted_of_renews {visit : Visit} {outcome : Except Fault String}
    (grants : endpoint.Grants fresh) (renews : visit.Renews session endpoint old outcome) :
    outcome = .ok fresh := by
  obtain ⟨earlier, request, post, bare, _, rfl⟩ := renews.granted
  obtain ⟨response, grant, answered, success, spelled, rfl⟩ :=
    grants.login earlier request post bare
  have granted (reason : Option Text) :
      Response.classifyLogin { response with reason := reason } = .ok grant :=
    Response.classifyLogin_of_grant success spelled
  rw [Request.granted, answered]
  simp only [Request.settle, Except.bind, granted]
  rfl

/-! ## The two phases -/

/-- Where the session stands whenever nobody has its lock. -/
inductive Phase (session : Session) (start : Shared) (fresh : String) (world : World) : Prop
  | untouched (held : world.shared.held = start.held)
      (apart : ∀ moment ∈ world.past, moment.IsApart)
  | renewed (first : Visit) (served : List Visit) (visits : world.past.visits = served ++ [first])
      (asked : session.Asks start.token? start.instanceUrl? first.asked)
      (unasked : ∀ visit ∈ served, visit.asked = []) (credential : Credential)
      (held : world.shared.held = some credential) (current : credential.token = fresh)

/-- The session is in one of its phases, and nobody breaks off a wait. -/
def phaseRegime (session : Session) (start : Shared) (fresh : String) (endpoint : Endpoint) :
    Regime :=
  Regime.ofFree endpoint (fun _ => False) fun world =>
    world.shared.Tame ∧ session.Phase start fresh world

theorem stable_phaseRegime : (session.phaseRegime start fresh endpoint).Stable := by
  refine Regime.stable_ofFree fun world moment free allowed apart => ?_
  obtain ⟨tame, phase⟩ := free
  refine ⟨keptApart_tame world moment tame allowed apart, ?_⟩
  have held := keptApart_held world.shared.held world moment rfl allowed apart
  cases phase with
  | untouched unheld quiet =>
    refine .untouched (held.trans unheld) fun other member => ?_
    rcases List.mem_cons.mp member with rfl | earlier
    · exact apart
    · exact quiet other earlier
  | renewed first served visits asked unasked credential present current =>
    exact .renewed first served ((History.visits_of_apart apart).trans visits) asked unasked
      credential (held.trans present) current

/-- A token, or nothing, that was held at some time, and is not the fresh token. -/
structure Outdated (start : Shared) (fresh : String) (old : Option String) (world : World) :
    Prop where
  different : old ≠ some fresh
  held : ∃ reading, World.Leads ⟨start, []⟩ reading ∧ reading.past <:+ world.past ∧
    reading.shared.token? = old

theorem Outdated.suffix (outdated : Outdated start fresh old world)
    (suffix : world.past <:+ after.past) : Outdated start fresh old after := by
  obtain ⟨different, reading, leads, earlier, shown⟩ := outdated
  exact ⟨different, reading, leads, earlier.trans suffix, shown⟩

/-- A task whose token is outdated gets the fresh one: it renews the session if nobody has, and is
served otherwise. -/
theorem Phase.visited {before : World} {visit : Visit} {held : Option Credential}
    {outcome : Except Fault String} (phase : session.Phase start fresh before)
    (grants : endpoint.Grants fresh) (outdated : Outdated start fresh old before)
    (found : visit.found = before.shared.held)
    (yields : visit.Yields session endpoint old held outcome)
    (visits : after.past.visits = visit :: before.past.visits)
    (current : after.shared.held = held) :
    outcome = .ok fresh ∧ session.Phase start fresh after := by
  obtain ⟨different, reading, leads, earlier, shown⟩ := outdated
  cases phase with
  | untouched unheld apart =>
    have unread := leads.held_of_apart fun moment member => apart moment (earlier.subset member)
    obtain rfl : start.token? = old := by rw [← shown, Shared.token?, Shared.token?, unread]
    cases yields with
    | served credential present stale unasked _ =>
      refine absurd ?_ stale
      rw [Shared.token?, ← unheld, ← found, present]
      rfl
    | renewed spent held outcome renews shown =>
      obtain rfl := granted_of_renews grants renews
      obtain ⟨credential, rfl, rfl⟩ := Option.map_eq_some_iff.mp shown
      have asked := renews.asked
      rw [found, unheld] at asked
      have alone : before.past.visits = [] := History.visits_of_all_apart apart
      exact ⟨rfl, .renewed visit [] (by rw [visits, alone]; rfl) asked
        (fun _ member => absurd member List.not_mem_nil) credential current rfl⟩
  | renewed first served before asked unasked credential present fresh =>
    rw [present] at found
    cases yields with
    | served other same _ nothing _ =>
      obtain rfl : credential = other := Option.some.inj (found.symm.trans same)
      refine ⟨congrArg Except.ok fresh, .renewed first (visit :: served) ?_ asked ?_ credential
        current fresh⟩
      · rw [visits, before]
        rfl
      · intro later member
        obtain rfl | member := List.mem_cons.mp member
        · exact nothing
        · exact unasked later member
    | renewed spent held outcome renews shown =>
      refine absurd ?_ different
      rw [spent credential found, fresh]

/-! ## One task -/

/-- A login with an outdated token gets the fresh one, and the task hears nothing from the API on
the way. -/
theorem fulfils_login_fresh (usable : session.settings.timeout = .ok timeout)
    (grants : endpoint.Grants fresh) (idle : world.Idle number)
    (outdated : Outdated start fresh old world) :
    (session.login (old.map Text.ofString)).Fulfils
      (session.phaseRegime start fresh endpoint) number
      (fun outcome after => outcome = .ok fresh ∧ after.Touched ∧
        after.past.rejections number = world.past.rejections number) world := by
  refine Routine.ensures_withLock (does_loginLocked _) (fun _ _ _ visit => visit.grips) idle ?_
    fun _ _ _ broken => broken.elim
  intro before outcome after meanwhile _ free login leads
  obtain ⟨tame, phase⟩ := free
  obtain ⟨visit, held, _, found, visiting, yields⟩ :=
    Visiting.visited tame usable (fun _ => id) grants.revoke login
  obtain ⟨success, renewed⟩ :
      outcome = .ok fresh ∧ session.Phase start fresh (after.releases number .session) :=
    phase.visited grants (outdated.suffix meanwhile.leads.suffix) found yields visiting.visits
      visiting.held
  have touched : (after.releases number .session).Touched := by
    refine ⟨⟨number, .took .session, before.shared, before.shared.lock .session⟩, ?_, ?_⟩
    · exact List.mem_cons_of_mem _ (leads.suffix.subset List.mem_cons_self)
    · exact fun apart => apart.2 rfl
  have silent : History.countRejected visit.heard = 0 := by
    apply History.countRejected_of_bare
    cases yields with
    | served credential present stale unasked unheard =>
      rw [unheard]
      nofun
    | renewed spent held outcome renews shown =>
      rw [renews.answered]
      exact renews.asked.bare
  have counted : (after.releases number .session).past.rejections number =
      world.past.rejections number := by
    have heard : (after.releases number .session).past.heardBy number =
        world.past.heardBy number ++ visit.heard := by
      rw [← meanwhile.calmly.heardBy]
      exact visiting.heard
    rw [History.rejections, heard, History.countRejected, List.countP_append]
    exact congrArg (_ + ·) silent
  exact ⟨⟨visiting.tame.enrolment (.inl rfl) rfl, renewed⟩,
    fun relieved => ⟨⟨success, touched, counted⟩, relieved⟩⟩

/-- The token for an attempt is the fresh one, unless it is the first attempt and an outdated one is
held. -/
theorem fulfils_tokenFor (usable : session.settings.timeout = .ok timeout)
    (grants : endpoint.Grants fresh) (before : start.token? ≠ some fresh)
    (leads : World.Leads ⟨start, []⟩ world) (idle : world.Idle number) {stale : Option String}
    (outdated : ∀ token, stale = some token → Outdated start fresh (some token) world) :
    (session.tokenFor stale).Fulfils (session.phaseRegime start fresh endpoint) number
      (fun outcome after => after.past.rejections number = world.past.rejections number ∧
        ∃ token, outcome = .ok token ∧
          (token = fresh ∧ after.Touched ∨
            stale = none ∧ Outdated start fresh (some token) after)) world := by
  refine ensures_tokenFor ?_ ?_ ?_
  · rintro token between same calmly
    have still := calmly.grips.idle idle
    have known := (outdated token same).suffix calmly.leads.suffix
    apply (fulfils_login_fresh usable grants still known).mono
    rintro outcome after ⟨⟨success, touched, counted⟩, relieved⟩
    refine ⟨⟨?_, fresh, success, .inl ⟨rfl, touched⟩⟩, relieved⟩
    rw [counted, History.rejections, calmly.heardBy, History.rejections]
  · intro _ absent
    have known : Outdated start fresh none world :=
      ⟨nofun, world, leads, List.suffix_rfl, absent⟩
    apply (fulfils_login_fresh usable grants idle known).mono
    rintro outcome after ⟨⟨success, touched, counted⟩, relieved⟩
    exact ⟨⟨counted, fresh, success, .inl ⟨rfl, touched⟩⟩, relieved⟩
  · intro token first held
    refine ⟨⟨rfl, token, rfl, ?_⟩, idle⟩
    by_cases current : token = fresh
    · refine .inl ⟨current, ?_⟩
      by_contra untouched
      simp only [World.Touched, not_exists, not_and, not_not] at untouched
      rw [Shared.token?, leads.held_of_apart untouched] at held
      exact before (held.trans (congrArg some current))
    · refine .inr ⟨first, fun same => current (Option.some.inj same), world, leads, ?_, held⟩
      exact List.suffix_rfl

/-- The last request of a task was one to the API, and the task got the response that accepts it. -/
structure Accepted (number : Nat) (response : Response) (past : History) : Prop where
  heard : ∃ request answer, (past.heardBy number).getLast? = some (request, answer) ∧
    request.headers.isSome ∧ request.settle answer = .ok response
  status : response.status = Response.okStatus

/-- A request with the fresh token is accepted, one with another token is rejected. -/
theorem exchanged_api {request : Request} {token : String} {outcome : Except Fault Response}
    (grants : endpoint.Grants fresh) (headed : request.headers.isSome)
    (carried : request.Carries token)
    (exchanged : request.Exchanged (session.phaseRegime start fresh endpoint) number world outcome
      after) :
    ∃ response, outcome = .ok response ∧
      (token = fresh → Accepted number response after.past ∧
        after.past.rejections number = world.past.rejections number) ∧
      (token ≠ fresh → response.status = Response.unauthorizedStatus ∧
        after.past.rejections number = world.past.rejections number + 1) := by
  cases exchanged with
  | brokenOff fault breaks later meanwhile => exact breaks.elim
  | answered answer delivered later meanwhile =>
    obtain ⟨response, answered, status⟩ := grants.api world.shared.sent request headed
    obtain rfl : answer = .ok response := delivered.symm.trans answered
    have heard : (later.hears number request (.ok response)).past.heardBy number =
        world.past.heardBy number ++ [(request, .ok response)] := by
      have waited := meanwhile.calmly.heardBy
      simp only [World.sends, World.past_did, History.heardBy] at waited
      simp [World.hears, History.heardBy, waited]
    have counted : (later.hears number request (.ok response)).past.rejections number =
        world.past.rejections number + History.countRejected [(request, .ok response)] := by
      rw [History.rejections, heard, History.countRejected, List.countP_append]
      rfl
    refine ⟨_, rfl, fun same => ?_, fun different => ?_⟩
    · have success : response.status = Response.okStatus := by
        rw [status, if_pos (same ▸ carried)]
      refine ⟨⟨⟨request, .ok response, by rw [heard]; simp, headed, rfl⟩, success⟩, ?_⟩
      rw [counted, History.countRejected]
      simp [headed, Except.toOption, success, Response.okStatus, Response.unauthorizedStatus]
    · have refusal : response.status = Response.unauthorizedStatus := by
        rw [status, if_neg fun other => different (carried.unique other)]
      refine ⟨refusal, ?_⟩
      rw [counted, History.countRejected]
      simp [headed, Except.toOption, refusal]

/-- An attempt is accepted, unless it is the first one and an outdated token is held. -/
theorem fulfils_tryCall (usable : session.settings.timeout = .ok timeout)
    (grants : endpoint.Grants fresh) (before : start.token? ≠ some fresh)
    (leads : World.Leads ⟨start, []⟩ world) (idle : world.Idle number) {stale : Option String}
    (outdated : ∀ token, stale = some token → Outdated start fresh (some token) world) :
    (session.tryCall call stale).Fulfils (session.phaseRegime start fresh endpoint) number
      (fun outcome after =>
        (∃ response, outcome = .ok (.accepted response) ∧ Accepted number response after.past ∧
          after.Touched ∧ after.past.rejections number = world.past.rejections number) ∨
        (stale = none ∧ ∃ token status, outcome = .ok (.rejected token status) ∧
          Outdated start fresh (some token) after ∧
          after.past.rejections number = world.past.rejections number + 1)) world := by
  refine ensures_tryCall (fulfils_tokenFor usable grants before leads idle outdated) ?_
    (fun _ _ _ unusable _ => nomatch unusable.symm.trans usable) ?_
  · rintro _ between ⟨⟨_, _, ended, _⟩, _⟩
    cases ended
  rintro _ token between outcome after - ⟨⟨counted, _, ⟨rfl⟩, current⟩, still⟩ exchanged
  have relieved := exchanged.grips.idle still
  have since : between.past <:+ after.past := exchanged.suffix
  obtain ⟨response, rfl, accepted, rejected⟩ :=
    exchanged_api grants rfl (call.carries_request _ token _) exchanged
  simp only [Except.map, Response.verdict]
  rcases current with ⟨same, touched⟩ | ⟨first, known⟩
  · obtain ⟨success, unchanged⟩ := accepted same
    have other : response.status ≠ Response.unauthorizedStatus := by
      rw [success.status]
      decide
    rw [if_neg other]
    refine ⟨.inl ⟨response, rfl, success, touched.suffix since, ?_⟩, relieved⟩
    rw [unchanged, counted]
  · obtain ⟨refusal, once⟩ := rejected fun same => known.different (congrArg some same)
    rw [if_pos refusal]
    refine ⟨.inr ⟨first, token, response.status, rfl, known.suffix since, ?_⟩, relieved⟩
    rw [once, counted]

/-- A call whose first attempt was rejected is accepted when it is sent again. -/
theorem fulfils_callFrom (usable : session.settings.timeout = .ok timeout)
    (grants : endpoint.Grants fresh) (before : start.token? ≠ some fresh)
    (leads : World.Leads ⟨start, []⟩ world) (idle : world.Idle number) {token : String}
    (outdated : Outdated start fresh (some token) world) (retries : Nat) :
    (session.callFrom call retries (some token)).Fulfils (session.phaseRegime start fresh endpoint)
      number
      (fun outcome after => ∃ response, outcome = .ok response ∧
        Accepted number response after.past ∧ after.Touched ∧
        after.past.rejections number = world.past.rejections number) world := by
  have known (other : String) (same : some token = some other) :
      Outdated start fresh (some other) world := same ▸ outdated
  have finished (rest : Except Fault Verdict → Routine Response)
      (accepts : ∀ response, rest (.ok (.accepted response)) = pure response) :
      ((session.tryCall call (some token)).attempt >>= rest).Fulfils
        (session.phaseRegime start fresh endpoint) number
        (fun outcome after => ∃ response, outcome = .ok response ∧
          Accepted number response after.past ∧ after.Touched ∧
          after.past.rejections number = world.past.rejections number) world := by
    unfold Routine.Fulfils
    rw [Routine.ensures_bind, Routine.ensures_attempt]
    apply (fulfils_tryCall usable grants before leads idle known).mono
    rintro _ after ⟨⟨response, rfl, ended⟩ | ⟨first, _⟩, relieved⟩
    · simp only [accepts]
      exact ⟨⟨response, rfl, ended⟩, relieved⟩
    · cases first
  cases retries with
  | zero =>
    unfold callFrom
    exact finished _ fun _ => rfl
  | succ retries =>
    unfold callFrom
    exact finished _ fun _ => rfl

/-- A call that may be sent twice is accepted, after one rejection at most. -/
theorem fulfils_call (call : ApiCall) (usable : session.settings.timeout = .ok timeout)
    (grants : endpoint.Grants fresh) (before : start.token? ≠ some fresh) {attempts : Int}
    (several : 2 ≤ attempts) (leads : World.Leads ⟨start, []⟩ world)
    (unknown : ∀ moment ∈ world.past, moment.task ≠ number) :
    (session.call call attempts).Fulfils (session.phaseRegime start fresh endpoint) number
      (fun outcome after => ∃ response, outcome = .ok response ∧
        Accepted number response after.past ∧ after.Touched ∧
        after.past.rejections number ≤ 1) world := by
  obtain ⟨retries, size⟩ : ∃ retries, (attempts - 1).toNat = retries + 1 :=
    ⟨(attempts - 2).toNat, by omega⟩
  have unheard : world.past.rejections number = 0 := by
    rw [History.rejections, (History.readings_of_unknown unknown).2.1]
    rfl
  have first (token : String) (same : none = some token) :
      Outdated start fresh (some token) world :=
    nomatch same
  unfold Session.call Routine.Fulfils
  rw [size]
  unfold callFrom
  rw [Routine.ensures_bind, Routine.ensures_attempt]
  refine ((fulfils_tryCall usable grants before leads (World.idle_of_past unknown)
    first).following leads).mono ?_
  rintro _ between
    ⟨⟨⟨response, rfl, accepted, touched, counted⟩ |
      ⟨_, token, status, rfl, outdated, counted⟩, idle⟩, onwards⟩
  · exact ⟨⟨response, rfl, accepted, touched, by omega⟩, idle⟩
  · simp only
    rw [Routine.ensures_bind]
    apply Routine.ensures_yieldTurn.mono
    rintro (fault | ⟨⟨⟩⟩) later ⟨calmly, broken⟩
    · exact (broken fault rfl).1.elim
    · have still := calmly.grips.idle idle
      refine (fulfils_callFrom usable grants before (onwards.trans calmly.leads) still
        (outdated.suffix calmly.leads.suffix) retries).mono ?_
      rintro outcome after ⟨⟨response, success, accepted, touched, same⟩, relieved⟩
      have waited : later.past.rejections number = between.past.rejections number := by
        rw [History.rejections, calmly.heardBy, History.rejections]
      exact ⟨⟨response, success, accepted, touched, by omega⟩, relieved⟩

/-! ## Without a timeout -/

/-- A login for which the timeout is of no use sends nothing. -/
theorem fulfils_login_unusable {fault : Fault} (unusable : session.settings.timeout = .error fault)
    (idle : world.Idle number) :
    (session.login none).Fulfils (Regime.ofFree endpoint (fun _ => False) fun _ => True) number
      (fun outcome after => (∀ raised, outcome = .error raised → raised = fault) ∧
        after.past.sentBy number = world.past.sentBy number) world := by
  refine Routine.ensures_withLock (does_loginLocked none) (fun _ _ _ visit => visit.grips) idle ?_
    fun _ _ _ broken => broken.elim
  intro before outcome after meanwhile _ _ login _
  have undrafted (url : Option Text) :
      (session.settings.draftLogin url).outcome = .error fault := by
    rw [Settings.outcome_draftLogin, unusable]
    rfl
  have quiet (calmly : (before.takes number .session).Calmly number after) :
      (after.releases number .session).past.sentBy number = world.past.sentBy number :=
    calmly.sentBy.trans meanwhile.calmly.sentBy
  refine ⟨trivial, fun relieved => ⟨?_, relieved⟩⟩
  cases login with
  | current credential held fresh after calmly => exact ⟨nofun, quiet calmly⟩
  | renewed stale outcome after renewing =>
    cases renewing with
    | replaced token present => cases present
    | prevented token present => cases present
    | anew absent outcome after login =>
      cases login with
      | undrafted raised draft after calmly =>
        obtain rfl := Except.error.inj ((undrafted _).symm.trans draft)
        exact ⟨fun _ same => (Except.error.inj same).symm, quiet calmly⟩
      | unanswered request draft => cases (undrafted _).symm.trans draft
      | answered request draft => cases (undrafted _).symm.trans draft

/-- A call without a timeout sends nothing, and ends with the fault of the timeout. -/
theorem fulfils_call_unusable {fault : Fault} (unusable : session.settings.timeout = .error fault)
    {attempts : Int} (unknown : ∀ moment ∈ world.past, moment.task ≠ number) :
    (session.call call attempts).Fulfils (Regime.ofFree endpoint (fun _ => False) fun _ => True)
      number (fun outcome after => outcome = .error fault ∧ after.past.sentBy number = [])
      world := by
  have idle := World.idle_of_past unknown
  have unsent := (History.readings_of_unknown unknown).1
  have attempt (rest : Except Fault Verdict → Routine Response)
      (fails : rest (.error fault) = throw fault) :
      ((session.tryCall call none).attempt >>= rest).Fulfils
        (Regime.ofFree endpoint (fun _ => False) fun _ => True) number
        (fun outcome after => outcome = .error fault ∧ after.past.sentBy number = []) world := by
    have token : (session.tokenFor none).Fulfils
        (Regime.ofFree endpoint (fun _ => False) fun _ => True) number
        (fun outcome after => (∀ raised, outcome = .error raised → raised = fault) ∧
          after.past.sentBy number = world.past.sentBy number) world :=
      ensures_tokenFor nofun (fun _ _ => fulfils_login_unusable unusable idle)
        fun _ _ _ => ⟨⟨nofun, rfl⟩, idle⟩
    unfold Routine.Fulfils
    rw [Routine.ensures_bind, Routine.ensures_attempt]
    refine ensures_tryCall token ?_ ?_ ?_
    · rintro raised after ⟨⟨raises, same⟩, still⟩
      obtain rfl := raises raised rfl
      simp only [fails]
      exact ⟨⟨rfl, same.trans unsent⟩, still⟩
    · rintro raised _ after failed ⟨⟨_, same⟩, still⟩
      obtain rfl := Except.error.inj (failed.symm.trans unusable)
      simp only [fails]
      exact ⟨⟨rfl, same.trans unsent⟩, still⟩
    · intro timeout _ _ _ _ usable
      cases usable.symm.trans unusable
  obtain rfl := Settings.eq_of_timeout unusable
  unfold Session.call
  cases (attempts - 1).toNat with
  | zero =>
    unfold callFrom
    exact attempt _ rfl
  | succ retries =>
    unfold callFrom
    exact attempt _ rfl

/-! ## Courses -/

/-- A finished course of calls has converged. -/
structure Converged (session : Session) (start : Shared) (final : Course Response) : Prop where
  /-- Besides the requests to the API, the token that was held was revoked, if there was one, and
  one login was asked for. -/
  asked : ∃ asked, session.Asks start.token? start.instanceUrl? asked ∧
    final.world.shared.sent.filter (·.headers.isNone) =
      start.sent.filter (·.headers.isNone) ++ asked
  /-- Every call returns the response that accepts it, after one rejection at most. -/
  accepted : ∀ number < final.crew.tasks.length, ∃ response, final.Returns number (.ok response) ∧
    Accepted number response final.past ∧ final.past.rejections number ≤ 1

/-- A course has converged if the session is in one of its phases, somebody touched it, and every
call was accepted in the end. -/
theorem converged_of_phase {final : Course Response} (leads : World.Leads ⟨start, []⟩ final.world)
    (phase : session.Phase start fresh final.world) (touched : final.world.Touched)
    (accepted : ∀ number < final.crew.tasks.length, ∃ response,
      final.Returns number (.ok response) ∧ Accepted number response final.past ∧
      final.past.rejections number ≤ 1) : session.Converged start final := by
  refine ⟨?_, accepted⟩
  cases phase with
  | untouched unheld apart =>
    obtain ⟨moment, member, touching⟩ := touched
    exact absurd (apart moment member) touching
  | renewed first served visits asked unasked credential present current =>
    refine ⟨first.asked, asked, ?_⟩
    rw [leads.sent_visits, visits]
    have nothing : served.reverse.flatMap (·.asked) = [] :=
      List.flatMap_eq_nil_iff.mpr fun visit member => unasked visit (List.mem_reverse.mp member)
    simp [nothing]

/-- **Calls with an outdated token converge.** Any number of tasks, at least one, send requests to
an API that accepts a single token, each at least twice if need be, in whatever order they go on,
while the session holds another token or none. However the turns are given, the tasks come to their
end. If the settings have a timeout, then the tasks have converged: one login was made, and every
call was accepted. If they have none, which checked settings do not rule out, then nothing was sent,
and every call ends with the fault of the timeout. -/
theorem converges_follow (session : Session) {endpoint : Endpoint} {fresh : String}
    (grants : endpoint.Grants fresh) {start : Shared} (outdated : start.token? ≠ some fresh)
    (unlocked : start.locked = []) (tame : start.Tame) {events : List (Event (ApiCall × Int))}
    (several : ∀ call ∈ Event.begun events, 2 ≤ call.2) (begun : Event.begun events ≠ [])
    (unbroken : Event.Breaks (fun _ => False) events) :
    Course.Inevitably endpoint
      (fun final => final.crew.tasks.length = (Event.begun events).length ∧
        match session.settings.timeout with
        | .ok _ => session.Converged start final
        | .error fault => final.world.shared.sent = start.sent ∧
          ∀ number < final.crew.tasks.length, final.Returns number (.error fault))
      ((Course.initial start).follow endpoint (fun call => session.call call.1 call.2) events) := by
  have length (final : Course Response) (same : final.crew.tasks.length =
      ((Course.initial start).follow endpoint (fun call => session.call call.1 call.2)
        events).crew.tasks.length) : final.crew.tasks.length = (Event.begun events).length :=
    same.trans (Course.length_follow.trans (Nat.zero_add _))
  cases usable : session.settings.timeout with
  | error fault =>
    have free : World.KeptApart fun _ => True := fun _ _ _ _ _ => trivial
    have sound : ((Course.initial start).follow endpoint (fun call => session.call call.1 call.2)
        events).Sound (Regime.ofFree endpoint (fun _ => False) fun _ => True)
        (fun number outcome after => outcome = .error fault ∧ after.past.sentBy number = [])
        start := by
      refine Course.sound_follow (Event.begun events) (Regime.stable_ofFree free) ?_ unlocked ?_
        List.prefix_rfl unbroken
      · intro number call _ world _ unknown
        exact fulfils_call_unusable usable unknown
      · rintro (_ | _) <;> trivial
    refine sound.inevitably (Regime.stable_ofFree free) fun final still complete same => ?_
    refine ⟨length final same, ?_, fun number bound => ?_⟩
    · refine still.leads.sent_of_silent fun moment member => ?_
      obtain ⟨_, _, ending, ⟨_, unsent⟩, _, since⟩ :=
        still.ended complete (still.known moment member)
      exact History.unsent (since.calmly.sentBy.trans unsent) moment member rfl
    · obtain ⟨_, finished, _, ⟨rfl, _⟩, _⟩ := still.ended complete bound
      exact finished
  | ok timeout =>
    have sound : ((Course.initial start).follow endpoint (fun call => session.call call.1 call.2)
        events).Sound (session.phaseRegime start fresh endpoint)
        (fun number outcome after => ∃ response, outcome = .ok response ∧
          Accepted number response after.past ∧ after.Touched ∧
          after.past.rejections number ≤ 1) start := by
      refine Course.sound_follow (Event.begun events) stable_phaseRegime ?_ unlocked ?_
        List.prefix_rfl unbroken
      · intro number call known world leads unknown
        have twice := several call (List.mem_of_getElem? known)
        exact fulfils_call call.1 usable grants outdated twice leads unknown
      · have untouched : session.Phase start fresh ⟨start, []⟩ :=
          .untouched rfl fun _ member => absurd member List.not_mem_nil
        rintro (_ | _)
        · exact ⟨tame, untouched⟩
        · trivial
    refine sound.inevitably stable_phaseRegime fun final still complete same => ?_
    obtain ⟨_, phase⟩ := still.vacant .session (still.unheld complete .session)
    have ended : ∀ number < final.crew.tasks.length, ∃ response,
        final.Returns number (.ok response) ∧ Accepted number response final.past ∧
        final.world.Touched ∧ final.past.rejections number ≤ 1 := by
      intro number bound
      obtain ⟨_, finished, ending, ⟨response, rfl, accepted, touched, counted⟩, _, since⟩ :=
        still.ended complete bound
      have heard : final.past.heardBy number = ending.past.heardBy number := since.calmly.heardBy
      refine ⟨response, finished, ⟨?_, accepted.status⟩, touched.suffix since.leads.suffix, ?_⟩
      · rw [heard]
        exact accepted.heard
      · rw [History.rejections, heard]
        exact counted
    have first : 0 < final.crew.tasks.length := by
      rw [length final same]
      exact List.length_pos_iff.mpr begun
    obtain ⟨_, _, _, touched, _⟩ := ended 0 first
    refine ⟨length final same, converged_of_phase still.leads phase touched fun number bound => ?_⟩
    obtain ⟨response, finished, accepted, _, counted⟩ := ended number bound
    exact ⟨response, finished, accepted, counted⟩

theorem converges_follow_two :
    let session (timeoutMs : Int) : Session :=
      ⟨⟨"https://login.test", "id", "secret", "user", "password", timeoutMs⟩⟩
    let endpoint : Endpoint := fun _ request => .later (.ok
      (if request.headers.isNone then ⟨200, none,
        .text "\x7b\"access_token\": \"t2\", \"instance_url\": \"https://a.test\"\x7d"⟩
      else if request.Carries "t2" then ⟨200, none, .bytes []⟩ else ⟨401, none, .bytes []⟩))
    let start : Shared := { held := some ⟨"t1", "https://a.test"⟩ }
    let events : List (Event (ApiCall × Int)) :=
      [.begins (⟨"GET", "/first", none, none⟩, 2), .begins (⟨"GET", "/second", none, none⟩, 3)]
    let course (timeoutMs : Int) : Course Response := (Course.initial start).follow endpoint
      (fun call => (session timeoutMs).call call.1 call.2) events
    Course.Inevitably endpoint
        (fun final => final.crew.tasks.length = 2 ∧ (session 5000).Converged start final)
        (course 5000) ∧
      Course.Inevitably endpoint
        (fun final => final.crew.tasks.length = 2 ∧ final.world.shared.sent = start.sent ∧
          ∀ number < final.crew.tasks.length,
            final.Returns number (.error (.foreign .timeoutOverflow)))
        (course (10 ^ 400)) := by
  intro session endpoint start events course
  have grants : endpoint.Grants "t2" := by
    refine ⟨fun earlier request headed => ⟨_, rfl, ?_⟩, fun earlier request _ bare => ?_, ?_⟩
    · have present : request.headers.isNone = false := by simpa using headed
      by_cases carried : request.Carries "t2"
      · simp [present, carried, Response.okStatus]
      · simp [present, carried, Response.unauthorizedStatus]
    · have spelled : (Grant.ofBody (.text
          "\x7b\"access_token\": \"t2\", \"instance_url\": \"https://a.test\"\x7d")).toOption.map
          (·.accessToken) = some "t2" := by decide +kernel
      obtain ⟨grant, read, token⟩ := Option.map_eq_some_iff.mp spelled
      refine ⟨_, grant, rfl, ?_⟩
      simp only [bare, Option.isNone_none, if_true]
      refine ⟨rfl, ?_, token⟩
      cases decoded : Grant.ofBody (.text
          "\x7b\"access_token\": \"t2\", \"instance_url\": \"https://a.test\"\x7d") with
      | error problem => simp [decoded, Except.toOption] at read
      | ok other => simpa [decoded, Except.toOption] using read
    · exact fun request _ _ _ _ failed => nomatch failed
  have outdated : start.token? ≠ some "t2" := by decide
  have tame : start.Tame := ⟨nofun, nofun⟩
  have several : ∀ call ∈ Event.begun events, 2 ≤ call.2 := by decide
  have begun : Event.begun events ≠ [] := by decide
  have unbroken : Event.Breaks (fun _ => False) events := by simp [Event.Breaks, events]
  obtain ⟨timeout, usable⟩ := (session 5000).settings.exists_timeout (by decide +kernel)
  have unusable : (session (10 ^ 400)).settings.timeout = .error (.foreign .timeoutOverflow) := by
    have overflow : Binary64.ofRatio ((10 ^ 400 : Int) < 0) (10 ^ 400 : Int).natAbs 1000 =
        .infinite false := by decide +kernel
    unfold Settings.timeout
    simp only [session, overflow]
  have converges := converges_follow (session 5000) grants outdated rfl tame several begun unbroken
  have fails :=
    converges_follow (session (10 ^ 400)) grants outdated rfl tame several begun unbroken
  simp only [usable] at converges
  simp only [unusable] at fails
  exact ⟨converges, fails⟩

end Session

end SessionKeeper
