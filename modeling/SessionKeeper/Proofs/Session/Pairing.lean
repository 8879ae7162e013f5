import SessionKeeper.Proofs.Credential.Grant
import SessionKeeper.Proofs.Session.Calls
import SessionKeeper.Proofs.Session.Draft
import SessionKeeper.Proofs.Task.Completion

/-! # What is held comes from one login

Every credential that is ever held is the grant of one response: the answer that a task got to a
login request of its own, or the response that a task was asked to take over (`Session.Sourced`).
Since the token and the address of a session are the two parts of what is held, nobody who looks at
both at the same moment sees the token of one login with the address of another, wherever the other
tasks are. This includes the requests to the API, which are sent without any lock.
-/

namespace SessionKeeper

namespace Session

variable (session : Session) (calls : List Call)

/-- A task has got a response to install: it was asked to take it over, or the response is the last
answer that it got, and was to a login request. -/
def Sourced (number : Nat) (past : History) (response : Response) : Prop :=
  calls[number]? = some (.applyLogin response) ∨
    ∃ url request answer, (session.settings.draftLogin url).outcome = .ok request ∧
      (past.heardBy number).getLast? = some (request, answer) ∧ request.settle answer = .ok response

/-- Every credential that was ever put in the place of what was held is the grant of a response that
its task had got. -/
def Attributed (past : History) : Prop :=
  ∀ moment earlier credential, moment :: earlier <:+ past →
    moment.deed = .assigned (some credential) →
      ∃ response grant, session.Sourced calls moment.task earlier response ∧
        response.classifyLogin = .ok grant ∧ credential = grant.credential

/-- A grant is in force at the end of a history: a task had got the response that spells it and
installed it, and nothing was put in its place since. -/
def InForce (past : History) (grant : Grant) : Prop :=
  ∃ response recent moment earlier, past = recent ++ moment :: earlier ∧
    (∀ later ∈ recent, later.assigned? = none) ∧
    moment.deed = .assigned (some grant.credential) ∧
    session.Sourced calls moment.task earlier response ∧ response.classifyLogin = .ok grant

/-- A request to the API that is sent at a moment carries the token of what is held then, and goes
to the address of what is held then. -/
def Matches (moment : Moment) : Prop :=
  ∀ request, moment.deed = .sent request → request.headers.isSome →
    ∃ call attempts credential timeout, calls[moment.task]? = some (.api call attempts) ∧
      moment.before.held = some credential ∧ session.settings.timeout = .ok timeout ∧
      request = call.request (session.settings.baseUrl (some ↑credential.instanceUrl))
        credential.token timeout

/-- Nothing is held; or the token and the address that are held are both there, and are those of the
grant of one response, the last one that was installed. -/
def Paired (world : World) : Prop :=
  (world.shared.token? = none ∧ world.shared.instanceUrl? = none) ∨
    ∃ response grant recent moment earlier, world.past = recent ++ moment :: earlier ∧
      (∀ later ∈ recent, later.assigned? = none) ∧
      moment.deed = .assigned (some grant.credential) ∧
      session.Sourced calls moment.task earlier response ∧ response.classifyLogin = .ok grant ∧
      world.shared.token? = some grant.accessToken ∧
      world.shared.instanceUrl? = some ↑grant.instanceUrl ∧
      grant.accessToken ≠ "" ∧ grant.instanceUrl ≠ ""

/-- What a transition of a task keeps: everything that was installed has a source, and the requests
of the task are those of what was held. -/
def Traced (number : Nat) (world : World) : Prop :=
  session.Attributed calls world.past ∧
    ∀ moment ∈ world.past, moment.task = number → session.Matches calls moment

variable {session calls} {regime : Regime} {number : Nat} {world after : World}

theorem Attributed.suffix {past recent : History} (attributed : session.Attributed calls recent)
    (suffix : past <:+ recent) : session.Attributed calls past :=
  fun moment earlier credential shorter =>
    attributed moment earlier credential (shorter.trans suffix)

theorem Attributed.add {past : History} {moment : Moment}
    (attributed : session.Attributed calls past)
    (sourced : ∀ credential, moment.deed = .assigned (some credential) →
      ∃ response grant, session.Sourced calls moment.task past response ∧
        response.classifyLogin = .ok grant ∧ credential = grant.credential) :
    session.Attributed calls (moment :: past) := by
  intro last earlier credential suffix assigned
  rcases List.suffix_cons_iff.mp suffix with same | shorter
  · obtain ⟨rfl, rfl⟩ := List.cons.inj same
    exact sourced credential assigned
  · exact attributed last earlier credential shorter assigned

theorem keptApart_attributed :
    World.KeptApart fun world => session.Attributed calls world.past := by
  intro world moment attributed _ apart
  refine Attributed.add attributed fun credential assigned => ?_
  exact absurd (by rw [assigned]; rfl) apart.1

/-- A deed that neither installs a credential nor sends a request with headers is traced. -/
theorem Traced.did {deed : Deed} {shared : Shared} (traced : session.Traced calls number world)
    (unassigned : ∀ credential, deed ≠ .assigned (some credential))
    (unsent : ∀ request, deed = .sent request → request.headers.isSome = false) :
    session.Traced calls number (world.did number deed shared) := by
  refine ⟨traced.1.add fun credential assigned => absurd assigned (unassigned credential), ?_⟩
  intro moment member own
  rcases List.mem_cons.mp member with rfl | earlier
  · intro request sent headed
    rw [unsent request sent] at headed
    cases headed
  · exact traced.2 moment earlier own

theorem keptCalm_traced : World.KeptCalm number (session.Traced calls number) := by
  intro world moment held traced allowed quiet
  refine ⟨keptApart_attributed.calm world moment held traced.1 allowed quiet, ?_⟩
  intro other member own
  rcases List.mem_cons.mp member with rfl | earlier
  · intro request sent
    have still := quiet own
    rw [sent] at still
    cases still
  · exact traced.2 other earlier own

theorem keptCalm_sourced {response : Response} :
    World.KeptCalm number fun world => session.Sourced calls number world.past response := by
  intro world moment _ sourced _ quiet
  apply sourced.imp_right
  rintro ⟨url, request, answer, draft, heard, settled⟩
  refine ⟨url, request, answer, draft, ?_, settled⟩
  rw [World.past_add, History.heardBy_of_aside quiet]
  exact heard

/-! ## Transitions -/

theorem Traced.exchanged {request : Request} {outcome : Except Fault Response}
    (traced : session.Traced calls number world) (bare : request.headers = none)
    (held : world.holder .session = some number)
    (exchanged : request.Exchanged regime number world outcome after) :
    session.Traced calls number after := by
  refine exchanged.keeps keptCalm_traced (fun world answer traced => ?_) held ?_
  · exact traced.did (by simp) (by simp)
  · refine traced.did (by simp) fun other same => ?_
    obtain rfl := Deed.sent.inj same
    rw [bare]
    rfl

theorem Traced.told {occasion : Occasion} {listeners : List Listener} {outcome : Except Fault Unit}
    (traced : session.Traced calls number world) (held : world.holder .session = some number)
    (told : Listener.Told regime number occasion listeners world outcome after) :
    session.Traced calls number after :=
  told.keeps keptCalm_traced (fun _ _ traced => traced.did (by simp) (by simp)) held traced

theorem Traced.revokedAndCleared {token : Text} {url : Option Text} {result : Except Fault Unit}
    (traced : session.Traced calls number world) (held : world.holder .session = some number)
    (revoked : session.RevokedAndCleared regime number token url world result after) :
    session.Traced calls number after := by
  obtain ⟨_, _, between, _, revoking, clearing⟩ := revoked
  have revoked : session.Traced calls number between := by
    cases revoking with
    | undrafted fault draft => exact traced
    | exchanged request draft outcome middle between exchanged calmly =>
      apply calmly.keeps keptCalm_traced ((exchanged.grips .session).mpr held)
      exact traced.exchanged (Settings.of_draftLogout draft).2 held exchanged
  refine Cleared.keeps clearing keptCalm_traced ?_ ?_ ((revoking.grips .session).mpr held) revoked
  · exact fun world traced => traced.did (by simp) (by simp)
  · exact fun world notice traced => traced.did (by simp) (by simp)

/-- Installing a response that the task has got. -/
theorem Traced.installed {response : Response} {outcome : Except Fault String}
    (traced : session.Traced calls number world) (held : world.holder .session = some number)
    (sourced : session.Sourced calls number world.past response)
    (installed : Installed regime number response world outcome after) :
    session.Traced calls number after := by
  cases installed with
  | rejected fault refusal => exact traced
  | accepted grant granted between calmly told after telling =>
    have holding := (calmly.grips .session).mpr held
    have before := calmly.keeps keptCalm_traced held traced
    have source := calmly.keeps keptCalm_sourced held sourced
    refine Traced.told ⟨?_, ?_⟩ (holder_assigns.trans holding) telling
    · refine before.1.add fun credential assigned => ?_
      obtain rfl := Option.some.inj (Deed.assigned.inj assigned)
      exact ⟨response, grant, source, granted, rfl⟩
    · intro moment member own
      rcases List.mem_cons.mp member with rfl | earlier
      · exact fun request sent => nomatch sent
      · exact before.2 moment earlier own

theorem Traced.loggedIn {url : Option Text} {outcome : Except Fault String}
    (traced : session.Traced calls number world) (held : world.holder .session = some number)
    (login : session.LoggedIn regime number url world outcome after) :
    session.Traced calls number after := by
  cases login with
  | undrafted fault draft after calmly => exact calmly.keeps keptCalm_traced held traced
  | unanswered request draft between calmly fault after exchanged =>
    exact (calmly.keeps keptCalm_traced held traced).exchanged (Settings.of_draftLogin draft).2
      ((calmly.grips .session).mpr held) exchanged
  | answered request draft between calmly response middle exchanged outcome after installed =>
    have holding := (calmly.grips .session).mpr held
    have asked := (calmly.keeps keptCalm_traced held traced).exchanged
      (Settings.of_draftLogin draft).2 holding exchanged
    refine asked.installed ((exchanged.grips .session).mpr holding) ?_ installed
    obtain ⟨answer, later, _, settled, _, rfl⟩ := exchanged.of_ok rfl
    refine .inr ⟨url, request, answer, draft, ?_, settled⟩
    simp [World.hears, History.heardBy]

theorem Traced.visited {old : Option Text} {outcome : Except Fault String}
    (traced : session.Traced calls number world) (held : world.holder .session = some number)
    (visit : session.LoginVisit regime number old world outcome after) :
    session.Traced calls number after :=
  visit.keeps_of held keptCalm_traced (fun revoking => traced.revokedAndCleared held revoking)
    (fun still begins login => begins.loggedIn still login) traced

/-! ## Courses -/

/-- Every credential of a history has a source, whenever nobody has the lock of the session. -/
def tracedRegime (session : Session) (calls : List Call) (endpoint : Endpoint) : Regime :=
  Regime.ofFree endpoint (fun _ => True) fun world => session.Attributed calls world.past

/-- The requests of a task to the API match what was held. -/
def Tracked (session : Session) (calls : List Call) (number : Nat) (world : World) : Prop :=
  ∀ moment ∈ world.past, moment.task = number → session.Matches calls moment

theorem keptAside_tracked : World.KeptAside number (session.Tracked calls number) := by
  intro world moment tracked _ quiet other member own
  rcases List.mem_cons.mp member with rfl | earlier
  · intro request sent
    have still := quiet own
    rw [sent] at still
    cases still
  · exact tracked other earlier own

theorem keeps_traced {endpoint : Endpoint} {call : Call} (asked : calls[number]? = some call) :
    session.Keeps (session.tracedRegime calls endpoint) (session.Tracked calls number) number
      call := by
  have deed {deed : Deed} {world : World} {shared : Shared}
      (tracked : session.Tracked calls number world)
      (matched : session.Matches calls ⟨number, deed, world.shared, shared⟩) :
      session.Tracked calls number (world.did number deed shared) := by
    intro moment member own
    rcases List.mem_cons.mp member with rfl | earlier
    · exact matched
    · exact tracked moment earlier own
  have visited {α : Type} {relation : World → Except Fault α → World → Prop}
      (traced : ∀ before outcome after, before.holder .session = some number →
        relation before outcome after →
        session.Traced calls number before → session.Traced calls number after)
      (before : World) (outcome : Except Fault α) (after : World)
      (tracked : session.Tracked calls number before)
      (attributed : session.Attributed calls before.past)
      (related : relation (before.takes number .session) outcome after) :
      session.Attributed calls (after.releases number .session).past ∧
        session.Tracked calls number (after.releases number .session) := by
    have starting : session.Traced calls number before := ⟨attributed, tracked⟩
    have ended := traced _ outcome after World.holder_takes related
      (starting.did (by simp) (by simp))
    exact ended.did (by simp) (by simp)
  refine ⟨keptAside_tracked, ?_, ?_, ?_, ?_, ?_⟩
  · intro old _ before outcome after tracked _ attributed related _
    exact visited (fun _ _ _ held visit traced => traced.visited held visit) before outcome after
      tracked attributed related
  · intro _ before outcome after tracked _ attributed related _
    refine visited (fun _ _ _ held visit traced => ?_) before outcome after tracked attributed
      related
    cases visit with
    | absent unheld => exact traced
    | present credential present outcome after revoking =>
      exact traced.revokedAndCleared held revoking
  · rintro response rfl before outcome after tracked _ attributed related _
    exact visited (fun _ _ _ held installed traced => traced.installed held (.inl asked) installed)
      before outcome after tracked attributed related
  · intro request attempts credential timeout world same held usable tracked
    subst same
    refine deed tracked fun sent same _ => ?_
    obtain rfl := Deed.sent.inj same
    exact ⟨request, attempts, credential, timeout, asked, held, usable, rfl⟩
  · intro request answer world headed tracked
    exact deed tracked fun sent same => nomatch same

/-- What is held was held from the start, or is the grant in force. -/
theorem inForce_of_attributed {shared : Shared} {credential : Credential}
    (leads : World.Leads ⟨shared, []⟩ world) (attributed : session.Attributed calls world.past)
    (held : world.shared.held = some credential) :
    shared.held = some credential ∨
      ∃ grant, session.InForce calls world.past grant ∧ credential = grant.credential := by
  rw [leads.held_eq] at held
  cases last : world.past.findSome? Moment.assigned? with
  | none =>
    rw [last] at held
    exact .inl held
  | some assigned =>
    rw [last] at held
    obtain rfl : assigned = some credential := held
    obtain ⟨recent, moment, earlier, split, reading, silent⟩ := List.findSome?_eq_some_iff.mp last
    have deed : moment.deed = .assigned (some credential) := by
      cases deed : moment.deed with
      | assigned other => simpa [Moment.assigned?, deed] using reading
      | _ => simp [Moment.assigned?, deed] at reading
    obtain ⟨response, grant, sourced, granted, rfl⟩ :=
      attributed moment earlier credential ⟨recent, split.symm⟩ deed
    refine .inr ⟨grant, ?_, rfl⟩
    exact ⟨response, recent, moment, earlier, split, silent, deed, sourced, granted⟩

theorem paired_of_attributed {shared : Shared} (empty : shared.held = none)
    (leads : World.Leads ⟨shared, []⟩ world) (attributed : session.Attributed calls world.past) :
    session.Paired calls world := by
  cases held : world.shared.held with
  | none => exact .inl ⟨by rw [Shared.token?, held]; rfl, by rw [Shared.instanceUrl?, held]; rfl⟩
  | some credential =>
    rcases inForce_of_attributed leads attributed held with initial | ⟨grant, force, rfl⟩
    · rw [empty] at initial
      cases initial
    · obtain ⟨response, recent, moment, earlier, split, silent, deed, sourced, granted⟩ := force
      obtain ⟨token, url⟩ := Grant.ne_empty (Response.of_classifyLogin granted).2
      refine .inr ⟨response, grant, recent, moment, earlier, split, silent, deed, sourced, granted,
        ?_, ?_, token, url⟩
      · rw [Shared.token?, held]
        rfl
      · rw [Shared.instanceUrl?, held]
        rfl

/-- Every course of calls is sound as to where everything installed comes from. -/
theorem sound_traced (session : Session) (endpoint : Endpoint) {shared : Shared}
    (unlocked : shared.locked = []) (events : List (Event Call)) :
    ((Course.initial shared).follow endpoint session.answer events).Sound
      (session.tracedRegime (Event.begun events) endpoint)
      (fun number outcome after => session.Tracked (Event.begun events) number after ∧
        ∀ call, (Event.begun events)[number]? = some call → call.Shows number outcome after)
      shared := by
  have none : session.Attributed (Event.begun events) [] := fun _ _ _ suffix =>
    absurd (List.suffix_nil.mp suffix) (List.cons_ne_nil _ _)
  exact session.sound_answer (Regime.stable_ofFree keptApart_attributed)
    (fun number call asked => keeps_traced asked)
    (fun number world unknown moment member own => absurd own (unknown moment member)) unlocked
    (Regime.free_ofFree none) fun _ _ _ => trivial

/-- Everything that is installed in a course of calls has a source. -/
theorem attributed_follow (session : Session) (endpoint : Endpoint) {shared : Shared}
    (unlocked : shared.locked = []) (events : List (Event Call)) :
    session.Attributed (Event.begun events)
      ((Course.initial shared).follow endpoint session.answer events).past :=
  (session.sound_traced endpoint unlocked events).of_free
    (Regime.stable_ofFree keptApart_attributed) .session (fun _ free => free)
    fun _ _ suffix attributed => attributed.suffix suffix

/-- **What is held comes from one login.** Whatever calls tasks make of a session that starts empty,
in whatever order they go on, whatever the endpoint answers, the listeners do and breaks off waits:
after every moment of the course, nothing is held or the two parts of one grant are, that of the
response installed last. Every request to the API carries the two parts of what is held when it is
sent. -/
theorem paired_follow (session : Session) (endpoint : Endpoint) {shared : Shared}
    (empty : shared.held = none) (unlocked : shared.locked = []) (events : List (Event Call)) :
    let calls := Event.begun events
    let course := (Course.initial shared).follow endpoint session.answer events
    (∀ world, course.Passes world → session.Paired calls world) ∧
      ∀ moment ∈ course.past, session.Matches calls moment := by
  intro calls course
  have stable : (session.tracedRegime calls endpoint).Stable :=
    Regime.stable_ofFree keptApart_attributed
  have none : session.Attributed calls [] := fun _ _ _ suffix =>
    absurd (List.suffix_nil.mp suffix) (List.cons_ne_nil _ _)
  have sound : course.Sound (session.tracedRegime calls endpoint)
      (fun number _ => session.Tracked calls number) shared := by
    refine Course.sound_follow calls stable ?_ unlocked ?_ List.prefix_rfl
      fun _ _ _ => trivial
    · intro number call asked world _ unknown
      refine roams_answer (keeps_traced asked) world ?_ (World.idle_of_past unknown)
      exact fun moment member own => absurd own (unknown moment member)
    · rintro (_ | _)
      · exact none
      · trivial
  obtain ⟨final, ended, complete, longer⟩ := sound.completes stable
  have attributed : session.Attributed calls course.past :=
    Attributed.suffix (ended.vacant .session (ended.unheld complete .session)) longer
  refine ⟨fun world passed => ?_, fun moment member => ?_⟩
  · obtain ⟨leads, suffix⟩ := sound.passed passed
    exact paired_of_attributed empty leads (attributed.suffix suffix)
  · have later := longer.subset member
    obtain ⟨_, _, ending, tracked, _, since⟩ := ended.ended complete (ended.known moment later)
    exact keptAside_tracked.calmly since.calmly tracked moment later rfl

theorem paired_follow_login :
    let session : Session := ⟨⟨"https://login.test", "id", "secret", "user", "password", 5000⟩⟩
    let endpoint : Endpoint := fun _ _ => .later (.ok ⟨200, none,
      .text "\x7b\"access_token\": \"t\", \"instance_url\": \"https://a.test\"\x7d"⟩)
    let course := (Course.initial {}).follow endpoint session.answer
      [.begins (.login none), .turn 0]
    course.world.shared.token? = some "t" ∧ session.Paired [.login none] course.world := by
  intro session endpoint course
  exact ⟨by decide +kernel, (paired_follow session endpoint rfl rfl _).1 _ (.inl rfl)⟩

end Session

end SessionKeeper
