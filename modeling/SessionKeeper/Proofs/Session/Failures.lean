import SessionKeeper.Proofs.Session.Attempt
import SessionKeeper.Proofs.Session.Calls
import SessionKeeper.Proofs.Session.Renewal
import SessionKeeper.Proofs.Task.Completion

/-! # What calls can fail with

As long as the HTTP client fails in the ways that it is known for, and no listener demands to stop,
a call returns or fails with a fault of this library: a failed exchange, which keeps the incident
that caused it and is classified by its nature; a refusal; a reply that cannot be decoded; and, for
a request to the API alone, an expired session (`Call.MayFailWith`, `Session.accounted_follow`).
-/

namespace SessionKeeper

variable {α β : Type} {regime : Regime} {number : Nat} {world after : World}
  {heard : List (Request × Answer)} {fault : Fault} {request : Request} {answer : Answer}

/-- The kind of the failure that an incident of this nature is for an exchange. -/
def Nature.transportKind : Nature → TransportKind
  | timeout => .timeout
  | interrupted => .interrupted
  | _ => .failed

/-- The HTTP client raised it, or ran out of time. -/
def Nature.OfExchange (nature : Nature) : Prop := nature = .timeout ∨ nature.isClient = true

/-- Whatever fails to be answered fails in a way that the HTTP client is known for. -/
def Endpoint.FailsByClient (endpoint : Endpoint) : Prop :=
  ∀ earlier request fault, (endpoint earlier request).answer = .error fault →
    ∃ incident, fault = .foreign incident ∧ incident.nature.OfExchange

/-- The fault is that of an exchange. If the exchange failed, then the incident that was heard last
is the cause, and its nature decides about the kind. -/
inductive Fault.Accounted (heard : List (Request × Answer)) : Fault → Prop
  | transport (request : Request) (incident : Incident)
      (last : heard.getLast? = some (request, .error (.foreign incident)))
      (failure : TransportFailure) (cause : failure.cause = some incident)
      (kind : failure.kind = incident.nature.transportKind) : Accounted heard (.transport failure)
  | refused (refusal : Refusal) : Accounted heard (.refused refusal)
  | undecodable (problem : DecodeProblem) : Accounted heard (.undecodable problem)

/-- The faults that a call may end with, by the answers that its task got. -/
def Call.MayFailWith (call : Call) (heard : List (Request × Answer)) (fault : Fault) : Prop :=
  match call with
  | .login _ | .logout | .start | .stop | .applyLogin _ => fault.Accounted heard
  | .api .. => fault.Accounted heard ∨ ∃ token status, fault = .expired token status
  | .enlist name | .dismiss name => fault = .foreign (.unknownListener name)
  | .draftLogin | .describe => False

/-! ## Answers -/

/-- What the HTTP client fails with becomes a failure of the exchange. -/
theorem Request.wrap_of_exchange (request : Request) {incident : Incident}
    (known : incident.nature.OfExchange) :
    ∃ failure, request.wrap (.foreign incident) = .transport failure ∧
      failure.cause = some incident ∧ failure.kind = incident.nature.transportKind := by
  have wrapped (failure : TransportFailure) (meant : request.failureOf incident = some failure) :
      request.wrap (.foreign incident) = .transport failure := by
    simp only [wrap, meant]
  unfold failureOf at wrapped
  cases nature : incident.nature with
  | timeout => exact ⟨_, wrapped _ (by rw [nature]), rfl, rfl⟩
  | interrupted => exact ⟨_, wrapped _ (by rw [nature]), rfl, rfl⟩
  | client bySystem => exact ⟨_, wrapped _ (by rw [nature]), rfl, rfl⟩
  | _ =>
    rw [nature] at known
    rcases known with same | isClient
    · cases same
    · cases isClient

theorem Endpoint.FailsByClient.wraps {endpoint : Endpoint} (mild : endpoint.FailsByClient)
    (request : Request) : endpoint.Wraps request := by
  intro earlier fault failed
  obtain ⟨incident, rfl, known⟩ := mild earlier request fault failed
  obtain ⟨failure, wrapped, _⟩ := request.wrap_of_exchange known
  exact ⟨failure, wrapped⟩

namespace Fault.Accounted

/-- An exchange fails with what it heard. -/
theorem of_settle (known : ∀ raised, answer = .error raised →
      ∃ incident, raised = .foreign incident ∧ incident.nature.OfExchange)
    (last : heard.getLast? = some (request, answer))
    (failed : request.settle answer = .error fault) :
    fault.Accounted heard := by
  cases answer with
  | ok response => cases failed
  | error raised =>
    obtain ⟨incident, rfl, isKnown⟩ := known raised rfl
    obtain ⟨failure, wrapped, cause, kind⟩ := request.wrap_of_exchange isKnown
    rw [Request.settle, wrapped] at failed
    obtain rfl := Except.error.inj failed
    exact .transport request incident last failure cause kind

/-- A response that grants nothing is a refusal or cannot be decoded. -/
theorem of_classifyLogin {response : Response} (failed : response.classifyLogin = .error fault) :
    fault.Accounted heard := by
  unfold Response.classifyLogin at failed
  split at failed
  · cases read : Grant.ofBody response.body with
    | ok grant =>
      rw [read] at failed
      cases failed
    | error problem =>
      rw [read] at failed
      obtain rfl := Except.error.inj failed
      exact .undecodable problem
  · split at failed
    · split at failed
      · obtain rfl := Except.error.inj failed
        exact .refused _
      · obtain rfl := Except.error.inj failed
        exact .undecodable _
    · obtain rfl := Except.error.inj failed
      exact .refused _

theorem of_granted (known : ∀ raised, answer = .error raised →
      ∃ incident, raised = .foreign incident ∧ incident.nature.OfExchange)
    (last : heard.getLast? = some (request, answer))
    (failed : request.granted answer = .error fault) :
    fault.Accounted heard := by
  unfold Request.granted at failed
  cases settled : request.settle answer with
  | error raised =>
    rw [settled] at failed
    obtain rfl := Except.error.inj failed
    exact of_settle known last settled
  | ok response =>
    rw [settled] at failed
    simp only [Except.bind] at failed
    cases classified : response.classifyLogin with
    | error raised =>
      rw [classified] at failed
      obtain rfl := Except.error.inj failed
      exact of_classifyLogin classified
    | ok grant =>
      rw [classified] at failed
      cases failed

theorem of_revokeOutcome (known : ∀ raised, answer = .error raised →
      ∃ incident, raised = .foreign incident ∧ incident.nature.OfExchange)
    (last : heard.getLast? = some (request, answer))
    (failed : Session.revokeOutcome (request.settle answer) = .error fault) :
    fault.Accounted heard := by
  cases settled : request.settle answer with
  | error raised =>
    rw [settled] at failed
    obtain rfl := Except.error.inj failed
    exact of_settle known last settled
  | ok response =>
    rw [settled] at failed
    simp only [Session.revokeOutcome] at failed
    split at failed
    · cases failed
    · obtain rfl := Except.error.inj failed
      exact .refused _

theorem not_isExpired (accounted : fault.Accounted heard) : fault.isExpired = false := by
  cases accounted <;> rfl

/-- Such a fault ends the attempts of a request as it is. -/
theorem ofAttempt (accounted : fault.Accounted heard) (stale : Option String) :
    fault.ofAttempt stale = fault := by
  cases accounted <;> rfl

end Fault.Accounted

/-! ## Calls -/

/-- No listener demands to stop, and nobody breaks off a wait. -/
def tameRegime (endpoint : Endpoint) : Regime :=
  Regime.ofFree endpoint (fun _ => False) fun world => world.shared.Tame

/-- If the task has failed, then with one of some faults, by the answers that it got. -/
def World.FailsOnlyWith (faults : List (Request × Answer) → Fault → Prop) (number : Nat)
    (outcome : Except Fault α) (world : World) : Prop :=
  ∀ fault, outcome = .error fault → faults (world.past.heardBy number) fault

variable {faults : List (Request × Answer) → Fault → Prop}

theorem keptVisiting_tame : World.KeptVisiting number fun world => world.shared.Tame where
  calm := keptApart_tame.calm
  sends _ _ tame := tame.enrolment (.inl rfl) rfl
  hears _ _ _ tame := tame
  assigns _ _ tame := tame.enrolment (.inl rfl) rfl
  tells _ _ tame := tame.enrolment (.inl rfl) rfl

namespace World.FailsOnlyWith

/-- A failure is the same whatever was to be returned. -/
theorem rethrow (only : world.FailsOnlyWith faults number (.error fault : Except Fault α)) :
    world.FailsOnlyWith faults number (.error fault : Except Fault β) := by
  rintro _ ⟨rfl⟩
  exact only fault rfl

theorem map {outcome : Except Fault α} (only : world.FailsOnlyWith faults number outcome)
    (change : α → β) : world.FailsOnlyWith faults number (outcome.map change) := by
  cases outcome with
  | ok value => exact nofun
  | error raised => exact only.rethrow

end World.FailsOnlyWith

namespace Session

variable {session : Session} {endpoint : Endpoint} {timeout : Binary64}

section Fulfils

variable (usable : session.settings.timeout = .ok timeout) (mild : endpoint.FailsByClient)
  (idle : world.Idle number)

include usable mild idle

theorem fulfils_login_accounted (old : Option String) :
    (session.login (old.map Text.ofString)).Fulfils (tameRegime endpoint) number
      (World.FailsOnlyWith Fault.Accounted number) world := by
  refine Routine.ensures_withLock (does_loginLocked _) (fun _ _ _ visit => visit.grips) idle ?_
    fun _ _ _ broken => broken.elim
  intro before outcome after meanwhile vacant tame login _
  obtain ⟨visit, held, rfl, found, visiting, yields⟩ :=
    Visiting.visited tame usable (fun _ => id) (fun request _ _ => mild.wraps request) login
  refine ⟨visiting.tame.enrolment (.inl rfl) rfl, fun relieved => ⟨?_, relieved⟩⟩
  rintro fault rfl
  cases yields with
  | renewed spent held outcome renews shown =>
    obtain ⟨earlier, request, _, _, last, granted⟩ := renews.granted
    refine .of_granted (mild earlier request) ?_ granted.symm
    have heard : (after.releases visit.task .session).past.heardBy visit.task =
        before.past.heardBy visit.task ++ visit.heard := visiting.heard
    rw [heard, List.getLast?_append, last]
    rfl

theorem fulfils_logout_accounted :
    session.logout.Fulfils (tameRegime endpoint) number
      (World.FailsOnlyWith Fault.Accounted number) world := by
  refine Routine.ensures_withLock does_logoutLocked (fun _ _ _ visit => visit.grips) idle ?_
    fun _ _ _ broken => broken.elim
  intro before outcome after meanwhile vacant tame logout _
  have began := Visiting.began number tame
  have holding : (before.takes number .session).holder .session = some number := World.holder_takes
  cases logout with
  | absent unheld => exact ⟨began.tame.enrolment (.inl rfl) rfl, fun relieved => ⟨nofun, relieved⟩⟩
  | present credential held outcome after revoking =>
    obtain ⟨earlier, request, _, rfl, visiting⟩ :=
      began.revokedAndCleared holding usable (fun _ => id) revoking
    refine ⟨visiting.tame.enrolment (.inl rfl) rfl, fun relieved => ⟨?_, relieved⟩⟩
    intro fault failed
    refine .of_revokeOutcome (mild earlier request) ?_ failed
    have heard : (after.releases number .session).past.heardBy number =
        before.past.heardBy number ++ [(request, (endpoint earlier request).answer)] :=
      visiting.heard
    rw [heard, List.getLast?_concat]

theorem fulfils_tokenFor_accounted (stale : Option String) :
    (session.tokenFor stale).Fulfils (tameRegime endpoint) number
      (World.FailsOnlyWith Fault.Accounted number) world := by
  refine ensures_tokenFor (fun token between _ calmly => ?_) (fun _ _ => ?_) fun _ _ _ =>
    ⟨nofun, idle⟩
  · exact fulfils_login_accounted usable mild (calmly.grips.idle idle) (some token)
  · exact fulfils_login_accounted usable mild idle none

theorem fulfils_tryCall_accounted (call : ApiCall) (stale : Option String) :
    (session.tryCall call stale).Fulfils (tameRegime endpoint) number
      (World.FailsOnlyWith Fault.Accounted number) world := by
  refine ensures_tryCall (fulfils_tokenFor_accounted usable mild idle stale)
    (fun _ _ ended => ⟨ended.1.rethrow, ended.2⟩)
    (fun _ _ _ unusable _ => nomatch unusable.symm.trans usable) ?_
  rintro _ token between outcome after - ⟨_, still⟩ exchanged
  refine ⟨.map ?_ _, exchanged.grips.idle still⟩
  cases exchanged with
  | brokenOff fault breaks later meanwhile => exact breaks.elim
  | answered answer delivered later meanwhile =>
    intro fault failed
    refine .of_settle (fun raised failed => ?_) ?_ failed
    · exact mild _ _ raised (delivered.trans failed)
    · simp [World.hears, History.heardBy]

theorem fulfils_callFrom_accounted (call : ApiCall) (attempts : Int) (retries : Nat)
    (stale : Option String) :
    (session.callFrom call retries stale).Fulfils (tameRegime endpoint) number
      (World.FailsOnlyWith (Call.api call attempts).MayFailWith number) world := by
  induction retries generalizing stale world with
  | zero =>
    unfold callFrom Routine.Fulfils
    rw [Routine.ensures_bind, Routine.ensures_attempt]
    apply (fulfils_tryCall_accounted usable mild idle call stale).mono
    rintro (fault | ⟨response⟩ | ⟨token, status⟩) after ⟨only, still⟩
    · have accounted := only fault rfl
      refine ⟨?_, still⟩
      rintro _ ⟨rfl⟩
      rw [accounted.ofAttempt]
      exact .inl accounted
    · exact ⟨fun _ failed => (by cases failed), still⟩
    · refine ⟨?_, still⟩
      rintro _ ⟨rfl⟩
      exact .inr ⟨some ↑token, status, rfl⟩
  | succ retries ih =>
    unfold callFrom Routine.Fulfils
    rw [Routine.ensures_bind, Routine.ensures_attempt]
    apply (fulfils_tryCall_accounted usable mild idle call stale).mono
    rintro (fault | ⟨response⟩ | ⟨token, status⟩) after ⟨only, still⟩
    · have accounted := only fault rfl
      simp only [accounted.not_isExpired, accounted.ofAttempt]
      refine ⟨?_, still⟩
      rintro _ ⟨rfl⟩
      exact .inl accounted
    · exact ⟨fun _ failed => (by cases failed), still⟩
    · simp only
      rw [Routine.ensures_bind]
      apply Routine.ensures_yieldTurn.mono
      rintro (fault | ⟨⟨⟩⟩) later ⟨calmly, broken⟩
      · exact (broken fault rfl).1.elim
      · exact ih (calmly.grips.idle still) (some token)

end Fulfils

theorem fulfils_applyLogin_accounted (idle : world.Idle number) (response : Response) :
    (applyLogin response).Fulfils (tameRegime endpoint) number
      (World.FailsOnlyWith Fault.Accounted number) world := by
  refine Routine.ensures_withLock (does_install response) (fun _ _ _ installed => installed.grips)
    idle ?_ fun _ _ _ broken => broken.elim
  intro before outcome after meanwhile vacant tame installed _
  have began : (before.takes number .session).shared.Tame := tame.enrolment (.inl rfl) rfl
  have still := installed.keeps keptVisiting_tame World.holder_takes began
  refine ⟨still.enrolment (.inl rfl) rfl, fun relieved => ⟨?_, relieved⟩⟩
  intro fault failed
  cases installed with
  | rejected raised refusal =>
    obtain rfl := Except.error.inj failed
    exact .of_classifyLogin refusal
  | accepted grant accepted between calmly told after telling =>
    have waiting : between.shared.Tame := calmly.keeps keptApart_tame.calm World.holder_takes began
    obtain rfl := telling.ok waiting.registered fun ⟨_, breaks, _⟩ => breaks
    cases failed

/-- Changing the registered listeners fails only for want of a listener with the name. -/
theorem fulfils_changeListeners_named (idle : world.Idle number) (name : Text)
    {change : Shared → Listener → Bool × Shared}
    (harmless : ∀ listener (before : Shared), listener ∈ before.roster →
      Shared.Harmless (fun shared => (change shared listener).2) before) :
    (changeListeners name change).Fulfils regime number
      (World.FailsOnlyWith (fun _ fault => fault = .foreign (.unknownListener name)) number)
      world := by
  unfold changeListeners Routine.Fulfils
  rw [Routine.ensures_bind]
  refine Listener.ensures_named (fun listener known => ?_) ⟨?_, idle⟩
  · exact Routine.ensures_update (harmless listener world.shared known)
      fun _ calmly _ => ⟨nofun, calmly.grips.idle idle⟩
  · rintro _ ⟨rfl⟩
    rfl

/-- A call fails only with what it may fail with. -/
theorem fulfils_answer_accounted (usable : session.settings.timeout = .ok timeout)
    (mild : endpoint.FailsByClient) (idle : world.Idle number) {call : Call}
    (spelled : ∀ old, call = .login old → ∃ token : Option String, old = token.map Text.ofString) :
    (session.answer call).Fulfils (tameRegime endpoint) number
      (World.FailsOnlyWith call.MayFailWith number) world := by
  have mapped {α : Type} {routine : Routine α} {reply : α → CallReply}
      (fulfils : routine.Fulfils (tameRegime endpoint) number
        (World.FailsOnlyWith call.MayFailWith number) world) :
      (reply <$> routine).Fulfils (tameRegime endpoint) number
        (World.FailsOnlyWith call.MayFailWith number) world := by
    unfold Routine.Fulfils
    rw [Routine.ensures_map]
    exact Routine.Ensures.mono fulfils fun _ _ ended => ⟨ended.1.map reply, ended.2⟩
  cases call with
  | login old =>
    obtain ⟨token, rfl⟩ := spelled old rfl
    exact mapped (fulfils_login_accounted usable mild idle token)
  | logout => exact mapped (fulfils_logout_accounted usable mild idle)
  | stop => exact mapped (fulfils_logout_accounted usable mild idle)
  | start =>
    refine mapped ?_
    unfold Session.start Routine.Fulfils
    rw [Routine.ensures_bind, Routine.ensures_get]
    simp only
    rw [Routine.ensures_bind]
    apply (fulfils_login_accounted usable mild idle world.shared.token?).mono
    rintro (fault | token) after ⟨only, still⟩
    · exact ⟨only.rethrow, still⟩
    · exact ⟨nofun, still⟩
  | applyLogin response => exact mapped (fulfils_applyLogin_accounted idle response)
  | api call attempts =>
    exact mapped (fulfils_callFrom_accounted usable mild idle call attempts _ none)
  | enlist name =>
    exact mapped (fulfils_changeListeners_named idle name fun _ _ => Shared.harmless_enlist)
  | dismiss name =>
    exact mapped (fulfils_changeListeners_named idle name fun _ _ => Shared.harmless_dismiss)
  | draftLogin =>
    refine mapped ?_
    unfold Session.draftLogin Routine.Fulfils
    rw [Routine.ensures_bind, Routine.ensures_get]
    apply (Routine.ensures_ofReported _).mono
    rintro _ after ⟨rfl, calmly⟩
    obtain ⟨request, drafted⟩ := Settings.exists_draftLogin usable world.shared.instanceUrl?
    rw [drafted]
    exact ⟨nofun, calmly.grips.idle idle⟩
  | describe => exact ⟨nofun, idle⟩

/-- **Failures are classified.** Whatever calls tasks make of a session whose timeout is defined, in
whatever order they go on, each of them comes to its end; and if it fails, then with a fault of an
exchange, of which the incident that ended the exchange is the cause and decides about the kind, or,
as a request to the API, with an expired session. Besides, nothing but the name of an unknown
listener is turned down. All of this is so as long as the endpoint answers, or fails in a way that
the HTTP client is known for, and no listener demands to stop. -/
theorem accounted_follow (session : Session) {endpoint : Endpoint}
    (usable : session.settings.timeout = .ok timeout) (mild : endpoint.FailsByClient)
    {shared : Shared} (unlocked : shared.locked = []) (tame : shared.Tame)
    {events : List (Event Call)}
    (spelled : ∀ old, Call.login old ∈ Event.begun events →
      ∃ token : Option String, old = token.map Text.ofString)
    (unbroken : Event.Breaks (fun _ => False) events) :
    Course.Inevitably endpoint
      (fun final => final.crew.tasks.length = (Event.begun events).length ∧
        ∀ number call, (Event.begun events)[number]? = some call →
          ∃ outcome, final.Returns number outcome ∧
            ∀ fault, outcome = .error fault →
              call.MayFailWith (final.past.heardBy number) fault)
      ((Course.initial shared).follow endpoint session.answer events) := by
  have stable : (tameRegime endpoint).Stable := Regime.stable_ofFree keptApart_tame
  have sound : ((Course.initial shared).follow endpoint session.answer events).Sound
      (tameRegime endpoint)
      (fun number outcome after => ∀ call, (Event.begun events)[number]? = some call →
        after.FailsOnlyWith call.MayFailWith number outcome) shared := by
    refine Course.sound_follow (Event.begun events) stable ?_ unlocked (Regime.free_ofFree tame)
      List.prefix_rfl unbroken
    intro number call asked world _ unknown
    refine (fulfils_answer_accounted usable mild (World.idle_of_past unknown)
      fun old same => ?_).mono fun outcome after ended => ⟨fun other same => ?_, ended.2⟩
    · subst same
      exact spelled old (List.mem_of_getElem? asked)
    · obtain rfl := Option.some.inj (asked.symm.trans same)
      exact ended.1
  refine sound.inevitably stable fun final still complete same => ?_
  have length : final.crew.tasks.length = (Event.begun events).length :=
    same.trans (Course.length_follow.trans (Nat.zero_add _))
  refine ⟨length, fun number call asked => ?_⟩
  have bound : number < final.crew.tasks.length :=
    length.symm ▸ (List.getElem?_eq_some_iff.mp asked).1
  obtain ⟨outcome, finished, ending, only, _, since⟩ := still.ended complete bound
  have heard : final.past.heardBy number = ending.past.heardBy number := since.calmly.heardBy
  refine ⟨outcome, finished, fun fault failed => ?_⟩
  rw [heard]
  exact only call asked fault failed

theorem accounted_follow_timeout :
    let session : Session := ⟨⟨"https://login.test", "id", "secret", "user", "password", 5000⟩⟩
    let endpoint : Endpoint := fun _ request =>
      if request.method = "POST"
      then .later (.error (.foreign ⟨"ServerTimeoutError", "too late", .timeout, none⟩))
      else .later (.ok ⟨401, none, .bytes [255]⟩)
    let shared : Shared := { held := some ⟨"t", "https://a.test"⟩ }
    let calls : List Call :=
      [.login (some "t"), .api ⟨"GET", "/first", none, none⟩ 3, .logout]
    Course.Inevitably endpoint
      (fun final => final.crew.tasks.length = 3 ∧
        ∀ number call, calls[number]? = some call →
          ∃ outcome, final.Returns number outcome ∧
            ∀ fault, outcome = .error fault →
              call.MayFailWith (final.past.heardBy number) fault)
      ((Course.initial shared).follow endpoint session.answer (calls.map .begins)) := by
  intro session endpoint shared calls
  obtain ⟨timeout, usable⟩ : ∃ timeout, session.settings.timeout = .ok timeout :=
    Settings.exists_timeout (by decide +kernel)
  have mild : endpoint.FailsByClient := by
    intro earlier request fault failed
    by_cases post : request.method = "POST"
    · simp only [endpoint, post, if_true, Delivery.answer, Except.error.injEq] at failed
      exact ⟨_, failed.symm, .inl rfl⟩
    · simp [endpoint, post, Delivery.answer] at failed
  have spelled : ∀ old, Call.login old ∈ Event.begun (calls.map .begins) →
      ∃ token : Option String, old = token.map Text.ofString := by
    intro old member
    obtain rfl : old = some "t" := by simpa [Event.begun, calls] using member
    exact ⟨some "t", rfl⟩
  have tame : shared.Tame := ⟨by simp [shared], by simp [shared]⟩
  have unbroken : Event.Breaks (fun _ => False) (calls.map .begins) := by
    simp [Event.Breaks, calls]
  exact accounted_follow session usable mild rfl tame spelled unbroken

end Session

end SessionKeeper
