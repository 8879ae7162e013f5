import SessionKeeper.Proofs.Application.Checking
import SessionKeeper.Proofs.Session.InOrder
import SessionKeeper.Proofs.Task.Attendance

/-! # The life of an application

Tasks start an application and shut it down, alone or in blocks, after plans of their own. All of
it is done under the lock of the application (`Application.service`), so the calls take effect one
after the other. While a call waits, the stage of the application is what it was when the call
began, or the HTTP session is being closed (`Application.During`). What a single call makes of what
is shared (`Application.Passes`) then says how any number of them ends: when the application is
started, when the HTTP session is closed, and what is left behind (`Application.Lived`,
`Application.lived_follow`).
-/

namespace SessionKeeper

variable {β : Type}

/-- What is called in the life of an application. -/
inductive Lifecycle where
  | start
  | shutdown
deriving DecidableEq

namespace Application

/-- The stages of an application while a call waits that was begun at another one: the same stage,
or that of an HTTP session that is being closed. -/
def During (before : Shared) (stage : Stage) : Prop :=
  stage = before.stage ∨ before.connected = true ∧ stage = before.disconnecting

variable {before : Shared} {next : Except Fault Unit → Routine β}

theorem During.started {stage : Stage} (during : During before stage) :
    stage.1 = before.started := by
  rcases during with rfl | ⟨_, rfl⟩ <;> rfl

/-- With the lock of the application in hand, a login may come first. -/
theorem isStint_start (session : Session)
    (rest : ∀ outcome, (next outcome).IsStint .lifecycle (During before) before.stage []) :
    (session.start.andThen next).IsStint .lifecycle (During before) before.stage [] := by
  intro shared _
  change ((session.login _).andThen _ |>.andThen next).IsStint .lifecycle _ _ []
  rw [Routine.andThen_andThen]
  refine (session.isModest_loginLocked _).isStint_withLock (by decide) (.inl rfl) fun outcome => ?_
  cases outcome with
  | ok token => exact rest (.ok ())
  | error fault => exact rest (.error fault)

variable (application : Application)

theorem isStint_stopSession
    (rest : ∀ outcome, (next outcome).IsStint .lifecycle (During before) before.stage []) :
    (application.stopSession.andThen next).IsStint .lifecycle (During before) before.stage [] := by
  unfold stopSession
  cases application.session with
  | none => exact rest (.ok ())
  | some session =>
    have forgiven (fault : Fault) : (if fault.isSession then
        Routine.reportError (.ofFault "Error during logout at shutdown" fault)
        else throw fault : Routine Unit).IsModest := by
      split
      · exact Routine.isModest_modify (fun _ => rfl) fun _ => rfl
      · trivial
    change ((session.stop.andThen _).andThen next).IsStint .lifecycle _ _ []
    rw [Routine.andThen_andThen]
    refine session.isModest_logoutLocked.isStint_withLock (by decide) (.inl rfl) fun outcome => ?_
    cases outcome with
    | ok value => exact rest (.ok ())
    | error fault => exact (forgiven fault).isStint_andThen (.inl rfl) rest

/-- An HTTP session that has been told to close is waited for. -/
theorem isModest_waitClosed : application.waitClosed.IsModest := by
  refine Routine.IsModest.tryCatch ?_ fun raised => ?_
  · exact Routine.isModest_yieldTurn.bind fun _ => Routine.isModest_ofExcept _
  · simp only
    split
    · exact Routine.isModest_say _ _
    · trivial

theorem isStint_disconnect
    (rest : ∀ outcome, (next outcome).IsStint .lifecycle (During before) before.disconnected []) :
    (application.disconnect.andThen next).IsStint .lifecycle (During before) before.stage [] := by
  intro shared same
  have link : shared.connected = before.connected := congrArg (·.2.1) same
  change ((if shared.connected then application.close.ensuring _ else pure ()).andThen next).IsStint
    .lifecycle _ _ []
  cases connected : before.connected with
  | false =>
    have unchanged : before.disconnected = before.stage := by
      simp [Shared.disconnected, Shared.stage, connected]
    rw [link, connected]
    exact unchanged ▸ rest (.ok ())
  | true =>
    rw [link, connected, if_pos rfl, Routine.ensuring, Routine.andThen_andThen]
    refine .inl ⟨fun _ => rfl, before.disconnecting, fun later still => ?_, ?_⟩
    · simp only [Shared.stage, Prod.mk.injEq] at still
      simp [Shared.stage, Shared.disconnecting, still]
    refine application.isModest_waitClosed.isStint_andThen (.inr ⟨connected, rfl⟩) fun outcome => ?_
    refine .inl ⟨fun _ => rfl, before.disconnected, fun later still => ?_, rest outcome⟩
    simp only [Shared.stage, Shared.disconnecting, Prod.mk.injEq] at still
    simp [Shared.stage, Shared.disconnected, still, connected]

/-- A start is made wholly under the lock of the application. -/
theorem exists_isStint_start : ∃ body, application.start = Routine.withLock .lifecycle body ∧
    ∀ before : Shared, body.IsStint .lifecycle (During before) before.stage [] := by
  refine ⟨_, rfl, fun before => Routine.isModest_get.isStint_bind (.inl rfl) fun shared => ?_⟩
  have marked : (do
      Routine.modify ({ · with started := true })
      Routine.say .debug "🚀 Application context started" : Routine Unit).IsStint .lifecycle
        (During before) before.stage [] := by
    refine Routine.isStint_modify (fun _ => rfl)
      (fun shared same => congrArg (Prod.mk true) (congrArg Prod.snd same)) ?_
    exact .inl ⟨fun _ => rfl, _, fun _ same => same, rfl⟩
  split
  · split
    · refine isStint_start _ fun outcome => ?_
      cases outcome with
      | ok value => exact marked
      | error fault => rfl
    · exact marked
  · rfl

/-- So is a shutdown. -/
theorem exists_isStint_shutdown : ∃ body, application.shutdown = Routine.withLock .lifecycle body ∧
    ∀ before : Shared, body.IsStint .lifecycle (During before) before.stage [] := by
  refine ⟨_, rfl, fun before => (Routine.isModest_say _ _).isStint_bind (.inl rfl) fun _ => ?_⟩
  refine application.isStint_stopSession fun outcome => ?_
  cases outcome with
  | error fault => rfl
  | ok value =>
    refine application.isStint_disconnect fun outcome => ?_
    cases outcome with
    | error fault => rfl
    | ok value =>
      refine Routine.isStint_modify (fun _ => rfl)
        (fun shared same => congrArg (Prod.mk false) (congrArg Prod.snd same)) ?_
      refine Routine.isStint_modify (fun _ => rfl) (fun _ same => same) ?_
      refine .inl ⟨fun shared => (harmless_report shared).locked shared,
        (false, before.disconnected.2), fun shared same => ?_, rfl⟩
      exact ((harmless_report shared).stage shared).trans same

/-- Starts and shutdowns as calls of one service. -/
def service : Service Lifecycle where
  lock := .lifecycle
  perform
    | .start => application.start
    | .shutdown => application.shutdown
  during := During
  enclosed
    | .start => application.exists_isStint_start
    | .shutdown => application.exists_isStint_shutdown

end Application

/-! ## One call after the other -/

/-- No listener demands to stop, and something is held only while the application is started, and
only if exchanges have a timeout. -/
structure Session.Coherent (session : Session) (shared : Shared) : Prop where
  tame : shared.Tame
  unheld : shared.started = false → shared.held = none
  usable : shared.held ≠ none → ∃ timeout, session.settings.timeout = .ok timeout

theorem Session.Coherent.of_unheld {session : Session} {shared : Shared} (tame : shared.Tame)
    (unheld : shared.held = none) : session.Coherent shared :=
  ⟨tame, fun _ => unheld, fun held => absurd unheld held⟩

/-- A login that has no timeout is none. -/
theorem Session.run_start_of_unusable {session : Session} {fault : Fault}
    (useless : session.settings.timeout = .error fault) (endpoint : Endpoint) {before : Shared}
    (unheld : before.held = none) :
    ∃ after, before.UpToLog after ∧ session.start.run endpoint before = (after, .error fault) := by
  have spent : Spent none (before.lock .session).held := by
    intro credential held
    cases unheld.symm.trans held
  obtain ⟨_, ⟨log, rfl⟩, asked⟩ := run_ask_of_unusable useless endpoint
    (before.lock .session).instanceUrl? (before.lock .session)
  have refused : (session.loginLocked none).run endpoint (before.lock .session) =
      ({ before.lock .session with log := log }, .error fault) :=
    (run_loginLocked_of_spent endpoint spent).trans asked
  refine ⟨{ before with log := log }, ⟨log, rfl⟩, ?_⟩
  unfold start login
  rw [Routine.run_bind_of_ok endpoint (Routine.run_get endpoint before)]
  simp only [Shared.token?, unheld, Option.map_none]
  refine Routine.run_bind_of_error endpoint ?_ _
  rw [Routine.run_withLock, refused]
  simp [Shared.lock, Shared.unlock, unheld]

namespace Application

variable {application : Application} {session : Session} {endpoint : Endpoint} {before : Shared}

/-- What a call makes of what is shared, and what it comes to. -/
inductive Passes : Lifecycle → Shared → Except Fault Unit → Shared → Prop
  | again {before : Shared} (started : before.started = true) : Passes .start before (.ok ()) before
  | starts {before after : Shared} (unstarted : before.started = false)
      (held : after.held ≠ none) (stage : after.stage = (true, before.stage.2)) :
    Passes .start before (.ok ()) after
  | fails {before after : Shared} (fault : Fault) (unstarted : before.started = false)
      (unheld : after.held = none) (stage : after.stage = before.stage) :
    Passes .start before (.error fault) after
  | ends {before after : Shared} (unheld : after.held = none)
      (stage : after.stage = (false, before.disconnected.2)) :
    Passes .shutdown before (.ok ()) after

namespace Passes

variable {after : Shared} {outcome : Except Fault Unit} {fault : Fault}

/-- A start of a started application does nothing. -/
theorem of_started (passes : Passes .start before outcome after) (started : before.started = true) :
    outcome = .ok () ∧ after = before := by
  cases passes with
  | again => exact ⟨rfl, rfl⟩
  | starts unstarted => cases started.symm.trans unstarted
  | fails _ unstarted => cases started.symm.trans unstarted

theorem started (passes : Passes .start before (.ok ()) after) : after.started = true := by
  cases passes with
  | again started => exact started
  | starts _ _ stage => exact congrArg Prod.fst stage

/-- A start that raises leaves nothing behind. -/
theorem of_error (passes : Passes .start before (.error fault) after) :
    after.started = false ∧ after.held = none := by
  cases passes with
  | fails _ unstarted unheld stage =>
    exact ⟨(congrArg Prod.fst stage).trans unstarted, unheld⟩

/-- A shutdown does not raise and leaves nothing behind. -/
theorem of_shutdown (passes : Passes .shutdown before outcome after) :
    outcome = .ok () ∧ after.started = false ∧ after.held = none ∧ after.connected = false := by
  cases passes with
  | ends unheld stage =>
    simp only [Shared.stage, Shared.disconnected, Prod.mk.injEq] at stage
    exact ⟨rfl, stage.1, unheld, stage.2.1⟩

end Passes

theorem run_start_of_started (endpoint : Endpoint) (started : before.started = true) :
    application.start.run endpoint before = (before, .ok ()) := by
  unfold start
  rw [Routine.run_withLock, Routine.run_bind_of_ok endpoint (Routine.run_get endpoint _),
    if_neg (by simp [Shared.lock, started])]
  simp [Shared.lock, Shared.unlock]

theorem run_start_of_unusable {fault : Fault} (present : application.session = some session)
    (useless : session.settings.timeout = .error fault) (endpoint : Endpoint)
    (unheld : before.held = none) (unstarted : before.started = false) :
    ∃ after, before.UpToLog after ∧
      application.start.run endpoint before = (after, .error fault) := by
  have locked : (before.lock .lifecycle).held = none := unheld
  obtain ⟨after, ⟨log, rfl⟩, ran⟩ := Session.run_start_of_unusable useless endpoint locked
  refine ⟨{ before with log := log }, ⟨log, rfl⟩, ?_⟩
  unfold start
  rw [Routine.run_withLock, Routine.run_bind_of_ok endpoint (Routine.run_get endpoint _)]
  have fresh : (!(before.lock .lifecycle).started) = true := by simp [Shared.lock, unstarted]
  simp only [fresh, present, if_true]
  rw [Routine.run_bind_of_error endpoint ran]
  simp [Shared.lock, Shared.unlock]

/-- A start from a coherent state. -/
theorem passes_start (present : application.session = some session)
    (wrapped : endpoint.WrapsRevocations) (coherent : session.Coherent before) :
    Passes .start before (application.start.run endpoint before).2
        (application.start.run endpoint before).1 ∧
      session.Coherent (application.start.run endpoint before).1 := by
  cases started : before.started with
  | true =>
    rw [run_start_of_started endpoint started]
    exact ⟨.again started, coherent⟩
  | false =>
    have unheld := coherent.unheld started
    cases usable : session.settings.timeout with
    | error fault =>
      obtain ⟨after, ⟨log, rfl⟩, ran⟩ :=
        run_start_of_unusable present usable endpoint unheld started
      rw [ran]
      exact ⟨.fails fault started unheld rfl,
        .of_unheld ⟨coherent.tame.registered, coherent.tame.known⟩ unheld⟩
    | ok timeout =>
      obtain ⟨result, after, ran, tame, _, _, outcome⟩ :=
        run_start present usable wrapped coherent.tame unheld started
      rw [ran]
      generalize (session.settings.loginRequest timeout none).grant _ = granted at outcome
      cases granted with
      | ok grant =>
        obtain ⟨rfl, held, stage⟩ := outcome
        refine ⟨.starts started (by simp [held]) stage, tame, fun unstarted => ?_,
          fun _ => ⟨timeout, usable⟩⟩
        have active : after.started = true := congrArg Prod.fst stage
        cases active.symm.trans unstarted
      | error fault =>
        obtain ⟨rfl, empty, stage⟩ := outcome
        exact ⟨.fails fault started empty stage, .of_unheld tame empty⟩

/-- A shutdown from a coherent state. -/
theorem passes_shutdown (present : application.session = some session)
    (wrapped : endpoint.WrapsRevocations) (mild : ClosesMildly application.closing)
    (coherent : session.Coherent before) :
    Passes .shutdown before (application.shutdown.run endpoint before).2
        (application.shutdown.run endpoint before).1 ∧
      session.Coherent (application.shutdown.run endpoint before).1 := by
  obtain ⟨timeout, usable⟩ : ∃ timeout, before.held ≠ none →
      session.settings.timeout = .ok timeout := by
    by_cases held : before.held = none
    · exact ⟨default, fun present => absurd held present⟩
    · obtain ⟨timeout, usable⟩ := coherent.usable held
      exact ⟨timeout, fun _ => usable⟩
  obtain ⟨after, ran, quits⟩ := run_shutdown present usable wrapped mild coherent.tame
  rw [ran]
  exact ⟨.ends quits.unheld quits.stage, .of_unheld quits.tame quits.unheld⟩

variable {origin last : Shared} {completed : List (Completion Lifecycle)}

/-- Every call that is through did what calls do, from a coherent state on. -/
theorem passes_of_performed (present : application.session = some session)
    (wrapped : endpoint.WrapsRevocations) (mild : ClosesMildly application.closing)
    (coherent : session.Coherent origin)
    (performed : application.service.Performed endpoint origin completed last) :
    session.Coherent last ∧ ∀ completion ∈ completed,
      Passes completion.call completion.before completion.outcome completion.after := by
  induction performed with
  | none => exact ⟨coherent, by simp⟩
  | next completed completion _ ran ih =>
    obtain ⟨before, passed⟩ := ih
    have own : Passes completion.call completion.before completion.outcome completion.after ∧
        session.Coherent completion.after := by
      cases call : completion.call with
      | start =>
        rw [call] at ran
        have passes := passes_start present wrapped before
        rwa [show application.start.run endpoint completion.before = _ from ran] at passes
      | shutdown =>
        rw [call] at ran
        have passes := passes_shutdown present wrapped mild before
        rwa [show application.shutdown.run endpoint completion.before = _ from ran] at passes
    refine ⟨own.2, fun other member => ?_⟩
    rcases List.mem_cons.mp member with rfl | earlier
    · exact own.1
    · exact passed other earlier

/-- The application is started if the last call that did not raise was a start. -/
theorem started_iff_of_performed (unstarted : origin.started = false)
    (performed : application.service.Performed endpoint origin completed last)
    (passes : ∀ completion ∈ completed,
      Passes completion.call completion.before completion.outcome completion.after) :
    last.started = true ↔
      (completed.find? (·.outcome.isOk)).map (·.call) = some .start := by
  induction performed with
  | none => simp [unstarted]
  | next completed completion _ _ ih =>
    have before := ih fun other member => passes other (List.mem_cons_of_mem _ member)
    have own := passes completion List.mem_cons_self
    obtain ⟨task, call, outcome, first, after⟩ := completion
    cases own with
    | again started => simpa [Except.isOk, Except.toBool] using started
    | starts unstarted held stage =>
      have active : after.started = true := congrArg Prod.fst stage
      simp [Except.isOk, Except.toBool, active]
    | fails fault unstarted unheld stage =>
      have same : after.started = first.started := congrArg Prod.fst stage
      rw [same]
      simpa [Except.isOk, Except.toBool] using before
    | ends unheld stage =>
      have inactive : after.started = false := congrArg Prod.fst stage
      simp [Except.isOk, Except.toBool, inactive]

/-- The first shutdown closes the HTTP session. -/
theorem closings_of_performed (connected : origin.connected = true)
    (performed : application.service.Performed endpoint origin completed last)
    (passes : ∀ completion ∈ completed,
      Passes completion.call completion.before completion.outcome completion.after) :
    last.connected = !completed.any (·.call = .shutdown) ∧
      last.closings = origin.closings + if completed.any (·.call = .shutdown) then 1 else 0 := by
  induction performed with
  | none => simp [connected]
  | next completed completion _ _ ih =>
    obtain ⟨link, count⟩ := ih fun other member => passes other (List.mem_cons_of_mem _ member)
    have own := passes completion List.mem_cons_self
    obtain ⟨task, call, outcome, first, after⟩ := completion
    rw [List.any_cons]
    generalize completed.any _ = shut at link count ⊢
    cases own with
    | again started => simpa using ⟨link, count⟩
    | starts unstarted held stage =>
      simp only [Shared.stage, Prod.mk.injEq] at stage
      simpa [stage] using ⟨link, count⟩
    | fails fault unstarted unheld stage =>
      simp only [Shared.stage, Prod.mk.injEq] at stage
      simpa [stage] using ⟨link, count⟩
    | ends unheld stage =>
      simp only [Shared.stage, Shared.disconnected, Prod.mk.injEq] at stage
      cases shut <;> simp_all

/-- After a start that succeeded, further starts find the application started. -/
theorem again_of_performed {recent earlier : List (Completion Lifecycle)}
    {first : Completion Lifecycle}
    (performed : application.service.Performed endpoint origin (recent ++ first :: earlier) last)
    (passes : ∀ completion ∈ recent ++ first :: earlier,
      Passes completion.call completion.before completion.outcome completion.after)
    (start : first.call = .start) (succeeded : first.outcome = .ok ())
    (starts : ∀ completion ∈ recent, completion.call = .start) :
    last = first.after ∧ last.started = true ∧
      ∀ completion ∈ recent, completion.outcome = .ok () ∧ completion.after = first.after := by
  induction recent generalizing last with
  | nil =>
    have own := passes first List.mem_cons_self
    rw [start, succeeded] at own
    cases performed with
    | next _ _ _ _ => exact ⟨rfl, own.started, by simp⟩
  | cons completion others ih =>
    cases performed with
    | next _ _ before _ =>
      obtain ⟨same, started, settled⟩ := ih before
        (fun other member => passes other (List.mem_cons_of_mem _ member))
        fun other member => starts other (List.mem_cons_of_mem _ member)
      have own := passes completion List.mem_cons_self
      rw [starts completion List.mem_cons_self] at own
      obtain ⟨succeeded, idle⟩ := own.of_started started
      refine ⟨idle.trans same, idle ▸ started, fun other member => ?_⟩
      rcases List.mem_cons.mp member with rfl | earlier
      · exact ⟨succeeded, idle.trans same⟩
      · exact settled other earlier

/-! ## Blocks -/

/-- A block between a start and a shutdown, as a plan. -/
def block (body : Plan Lifecycle) : Plan Lifecycle :=
  .call .start fun
    | .ok () => body.andThen fun outcome => .call .shutdown fun
      | .ok () => .done outcome
      | .error fault => .done (.error fault)
    | .error fault => .call .shutdown fun
      | .ok () => .done (.error fault)
      | .error other => .done (.error other)

theorem routine_block (body : Plan Lifecycle) :
    (block body).routine application.service = application.inside (body.routine application.service)
    := by
  change application.start.andThen _ = (application.start.andThen _).andThen _
  rw [Routine.andThen_andThen]
  refine congrArg application.start.andThen (funext fun started => ?_)
  cases started with
  | ok value =>
    refine (Plan.routine_andThen application.service body _).trans ?_
    refine congrArg (Routine.andThen (body.routine application.service)) (funext fun outcome => ?_)
    refine congrArg application.shutdown.andThen (funext fun ended => ?_)
    cases ended <;> rfl
  | error fault =>
    change application.shutdown.andThen _ = (application.shutdown.andThen _).andThen _
    rw [Routine.andThen_andThen]
    refine congrArg application.shutdown.andThen (funext fun ended => ?_)
    cases ended <;> rfl

/-! ## Tasks that take their turns -/

/-- How an application fares while tasks start it and shut it down after their plans: the calls that
are through, the latest first, and what they have come to. -/
structure Lived (application : Application) (endpoint : Endpoint) (origin : Shared)
    (plans : List (Plan Lifecycle)) (course : Course Unit)
    (completed : List (Completion Lifecycle)) : Prop where
  /-- The calls are those that gave the lock of the application back. -/
  released : course.past.releases .lifecycle =
    completed.map fun completion => (completion.task, completion.after)
  /-- Every task is where its plan leads with what its calls have come to. -/
  planned : ∀ (number : Nat) (waiting : Waiting Unit), course.crew.tasks[number]? = some waiting →
    ∃ plan rest : Plan Lifecycle, plans[number]? = some plan ∧
      plan.Leads (Completion.own number completed) rest ∧
        ∀ outcome, waiting = .finished outcome → rest = .done outcome
  /-- Every call began with what the one before it had left, and nothing else has changed it. In the
  middle of a call, the stage of the application is the same still, or the HTTP session is being
  closed. -/
  performed : ∃ last, application.service.Performed endpoint origin completed last ∧
    During last course.crew.shared.stage ∧
      (course.crew.shared.locked = [] → course.crew.shared = last)
  /-- The application is started if and only if the last call that did not raise was a start. -/
  started : course.crew.shared.started = true ↔
    (completed.find? (·.outcome.isOk)).map (·.call) = some .start
  /-- A start of a started application sends nothing and changes nothing. -/
  again : ∀ completion ∈ completed, completion.call = .start → completion.before.started = true →
    completion.outcome = .ok () ∧ completion.after = completion.before
  /-- So of many starts, only those up to the first one that succeeds do anything. -/
  settled : ∀ recent first earlier, completed = recent ++ first :: earlier →
    first.call = .start → first.outcome = .ok () →
    (∀ completion ∈ recent, completion.call = .start) →
    ∀ completion ∈ recent, completion.outcome = .ok () ∧ completion.after = first.after
  failed : ∀ completion ∈ completed, ∀ fault, completion.call = .start →
    completion.outcome = .error fault →
    completion.after.started = false ∧ completion.after.held = none
  shut : ∀ completion ∈ completed, completion.call = .shutdown →
    completion.outcome = .ok () ∧ completion.after.started = false ∧
      completion.after.held = none ∧ completion.after.connected = false
  /-- The HTTP session is told to close by the first shutdown, which may have to wait for it, and by
  no other one. -/
  closed : course.crew.shared.closings =
      (origin.closings + if completed.any (·.call = .shutdown) then 1 else 0) ∨
    course.crew.shared.locked ≠ [] ∧ course.crew.shared.connected = true ∧
      (∀ completion ∈ completed, completion.call ≠ .shutdown) ∧
        course.crew.shared.closings = origin.closings + 1
  /-- A block whose start raises goes on with a shutdown, and then the fault of the start is what
  the block has come to. -/
  reraised : ∀ (number : Nat) (plan : Plan Lifecycle) (waiting : Waiting Unit),
    plans[number]? = some plan → course.crew.tasks[number]? = some waiting →
    ∀ body next seen later fault, plan.Leads seen ((block body).andThen next) →
    Completion.own number completed = seen ++ (.start, .error fault) :: later →
    later = [] ∨ ∃ more rest, later = (.shutdown, .ok ()) :: more ∧
      (next (.error fault)).Leads more rest ∧
        ∀ outcome, waiting = .finished outcome → rest = .done outcome

variable {plans : List (Plan Lifecycle)} {course : Course Unit} {tenant : Option Nat}

theorem lived_of_attends (present : application.session = some session)
    (wrapped : endpoint.WrapsRevocations) (mild : ClosesMildly application.closing)
    (coherent : session.Coherent origin) (unstarted : origin.started = false)
    (connected : origin.connected = true)
    (attends : course.Attends application.service endpoint origin plans completed tenant) :
    Lived application endpoint origin plans course completed := by
  obtain ⟨last, performed, stage, vacant⟩ := attends.last
  have during : During last course.crew.shared.stage := stage.elim .inl id
  obtain ⟨_, passes⟩ := passes_of_performed present wrapped mild coherent performed
  have same : course.crew.shared.started = last.started := during.started
  have shut : ∀ completion ∈ completed, completion.call = .shutdown →
      completion.outcome = .ok () ∧ completion.after.started = false ∧
        completion.after.held = none ∧ completion.after.connected = false :=
    fun completion member call => Passes.of_shutdown (call ▸ passes completion member)
  refine ⟨attends.released, fun number waiting at? => attends.planned at?,
    ⟨last, performed, during, vacant⟩, ?_, ?_, ?_, ?_, shut, ?_, ?_⟩
  · rw [same]
    exact started_iff_of_performed unstarted performed passes
  · intro completion member call started
    exact Passes.of_started (call ▸ passes completion member) started
  · rintro recent first earlier rfl start succeeded starts
    exact (again_of_performed performed passes start succeeded starts).2.2
  · intro completion member fault call raised
    have own := passes completion member
    rw [call, raised] at own
    exact own.of_error
  · obtain ⟨link, count⟩ := closings_of_performed connected performed passes
    rcases during with same | ⟨last_connected, closing⟩
    · exact .inl ((congrArg (fun stage => stage.2.2.2) same).trans count)
    have counted : course.crew.shared.closings = last.closings + 1 :=
      congrArg (fun stage => stage.2.2.2) closing
    have none_shut : completed.any (·.call = .shutdown) = false := by
      simpa [last_connected] using link
    refine .inr ⟨fun unlocked => ?_, (congrArg (·.2.1) closing).trans last_connected, ?_, ?_⟩
    · rw [vacant unlocked] at counted
      exact absurd counted (Nat.ne_of_lt (Nat.lt_succ_self _))
    · simpa using none_shut
    · rw [counted, count, none_shut]
      rfl
  · intro number plan waiting planned at? body next seen later fault leads own
    obtain ⟨other, rest, planned', led, finished⟩ := attends.planned at?
    obtain rfl := Option.some.inj (planned'.symm.trans planned)
    rw [own] at led
    have onwards := Plan.Leads.of_append leads led
    cases later with
    | nil => exact .inl rfl
    | cons entry more =>
      cases onwards with
      | call outcome leads =>
        obtain ⟨completion, member, entry⟩ := Completion.exists_of_mem_own
          (show (Lifecycle.shutdown, outcome) ∈ Completion.own number completed by simp [own])
        obtain ⟨call, ended⟩ := Prod.mk.inj entry
        obtain rfl : outcome = .ok () := ended.symm.trans (shut completion member call).1
        exact .inr ⟨more, rest, rfl, leads, finished⟩

theorem of_create {settings : Settings} {opens : Bool} {closing : Except Fault Unit}
    (created : (create (some settings) opens closing).run endpoint before =
      (origin, .ok application)) :
    application = ⟨some ⟨settings⟩, closing⟩ ∧ origin.held = before.held ∧
      origin.started = before.started ∧ origin.locked = before.locked ∧ origin.connected = true ∧
        (before.Tame → origin.Tame) := by
  obtain ⟨rfl, outcome⟩ := Prod.mk.inj created
  exact ⟨(Except.ok.inj outcome).symm, rfl, rfl, rfl, rfl,
    fun tame => ⟨tame.registered, tame.known⟩⟩

/-- **The life of an application.** Any number of tasks start an application that was created, shut
it down and use it in blocks, in whatever order they go on, whatever is answered and whatever
closing the HTTP session comes to. The calls take effect one after the other, each as if it were
alone: the application is started exactly if the last call that did not raise was a start, starts
ask for logins only until one succeeds, a start that raises leaves nothing behind, a shutdown never
raises and leaves nothing behind, and the HTTP session is closed by the first shutdown only. A block
whose start raises comes to the fault of the start after a shutdown. However the turns are given,
all tasks come to their end. -/
theorem lived_follow {settings : Settings} {opens : Bool} {closing : Except Fault Unit}
    {application : Application} {endpoint : Endpoint} {before origin : Shared}
    (created : (create (some settings) opens closing).run endpoint before =
      (origin, .ok application))
    (unheld : before.held = none) (unstarted : before.started = false)
    (unlocked : before.locked = []) (tame : before.Tame) (wrapped : endpoint.WrapsRevocations)
    (mild : ClosesMildly closing) {events : List (Event (Plan Lifecycle))}
    (unbroken : Event.Breaks (fun _ => False) events) :
    let course := (Course.initial origin).follow endpoint (Plan.routine application.service) events
    (∃ completed, Lived application endpoint origin (Event.begun events) course completed) ∧
      Course.Inevitably endpoint
        (fun final => final.IsOver ∧ final.crew.shared.locked = [] ∧
          ∃ completed, Lived application endpoint origin (Event.begun events) final completed)
        course := by
  intro course
  obtain ⟨rfl, held, started, locked, connected, still⟩ := of_create created
  have coherent : Session.Coherent ⟨settings⟩ origin := .of_unheld (still tame) (held.trans unheld)
  have lives {course : Course Unit} {completed : List (Completion Lifecycle)} {tenant : Option Nat}
      (attends : course.Attends (service ⟨some ⟨settings⟩, closing⟩) endpoint origin
        (Event.begun events) completed tenant) :=
    lived_of_attends rfl wrapped mild coherent (started.trans unstarted) connected attends
  obtain ⟨completed, tenant, attends⟩ := Course.attends_follow
    (service ⟨some ⟨settings⟩, closing⟩) endpoint (locked.trans unlocked) unbroken
  refine ⟨⟨completed, lives attends⟩, attends.inevitably ?_⟩
  exact fun final completed tenant attends complete =>
    ⟨complete, attends.unlocked complete, completed, lives attends⟩

theorem lived_follow_block :
    let settings : Settings := ⟨"https://login.test", "id", "secret", "user", "password", 5000⟩
    let endpoint : Endpoint := fun earlier _ => .later (.ok
      (if earlier.isEmpty then ⟨500, none, .bytes []⟩ else ⟨200, none,
        .text "\x7b\"access_token\": \"t1\", \"instance_url\": \"https://a.test\"\x7d"⟩))
    let failing : Listener :=
      { name := "failing", onLogin := some fun _ _ => [.pause, .fail (.configuration .noSettings)],
        onLogout := some fun _ _ => [.note] }
    let before : Shared := { listeners := ⟨[failing]⟩, roster := [failing] }
    let closing : Except Fault Unit := .error (.foreign ⟨"OSError", "", .system, none⟩)
    let plans : List (Plan Lifecycle) :=
      [block (.pause .done), .call .start .done, .call .start fun _ => .call .shutdown .done]
    ∃ origin application,
      (create (some settings) true closing).run endpoint before = (origin, .ok application) ∧
      Course.Inevitably endpoint
        (fun final => final.IsOver ∧ final.crew.shared.locked = [] ∧
          ∃ completed, Lived application endpoint origin plans final completed)
        ((Course.initial origin).follow endpoint (Plan.routine application.service)
          (plans.map .begins)) := by
  intro settings endpoint failing before closing plans
  have wrapped : endpoint.WrapsRevocations := fun request _ _ earlier fault failed => nomatch failed
  have mild : ClosesMildly closing := by
    intro raised failed
    obtain rfl := Except.error.inj failed
    rfl
  have calm : ¬ failing.Halts := by
    rintro ⟨occasion, earlier, fault, member, demand⟩
    cases occasion with
    | logout => simp [failing, Listener.moves, Listener.callback?] at member
    | login token url =>
      obtain rfl : fault = .configuration .noSettings := by
        simpa [failing, Listener.moves, Listener.callback?] using member
      cases demand
  have tame : before.Tame :=
    ⟨fun listener member => List.mem_singleton.mp member ▸ calm,
      fun listener member => List.mem_singleton.mp member ▸ calm⟩
  have unbroken : Event.Breaks (fun _ => False) (plans.map .begins) := by
    simp [Event.Breaks, plans]
  obtain ⟨origin, created⟩ : ∃ origin, (create (some settings) true closing).run endpoint before =
      (origin, .ok ⟨some ⟨settings⟩, closing⟩) := ⟨_, rfl⟩
  exact ⟨origin, _, created,
    (lived_follow created rfl rfl rfl tame wrapped mild unbroken).2⟩

end Application

end SessionKeeper
