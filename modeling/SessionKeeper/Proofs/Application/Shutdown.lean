import SessionKeeper.Proofs.Application.Stage
import SessionKeeper.Proofs.Session.Draft

/-! # What a shutdown comes to

A shutdown logs out, closes the HTTP session and marks the application as not started, in this
order. A failed revocation that exchanges wrap is forgiven. Any other fault that the logout ends
with escapes before the HTTP session is closed: an answer that no exchange wraps, a timeout that is
of no use, or a demand to stop (`Session.Explains`). While the HTTP session is being closed, others
go on, and the wait may fail or be broken off (`Application.Closing`); there is no HTTP session
afterwards all the same. So the application is shut down, or left as it was, depending on what the
revocation was answered (`Application.ShutDown`, `Application.shutDown_follow`).
-/

namespace SessionKeeper

variable {regime : Regime} {number : Nat} {world after : World}
  {stage : Stage} {heard : List (Request × Answer)} {result : Except Fault Unit}

theorem Fault.isSession_of_demand {fault : Fault} (demand : fault.isFailure = false) :
    fault.isSession = false := by
  cases fault with
  | foreign incident => rfl
  | _ => cases demand

theorem Request.isFailure_wrap (request : Request) {fault : Fault}
    (demand : fault.isFailure = false) : (request.wrap fault).isFailure = false := by
  cases fault with
  | foreign incident =>
    have halting : incident.nature = .halting := by simpa [Fault.isFailure] using demand
    have unwrapped : request.failureOf incident = none := by simp [Request.failureOf, halting]
    simp only [Request.wrap, unwrapped]
    exact (Listener.isFailure_awaited _).trans demand
  | _ => cases demand

namespace Session

variable {session : Session}

/-- The answers that a logout got explain what it came to: if it failed as sessions do, if at all,
then so did every answer; and any other fault, unless it is a demand to stop, is that of an answer,
or that of a timeout that is of no use. -/
structure Explains (session : Session) (heard : List (Request × Answer))
    (result : Except Fault Unit) : Prop where
  mild : (∀ fault, result = .error fault → fault.isSession = true) →
    ∀ request answer fault, (request, answer) ∈ heard → request.settle answer = .error fault →
      fault.isSession = true
  cause : ∀ fault, result = .error fault → fault.isSession = false → fault.isFailure = true →
    (∃ request answer, (request, answer) ∈ heard ∧ request.settle answer = .error fault) ∨
      session.settings.timeout = .error fault

/-- A demand to stop needs no explanation. -/
theorem Explains.of_demand {fault : Fault} (demand : fault.isFailure = false) :
    session.Explains heard (.error fault) where
  mild forgiven := by
    have forgiven := forgiven fault rfl
    rw [Fault.isSession_of_demand demand] at forgiven
    cases forgiven
  cause := by
    rintro _ ⟨rfl⟩ _ failure
    rw [demand] at failure
    cases failure

theorem Explains.of_ok : session.Explains [] (.ok ()) :=
  ⟨fun _ _ _ _ member => absurd member List.not_mem_nil, nofun⟩

/-- A revocation comes to what it was answered. -/
theorem Explains.of_answer (request : Request) (answer : Answer) :
    session.Explains [(request, answer)] (revokeOutcome (request.settle answer)) where
  mild forgiven := by
    intro other last fault member failed
    obtain ⟨rfl, rfl⟩ := Prod.mk.inj (List.mem_singleton.mp member)
    exact forgiven fault (by rw [failed]; rfl)
  cause := by
    intro fault failed grave _
    cases settled : request.settle answer with
    | error other =>
      rw [settled] at failed
      cases failed
      exact .inl ⟨request, answer, List.mem_singleton_self _, settled⟩
    | ok response =>
      simp only [settled, revokeOutcome] at failed
      split at failed
      · cases failed
      · cases failed
        cases grave

theorem Revoked.explains {token : String} {url : Option Text}
    (cancelled : ∀ fault, regime.breaks fault → fault.isFailure = false)
    (staged : Staged number stage [] world)
    (revoked : session.Revoked regime number ↑token url world result after) :
    ∃ heard, Staged number stage heard after ∧ session.Explains heard result := by
  cases revoked with
  | undrafted fault draft =>
    refine ⟨[], staged, fun _ _ _ _ member => absurd member List.not_mem_nil, ?_⟩
    rintro _ ⟨rfl⟩ _ _
    rw [Settings.draftLogout_ofString] at draft
    cases usable : session.settings.timeout with
    | error other =>
      rw [usable] at draft
      exact .inr (congrArg Except.error (Except.error.inj draft))
    | ok timeout => simp [usable, Except.map] at draft
  | exchanged request draft outcome between after exchanged calmly =>
    have sending := staged.sends request
    cases exchanged with
    | answered answer delivered later meanwhile =>
      exact ⟨_, ((sending.calmly meanwhile.calmly).hears request answer).calmly calmly,
        .of_answer request answer⟩
    | brokenOff fault breaks later meanwhile =>
      have stopped := (sending.calmly meanwhile.calmly).stops fault
      exact ⟨[], stopped.calmly calmly,
        .of_demand (request.isFailure_wrap (cancelled fault breaks))⟩

theorem LogoutVisit.explains (cancelled : ∀ fault, regime.breaks fault → fault.isFailure = false)
    (staged : Staged number stage [] world) (holding : world.holder .session = some number)
    (visit : session.LogoutVisit regime number world result after) :
    ∃ heard, Staged number stage heard after ∧ session.Explains heard result := by
  cases visit with
  | absent unheld => exact ⟨[], staged, .of_ok⟩
  | present credential held outcome after revoking =>
    obtain ⟨revoked, cleared, between, _, revoking, clearing⟩ := revoking
    obtain ⟨heard, asked, explains⟩ := revoking.explains cancelled staged
    refine ⟨heard, ?_, ?_⟩
    · refine Cleared.keeps clearing (World.KeptAside.calm Staged.keptAside) ?_ ?_
        ((revoking.grips .session).mpr holding) asked
      · exact fun world staged => staged.assigns none
      · exact fun world notice staged => staged.tells notice
    · cases told : cleared with
      | ok value => exact explains
      | error fault => exact .of_demand (Listener.Told.demand clearing told)

/-- A logout by a task that has the lock of the application. -/
theorem ensures_stop (cancelled : ∀ fault, regime.breaks fault → fault.isFailure = false)
    (free : ∀ world, regime.free .session world) (staged : Staged number stage [] world)
    (unheld : world.holder .session ≠ some number) :
    session.stop.Ensures regime number
      (fun result after => world.Grips number after ∧
        ∃ heard, Staged number stage heard after ∧ session.Explains heard result) world := by
  apply Routine.ensures_visit does_logoutLocked (fun _ _ _ visit => visit.grips) unheld
  · intro before result after meanwhile _ _ visit _
    obtain ⟨heard, staged, explains⟩ :=
      visit.explains cancelled (staged.calmly meanwhile.calmly).takes World.holder_takes
    exact ⟨free _, fun gripped => ⟨gripped, heard, staged.releases, explains⟩⟩
  · intro before fault meanwhile breaks gripped
    have stopped := (staged.calmly meanwhile.calmly).stops fault
    exact ⟨gripped, [], stopped, .of_demand (cancelled fault breaks)⟩

end Session

/-- The stage after the HTTP session was closed, if there was one. -/
def Shared.disconnected (shared : Shared) : Stage :=
  (shared.started, false, shared.openings,
    if shared.connected then shared.closings + 1 else shared.closings)

/-- The stage while the HTTP session is being closed: it has been told to, and is there still. -/
def Shared.disconnecting (shared : Shared) : Stage :=
  (shared.started, shared.connected, shared.openings, shared.closings + 1)

theorem Shared.harmless_reportError (notice : ErrorNotice) (before : Shared) :
    Harmless (·.reportError notice) before where
  held _ := rfl
  notices _ := rfl
  locked _ := rfl
  stage _ := rfl
  sent := rfl
  roster := rfl
  enrolment := .inl rfl

namespace Application

/-- What the logout of a shutdown comes to, by the answers that it got. -/
inductive LoggedOff (application : Application) (heard : List (Request × Answer)) :
    Except Fault Unit → Prop
  /-- Every failure to answer was one that exchanges wrap. -/
  | done (mild : ∀ request answer fault, (request, answer) ∈ heard →
        request.settle answer = .error fault → fault.isSession = true) :
    LoggedOff application heard (.ok ())
  /-- A fault escaped: that of an answer, that of the timeout, or a demand to stop. -/
  | failed (fault : Fault) (grave : fault.isSession = false)
      (cause : fault.isFailure = true →
        (∃ request answer, (request, answer) ∈ heard ∧ request.settle answer = .error fault) ∨
          ∃ session, application.session = some session ∧
            session.settings.timeout = .error fault) :
    LoggedOff application heard (.error fault)

/-- What closing the HTTP session comes to, by the faults that may break off a wait. -/
inductive Closing (application : Application) (breaks : Fault → Prop) : Except Fault Unit → Prop
  /-- It was closed, or it failed to as HTTP sessions and systems do. -/
  | done : Closing application breaks (.ok ())
  | raised (raised : Fault) (closing : application.closing = .error raised)
      (grave : raised.awaited.isClientOrSystem = false) :
    Closing application breaks (.error raised.awaited)
  /-- It was told to close, and then the wait was broken off. -/
  | brokenOff (fault : Fault) (breaking : breaks fault) :
    Closing application breaks (.error fault.awaited)

/-- What a shutdown makes of an application, by the answers that its logout got. -/
inductive ShutDown (application : Application) (heard : List (Request × Answer))
    (before after : Shared) : Except Fault Unit → Prop
  /-- There is no HTTP session any more; if there was one, it was closed once. -/
  | released (off : application.LoggedOff heard (.ok ())) (stopped : after.started = false)
      (disconnected : after.stage.2 = before.disconnected.2) :
    ShutDown application heard before after (.ok ())
  /-- The HTTP session was closed, and closing it failed in a way of its own. -/
  | unclosed (off : application.LoggedOff heard (.ok ())) (raised : Fault)
      (closing : application.closing = .error raised)
      (grave : raised.awaited.isClientOrSystem = false) (connected : before.connected = true)
      (disconnected : after.stage = before.disconnected) :
    ShutDown application heard before after (.error raised.awaited)
  /-- The HTTP session was told to close, and waiting for it ended with a demand to stop. -/
  | abandoned (off : application.LoggedOff heard (.ok ())) (fault : Fault)
      (demand : fault.isFailure = false) (connected : before.connected = true)
      (disconnected : after.stage = before.disconnected) :
    ShutDown application heard before after (.error fault)
  /-- Everything is as it was. -/
  | kept (fault : Fault) (failed : application.LoggedOff heard (.error fault))
      (same : after.stage = before.stage) :
    ShutDown application heard before after (.error fault)

variable {application : Application}

/-- What the answers explain of a logout they explain of that of an application. -/
theorem LoggedOff.of_explains {session : Session} (present : application.session = some session)
    {fault : Fault} (explains : session.Explains heard (.error fault))
    (grave : fault.isSession = false) : application.LoggedOff heard (.error fault) :=
  .failed fault grave fun failure => (explains.cause fault rfl grave failure).imp_right
    fun unusable => ⟨session, present, unusable⟩

theorem ensures_stopSession (cancelled : ∀ fault, regime.breaks fault → fault.isFailure = false)
    (free : ∀ world, regime.free .session world) (staged : Staged number stage [] world)
    (unheld : world.holder .session ≠ some number) :
    application.stopSession.Ensures regime number
      (fun result after => world.Grips number after ∧
        ∃ heard, Staged number stage heard after ∧ application.LoggedOff heard result) world := by
  unfold stopSession
  cases present : application.session with
  | none =>
    simp only
    exact ⟨.refl, [], staged, .done fun _ _ _ member => absurd member List.not_mem_nil⟩
  | some session =>
    simp only
    rw [Routine.ensures_tryCatch]
    apply (Session.ensures_stop cancelled free staged unheld).mono
    rintro (fault | ⟨⟨⟩⟩) after ⟨gripped, heard, staged, explains⟩
    · simp only
      split
      · rename_i mild
        apply (Routine.ensures_modify (Shared.harmless_reportError _ _)).mono
        rintro _ later ⟨rfl, calmly⟩
        refine ⟨gripped.trans calmly.grips, heard, staged.calmly calmly,
          .done (explains.mild fun other same => ?_)⟩
        cases same
        exact mild
      · rename_i grave
        exact ⟨gripped, heard, staged, .of_explains present explains (by simpa using grave)⟩
    · exact ⟨gripped, heard, staged, .done (explains.mild nofun)⟩

theorem ensures_waitClosed :
    application.waitClosed.Ensures regime number
      (fun result after => world.Calmly number after ∧ application.Closing regime.breaks result)
      world := by
  have handled {raised : Fault} {later : World} (calmly : world.Calmly number later)
      (ending : raised.awaited.isClientOrSystem = false →
        application.Closing regime.breaks (.error raised.awaited)) :
      (if raised.awaited.isClientOrSystem then
          Routine.say .error ("💥 Error closing HTTP session: " ++ raised.awaited.message)
        else throw raised.awaited : Routine Unit).Ensures regime number
        (fun result after =>
          world.Calmly number after ∧ application.Closing regime.breaks result) later := by
    split
    · apply (Routine.ensures_say _ _).mono
      rintro _ after ⟨rfl, said⟩
      exact ⟨calmly.trans said, .done⟩
    · rename_i grave
      exact ⟨calmly, ending (by simpa using grave)⟩
  unfold waitClosed
  rw [Routine.ensures_tryCatch, Routine.ensures_bind]
  apply Routine.ensures_yieldTurn.mono
  rintro (fault | ⟨⟨⟩⟩) later ⟨calmly, broken⟩
  · exact handled calmly fun _ => .brokenOff fault (broken fault rfl).1
  · simp only
    rw [Routine.ensures_ofExcept]
    cases closing : application.closing with
    | ok value => exact ⟨calmly, .done⟩
    | error raised => exact handled calmly fun grave => .raised raised closing grave

/-- The HTTP session is told to close, whatever comes of it. -/
theorem ensures_close {before : Shared} (staged : Staged number before.stage heard world) :
    application.close.Ensures regime number
      (fun result after => world.Grips number after ∧
        Staged number before.disconnecting heard after ∧
          application.Closing regime.breaks result) world := by
  unfold close
  rw [Routine.ensures_bind]
  refine staged.ensures_modify ⟨fun _ => rfl, fun _ => rfl, fun _ => rfl, rfl, rfl, rfl⟩ ?_
  intro between gripped told
  have told : Staged number before.disconnecting heard between := by
    have stage := staged.stage
    simp only [Shared.stage, Prod.mk.injEq] at stage
    simpa [Shared.stage, Shared.disconnecting, stage] using told
  refine ensures_waitClosed.mono ?_
  exact fun result after ⟨calmly, ending⟩ =>
    ⟨gripped.trans calmly.grips, told.calmly calmly, ending⟩

theorem ensures_disconnect {before : Shared} (staged : Staged number before.stage heard world) :
    application.disconnect.Ensures regime number
      (fun result after => world.Grips number after ∧
        Staged number before.disconnected heard after ∧
        (result = .ok () ∨ before.connected = true ∧ application.Closing regime.breaks result))
      world := by
  unfold disconnect
  rw [Routine.ensures_bind, Routine.ensures_get]
  have same : world.shared.connected = before.connected := congrArg (·.2.1) staged.stage
  simp only [same]
  cases connected : before.connected with
  | false =>
    refine ⟨.refl, ?_, .inl rfl⟩
    rw [Shared.disconnected, connected]
    simpa [Shared.stage, connected] using staged
  | true =>
    simp only [if_true]
    rw [Routine.ensures_ensuring]
    apply (ensures_close staged).mono
    intro result between ⟨gripped, closed, ending⟩
    refine closed.ensures_modify ⟨fun _ => rfl, fun _ => rfl, fun _ => rfl, rfl, rfl, rfl⟩ ?_
    intro after still disconnected
    refine ⟨gripped.trans still, ?_, .inr ⟨trivial, ending⟩⟩
    have stage := closed.stage
    simp only [Shared.stage, Shared.disconnecting, Prod.mk.injEq] at stage
    simpa [Shared.stage, Shared.disconnected, connected, stage] using disconnected

theorem harmless_report (before : Shared) :
    Shared.Harmless (fun shared =>
      shared.ledger.report.foldl (fun shared line => shared.say line.1 line.2) shared) before where
  held shared := (Shared.harmless_report shared.ledger.report shared).held shared
  notices shared := (Shared.harmless_report shared.ledger.report shared).notices shared
  locked shared := (Shared.harmless_report shared.ledger.report shared).locked shared
  stage shared := (Shared.harmless_report shared.ledger.report shared).stage shared
  sent := (Shared.harmless_report before.ledger.report before).sent
  roster := (Shared.harmless_report before.ledger.report before).roster
  enrolment := (Shared.harmless_report before.ledger.report before).enrolment

/-- What a shutdown does under the lock of the application. -/
private theorem ensures_shutDown {before : Shared}
    (cancelled : ∀ fault, regime.breaks fault → fault.isFailure = false)
    (free : ∀ world, regime.free .session world) (staged : Staged number before.stage [] world)
    (unheld : world.holder .session ≠ some number) :
    (do
      Routine.say .info "🔻 Application context shutdown initiated"
      application.stopSession
      application.disconnect
      Routine.modify ({ · with started := false })
      Routine.say .info "✅ Application context shutdown complete"
      reportErrors : Routine Unit).Ensures regime number
      (fun result after => world.Grips number after ∧ ∃ stage heard,
        Staged number stage heard after ∧ application.ShutDown heard before after.shared result)
      world := by
  rw [Routine.ensures_bind]
  apply (Routine.ensures_say _ _).mono
  rintro _ first ⟨rfl, calmly⟩
  simp only
  rw [Routine.ensures_bind]
  have still : first.holder .session ≠ some number :=
    fun holds => unheld ((calmly.grips .session).mp holds)
  apply (ensures_stopSession cancelled free (staged.calmly calmly) still).mono
  rintro (fault | ⟨⟨⟩⟩) second ⟨off, heard, staged, loggedOff⟩
  · exact ⟨calmly.grips.trans off, _, heard, staged, .kept fault loggedOff staged.stage⟩
  simp only
  rw [Routine.ensures_bind]
  apply (ensures_disconnect staged).mono
  rintro (fault | ⟨⟨⟩⟩) third ⟨closing, disconnected, ending⟩
  · have stage := disconnected.stage
    have still := (calmly.grips.trans off).trans closing
    obtain ⟨connected, ending⟩ := ending.resolve_left nofun
    cases ending with
    | raised raised closed grave =>
      exact ⟨still, _, heard, disconnected, .unclosed loggedOff raised closed grave connected stage⟩
    | brokenOff fault breaking =>
      have demand := (Listener.isFailure_awaited fault).trans (cancelled fault breaking)
      exact ⟨still, _, heard, disconnected, .abandoned loggedOff _ demand connected stage⟩
  · simp only
    rw [Routine.ensures_bind]
    refine disconnected.ensures_modify
      ⟨fun _ => rfl, fun _ => rfl, fun _ => rfl, rfl, rfl, rfl⟩ ?_
    intro fourth ended stopped
    simp only
    rw [Routine.ensures_bind]
    apply (Routine.ensures_say _ _).mono
    rintro _ fifth ⟨rfl, said⟩
    apply (Routine.ensures_modify (harmless_report _)).mono
    rintro _ last ⟨rfl, reported⟩
    have final := (stopped.calmly said).calmly reported
    refine ⟨?_, _, heard, final, .released loggedOff ?_ ?_⟩
    · exact (((calmly.grips.trans off).trans closing).trans ended).trans
        (said.grips.trans reported.grips)
    · exact congrArg (·.1) final.stage
    · rw [final.stage, ← disconnected.stage]
      rfl

/-- A shutdown by a task, from the lock of the application on. -/
inductive Finished (application : Application) (number : Nat) :
    Except Fault Unit → World → Prop
  /-- The task was stopped before it got the lock. -/
  | refused (fault : Fault) (demand : fault.isFailure = false) (before : World)
      (unknown : ∀ moment ∈ before.past, moment.task ≠ number) :
    Finished application number (.error fault) (before.stops number fault)
  | entered (before last : World) (vacant : before.holder .lifecycle = none)
      (leads : (before.takes number .lifecycle).Leads last) (result : Except Fault Unit)
      (shut : application.ShutDown (last.past.heardBy number) before.shared last.shared result) :
    Finished application number result (last.releases number .lifecycle)

theorem fulfils_shutdown (cancelled : ∀ fault, regime.breaks fault → fault.isFailure = false)
    (free : ∀ lock world, regime.free lock world)
    (unknown : ∀ moment ∈ world.past, moment.task ≠ number) :
    application.shutdown.Fulfils regime number (application.Finished number) world := by
  have idle := World.idle_of_past unknown
  apply Routine.ensures_lock fun held holds => absurd holds (idle held)
  · intro before meanwhile vacant _
    obtain ⟨entered, unheld⟩ := Staged.enters idle meanwhile
    rw [(History.readings_of_unknown (meanwhile.unknown unknown)).2.1] at entered
    apply ((ensures_shutDown cancelled (free .session) entered unheld).following .refl).mono
    rintro result last ⟨⟨gripped, stage, heard, staged, shut⟩, leads⟩
    rw [← staged.heard] at shut
    exact ⟨staged.holding, free _ _, .entered before last vacant leads result shut,
      gripped.leaves unheld⟩
  · intro before fault meanwhile breaks
    exact ⟨.refused fault (cancelled fault breaks) before (meanwhile.unknown unknown),
      (meanwhile.calmly.grips.trans (World.grips_did (by simp) (by simp))).idle idle⟩

/-- Nothing is left to show of the locks of an application whose waits are broken off by demands to
stop only. -/
def lifeRegime (endpoint : Endpoint) : Regime :=
  Regime.ofFree endpoint (fun fault => fault.isFailure = false) fun _ => True

theorem free_lifeRegime {endpoint : Endpoint} (lock : Lock) (world : World) :
    (lifeRegime endpoint).free lock world :=
  Regime.free_ofFree trivial lock

/-- A call keeps to the rules where there are none. -/
theorem keeps_lifeRegime {session : Session} {endpoint : Endpoint} {call : Call} :
    session.Keeps (lifeRegime endpoint) (fun _ => True) number call where
  aside _ _ _ _ _ := trivial
  login _ _ _ _ _ _ _ _ _ _ := ⟨trivial, trivial⟩
  logout _ _ _ _ _ _ _ _ _ := ⟨trivial, trivial⟩
  install _ _ _ _ _ _ _ _ _ _ := ⟨trivial, trivial⟩
  sends _ _ _ _ _ _ _ _ _ := trivial
  hears _ _ _ _ _ := trivial

/-- **What becomes of a shutdown.** Whatever an application and its session are asked for by however
many tasks, in whatever order they go on, whatever the endpoint answers and the listeners do: a
shutdown that has come to its end was stopped before it began, or it has closed the HTTP session and
stopped the application, or, if a fault escaped its logout, has left both as they were. A fault
escapes if the revocation was answered by a failure that exchanges do not wrap. If closing the HTTP
session fails in a way of its own, or waiting for it is broken off, there is no HTTP session any
more, but the application counts as started. -/
theorem shutDown_follow (application : Application) (session : Session) (endpoint : Endpoint)
    {shared : Shared} (unlocked : shared.locked = []) (events : List (Event Errand))
    (cancelled : Event.Breaks (fun fault => fault.isFailure = false) events) :
    let errands := Event.begun events
    let course := (Course.initial shared).follow endpoint (application.perform session) events
    ∀ number outcome, errands[number]? = some .shutdown → course.Returns number outcome →
      ∃ after, course.Passes after ∧ after.Meanwhile number course.world ∧
        application.Finished number (outcome.map fun _ => ()) after := by
  intro errands course number outcome asked returned
  have sound : course.Sound (lifeRegime endpoint)
      (fun number outcome after => errands[number]? = some .shutdown →
        application.Finished number (outcome.map fun _ => ()) after) shared := by
    refine Course.sound_follow _ (Regime.stable_ofFree fun _ _ _ _ _ => trivial) ?_ unlocked
      (fun lock => free_lifeRegime lock _) List.prefix_rfl cancelled
    intro number errand asked world _ unknown
    have idle := World.idle_of_past unknown
    cases errand with
    | call call =>
      refine (Session.roams_answer keeps_lifeRegime world trivial idle).mono ?_
      exact fun outcome after ended => ⟨fun other => (nomatch asked.symm.trans other), ended.2⟩
    | start =>
      refine Routine.ensures_map.mpr ((fulfils_start free_lifeRegime idle).mono ?_)
      exact fun outcome after ended => ⟨fun other => (nomatch asked.symm.trans other), ended.2⟩
    | shutdown =>
      refine Routine.ensures_map.mpr
        ((fulfils_shutdown (fun _ => id) free_lifeRegime unknown).mono ?_)
      rintro outcome after ⟨finished, idle⟩
      refine ⟨fun _ => ?_, idle⟩
      cases outcome <;> exact finished
  obtain ⟨after, finished, _, since⟩ := sound.stands number _ returned
  have finished := finished asked
  refine ⟨after, ?_, since, finished⟩
  generalize outcome.map (fun _ => ()) = result at finished
  cases finished with
  | refused fault demand before unknown => exact .inr ⟨_, _, since.leads.suffix, rfl⟩
  | entered before last vacant leads result shut =>
    exact .inr ⟨_, _, since.leads.suffix, rfl⟩

/-- A shutdown that leaves the HTTP session open. -/
theorem shutDown_follow_reset :
    let session : Session := ⟨⟨"https://login.test", "id", "secret", "user", "password", 5000⟩⟩
    let application : Application := { session := some session }
    let endpoint : Endpoint := fun _ _ =>
      .later (.error (.foreign ⟨"ConnectionResetError", "", .system, none⟩))
    let shared : Shared :=
      { held := some ⟨"t", "https://a.test"⟩, started := true, connected := true, openings := 1 }
    let course := (Course.initial shared).follow endpoint (application.perform session)
      [.begins .shutdown, .turn 0]
    course.world.shared.held = none ∧ course.world.shared.stage = (true, true, 1, 0) ∧
      ∃ fault : Fault, fault.label = "ConnectionResetError" ∧
        course.Returns 0 (.error fault) ∧
          ∃ after, course.Passes after ∧ after.Meanwhile 0 course.world ∧
            application.Finished 0 (.error fault) after := by
  intro session application endpoint shared course
  obtain ⟨fault, label, returned⟩ : ∃ fault : Fault, fault.label = "ConnectionResetError" ∧
      course.Returns 0 (.error fault) :=
    Course.exists_returns_of_reported? (by decide +kernel)
  exact ⟨by decide +kernel, by decide +kernel, fault, label, returned,
    shutDown_follow application session endpoint rfl _ (by simp [Event.Breaks]) 0 _ rfl returned⟩

end Application

end SessionKeeper
