import SessionKeeper.Proofs.Application.Shutdown
import SessionKeeper.Proofs.Session.Earning
import SessionKeeper.Proofs.Task.Aloof
import SessionKeeper.Proofs.Task.Completion
import SessionKeeper.Proofs.Task.Stint

/-! # Stragglers

A shutdown logs out, and nobody else gets a turn until it has told the HTTP session to close
(`Application.Parting`, `Application.Departed`). Others go on while it waits for that, and a session
does not know that it is being shut down: a call that was under way may ask for a login. Nothing
else can leave anything behind (`Application.departed_follow`), and an HTTP session that was told to
close grants no login. So nothing is held in the end, unless a fault has escaped the logout: then
the HTTP session is left open, and what a straggling call is granted stays behind.
-/

namespace SessionKeeper

variable {regime : Regime} {number : Nat} {world after : World}

/-- Nobody breaks off a wait, and nothing is left to show of the locks. -/
def Regime.unbroken (endpoint : Endpoint) : Regime :=
  Regime.ofFree endpoint (fun _ => False) fun _ => True

/-- A task has just given the lock of the session back, and nothing is held. -/
def World.LeavesNothing (number : Nat) (world : World) : Prop :=
  ∃ before : World, world = before.releases number .session ∧ before.shared.held = none

namespace Session

variable {session : Session}

theorem ensures_stop_leavesNothing (free : ∀ world, regime.free .session world)
    (unbroken : ∀ fault, ¬ regime.breaks fault) (unheld : world.holder .session ≠ some number) :
    session.stop.Ensures regime number (fun _ after => after.LeavesNothing number) world := by
  apply Routine.ensures_visit does_logoutLocked (fun _ _ _ visit => visit.grips) unheld
  · intro before result after _ _ _ visit _
    exact ⟨free _, fun _ => ⟨after, rfl, visit.held World.holder_takes⟩⟩
  · exact fun _ fault _ breaks => absurd breaks (unbroken fault)

/-- In a stretch of history, nobody is granted a login. -/
def GrantsNothing (session : Session) (stretch : History) : Prop :=
  ∀ moment ∈ stretch, ∀ url request answer response,
    (session.settings.draftLogin url).outcome = .ok request →
    moment.deed = .answered request answer → request.settle answer = .ok response →
      ∀ grant, response.classifyLogin ≠ .ok grant

theorem GrantsNothing.not_earned {stretch : History} (nothing : session.GrantsNothing stretch)
    (credential : Credential) : ¬ session.Earned number credential stretch := by
  rintro ⟨url, request, answer, response, grant, sent, answered, order, draft, _, hears, settled,
    granted, _⟩
  exact nothing answered (order.subset List.mem_cons_self) url request answer response draft hears.2
    settled grant granted

end Session

theorem World.LeavesNothing.held (nothing : world.LeavesNothing number) :
    world.shared.held = none := by
  obtain ⟨before, rfl, unheld⟩ := nothing
  exact unheld

theorem World.LeavesNothing.latest (nothing : world.LeavesNothing number) :
    world.Latest number := by
  obtain ⟨before, rfl, _⟩ := nothing
  exact ⟨_, _, rfl, rfl⟩

/-- What somebody earned in a visit after a task had given the lock of the session back and then
gone on without a wait, that was asked for after this. -/
theorem World.LeavesNothing.earned {session : Session} (nothing : world.LeavesNothing number)
    (briefly : world.Briefly number after) {other : Nat} {credential : Credential}
    {later : History} (apart : other ≠ number)
    (earned : session.Earned other credential (later ++ after.past).recent) :
    session.Earned other credential later := by
  obtain ⟨before, rfl, _⟩ := nothing
  obtain ⟨recent, past, own⟩ := briefly.exists_append
  rw [past, ← List.append_assoc] at earned
  have since : session.Earned other credential (later ++ recent) :=
    earned.mono (History.recent_append _ rfl).sublist
  exact since.of_append fun moment member same => apart (same.symm.trans (own moment member))

namespace Application

variable {application : Application} {session : Session}
  {post : Except Fault Unit → World → Prop}

/-- How a shutdown parts with the HTTP session, by what the shutdown comes to. -/
inductive Parting (application : Application) (number : Nat) (outcome : Except Fault Unit) :
    World → Prop
  /-- It has just told it to close. -/
  | told (moment : Moment) (earlier : History) (own : moment.task = number)
      (count : moment.after.closings = moment.before.closings + 1) :
    Parting application number outcome ⟨moment.after, moment :: earlier⟩
  | absent (world : World) (unconnected : world.shared.connected = false) :
    Parting application number outcome world
  /-- It leaves it open, because a fault has escaped the logout. -/
  | escaped (world : World) (fault : Fault) (raised : outcome = .error fault)
      (off : application.LoggedOff (world.past.heardBy number) (.error fault)) :
    Parting application number outcome world

/-- A shutdown has come to its end: nobody else did anything between its logout and its parting with
the HTTP session, and it has replaced nothing that is held since. -/
def Departed (application : Application) (number : Nat) (outcome : Except Fault Unit)
    (world : World) : Prop :=
  ∃ left parted : World, left.LeavesNothing number ∧ left.Briefly number parted ∧
    application.Parting number outcome parted ∧ parted.Aloof number world

theorem isAloof_waitClosed : application.waitClosed.IsAloof := by
  refine Routine.Updates.tryCatch ?_ fun raised => ?_
  · exact Routine.Updates.bind Routine.isAloof_yieldTurn fun _ => Routine.isAloof_ofExcept _
  · simp only
    split
    · exact Routine.isAloof_say _ _
    · trivial

/-- What is left to do once the HTTP session is closed. -/
def conclude : Routine Unit := do
  Routine.modify ({ · with started := false })
  Routine.say .info "✅ Application context shutdown complete"
  reportErrors

theorem isAloof_conclude : conclude.IsAloof :=
  Routine.Updates.bind (Routine.isAloof_modify fun _ => rfl) fun _ =>
    Routine.Updates.bind (Routine.isAloof_say _ _) fun _ =>
      Routine.isAloof_modify fun shared => (harmless_report shared).held shared

/-- What a shutdown does after its logout, by what that came to. -/
def depart (application : Application) : Except Fault Unit → Routine Unit
  | .ok () => do application.disconnect; conclude
  | .error fault =>
    if fault.isSession then do
      Routine.reportError (.ofFault "Error during logout at shutdown" fault)
      application.disconnect
      conclude
    else throw fault

theorem shutdown_eq (present : application.session = some session) :
    application.shutdown = Routine.withLock .lifecycle ((do
      Routine.say .info "🔻 Application context shutdown initiated"
      session.stop : Routine Unit).andThen application.depart) := by
  unfold shutdown stopSession
  rw [present]
  refine congrArg (Routine.withLock .lifecycle) (congrArg (Routine.update _) ?_)
  refine (Routine.andThen_andThen session.stop _ _).trans ?_
  refine congrArg session.stop.andThen (funext fun outcome => ?_)
  cases outcome with
  | ok value => rfl
  | error fault =>
    simp only [depart]
    split <;> rfl

/-- Whoever closes the HTTP session begins with telling it so, if there is one. -/
theorem ensures_disconnect_parting
    (ensured : application.disconnect.Ensures regime number post world) :
    application.disconnect.Ensures regime number
      (fun outcome after => post outcome after ∧
        ∃ parted, world.Briefly number parted ∧
          (∀ ending, application.Parting number ending parted) ∧ parted.Aloof number after)
      world := by
  unfold disconnect at ensured ⊢
  rw [Routine.ensures_bind, Routine.ensures_get] at ensured ⊢
  simp only at ensured ⊢
  cases connected : world.shared.connected with
  | false =>
    simp only [connected] at ensured ⊢
    exact ⟨ensured, world, .refl, fun _ => .absent world connected, .refl⟩
  | true =>
    have waits : (application.waitClosed.ensuring
        (Routine.modify ({ · with connected := false }))).IsAloof :=
      Routine.Updates.ensuring isAloof_waitClosed (Routine.isAloof_modify fun _ => rfl)
    simp only [connected, if_true] at ensured ⊢
    obtain ⟨allowed, released, rest⟩ := ensured
    refine ⟨allowed, released, (waits.ensures rest).mono ?_⟩
    rintro outcome after ⟨ended, aloof⟩
    refine ⟨ended, _, World.Briefly.refl.updates _ rfl, fun _ => ?_, aloof⟩
    exact .told _ world.past rfl rfl

/-- After a logout that did not fail, or whose failure is forgiven. -/
theorem ensures_depart_ok
    (ensured : (application.depart (.ok ())).Ensures regime number post world) :
    (application.depart (.ok ())).Ensures regime number
      (fun outcome after => post outcome after ∧
        ∃ parted, world.Briefly number parted ∧
          (∀ ending, application.Parting number ending parted) ∧ parted.Aloof number after)
      world := by
  simp only [depart] at ensured ⊢
  rw [Routine.ensures_bind] at ensured ⊢
  refine (ensures_disconnect_parting ensured).mono ?_
  rintro (fault | ⟨⟨⟩⟩) between ⟨rest, parted, briefly, parting, aloof⟩
  · exact ⟨rest, parted, briefly, parting, aloof⟩
  · refine (isAloof_conclude.ensures rest).mono ?_
    exact fun outcome after ⟨ended, since⟩ => ⟨ended, parted, briefly, parting, aloof.trans since⟩

/-- Whatever its logout came to, a shutdown goes on to depart. -/
theorem ensures_depart {ending : Except Fault Unit} (nothing : world.LeavesNothing number)
    (off : ∀ fault, ending = .error fault → fault.isSession = false →
      application.LoggedOff (world.past.heardBy number) (.error fault))
    (ensured : (application.depart ending).Ensures regime number post world) :
    (application.depart ending).Ensures regime number
      (fun outcome after => post outcome after ∧ application.Departed number outcome after)
      world := by
  have departed {between after : World} {outcome : Except Fault Unit}
      (begun : world.Briefly number between) (ended : ∃ parted, between.Briefly number parted ∧
        (∀ ending, application.Parting number ending parted) ∧ parted.Aloof number after) :
      application.Departed number outcome after := by
    obtain ⟨parted, briefly, parting, aloof⟩ := ended
    exact ⟨world, parted, nothing, begun.trans briefly, parting outcome, aloof⟩
  rcases ending with fault | ⟨⟨⟩⟩
  · by_cases mild : fault.isSession = true
    · have same : application.depart (.error fault) = .update
          (·.reportError (.ofFault "Error during logout at shutdown" fault))
          (application.depart (.ok ())) := if_pos mild
      rw [same] at ensured ⊢
      obtain ⟨allowed, released, rest⟩ := ensured
      refine ⟨allowed, released, (ensures_depart_ok rest).mono ?_⟩
      exact fun outcome after ⟨ended, parted⟩ =>
        ⟨ended, departed (World.Briefly.refl.updates _ rfl) parted⟩
    · have same : application.depart (.error fault) = throw fault := if_neg mild
      rw [same] at ensured ⊢
      refine ⟨ensured, world, world, nothing, .refl, ?_, .refl⟩
      exact .escaped world fault rfl (off fault rfl (by simpa using mild))
  · refine (ensures_depart_ok ensured).mono ?_
    exact fun outcome after ⟨ended, parted⟩ => ⟨ended, departed .refl parted⟩

/-- The first half of a shutdown leaves nothing, and the answers it got explain what it came to. -/
theorem ensures_stop_loggedOff {endpoint : Endpoint} {stage : Stage}
    (present : application.session = some session) (staged : Staged number stage [] world)
    (unheld : world.holder .session ≠ some number) :
    (do
      Routine.say .info "🔻 Application context shutdown initiated"
      session.stop : Routine Unit).Ensures (.unbroken endpoint) number
      (fun ending left => left.LeavesNothing number ∧
        ∀ fault, ending = .error fault → fault.isSession = false →
          application.LoggedOff (left.past.heardBy number) (.error fault)) world := by
  have cancelled : ∀ fault, (Regime.unbroken endpoint).breaks fault → fault.isFailure = false :=
    fun _ => False.elim
  have free (world : World) : (Regime.unbroken endpoint).free .session world :=
    Regime.free_ofFree trivial .session
  rw [Routine.ensures_bind]
  apply (Routine.ensures_say _ _).mono
  rintro _ between ⟨rfl, calmly⟩
  have still : between.holder .session ≠ some number :=
    fun holds => unheld ((calmly.grips .session).mp holds)
  refine ((Session.ensures_stop cancelled free (staged.calmly calmly) still).and
    (Session.ensures_stop_leavesNothing free (fun _ => id) still)).mono ?_
  rintro ending left ⟨⟨_, heard, staged, explains⟩, nothing⟩
  refine ⟨nothing, ?_⟩
  rintro fault rfl grave
  rw [staged.heard]
  exact .of_explains present explains grave

theorem fulfils_shutdown_departed {endpoint : Endpoint}
    (present : application.session = some session)
    (unknown : ∀ moment ∈ world.past, moment.task ≠ number) :
    application.shutdown.Fulfils (.unbroken endpoint) number (application.Departed number)
      world := by
  have finished : application.shutdown.Fulfils (.unbroken endpoint) number
      (application.Finished number) world :=
    fulfils_shutdown (fun _ => False.elim) (fun lock _ => Regime.free_ofFree trivial lock) unknown
  unfold Routine.Fulfils at finished ⊢
  rw [shutdown_eq present] at finished ⊢
  obtain ⟨order, waited⟩ := finished
  refine ⟨order, fun before meanwhile => ⟨fun vacant _ => ?_, fun fault breaks => breaks.elim⟩⟩
  have whole := (waited before meanwhile).1 vacant trivial
  simp only [Routine.ensures_ensuring, Routine.ensures_andThen] at whole ⊢
  obtain ⟨entered, unheld⟩ := Staged.enters (World.idle_of_past unknown) meanwhile
  rw [(History.readings_of_unknown (meanwhile.unknown unknown)).2.1] at entered
  refine ((ensures_stop_loggedOff present entered unheld).and whole).mono ?_
  rintro ending left ⟨⟨nothing, off⟩, rest⟩
  refine (ensures_depart nothing off rest).mono ?_
  rintro outcome last ⟨⟨allowed, released, _, idle⟩, left, parted, nothing, briefly, parting, aloof⟩
  exact ⟨allowed, released,
    ⟨left, parted, nothing, briefly, parting, aloof.updates (fun _ => rfl) allowed⟩, idle⟩

/-- **What is left behind after a shutdown.** One task shuts an application down while others make
calls of its session, any calls but to take over a response, in whatever order all of them go on,
whatever the endpoint answers and the listeners do. When the shutdown has come to its end, there was
a moment at which nothing was held and it parted with the HTTP session: it told it to close, unless
there was none or a fault escaped the logout. Whatever is held in the end was granted to one of the
others, in answer to a login request that it has sent since that moment. So nothing is held if no
login is granted since, as is the case with an HTTP session that was told to close. -/
theorem departed_follow (closing : Except Fault Unit) (session : Session) (endpoint : Endpoint)
    {shared : Shared} (unlocked : shared.locked = []) (events : List (Event Errand))
    (unbroken : Event.Breaks (fun _ => False) events) (number : Nat)
    (asked : (Event.begun events)[number]? = some .shutdown)
    (others : ∀ other errand, (Event.begun events)[other]? = some errand → other ≠ number →
      ∃ call, errand = .call call ∧ ∀ response, call ≠ .applyLogin response)
    (outcome : Except Fault CallReply) :
    let application : Application := ⟨some session, closing⟩
    let course := (Course.initial shared).follow endpoint (application.perform session) events
    course.Returns number outcome →
      ∃ parted later, course.Passes parted ∧ course.past = later ++ parted.past ∧
        parted.shared.held = none ∧
        application.Parting number (outcome.map fun _ => ()) parted ∧
        (∀ credential, course.world.shared.held = some credential →
          ∃ other call, (Event.begun events)[other]? = some (.call call) ∧
            session.Earned other credential later) ∧
        (session.GrantsNothing later → course.world.shared.held = none) := by
  intro application course returned
  have stable : (Regime.unbroken endpoint).Stable := Regime.stable_ofFree fun _ _ _ _ _ => trivial
  have sound : course.Sound (.unbroken endpoint)
      (fun task outcome after =>
        (task = number → application.Departed number (outcome.map fun _ => ()) after) ∧
          (task ≠ number → after.Own task session.Earning)) shared := by
    refine Course.sound_follow _ stable ?_ unlocked
      (fun lock => Regime.free_ofFree trivial lock) List.prefix_rfl unbroken
    intro task errand known world _ unknown
    by_cases itself : task = number
    · subst itself
      obtain rfl := Option.some.inj (asked.symm.trans known)
      refine Routine.ensures_map.mpr ((fulfils_shutdown_departed rfl unknown).mono ?_)
      rintro outcome after ⟨departed, idle⟩
      refine ⟨⟨fun _ => ?_, fun other => absurd rfl other⟩, idle⟩
      cases outcome <;> exact departed
    · obtain ⟨call, rfl, own⟩ := others task errand known itself
      refine (Session.roams_answer (Session.keeps_earning (fun _ => trivial) own) world
        (World.own_of_unknown unknown) (World.idle_of_past unknown)).mono ?_
      exact fun outcome after ended =>
        ⟨⟨fun same => absurd same itself, fun _ => ended.1⟩, ended.2⟩
  obtain ⟨world, ended, _, since⟩ := sound.stands number _ returned
  obtain ⟨left, parted, nothing, briefly, parting, aloof⟩ := ended.1 rfl
  have aloof : parted.Aloof number course.world := aloof.trans since.aloof
  have unheld : parted.shared.held = none := briefly.held.trans nothing.held
  have passes : course.Passes parted := by
    obtain ⟨moment, earlier, rfl, _⟩ := briefly.latest nothing.latest
    exact .inr ⟨moment, earlier, aloof.leads.suffix, rfl⟩
  obtain ⟨later, past, held⟩ := aloof.exists_append
  have earned (credential : Credential) (present : course.world.shared.held = some credential) :
      ∃ other call, (Event.begun events)[other]? = some (.call call) ∧
        session.Earned other credential later := by
    rcases held with same | ⟨latest, installation, middle, rfl, apart, deed⟩
    · cases (present.symm.trans same).trans unheld
    have suffix : installation :: (middle ++ parted.past) <:+ course.past :=
      ⟨latest, by rw [show course.past = _ from past, List.append_assoc]; rfl⟩
    have earning := sound.each stable
      (fun moment earlier => moment.task ≠ number → session.Earning moment earlier)
      (fun task outcome after ended moment earlier suffix own other =>
        ended.2 (own ▸ other) moment earlier suffix own) suffix
    have earned : session.Earned installation.task credential middle :=
      nothing.earned briefly apart
        (earning apart credential (deed.trans (congrArg Deed.assigned present)))
    have known : installation.task < (Event.begun events).length := by
      have begun := sound.known installation (suffix.subset List.mem_cons_self)
      rw [Course.length_follow] at begun
      simpa [Course.initial] using begun
    obtain ⟨call, asked, _⟩ := others _ _ (List.getElem?_eq_getElem known) apart
    refine ⟨installation.task, call, (List.getElem?_eq_getElem known).trans (congrArg _ asked),
      earned.mono ?_⟩
    exact (List.sublist_cons_self _ _).trans (List.sublist_append_right _ _)
  refine ⟨parted, later, passes, past, unheld, parting, earned, fun refused => ?_⟩
  by_contra present
  obtain ⟨credential, present⟩ := Option.ne_none_iff_exists'.mp present
  obtain ⟨other, call, _, earned⟩ := earned credential present
  exact refused.not_earned credential earned

/-- The HTTP session is left open, and a straggling call is granted a token that nobody revokes. -/
theorem departed_follow_reset :
    let session : Session := ⟨⟨"https://login.test", "id", "secret", "user", "password", 5000⟩⟩
    let application : Application := ⟨some session, .ok ()⟩
    let endpoint : Endpoint := fun earlier request => .later
      (if request.method = "POST" then .ok ⟨200, none,
          .text "\x7b\"access_token\": \"t2\", \"instance_url\": \"https://a.test\"\x7d"⟩
        else if request.headers.isSome then
          .ok ⟨if request.Carries "t2" then 200 else 401, none, .bytes []⟩
        else if earlier.length = 1 then
          .error (.foreign ⟨"ConnectionResetError", "", .system, none⟩)
        else .ok ⟨200, none, .bytes []⟩)
    let shared : Shared :=
      { held := some ⟨"t1", "https://a.test"⟩, started := true, connected := true, openings := 1 }
    let events : List (Event Errand) :=
      [.begins (.call (.api ⟨"GET", "/api", none, none⟩ 2)), .begins .shutdown, .turn 0, .turn 0,
        .turn 1, .turn 0, .turn 0, .turn 0, .turn 0]
    let course := (Course.initial shared).follow endpoint (application.perform session) events
    course.world.shared.held = some ⟨"t2", "https://a.test"⟩ ∧
      (∀ request ∈ course.world.shared.sent, ¬ request.Revokes ⟨"t2", "https://a.test"⟩) ∧
      course.world.shared.stage = (true, true, 1, 0) ∧ (∃ reply, course.Returns 0 (.ok reply)) ∧
      ∃ fault : Fault, fault.label = "ConnectionResetError" ∧ course.Returns 1 (.error fault) ∧
        ∃ parted later, course.Passes parted ∧ course.past = later ++ parted.past ∧
          parted.shared.held = none ∧ application.Parting 1 (.error fault) parted ∧
          ∃ other call, (Event.begun events)[other]? = some (.call call) ∧
            session.Earned other ⟨"t2", "https://a.test"⟩ later := by
  intro session application endpoint shared events course
  have replied : course.Returns 0 (.ok (.response ⟨200, some "", .bytes []⟩)) :=
    Course.returns_of_reported? (by decide +kernel)
  obtain ⟨fault, label, raised⟩ : ∃ fault : Fault, fault.label = "ConnectionResetError" ∧
      course.Returns 1 (.error fault) := Course.exists_returns_of_reported? (by decide +kernel)
  have unbroken : Event.Breaks (fun _ => False) events := by simp [Event.Breaks, events]
  have others : ∀ other errand, (Event.begun events)[other]? = some errand → other ≠ 1 →
      ∃ call, errand = .call call ∧ ∀ response, call ≠ .applyLogin response := by
    rintro (_ | _ | other) errand known apart
    · exact ⟨_, (Option.some.inj known).symm, by simp⟩
    · exact absurd rfl apart
    · cases known
  obtain ⟨parted, later, passes, past, unheld, parting, earned, _⟩ :=
    departed_follow (.ok ()) session endpoint rfl events unbroken 1 rfl others _ raised
  refine ⟨by decide +kernel, by decide +kernel, by decide +kernel, ⟨_, replied⟩, fault, label,
    raised, parted, later, passes, past, unheld, parting, ?_⟩
  exact earned _ (by decide +kernel)

/-- An HTTP session that was told to close refuses a straggling call, and nothing is left behind. -/
example :
    let session : Session := ⟨⟨"https://login.test", "id", "secret", "user", "password", 5000⟩⟩
    let application : Application := ⟨some session, .ok ()⟩
    let endpoint : Endpoint := fun earlier request =>
      if earlier.length < 2 then
        .later (.ok ⟨if request.headers.isSome then 401 else 200, none, .bytes []⟩)
      else .atOnce (.error (.foreign ⟨"RuntimeError", "Session is closed", .ordinary, none⟩))
    let shared : Shared :=
      { held := some ⟨"t1", "https://a.test"⟩, started := true, connected := true, openings := 1 }
    let course := (Course.initial shared).follow endpoint (application.perform session)
      [.begins (.call (.api ⟨"GET", "/api", none, none⟩ 2)), .begins .shutdown, .turn 0, .turn 1,
        .turn 0, .turn 1]
    course.reported? 0 = some (.inl "RuntimeError") ∧ course.reported? 1 = some (.inr .nothing) ∧
      course.world.shared.held = none ∧ course.world.shared.stage = (false, false, 1, 1) := by
  decide +kernel

end Application

end SessionKeeper
