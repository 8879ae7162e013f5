import SessionKeeper.Application.Context
import SessionKeeper.Proofs.Session.Calls

/-! # The stage of an application

Whether an application is started and connected is up to the task that has the lock of the
application. Nobody else changes it meanwhile (`Staged.keptAside`), and the visits that the task
pays to the session leave it alone, too (`Staged.keptVisiting`). The updates of the stage itself are
those of `Shared.Manages`.
-/

namespace SessionKeeper

/-- What an application is asked for. -/
inductive Errand where
  | call (call : Call)
  | start
  | shutdown

/-- Do an errand of an application; calls go to a session. -/
def Application.perform (application : Application) (session : Session) :
    Errand → Routine CallReply
  | .call call => session.answer call
  | .start => (fun _ => .nothing) <$> application.start
  | .shutdown => (fun _ => .nothing) <$> application.shutdown

variable {α : Type} {regime : Regime} {number : Nat} {world after : World}
  {stage : Stage} {heard : List (Request × Answer)}

/-- A task has the lock of the application; it is known at which stage the application is and which
answers the task has got. -/
structure Staged (number : Nat) (stage : Stage) (heard : List (Request × Answer))
    (world : World) : Prop where
  holding : world.holder .lifecycle = some number
  stage : world.shared.stage = stage
  heard : world.past.heardBy number = heard

namespace Staged

theorem keptAside : World.KeptAside number (Staged number stage heard) := by
  intro world moment staged allowed quiet
  have unmanaged : moment.deed ≠ .managed := by
    intro deed
    by_cases own : moment.task = number
    · have still := quiet own
      rw [deed] at still
      exact still
    · have entitled := allowed.entitled .lifecycle (by rw [deed]; rfl)
      rw [staged.holding] at entitled
      exact own (Option.some.inj entitled).symm
  refine ⟨?_, (allowed.stage_eq unmanaged).trans staged.stage, ?_⟩
  · by_cases own : moment.task = number
    · rw [World.holder_add_of_quiet (quiet own)]
      exact staged.holding
    · exact (World.holder_add_eq_some allowed own).mpr staged.holding
  · rw [World.past_add, History.heardBy_of_aside quiet]
    exact staged.heard

variable (staged : Staged number stage heard world)

include staged

theorem calmly (calmly : world.Calmly number after) : Staged number stage heard after :=
  keptAside.calmly calmly staged

/-- A deed that leaves the lock and the stage of the application alone. -/
theorem did {deed : Deed} {shared : Shared} (untaken : deed ≠ .took .lifecycle)
    (kept : deed ≠ .released .lifecycle)
    (unheard : ∀ request answer, deed ≠ .answered request answer)
    (same : shared.stage = world.shared.stage) :
    Staged number stage heard (world.did number deed shared) := by
  refine ⟨?_, same.trans staged.stage, ?_⟩
  · rw [World.did, World.holder_add_of_apart untaken kept]
    exact staged.holding
  · cases deed with
    | answered request answer => exact absurd rfl (unheard request answer)
    | _ => exact staged.heard

theorem hears (request : Request) (answer : Answer) :
    Staged number stage (heard ++ [(request, answer)]) (world.hears number request answer) := by
  refine ⟨?_, staged.stage, ?_⟩
  · rw [World.hears, World.did, World.holder_add_of_apart (by simp) (by simp)]
    exact staged.holding
  · simp [World.hears, History.heardBy, staged.heard]

theorem sends (request : Request) : Staged number stage heard (world.sends number request) :=
  staged.did (by simp) (by simp) (by simp) rfl

theorem assigns (held : Option Credential) :
    Staged number stage heard (world.assigns number held) :=
  staged.did (by simp) (by simp) (by simp) rfl

theorem tells (notice : Notice) : Staged number stage heard (world.tells number notice) :=
  staged.did (by simp) (by simp) (by simp) rfl

theorem stops (fault : Fault) : Staged number stage heard (world.stops number fault) :=
  staged.did (by simp) (by simp) (by simp) rfl

theorem takes : Staged number stage heard (world.takes number .session) :=
  staged.did (by simp) (by simp) (by simp) rfl

theorem releases : Staged number stage heard (world.releases number .session) :=
  staged.did (by simp) (by simp) (by simp) rfl

omit staged

/-- A visit to the session leaves the stage of the application alone, whatever is answered. -/
theorem keptVisiting :
    World.KeptVisiting number fun world => ∃ heard, Staged number stage heard world where
  calm := by
    rintro world moment _ ⟨heard, staged⟩ allowed quiet
    exact ⟨heard, keptAside world moment staged allowed quiet⟩
  sends := fun _ request ⟨heard, staged⟩ => ⟨heard, staged.sends request⟩
  hears := fun _ request answer ⟨_, staged⟩ => ⟨_, staged.hears request answer⟩
  assigns := fun _ held ⟨heard, staged⟩ => ⟨heard, staged.assigns held⟩
  tells := fun _ notice ⟨heard, staged⟩ => ⟨heard, staged.tells notice⟩

end Staged

/-- Whoever had no lock in hand has that of the application when it has taken it, and no other. -/
theorem Staged.enters (idle : world.Idle number) {before : World}
    (meanwhile : world.Meanwhile number before) :
    Staged number before.shared.stage (before.past.heardBy number)
        (before.takes number .lifecycle) ∧
      (before.takes number .lifecycle).holder .session ≠ some number := by
  refine ⟨⟨World.holder_takes, rfl, rfl⟩, ?_⟩
  rw [World.takes, World.did, World.holder_add_of_apart (by simp) (by simp)]
  exact fun holds => idle .session (meanwhile.calmly.holder_iff.mp holds)

/-- Whoever gives the lock of the application back has none left. -/
theorem World.Grips.leaves (gripped : world.Grips number after)
    (unheld : world.holder .session ≠ some number) :
    (after.releases number .lifecycle).Idle number := by
  intro lock
  cases lock with
  | session =>
    rw [World.releases, World.did, World.holder_add_of_apart (by simp) (by simp)]
    exact fun holds => unheld ((gripped .session).mp holds)
  | lifecycle =>
    rw [World.holder_releases]
    exact (Option.some_ne_none number).symm

/-! ## Changes of the stage -/

/-- An update of the stage of the application that leaves everything else alone, but what is written
down, and would do so in any state. -/
structure Shared.Manages (change : Shared → Shared) (before : Shared) : Prop where
  held : ∀ shared, (change shared).held = shared.held
  notices : ∀ shared, (change shared).notices = shared.notices
  locked : ∀ shared, (change shared).locked = shared.locked
  sent : (change before).sent = before.sent
  roster : (change before).roster = before.roster
  listeners : (change before).listeners = before.listeners

theorem Deed.ofUpdate_manages {change : Shared → Shared} {before : Shared}
    (manages : Shared.Manages change before) :
    ofUpdate change before =
      if (change before).stage = before.stage then .changed else .managed := by
  have unreleased : releasedBy? change before = none := by
    simp [releasedBy?, Lock.all, manages.locked]
  simp [ofUpdate, unreleased, manages.held, manages.notices, Shared.hold]

/-- Whoever has the lock of the application may change its stage. -/
theorem Staged.ensures_modify {change : Shared → Shared} {post : Except Fault Unit → World → Prop}
    (staged : Staged number stage heard world) (manages : Shared.Manages change world.shared)
    (ensured : ∀ after, world.Grips number after →
      Staged number (change world.shared).stage heard after → post (.ok ()) after) :
    (Routine.modify change).Ensures regime number post world := by
  have deed := Deed.ofUpdate_manages manages
  have alike : world.shared.Alike (change world.shared) :=
    ⟨manages.held _, manages.notices _, manages.locked _, manages.sent, manages.roster,
      .inl manages.listeners⟩
  have did {deed : Deed} (untaken : ∀ lock, deed ≠ .took lock)
      (kept : ∀ lock, deed ≠ .released lock)
      (unheard : ∀ request answer, deed ≠ .answered request answer) :
      post (.ok ()) (world.did number deed (change world.shared)) := by
    have gripped : world.Grips number (world.did number deed (change world.shared)) :=
      World.grips_did untaken kept
    refine ensured _ gripped ⟨(gripped .lifecycle).mpr staged.holding, rfl, ?_⟩
    cases deed with
    | answered request answer => exact absurd rfl (unheard request answer)
    | _ => exact staged.heard
  unfold Routine.modify Routine.Ensures
  rw [World.updates, deed]
  split
  · rename_i same
    exact ⟨⟨rfl, ⟨alike, same⟩, by simp [World.Entitles, Deed.needs], by simp⟩, by simp,
      did (by simp) (by simp) (by simp)⟩
  · refine ⟨⟨rfl, alike, ?_, by simp⟩, by simp, did (by simp) (by simp) (by simp)⟩
    rintro lock ⟨rfl⟩
    exact staged.holding

/-! ## Starting -/

/-- A login by a task that has the lock of the application. -/
theorem Session.ensures_start {session : Session} (free : ∀ world, regime.free .session world)
    (staged : Staged number stage heard world) (unheld : world.holder .session ≠ some number) :
    session.start.Ensures regime number
      (fun _ after => world.Grips number after ∧ ∃ heard, Staged number stage heard after)
      world := by
  unfold Session.start
  rw [Routine.ensures_bind, Routine.ensures_get]
  simp only
  rw [Routine.ensures_bind]
  apply Routine.ensures_visit (does_loginLocked _) (fun _ _ _ visit => visit.grips) unheld
  · intro before result after meanwhile _ _ visit _
    obtain ⟨heard, staged⟩ := visit.keeps Staged.keptVisiting World.holder_takes
      ⟨heard, (staged.calmly meanwhile.calmly).takes⟩
    refine ⟨free _, fun gripped => ?_⟩
    cases result <;> exact ⟨gripped, heard, staged.releases⟩
  · intro before fault meanwhile breaks gripped
    exact ⟨gripped, heard, (staged.calmly meanwhile.calmly).stops fault⟩

theorem Application.fulfils_start {application : Application}
    (free : ∀ lock world, regime.free lock world) (idle : world.Idle number) :
    application.start.Fulfils regime number (fun _ _ => True) world := by
  apply Routine.ensures_lock fun held holds => absurd holds (idle held)
  · intro before meanwhile vacant _
    obtain ⟨entered, unheld⟩ := Staged.enters idle meanwhile
    have left {last : World} {stage : Stage} {heard : List (Request × Answer)}
        (gripped : (before.takes number .lifecycle).Grips number last)
        (staged : Staged number stage heard last) :
        last.holder .lifecycle = some number ∧
          regime.free .lifecycle (last.releases number .lifecycle) ∧ True ∧
            (last.releases number .lifecycle).Idle number :=
      ⟨staged.holding, free _ _, trivial, gripped.leaves unheld⟩
    have marked {first : World} {heard : List (Request × Answer)}
        (gripped : (before.takes number .lifecycle).Grips number first)
        (staged : Staged number before.shared.stage heard first) :
        (do
          Routine.modify ({ · with started := true })
          Routine.say .debug "🚀 Application context started" : Routine Unit).Ensures regime number
          (fun _ last => last.holder .lifecycle = some number ∧
            regime.free .lifecycle (last.releases number .lifecycle) ∧ True ∧
              (last.releases number .lifecycle).Idle number) first := by
      rw [Routine.ensures_bind]
      refine staged.ensures_modify ⟨fun _ => rfl, fun _ => rfl, fun _ => rfl, rfl, rfl, rfl⟩ ?_
      intro second marking started
      apply (Routine.ensures_say _ _).mono
      rintro _ last ⟨rfl, calmly⟩
      exact left ((gripped.trans marking).trans calmly.grips) (started.calmly calmly)
    rw [Routine.ensures_bind, Routine.ensures_get]
    simp only
    split
    · cases application.session with
      | none => exact marked .refl entered
      | some session =>
        simp only
        rw [Routine.ensures_bind]
        apply (Session.ensures_start (free .session) entered unheld).mono
        rintro (fault | value) first ⟨gripped, heard, staged⟩
        · exact left gripped staged
        · exact marked gripped staged
    · exact left .refl entered
  · intro before fault meanwhile breaks
    exact ⟨trivial, (meanwhile.calmly.grips.trans (World.grips_did (by simp) (by simp))).idle idle⟩

end SessionKeeper
