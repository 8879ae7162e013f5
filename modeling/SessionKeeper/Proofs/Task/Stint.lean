import SessionKeeper.Proofs.Task.Assertion
import SessionKeeper.Proofs.Task.Enclosure
import SessionKeeper.Proofs.Task.Run

/-! # Stints under a lock

A stint is what a task does with one lock in hand that keeps the others out. It may take other locks
and gives them back, and it may change the stage of the application, but waits at certain stages
only (`Routine.IsStint`). Carried to its next wait, a stint is over, or it goes on with the lock
still in hand and the application at one of these stages (`Routine.IsStint.carried`).
-/

namespace SessionKeeper

variable {α β γ : Type}

/-- An update that leaves the locks and the stage of the application alone, in any state. -/
structure Shared.Modest (change : Shared → Shared) : Prop where
  locked : ∀ shared, (change shared).locked = shared.locked
  stage : ∀ shared, (change shared).stage = shared.stage

theorem Routine.andThen_andThen (routine : Routine α) (next : Except Fault α → Routine β)
    (last : Except Fault β → Routine γ) :
    (routine.andThen next).andThen last =
      routine.andThen fun outcome => (next outcome).andThen last := by
  induction routine with
  | done outcome => rfl
  | look rest ih => exact congrArg look (funext ih)
  | update change rest ih => exact congrArg (update change) ih
  | exchange request rest ih => exact congrArg (exchange request) (funext ih)
  | acquire lock rest ih => exact congrArg (acquire lock) (funext ih)
  | pause rest ih => exact congrArg pause (funext ih)

namespace Routine

/-- The routine takes no lock and makes modest updates only. -/
def IsModest : Routine α → Prop
  | done _ => True
  | look next => ∀ shared, (next shared).IsModest
  | update change next => Shared.Modest change ∧ next.IsModest
  | exchange _ next => ∀ answer, (next answer).IsModest
  | acquire .. => False
  | pause next => ∀ turn, (next turn).IsModest

/-- What is done with one lock in hand, and with those of a list on top of it, from a stage of the
application on: the latter are given back and so is any other lock that is taken, each update leads
to one stage, and the waits are `during` some stages only. -/
def IsStint (outer : Lock) (during : Stage → Prop) :
    Stage → List Lock → Routine α → Prop
  | _, held, done _ => held = []
  | stage, held, look next =>
    ∀ shared : Shared, shared.stage = stage → (next shared).IsStint outer during stage held
  | stage, held, update change next =>
    ((∀ shared, (change shared).locked = shared.locked) ∧
      ∃ later, (∀ shared : Shared, shared.stage = stage → (change shared).stage = later) ∧
        next.IsStint outer during later held) ∨
      ∃ lock rest, lock ≠ outer ∧ held = lock :: rest ∧ change = (·.unlock lock) ∧
        next.IsStint outer during stage rest
  | stage, held, exchange _ next =>
    during stage ∧ ∀ answer, (next answer).IsStint outer during stage held
  | stage, held, acquire lock next =>
    lock ≠ outer ∧ lock ∉ held ∧ (next (.ok ())).IsStint outer during stage (lock :: held)
  | stage, held, pause next =>
    during stage ∧ ∀ turn, (next turn).IsStint outer during stage held

variable {routine : Routine α} {outer lock : Lock} {held : List Lock}
  {during : Stage → Prop} {stage later : Stage}

/-! ## Modest routines -/

theorem IsModest.andThen {next : Except Fault α → Routine β} (first : routine.IsModest)
    (rest : ∀ outcome, (next outcome).IsModest) : (routine.andThen next).IsModest := by
  induction routine with
  | done outcome => exact rest outcome
  | look _ ih => exact fun shared => ih shared (first shared)
  | update _ _ ih => exact ⟨first.1, ih first.2⟩
  | exchange _ _ ih => exact fun answer => ih answer (first answer)
  | acquire _ _ _ => exact first.elim
  | pause _ ih => exact fun turn => ih turn (first turn)

theorem IsModest.bind {next : α → Routine β} (first : routine.IsModest)
    (rest : ∀ value, (next value).IsModest) : (routine >>= next).IsModest :=
  first.andThen fun
    | .ok value => rest value
    | .error _ => trivial

theorem IsModest.tryCatch {handler : Fault → Routine α} (first : routine.IsModest)
    (rest : ∀ fault, (handler fault).IsModest) : (tryCatch routine handler).IsModest :=
  first.andThen fun
    | .ok _ => trivial
    | .error fault => rest fault

theorem IsModest.ensuring {last : Routine Unit} (first : routine.IsModest)
    (rest : last.IsModest) : (routine.ensuring last).IsModest :=
  first.andThen fun _ => rest.bind fun _ => trivial

theorem IsModest.isLockless (modest : routine.IsModest) : routine.IsLockless := by
  induction routine with
  | done outcome => trivial
  | look _ ih => exact fun shared => ih shared (modest shared)
  | update _ _ ih => exact ⟨modest.1.locked, ih modest.2⟩
  | exchange _ _ ih => exact fun answer => ih answer (modest answer)
  | acquire _ _ _ => exact modest.elim
  | pause _ ih => exact fun turn => ih turn (modest turn)

@[simp] theorem isModest_get : Routine.get.IsModest := fun _ => trivial

@[simp] theorem isModest_ofExcept (outcome : Except Fault α) : (ofExcept outcome).IsModest :=
  trivial

theorem isModest_modify {change : Shared → Shared}
    (locked : ∀ shared, (change shared).locked = shared.locked)
    (stage : ∀ shared, (change shared).stage = shared.stage) : (modify change).IsModest :=
  ⟨⟨locked, stage⟩, trivial⟩

@[simp] theorem isModest_say (level : Level) (message : Text) : (say level message).IsModest :=
  isModest_modify (fun _ => rfl) fun _ => rfl

@[simp] theorem isModest_ofReported (reported : Reported α) :
    (ofReported reported).IsModest :=
  have harmless (shared : Shared) := Shared.harmless_report reported.lines shared
  ⟨⟨fun shared => (harmless shared).locked shared, fun shared => (harmless shared).stage shared⟩,
    trivial⟩

@[simp] theorem isModest_yieldTurn : yieldTurn.IsModest := fun _ => trivial

/-! ## Stints -/

/-- A stint may begin with anything modest, if it may wait at the stage. -/
theorem IsModest.isStint_andThen {next : Except Fault α → Routine β} (modest : routine.IsModest)
    (allowed : during stage) (rest : ∀ outcome, (next outcome).IsStint outer during stage held) :
    (routine.andThen next).IsStint outer during stage held := by
  induction routine with
  | done outcome => exact rest outcome
  | look _ ih => exact fun shared _ => ih shared (modest shared)
  | update _ _ ih =>
    refine .inl ⟨modest.1.locked, stage, fun shared same => ?_, ih modest.2⟩
    exact (modest.1.stage shared).trans same
  | exchange _ _ ih => exact ⟨allowed, fun answer => ih answer (modest answer)⟩
  | acquire _ _ _ => exact modest.elim
  | pause _ ih => exact ⟨allowed, fun turn => ih turn (modest turn)⟩

theorem IsModest.isStint_bind {next : α → Routine β} (modest : routine.IsModest)
    (allowed : during stage) (rest : ∀ value, (next value).IsStint outer during stage []) :
    (routine >>= next).IsStint outer during stage [] :=
  modest.isStint_andThen allowed fun
    | .ok value => rest value
    | .error _ => rfl

/-- A stint may begin with something modest under another lock. -/
theorem IsModest.isStint_withLock {next : Except Fault α → Routine β} (modest : routine.IsModest)
    (other : lock ≠ outer) (allowed : during stage)
    (rest : ∀ outcome, (next outcome).IsStint outer during stage []) :
    ((withLock lock routine).andThen next).IsStint outer during stage [] := by
  refine ⟨other, List.not_mem_nil, ?_⟩
  change ((Routine.ensuring routine (modify (·.unlock lock))).andThen next).IsStint outer during
    stage [lock]
  rw [Routine.ensuring, andThen_andThen]
  refine modest.isStint_andThen allowed fun outcome => ?_
  exact .inr ⟨lock, [], other, rfl, rfl, rest outcome⟩

/-- A stint may begin with an update that leads to another stage. -/
theorem isStint_modify {change : Shared → Shared} {next : Unit → Routine β}
    (locked : ∀ shared, (change shared).locked = shared.locked)
    (leads : ∀ shared : Shared, shared.stage = stage → (change shared).stage = later)
    (rest : (next ()).IsStint outer during later held) :
    (modify change >>= next).IsStint outer during stage held :=
  .inl ⟨locked, later, leads, rest⟩

end Routine

/-! ## Carrying out stints -/

namespace History

/-- The tasks that gave a lock back, with what was shared then, the latest first. -/
def releases (lock : Lock) (past : History) : List (Nat × Shared) := past.filterMap fun moment =>
  match moment.deed with
  | .released other => if other = lock then some (moment.task, moment.after) else none
  | _ => none

variable {moment : Moment} {past : History} {lock : Lock}

theorem releases_cons_of_released (released : moment.deed = .released lock) :
    releases lock (moment :: past) = (moment.task, moment.after) :: past.releases lock := by
  simp [releases, released]

theorem releases_cons_of_ne (kept : moment.deed ≠ .released lock) :
    releases lock (moment :: past) = past.releases lock := by
  rw [releases, List.filterMap_cons, ← releases]
  split
  · rfl
  · rename_i release releasing
    split at releasing
    · rename_i other released
      split at releasing
      · rename_i same
        exact absurd (same ▸ released) kept
      · cases releasing
    · cases releasing

end History

/-- An update that leaves the locks alone gives none back. -/
theorem Deed.ofUpdate_ne_released {change : Shared → Shared}
    (kept : ∀ shared, (change shared).locked = shared.locked) (before : Shared) (lock : Lock) :
    ofUpdate change before ≠ .released lock := by
  have unreleased : releasedBy? change before = none := by simp [releasedBy?, Lock.all, kept]
  simp only [ofUpdate, unreleased]
  split
  · simp
  · split
    · simp
    · rename_i contrary
      cases contrary
    · split <;> simp

/-- A routine waits as another one does, and goes on with more when that has come to its end.
Neither waits for a lock. -/
inductive Waiting.Continues (next : Except Fault α → Routine β) : Waiting α → Waiting β → Prop
  | forAnswer (request : Request) (answer : Answer) (rest : Answer → Routine α) :
    Continues next (.forAnswer request answer rest)
      (.forAnswer request answer fun answer => (rest answer).andThen next)
  | forTurn (rest : Except Fault Unit → Routine α) :
    Continues next (.forTurn rest) (.forTurn fun turn => (rest turn).andThen next)

/-- What is left of a stint after a wait is a stint. -/
def Waiting.IsStint (outer : Lock) (during : Stage → Prop)
    (stage : Stage) (held : List Lock) : Waiting α → Prop
  | .forAnswer _ _ next => ∀ answer, (next answer).IsStint outer during stage held
  | .forTurn next => ∀ turn, (next turn).IsStint outer during stage held
  | _ => False

variable {endpoint : Endpoint} {contended : List Lock} {number : Nat} {outer : Lock}
  {during : Stage → Prop} {next : Except Fault α → Routine β} {world : World}
  {stage : Stage} {held : List Lock}

/-- Where a task that goes on with a stint, and with more behind it, comes to before it has to wait:
it has come to the end of the stint, or it waits with the lock in hand, at a stage where it may. -/
inductive Routine.Carried (endpoint : Endpoint) (contended : List Lock) (number : Nat)
    (outer : Lock) (during : Stage → Prop) (next : Except Fault α → Routine β)
    (stint : Routine α) (world : World) : Prop
  | through (outcome : Except Fault α) (between : World)
      (ran : stint.run endpoint world.shared = (between.shared, outcome))
      (locked : between.shared.locked = [outer])
      (releases : between.past.releases outer = world.past.releases outer)
      (enact : (stint.andThen next).enact endpoint contended number world =
        (next outcome).enact endpoint contended number between)
      (advance : ((stint.andThen next).advance endpoint contended world.shared).2 =
        ((next outcome).advance endpoint contended between.shared).2) :
    Carried endpoint contended number outer during next stint world
  | under (held : List Lock) (inner : Waiting α)
      (continues : inner.Continues next
        ((stint.andThen next).advance endpoint contended world.shared).2)
      (stands : inner.IsStint outer during
        ((stint.andThen next).enact endpoint contended number world).shared.stage held)
      (allowed : during ((stint.andThen next).enact endpoint contended number world).shared.stage)
      (locked : ((stint.andThen next).enact endpoint contended number world).shared.locked =
        held ++ [outer])
      (releases : ((stint.andThen next).enact endpoint contended number world).past.releases outer =
        world.past.releases outer)
      (runs : inner.rest.run endpoint
        ((stint.andThen next).enact endpoint contended number world).shared =
          stint.run endpoint world.shared) :
    Carried endpoint contended number outer during next stint world

/-- A deed that is not the release of the lock puts off where the task comes to. -/
private theorem Routine.Carried.after {stint rest : Routine α} {between : World}
    (carried : Carried endpoint contended number outer during next rest between)
    (ran : stint.run endpoint world.shared = rest.run endpoint between.shared)
    (released : between.past.releases outer = world.past.releases outer)
    (enacted : (stint.andThen next).enact endpoint contended number world =
      (rest.andThen next).enact endpoint contended number between)
    (advanced : (stint.andThen next).advance endpoint contended world.shared =
      (rest.andThen next).advance endpoint contended between.shared) :
    Carried endpoint contended number outer during next stint world := by
  cases carried with
  | through outcome last runs locked releases enact advance =>
    exact .through outcome last (ran.trans runs) locked (releases.trans released)
      (enacted.trans enact) ((congrArg Prod.snd advanced).trans advance)
  | under held inner continues stands allowed locked releases runs =>
    refine .under held inner ?_ ?_ ?_ ?_ ?_ ?_
    · rwa [advanced]
    · rwa [enacted]
    · rwa [enacted]
    · rwa [enacted]
    · rw [enacted, releases, released]
    · rw [enacted, runs, ran]

/-- A stint comes to its end before it has to wait, or it waits with the lock in hand, at a stage
where it may. -/
theorem Routine.IsStint.carried {stint : Routine α} (stands : stint.IsStint outer during stage held)
    (next : Except Fault α → Routine β) (endpoint : Endpoint) (number : Nat)
    (uncontended : ∀ lock ∈ contended, lock = outer) (begun : world.shared.stage = stage)
    (locked : world.shared.locked = held ++ [outer]) :
    Carried endpoint contended number outer during next stint world := by
  induction stint generalizing world stage held with
  | done outcome =>
    obtain rfl : held = [] := stands
    exact .through outcome world rfl locked rfl rfl rfl
  | look _ ih =>
    exact (ih world.shared (stands world.shared begun) begun locked).after rfl rfl rfl rfl
  | update change rest ih =>
    rcases stands with ⟨kept, later, leads, stands⟩ | ⟨lock, others, other, rfl, rfl, stands⟩
    · have silent : Deed.ofUpdate change world.shared ≠ .released outer :=
        Deed.ofUpdate_ne_released kept _ _
      have still : (world.updates number change).shared.locked = held ++ [outer] :=
        (kept world.shared).trans locked
      exact (ih stands (leads world.shared begun) still).after rfl
        (History.releases_cons_of_ne silent) rfl rfl
    · have silent : Deed.ofUpdate (·.unlock lock) world.shared ≠ .released outer := by
        rw [Deed.ofUpdate_unlock]
        simpa using other
      have left : (world.updates number (·.unlock lock)).shared.locked = others ++ [outer] := by
        simp [World.updates, World.did, World.add, Shared.unlock, locked]
      have same : (world.updates number (·.unlock lock)).shared.stage = stage := begun
      exact (ih stands same left).after rfl (History.releases_cons_of_ne silent) rfl rfl
  | exchange request rest ih =>
    obtain ⟨allowed, stands⟩ := stands
    cases delivered : endpoint world.shared.sent request with
    | atOnce answer =>
      have kept : ((world.sends number request).hears number request answer).shared.locked =
          held ++ [outer] := locked
      have same : ((world.sends number request).hears number request answer).shared.stage = stage :=
        begun
      refine (ih answer (stands answer) same kept).after ?_ rfl ?_ ?_
      · simp only [run, delivered]
        rfl
      · simp only [andThen, enact, delivered]
      · simp only [andThen, advance, delivered]
        rfl
    | later answer =>
      have enacted : ((exchange request rest).andThen next).enact endpoint contended number world =
          world.sends number request := by
        simp only [andThen, enact, delivered]
      have same : (world.sends number request).shared.stage = stage := begun
      refine .under held (.forAnswer request answer rest) ?_ ?_ ?_ ?_ ?_ ?_
      · simp only [andThen, advance, delivered]
        exact .forAnswer request answer rest
      · rw [enacted, same]
        exact stands
      · rwa [enacted, same]
      · rwa [enacted]
      · rw [enacted]
        rfl
      · rw [enacted]
        simp only [run, delivered]
        rfl
  | acquire lock rest ih =>
    obtain ⟨other, new, stands⟩ := stands
    have free : ¬ (lock ∈ world.shared.locked || lock ∈ contended) = true := by
      have unclaimed : lock ∉ contended := fun member => other (uncontended lock member)
      simp [locked, new, other, unclaimed]
    have taken : (world.takes number lock).shared.locked = (lock :: held) ++ [outer] :=
      congrArg (lock :: ·) locked
    have same : (world.takes number lock).shared.stage = stage := begun
    refine (ih (.ok ()) stands same taken).after rfl rfl ?_ ?_
    · simp only [andThen, enact]
      rw [if_neg free]
    · simp only [andThen, advance]
      rw [if_neg free]
      rfl
  | pause rest _ =>
    obtain ⟨allowed, stands⟩ := stands
    subst begun
    exact .under held (.forTurn rest) (.forTurn rest) stands allowed locked rfl rfl

end SessionKeeper
