import SessionKeeper.Proofs.Task.Assertion

/-! # Tasks that leave alone what is held

A task is aloof in a stretch of history in which it replaces nothing that is held. What is held
after such a stretch was held before it, or somebody else has installed it meanwhile
(`World.Aloof.exists_append`). Routines whose updates leave alone what is held lead to aloof
stretches (`Routine.IsAloof.ensures`), however often they wait. If one does not wait, nobody else
does anything meanwhile (`World.Briefly`).
-/

namespace SessionKeeper

variable {α β : Type} {regime : Regime} {number : Nat} {world between after : World}

namespace World

/-- Others may do anything, and the task replaces nothing that is held. -/
def Aloof (number : Nat) : World → World → Prop :=
  Relation.ReflTransGen (Step fun moment => moment.task = number → moment.assigned? = none)

theorem Meanwhile.aloof (meanwhile : world.Meanwhile number after) : world.Aloof number after :=
  Relation.ReflTransGen.mono
    (fun _ _ step => step.mono fun _ other own => absurd own other) _ _ meanwhile

theorem Aloof.leads (aloof : world.Aloof number after) : world.Leads after :=
  Relation.ReflTransGen.mono (fun _ _ step => step.mono fun _ _ => trivial) _ _ aloof

/-- What has been done since: the same is held, or somebody else has installed what is. -/
theorem Aloof.exists_append (aloof : world.Aloof number after) :
    ∃ later, after.past = later ++ world.past ∧
      (after.shared.held = world.shared.held ∨ ∃ latest moment middle,
        later = latest ++ moment :: middle ∧ moment.task ≠ number ∧
          moment.deed = .assigned after.shared.held) := by
  induction aloof with
  | refl => exact ⟨[], rfl, .inl rfl⟩
  | @tail before _ _ step ih =>
    obtain ⟨last, spared, allowed, rfl⟩ := step
    obtain ⟨later, past, held⟩ := ih
    refine ⟨last :: later, congrArg (last :: ·) past, ?_⟩
    by_cases assigned : ∃ next, last.deed = .assigned next
    · obtain ⟨next, deed⟩ := assigned
      have other : last.task ≠ number := fun own => by
        have nothing := spared own
        simp [Moment.assigned?, deed] at nothing
      have lawful := allowed.lawful
      rw [Moment.Lawful, deed] at lawful
      refine .inr ⟨[], last, later, rfl, other, ?_⟩
      rw [deed, World.shared_add, lawful]
      rfl
    · have same : (before.add last).shared.held = before.shared.held :=
        allowed.held_eq fun next deed => assigned ⟨next, deed⟩
      rw [same]
      refine held.imp_right ?_
      rintro ⟨latest, moment, middle, rfl, other, deed⟩
      exact ⟨last :: latest, moment, middle, rfl, other, deed⟩

/-- One task alone leads from one world to the other, and leaves alone what is held. -/
inductive Briefly (number : Nat) (world : World) : World → Prop
  | refl : Briefly number world world
  | updates {between : World} (briefly : Briefly number world between) (change : Shared → Shared)
      (kept : (change between.shared).held = between.shared.held) :
    Briefly number world (between.updates number change)

/-- The last deed was one of a task. -/
def Latest (number : Nat) (world : World) : Prop :=
  ∃ moment earlier, world = ⟨moment.after, moment :: earlier⟩ ∧ moment.task = number

namespace Briefly

theorem trans (first : world.Briefly number between) (second : between.Briefly number after) :
    world.Briefly number after := by
  induction second with
  | refl => exact first
  | updates _ change kept ih => exact .updates ih change kept

variable (briefly : world.Briefly number after)

include briefly

theorem held : after.shared.held = world.shared.held := by
  induction briefly with
  | refl => rfl
  | updates _ _ kept ih => exact kept.trans ih

theorem latest (latest : world.Latest number) : after.Latest number := by
  cases briefly with
  | refl => exact latest
  | updates _ change kept => exact ⟨_, _, rfl, rfl⟩

theorem exists_append :
    ∃ recent, after.past = recent ++ world.past ∧ ∀ moment ∈ recent, moment.task = number := by
  induction briefly with
  | refl => exact ⟨[], rfl, by simp⟩
  | @updates between _ change _ ih =>
    obtain ⟨recent, past, own⟩ := ih
    refine ⟨_ :: recent, congrArg (_ :: ·) past, fun moment member => ?_⟩
    rcases List.mem_cons.mp member with rfl | earlier
    · rfl
    · exact own moment earlier

end Briefly

end World

/-- An update that leaves alone what is held, whatever that is, replaces nothing. -/
theorem Deed.ofUpdate_ne_assigned {change : Shared → Shared}
    (kept : ∀ shared, (change shared).held = shared.held) (before : Shared)
    (held : Option Credential) : ofUpdate change before ≠ .assigned held := by
  have differ : (change (before.hold none)).held ≠ (change (before.hold (some ⟨"", ""⟩))).held := by
    simp [kept, Shared.hold]
  unfold ofUpdate
  simp only [if_neg differ]
  split
  · simp
  · simp
  · split <;> simp

theorem Moment.assigned?_ofUpdate {change : Shared → Shared}
    (kept : ∀ shared, (change shared).held = shared.held) (before : Shared) :
    Moment.assigned? ⟨number, .ofUpdate change before, before, change before⟩ = none := by
  unfold Moment.assigned?
  split
  · rename_i held deed
    exact absurd deed (Deed.ofUpdate_ne_assigned kept before held)
  · rfl

theorem World.Aloof.updates {change : Shared → Shared} (aloof : world.Aloof number after)
    (kept : ∀ shared, (change shared).held = shared.held)
    (allowed : after.Allows
      ⟨number, .ofUpdate change after.shared, after.shared, change after.shared⟩) :
    world.Aloof number (after.updates number change) :=
  aloof.tail ⟨_, fun _ => Moment.assigned?_ofUpdate kept _, allowed, rfl⟩

namespace Routine

variable {kind : (Shared → Shared) → Prop} {routine : Routine α}

theorem Updates.andThen {next : Except Fault α → Routine β} (first : routine.Updates kind)
    (rest : ∀ outcome, (next outcome).Updates kind) : (routine.andThen next).Updates kind := by
  induction routine with
  | done outcome => exact rest outcome
  | look _ ih => exact fun shared => ih shared (first shared)
  | update _ _ ih => exact ⟨first.1, ih first.2⟩
  | exchange _ _ ih => exact fun answer => ih answer (first answer)
  | acquire _ _ ih => exact fun granted => ih granted (first granted)
  | pause _ ih => exact fun turn => ih turn (first turn)

theorem Updates.bind {next : α → Routine β} (first : routine.Updates kind)
    (rest : ∀ value, (next value).Updates kind) : (routine >>= next).Updates kind :=
  first.andThen fun
    | .ok value => rest value
    | .error _ => trivial

theorem Updates.tryCatch {handler : Fault → Routine α} (first : routine.Updates kind)
    (rest : ∀ fault, (handler fault).Updates kind) : (tryCatch routine handler).Updates kind :=
  first.andThen fun
    | .ok _ => trivial
    | .error fault => rest fault

theorem Updates.ensuring {last : Routine Unit} (first : routine.Updates kind)
    (rest : last.Updates kind) : (routine.ensuring last).Updates kind :=
  first.andThen fun _ => rest.bind fun _ => trivial

/-- The routine leaves alone what is held. -/
def IsAloof : Routine α → Prop := Updates fun change => ∀ shared, (change shared).held = shared.held

@[simp] theorem isAloof_yieldTurn : yieldTurn.IsAloof := fun _ => trivial

@[simp] theorem isAloof_ofExcept (outcome : Except Fault α) : (ofExcept outcome).IsAloof := trivial

theorem isAloof_modify {change : Shared → Shared}
    (kept : ∀ shared, (change shared).held = shared.held) : (modify change).IsAloof :=
  ⟨kept, trivial⟩

@[simp] theorem isAloof_say (level : Level) (message : Text) : (say level message).IsAloof :=
  isAloof_modify fun _ => rfl

theorem IsAloof.ensures {post : Except Fault α → World → Prop} (aloof : routine.IsAloof)
    (ensured : routine.Ensures regime number post world) :
    routine.Ensures regime number
      (fun outcome after => post outcome after ∧ world.Aloof number after) world :=
  ensured.stepping aloof (fun _ before kept _ => Moment.assigned?_ofUpdate kept before)
    (fun _ other own => absurd own other) (fun _ spared _ => spared) .refl

end Routine

end SessionKeeper
