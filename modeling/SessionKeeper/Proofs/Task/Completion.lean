import Mathlib.Logic.Hydra
import SessionKeeper.Proofs.Task.Soundness

/-! # Courses come to an end

However the turns are given, a crew runs out of them: a turn replaces what one task has left to do
by a branch of it, and routines are well-founded trees. In a sound course this is the end of every
task (`Course.Sound.isOver`), because nobody waits for a lock that a finished task kept, and the
order of locks rules out that tasks wait for each other.
-/

namespace SessionKeeper

variable {α : Type}

namespace Routine

/-- The first routine is what the second one goes on with after its first deed. -/
inductive Branch : Routine α → Routine α → Prop
  | look (next : Shared → Routine α) (shared : Shared) : Branch (next shared) (look next)
  | update (change : Shared → Shared) (next : Routine α) : Branch next (update change next)
  | exchange (request : Request) (next : Answer → Routine α) (answer : Answer) :
    Branch (next answer) (exchange request next)
  | acquire (lock : Lock) (next : Except Fault Unit → Routine α) (granted : Except Fault Unit) :
    Branch (next granted) (acquire lock next)
  | pause (next : Except Fault Unit → Routine α) (turn : Except Fault Unit) :
    Branch (next turn) (pause next)

theorem wellFounded_branch : WellFounded (@Branch α) := by
  refine ⟨fun routine => ?_⟩
  induction routine with
  | done outcome => exact ⟨_, fun _ branch => nomatch branch⟩
  | look next ih => exact ⟨_, fun _ (.look _ shared) => ih shared⟩
  | update change next ih => exact ⟨_, fun _ (.update _ _) => ih⟩
  | exchange request next ih => exact ⟨_, fun _ (.exchange _ _ answer) => ih answer⟩
  | acquire lock next ih => exact ⟨_, fun _ (.acquire _ _ granted) => ih granted⟩
  | pause next ih => exact ⟨_, fun _ (.pause _ turn) => ih turn⟩

end Routine

namespace Waiting

/-- All that a waiting task has left to do, its wait included. -/
def whole : Waiting α → Routine α
  | finished outcome => .done outcome
  | forAnswer request _ next => .exchange request next
  | forLock lock next => .acquire lock next
  | forTurn next => .pause next

/-- The first task has a part left of what the second one has. -/
def Below (later earlier : Waiting α) : Prop :=
  Relation.TransGen Routine.Branch later.whole earlier.whole

theorem wellFounded_below : WellFounded (@Below α) :=
  InvImage.wf whole Routine.wellFounded_branch.transGen

end Waiting

theorem Routine.advance_branch (endpoint : Endpoint) (contended : List Lock) (routine : Routine α)
    (shared : Shared) :
    Relation.ReflTransGen Branch (routine.advance endpoint contended shared).2.whole routine := by
  induction routine generalizing shared with
  | done outcome => exact .refl
  | look next ih => exact (ih shared shared).tail (.look next shared)
  | update change next ih => exact (ih (change shared)).tail (.update change next)
  | exchange request next ih =>
    simp only [advance]
    cases endpoint shared.sent request with
    | atOnce answer => exact (ih answer (shared.send request)).tail (.exchange request next answer)
    | later answer => exact .refl
  | acquire lock next ih =>
    simp only [advance]
    split
    · exact .refl
    · exact (ih (.ok ()) (shared.lock lock)).tail (.acquire lock next (.ok ()))
  | pause next ih => exact .refl

namespace Waiting

theorem branch_remaining {waiting : Waiting α} {shared : Shared}
    (ready : waiting.isReady shared = true) :
    Routine.Branch waiting.remaining waiting.whole := by
  cases waiting with
  | finished outcome => cases ready
  | forAnswer request answer next => exact .exchange request next answer
  | forLock lock next => exact .acquire lock next (.ok ())
  | forTurn next => exact .pause next (.ok ())

end Waiting

/-- Replacing one item of a list takes it away and adds another. -/
private theorem coe_set_add {ι : Type} (items : List ι) {number : Nat} {item other : ι}
    (at? : items[number]? = some item) :
    ((items.set number other : List ι) : Multiset ι) + {item} = (items : Multiset ι) + {other} := by
  induction items generalizing number with
  | nil => simp at at?
  | cons first rest ih =>
    cases number with
    | zero =>
      obtain rfl : first = item := by simpa using at?
      rw [List.set_cons_zero, ← Multiset.cons_coe, ← Multiset.cons_coe, ← Multiset.singleton_add,
        ← Multiset.singleton_add, Multiset.add_comm _ {first}, Multiset.add_comm {other},
        ← Multiset.add_assoc]
    | succ number =>
      have tail : rest[number]? = some item := by simpa using at?
      rw [List.set_cons_succ, ← Multiset.cons_coe, ← Multiset.cons_coe, Multiset.cons_add,
        Multiset.cons_add, ih tail]

namespace Course

variable {regime : Regime} {posts : Nat → Except Fault α → World → Prop} {shared : Shared}
  {course : Course α} {number : Nat}

/-- A turn leaves less to do. -/
theorem cutExpand_resume (endpoint : Endpoint) (able : course.CanResume number) :
    Relation.CutExpand Waiting.Below
      ((course.resume endpoint number).crew.tasks : Multiset (Waiting α))
      (course.crew.tasks : Multiset (Waiting α)) := by
  obtain ⟨waiting, at?, ready⟩ := able
  have below : (course.standing endpoint number waiting.remaining
      (waiting.wake number course.world)).Below waiting :=
    Relation.TransGen.tail' (Routine.advance_branch _ _ _ _) (Waiting.branch_remaining ready)
  refine ⟨{course.standing endpoint number waiting.remaining (waiting.wake number course.world)},
    waiting, ?_, ?_⟩
  · intro left member
    rw [Multiset.mem_singleton.mp member]
    exact below
  · rw [course.tasks_resume endpoint at? ready]
    exact coe_set_add course.crew.tasks at?

/-- However the turns are given, they come to an end, and at the end of them holds what follows
from anything that every turn keeps. -/
theorem inevitably_of_kept {endpoint : Endpoint} {property : Course α → Prop}
    (invariant : Course α → Prop)
    (kept : ∀ course number, invariant course → course.CanResume number →
      invariant (course.resume endpoint number))
    (ended : ∀ final, invariant final → (∀ number, ¬ final.CanResume number) → property final)
    (holds : invariant course) : Inevitably endpoint property course := by
  generalize size : (course.crew.tasks : Multiset (Waiting α)) = tasks
  have accessible := (@Waiting.wellFounded_below α).cutExpand.apply tasks
  induction accessible generalizing course with
  | intro tasks _ ih =>
    subst size
    refine ⟨course, fun number able => ?_, ended course holds⟩
    exact ih _ (cutExpand_resume endpoint able) (kept course number holds able) rfl

/-- In a sound course, a task that holds a lock has not come to its end, and if it cannot go on it
waits for a lock that may be waited for with the first one in hand. -/
theorem Sound.holder_waits (sound : course.Sound regime posts shared) {lock : Lock}
    (held : course.world.holder lock = some number) (stuck : ¬ course.CanResume number) :
    ∃ other, lock.Precedes other ∧ ∃ holder, course.world.holder other = some holder := by
  obtain ⟨moment, member, rfl⟩ := World.exists_of_holder held
  have bound := sound.known moment member
  have at? : course.crew.tasks[moment.task]? = some course.crew.tasks[moment.task] :=
    List.getElem?_eq_getElem bound
  have stands := sound.stands moment.task _ at?
  have idle : course.crew.tasks[moment.task].isReady course.crew.shared ≠ true :=
    fun ready => stuck ⟨_, at?, ready⟩
  cases waiting : course.crew.tasks[moment.task] with
  | finished outcome =>
    rw [waiting] at stands
    obtain ⟨ending, _, idle, since⟩ := stands
    exact absurd (since.calmly.holder_iff.mp held) (idle lock)
  | forAnswer request answer next =>
    rw [waiting] at idle
    exact absurd rfl idle
  | forTurn next =>
    rw [waiting] at idle
    exact absurd rfl idle
  | forLock other next =>
    rw [waiting] at stands idle
    have locked : other ∈ course.world.shared.locked := by
      simpa [Waiting.isReady, Course.world] using idle
    rw [sound.consistent.mem_locked, Option.isSome_iff_exists] at locked
    exact ⟨other, stands.1 lock held, locked⟩

/-- A sound course in which nobody can go on is over. -/
theorem Sound.isOver (sound : course.Sound regime posts shared)
    (stuck : ∀ number, ¬ course.CanResume number) : course.IsOver := by
  have unheld (lock : Lock) (unordered : ∀ other, ¬ lock.Precedes other) (number : Nat) :
      course.world.holder lock ≠ some number := fun held => by
    obtain ⟨other, precedes, _⟩ := sound.holder_waits held (stuck number)
    exact unordered other precedes
  have session (number : Nat) : course.world.holder .session ≠ some number :=
    unheld .session (fun other precedes => by cases precedes.1) number
  have lifecycle (number : Nat) : course.world.holder .lifecycle ≠ some number := fun held => by
    obtain ⟨other, precedes, holder, holds⟩ := sound.holder_waits held (stuck number)
    obtain rfl := precedes.2
    exact session holder holds
  intro waiting member
  obtain ⟨number, bound, rfl⟩ := List.mem_iff_getElem.mp member
  have at? : course.crew.tasks[number]? = some course.crew.tasks[number] :=
    List.getElem?_eq_getElem bound
  have idle : course.crew.tasks[number].isReady course.crew.shared ≠ true :=
    fun ready => stuck number ⟨_, at?, ready⟩
  cases waiting : course.crew.tasks[number] with
  | finished outcome => exact ⟨outcome, rfl⟩
  | forLock lock next =>
    rw [waiting] at idle
    have locked : lock ∈ course.world.shared.locked := by
      simpa [Waiting.isReady, Course.world] using idle
    rw [sound.consistent.mem_locked, Option.isSome_iff_exists] at locked
    obtain ⟨holder, holds⟩ := locked
    cases lock with
    | session => exact absurd holds (session holder)
    | lifecycle => exact absurd holds (lifecycle holder)
  | _ =>
    rw [waiting] at idle
    exact absurd rfl idle

/-- **Completion.** However the turns are given from a sound course on, they come to an end, and
then every task has come to its end in a sound course. -/
theorem Sound.inevitably (sound : course.Sound regime posts shared) (stable : regime.Stable)
    {property : Course α → Prop}
    (ended : ∀ final : Course α, final.Sound regime posts shared → final.IsOver →
      final.crew.tasks.length = course.crew.tasks.length → property final) :
    Inevitably regime.endpoint property course := by
  refine inevitably_of_kept (fun later => later.Sound regime posts shared ∧
    later.crew.tasks.length = course.crew.tasks.length) ?_ ?_ ⟨sound, rfl⟩
  · rintro later number ⟨still, length⟩ _
    exact ⟨still.resume stable number, length_resume.trans length⟩
  · rintro final ⟨still, length⟩ stuck
    exact ended final still (still.isOver stuck) length

/-- A sound course can be carried to its end. -/
theorem Sound.completes (sound : course.Sound regime posts shared) (stable : regime.Stable) :
    ∃ final : Course α, final.Sound regime posts shared ∧ final.IsOver ∧
      course.past <:+ final.past := by
  generalize size : (course.crew.tasks : Multiset (Waiting α)) = tasks
  have accessible := (@Waiting.wellFounded_below α).cutExpand.apply tasks
  induction accessible generalizing course with
  | intro tasks _ ih =>
    subst size
    by_cases able : ∃ number, course.CanResume number
    · obtain ⟨number, able⟩ := able
      obtain ⟨final, still, complete, longer⟩ :=
        ih _ (cutExpand_resume regime.endpoint able) (sound.resume stable number) rfl
      exact ⟨final, still, complete, (course.suffix_resume regime.endpoint number).trans longer⟩
    · exact ⟨course, sound, sound.isOver fun number can => able ⟨number, can⟩, List.suffix_rfl⟩

/-- A task of a sound course that is over has ended as it promised. -/
theorem Sound.ended (sound : course.Sound regime posts shared) (complete : course.IsOver)
    (bound : number < course.crew.tasks.length) :
    ∃ outcome, course.crew.tasks[number]? = some (.finished outcome) ∧
      ∃ ending, posts number outcome ending ∧ ending.Idle number ∧
        ending.Meanwhile number course.world := by
  have at? := List.getElem?_eq_getElem bound
  obtain ⟨outcome, finished⟩ := complete _ (List.mem_of_getElem? at?)
  rw [finished] at at?
  exact ⟨outcome, at?, sound.stands number _ at?⟩

/-- The locks are free in a sound course that is over. -/
theorem Sound.unheld (sound : course.Sound regime posts shared) (complete : course.IsOver)
    (lock : Lock) : course.world.holder lock = none := by
  by_contra held
  obtain ⟨holder, holds⟩ := Option.ne_none_iff_exists'.mp held
  obtain ⟨moment, member, rfl⟩ := World.exists_of_holder holds
  obtain ⟨_, _, _, _, idle, since⟩ := sound.ended complete (sound.known moment member)
  exact idle lock (since.calmly.holder_iff.mp holds)

/-- What is there of a history whenever nobody has a lock is there of the history of every sound
course, if it is there of all that goes before, too. -/
theorem Sound.of_free (sound : course.Sound regime posts shared) (stable : regime.Stable)
    (lock : Lock) {property : History → Prop}
    (free : ∀ world, regime.free lock world → property world.past)
    (before : ∀ past recent, past <:+ recent → property recent → property past) :
    property course.past := by
  obtain ⟨final, ended, complete, longer⟩ := sound.completes stable
  exact before _ _ longer (free _ (ended.vacant lock (ended.unheld complete lock)))

/-- What every task has seen to for its own moments holds of all moments of a sound course. -/
theorem Sound.each (sound : course.Sound regime posts shared) (stable : regime.Stable)
    (property : Moment → History → Prop)
    (own : ∀ number outcome after, posts number outcome after → World.Own number property after)
    {moment : Moment} {earlier : History} (suffix : moment :: earlier <:+ course.past) :
    property moment earlier := by
  obtain ⟨final, ended, complete, longer⟩ := sound.completes stable
  have later := suffix.trans longer
  obtain ⟨_, _, ending, post, _, since⟩ :=
    ended.ended complete (ended.known moment (later.subset List.mem_cons_self))
  exact (own _ _ _ post).meanwhile since moment earlier later rfl

end Course

end SessionKeeper
