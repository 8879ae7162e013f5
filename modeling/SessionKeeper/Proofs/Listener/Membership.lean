import SessionKeeper.Proofs.Listener.Changes
import SessionKeeper.Proofs.Listener.Roster
import SessionKeeper.Proofs.Session.Pairing

/-! # Who is registered, among other tasks

Listeners are registered and unregistered by tasks that ask for it, and by callbacks in the middle
of a transition, which others may go through at the same time. None of them does more than to change
the registry by one listener at a moment (`World.Leads.listeners_eq`), so whatever the interleaving,
the registered listeners are those of one sequence of changes, and all that is true of registries
under changes is true of them (`Session.ordered_follow`). A task that asks for a change is told
whether it was possible at that moment.
-/

namespace SessionKeeper

open Registry (Change)

/-- The listener is registered or can be named. -/
def Shared.Knows (shared : Shared) (listener : Listener) : Prop :=
  listener ∈ shared.listeners.members ∨ listener ∈ shared.roster

theorem Shared.Enrolment.exists_changes {before after : Shared}
    (enrolment : before.Enrolment after) :
    ∃ changes : List (Change Listener), (∀ change ∈ changes, change.item ∈ before.roster) ∧
      after.listeners = before.listeners.after Listener.same changes := by
  rcases enrolment with same | ⟨listener, known, enlisted | dismissed⟩
  · exact ⟨[], nofun, same⟩
  · exact ⟨[.add listener], by simpa [Change.item] using known, enlisted⟩
  · exact ⟨[.remove listener], by simpa [Change.item] using known, dismissed⟩

/-- Whatever happens, the registered listeners come about by changes, one after the other. -/
theorem World.Leads.listeners_eq {world later : World} (leads : World.Leads world later) :
    later.shared.roster = world.shared.roster ∧
      ∃ changes : List (Change Listener), (∀ change ∈ changes, change.item ∈ world.shared.roster) ∧
        later.shared.listeners = world.shared.listeners.after Listener.same changes := by
  induction leads with
  | refl => exact ⟨rfl, [], nofun, rfl⟩
  | tail _ step ih =>
    obtain ⟨moment, _, allowed, rfl⟩ := step
    obtain ⟨roster, changes, known, reached⟩ := ih
    obtain ⟨more, named, added⟩ := allowed.enrolment.exists_changes
    refine ⟨allowed.roster_eq.trans roster, changes ++ more, fun change member => ?_, ?_⟩
    · exact (List.mem_append.mp member).elim (known change) fun last => roster ▸ named change last
    · rw [Registry.after_append, ← reached]
      exact added

namespace Session

variable (session : Session) (endpoint : Endpoint) {course : Course CallReply} {name : Text}
  {listener : Listener}

/-- A task that has the registered listeners changed is over at once, and its reply is whether they
have changed. -/
theorem returns_changeListeners (change : Shared → Listener → Bool × Shared)
    (known : course.world.shared.listener? name = some listener) :
    let next := course.join endpoint (CallReply.changed <$> changeListeners name change)
    next.Returns course.crew.tasks.length
        (.ok (.changed (change course.world.shared listener).1)) ∧
      next.world.shared = (change course.world.shared listener).2 := by
  intro next
  have carries := course.carries_join endpoint (CallReply.changed <$> changeListeners name change)
  have done : (CallReply.changed <$> changeListeners name change).advance endpoint
      (course.crew.contended course.crew.tasks.length) course.world.shared =
        ((change course.world.shared listener).2,
          .finished (.ok (.changed (change course.world.shared listener).1))) := by
    simp only [changeListeners, Listener.named, Functor.map, Bind.bind, Routine.bind, Routine.get,
      Routine.andThen, Routine.advance, known]
    rfl
  refine ⟨carries.own.trans ?_, carries.shared.trans ?_⟩
  · rw [Course.standing, done]
  · rw [done]

/-- What a task is told that asks for a listener to be registered or unregistered, and what it
leaves registered. -/
structure Replies (course : Course CallReply) (endpoint : Endpoint) (call : Call)
    (change : Change Listener) : Prop where
  returns : (course.step endpoint session.answer (.begins call)).Returns course.crew.tasks.length
    (.ok (.changed (course.world.shared.listeners.change Listener.same change).1))
  leaves : (course.step endpoint session.answer (.begins call)).world.shared.listeners =
    (course.world.shared.listeners.change Listener.same change).2

theorem replies_enlist (known : course.world.shared.listener? name = some listener) :
    session.Replies course endpoint (.enlist name) (.add listener) := by
  obtain ⟨returns, leaves⟩ := returns_changeListeners endpoint Shared.enlist known
  exact ⟨returns, congrArg Shared.listeners leaves⟩

theorem replies_dismiss (known : course.world.shared.listener? name = some listener) :
    session.Replies course endpoint (.dismiss name) (.remove listener) := by
  obtain ⟨returns, leaves⟩ := returns_changeListeners endpoint Shared.dismiss known
  exact ⟨returns, congrArg Shared.listeners leaves⟩

/-- **The registered listeners are an ordered set.** A registry keeps to the laws of one under any
changes, for any equivalence that takes the place of equality. Whatever calls tasks make of a
session, in whatever order they go on, whatever the endpoint answers and callbacks do: after every
moment of the course the registered listeners are those of a sequence of changes by listeners that
can be named, and so keep to these laws, and a task that asks for a change gets the reply of the
registry as it then is. -/
theorem ordered_follow :
    (∀ {α : Type} {same : α → α → Bool} {known : α → Prop} {registry : Registry α}
        {changes : List (Change α)}, Registry.Equates same known → registry.Proper same known →
        (∀ change ∈ changes, known change.item) →
          registry.Ordered same known changes (registry.after same changes)) ∧
      ∀ (session : Session) (endpoint : Endpoint) {shared : Shared} (events : List (Event Call)),
        shared.locked = [] → Registry.Equates Listener.same shared.Knows →
        shared.listeners.Proper Listener.same shared.Knows →
          let course := (Course.initial shared).follow endpoint session.answer events
          (∀ world, course.Passes world →
            ∃ changes : List (Change Listener), (∀ change ∈ changes, change.item ∈ shared.roster) ∧
              shared.listeners.Ordered Listener.same shared.Knows changes world.shared.listeners) ∧
            ∀ name listener, shared.listener? name = some listener →
              session.Replies course endpoint (.enlist name) (.add listener) ∧
                session.Replies course endpoint (.dismiss name) (.remove listener) := by
  refine ⟨fun equates proper knows => proper.ordered equates knows, ?_⟩
  intro session endpoint shared events unlocked equates proper course
  have sound := session.sound_traced endpoint unlocked events
  refine ⟨fun world passed => ?_, fun name listener known => ?_⟩
  · obtain ⟨_, changes, named, reached⟩ := (sound.passed passed).1.listeners_eq
    refine ⟨changes, named, ?_⟩
    rw [show world.shared.listeners = _ from reached]
    exact proper.ordered equates fun change member => .inr (named change member)
  · have roster : course.world.shared.roster = shared.roster := sound.leads.listeners_eq.1
    have still : course.world.shared.listener? name = some listener := by
      rw [Shared.listener?, roster]
      exact known
    exact ⟨session.replies_enlist endpoint still, session.replies_dismiss endpoint still⟩

/-- Two listeners count as the same. While the callback of the first waits, the second cannot be
registered; then the callback unregisters the first by naming the second. -/
theorem ordered_follow_keyed :
    let parity : Nat → Nat → Bool := fun first second => first % 2 == second % 2
    let numbers : Registry Nat := {}
    let changes : List (Change Nat) := [.add 1, .add 3, .add 2, .remove 5]
    let session : Session := ⟨⟨"https://login.test", "id", "secret", "user", "password", 5000⟩⟩
    let endpoint : Endpoint := fun _ _ => .later (.ok ⟨200, none,
      .text "\x7b\"access_token\": \"t\", \"instance_url\": \"https://a.test\"\x7d"⟩)
    let first : Listener :=
      { name := "A", kind := .keyed (.int 1), onLogin := some fun _ _ => [.pause, .dismiss "B"] }
    let second : Listener := { name := "B", kind := .keyed (.int 1) }
    let shared : Shared := { listeners := ⟨[first]⟩, roster := [first, second] }
    let course := (Course.initial shared).follow endpoint session.answer
      [.begins (.login none), .turn 0, .begins (.enlist "B"), .turn 0, .begins (.enlist "B")]
    numbers.Ordered parity (fun _ => True) changes ⟨[2]⟩ ∧
      course.Returns 1 (.ok (.changed false)) ∧ course.Returns 2 (.ok (.changed true)) ∧
      course.world.shared.names = ["B"] ∧
      ∃ changes : List (Change Listener), (∀ change ∈ changes, change.item ∈ shared.roster) ∧
        shared.listeners.Ordered Listener.same shared.Knows changes course.world.shared.listeners :=
    by
  intro parity numbers changes session endpoint first second shared course
  have alike : ∀ one ∈ [first, second], ∀ other ∈ [first, second], one.same other = true := by
    decide +kernel
  have listed {listener : Listener} (known : shared.Knows listener) :
      listener ∈ [first, second] :=
    known.elim (fun member => List.mem_cons.mpr (.inl (List.mem_singleton.mp member))) id
  have equates : Registry.Equates Listener.same shared.Knows :=
    { refl := fun _ known => alike _ (listed known) _ (listed known)
      symm := fun _ _ known also _ => alike _ (listed also) _ (listed known)
      trans := fun _ _ _ known _ also _ _ => alike _ (listed known) _ (listed also) }
  have proper : shared.listeners.Proper Listener.same shared.Knows :=
    ⟨fun _ member => .inl member, List.pairwise_singleton _ _⟩
  have even : Registry.Equates parity fun _ => True := by
    constructor <;> simp +contextual [parity]
  refine ⟨ordered_follow.1 even ⟨fun _ _ => trivial, .nil⟩ fun _ _ => trivial,
    Course.returns_of_reported? (by decide +kernel),
    Course.returns_of_reported? (by decide +kernel), by decide +kernel, ?_⟩
  exact (ordered_follow.2 session endpoint _ rfl equates proper).1 _ (.inl rfl)

end Session

end SessionKeeper
