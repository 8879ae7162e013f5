import Mathlib.Data.List.Forall2
import SessionKeeper.Proofs.Session.Visit
import SessionKeeper.Proofs.Task.Completion
import SessionKeeper.Proofs.Task.Enclosure
import SessionKeeper.Proofs.Task.Run
import SessionKeeper.Session.Call

/-! # Transitions one after the other

Tasks that do everything under the lock of the session do not mix. Their moments stand together in
the history (`History.Serial`), and what they leave behind, log lines and outcomes included, is what
they would leave behind if they were carried out alone, one after the other in the order in which
they got the lock (`Course.Serialised`).

The proof goes along a course of such tasks: those that had the lock are through, one may have it in
hand and has the rest of its routine before it, and all others wait for it, their routines
untouched (`Course.InSeries`).
-/

namespace SessionKeeper

variable {α : Type} {moment : Moment} {past : History} {number : Nat}

/-! ## Histories -/

namespace History

theorem takers_cons_of_took (taken : moment.deed = .took .session) :
    takers (moment :: past) = moment.task :: past.takers := by
  simp [takers, taken]

theorem takers_cons_of_ne (untaken : moment.deed ≠ .took .session) :
    takers (moment :: past) = past.takers := by
  rw [takers, List.filterMap_cons, ← takers]
  split
  · rfl
  · rename_i task taking
    split at taking
    · rename_i taken
      exact absurd taken untaken
    · cases taking

/-- The tasks took the lock of the session once each, and the moments of a task stand together, in
the order in which the lock was taken. -/
structure Serial (past : History) : Prop where
  distinct : past.takers.Nodup
  grouped : past = past.takers.flatMap fun number => past.filter (·.task == number)

/-- The moments of the other tasks stay as they are. -/
private theorem filter_cons {others : List Nat} (strange : moment.task ∉ others) :
    (others.flatMap fun number => (moment :: past).filter (·.task == number)) =
      others.flatMap fun number => past.filter (·.task == number) := by
  refine List.flatMap_congr fun number member => List.filter_cons_of_neg ?_
  have different : moment.task ≠ number := fun same => strange (same ▸ member)
  simpa using different

namespace Serial

variable (serial : past.Serial)

include serial

theorem taker (member : moment ∈ past) : moment.task ∈ past.takers := by
  rw [serial.grouped] at member
  obtain ⟨number, taker, own⟩ := List.mem_flatMap.mp member
  obtain rfl : moment.task = number := by simpa using (List.mem_filter.mp own).2
  exact taker

theorem took (taken : moment.deed = .took .session) (new : moment.task ∉ past.takers) :
    Serial (moment :: past) := by
  have nothing : past.filter (·.task == moment.task) = [] := by
    refine List.filter_eq_nil_iff.mpr fun other member => ?_
    have different : other.task ≠ moment.task := fun same => new (same ▸ serial.taker member)
    simpa using different
  refine ⟨?_, ?_⟩
  · rw [takers_cons_of_took taken]
    exact List.nodup_cons.mpr ⟨new, serial.distinct⟩
  · rw [takers_cons_of_took taken, List.flatMap_cons, filter_cons new, ← serial.grouped,
      List.filter_cons_of_pos (by simp), nothing]
    rfl

/-- Who took the lock last goes on. -/
theorem goesOn (untaken : moment.deed ≠ .took .session)
    (last : past.takers.head? = some moment.task) : Serial (moment :: past) := by
  obtain ⟨others, takers⟩ := List.head?_eq_some_iff.mp last
  have distinct := serial.distinct
  have grouped := serial.grouped
  rw [takers] at distinct grouped
  rw [List.flatMap_cons] at grouped
  have strange := (List.nodup_cons.mp distinct).1
  refine ⟨?_, ?_⟩
  · rw [takers_cons_of_ne untaken]
    exact serial.distinct
  · rw [takers_cons_of_ne untaken, takers, List.flatMap_cons, filter_cons strange,
      List.filter_cons_of_pos (by simp), List.cons_append, ← grouped]

end Serial

end History

theorem Deed.ofUpdate_ne_took (change : Shared → Shared) (before : Shared) (lock : Lock) :
    ofUpdate change before ≠ .took lock := by
  simp only [ofUpdate]
  split
  · simp
  · split
    · simp
    · simp
    · split <;> simp

/-- Who has taken the lock of the session last goes on alone until it gives the lock back. -/
theorem Routine.Closes.serial_enact {routine : Routine α} {world : World}
    (closes : routine.Closes .session) (endpoint : Endpoint) (contended : List Lock)
    (serial : world.past.Serial) (last : world.past.takers.head? = some number) :
    (routine.enact endpoint contended number world).past.Serial ∧
      (routine.enact endpoint contended number world).past.takers = world.past.takers := by
  have onwards {world : World} {deed : Deed} (after : Shared) (serial : world.past.Serial)
      (last : world.past.takers.head? = some number) (untaken : deed ≠ .took .session) :
      (world.did number deed after).past.Serial ∧
        (world.did number deed after).past.takers = world.past.takers :=
    ⟨serial.goesOn untaken last, History.takers_cons_of_ne untaken⟩
  induction routine generalizing world with
  | done _ => exact closes.elim
  | look _ ih => exact ih world.shared (closes world.shared) serial last
  | update change next ih =>
    obtain ⟨still, same⟩ := onwards (change world.shared) serial last
      (Deed.ofUpdate_ne_took change world.shared .session)
    rcases closes with ⟨_, outcome, rfl⟩ | ⟨_, rest⟩
    · exact ⟨still, same⟩
    · obtain ⟨ended, takers⟩ := ih rest still (same ▸ last)
      exact ⟨ended, takers.trans same⟩
  | exchange request next ih =>
    have sending : Deed.sent request ≠ .took .session := by simp
    obtain ⟨sent, asked⟩ := onwards (world.shared.send request) serial last sending
    simp only [Routine.enact]
    cases endpoint world.shared.sent request with
    | later answer => exact ⟨sent, asked⟩
    | atOnce answer =>
      have hearing : Deed.answered request answer ≠ .took .session := by simp
      obtain ⟨heard, same⟩ := onwards (world.shared.send request) sent (asked ▸ last) hearing
      obtain ⟨ended, takers⟩ := ih answer (closes answer) heard (same ▸ asked ▸ last)
      exact ⟨ended, takers.trans (same.trans asked)⟩
  | acquire _ _ _ => exact closes.elim
  | pause _ _ => exact ⟨serial, rfl⟩

/-- Who waits with the lock of the session in hand goes on where it stands. -/
theorem Waiting.Closes.wake {waiting : Waiting α} (closes : waiting.Closes .session) {world : World}
    (serial : world.past.Serial) (last : world.past.takers.head? = some number) :
    (waiting.wake number world).shared = world.shared ∧ waiting.remaining = waiting.rest ∧
      (waiting.wake number world).past.Serial ∧
      (waiting.wake number world).past.takers = world.past.takers := by
  cases waiting with
  | finished _ => exact closes.elim
  | forLock _ _ => exact closes.elim
  | forAnswer _ _ _ =>
    exact ⟨rfl, rfl, serial.goesOn (by simp) last, History.takers_cons_of_ne (by simp)⟩
  | forTurn _ =>
    exact ⟨rfl, rfl, serial.goesOn (by simp) last, History.takers_cons_of_ne (by simp)⟩

/-! ## Courses -/

namespace Course

/-- What is left behind, and what the tasks come to, if those with the numbers of a list are carried
out alone, one after the other. -/
def inOrder (endpoint : Endpoint) (start : Shared) (routines : List (Routine α))
    (order : List Nat) : Shared × List (Except Fault α) :=
  Routine.runAll endpoint (order.filterMap (routines[·]?)) start

/-- Who has the lock of the session after the tasks of a list had it. -/
inductive Occupancy (endpoint : Endpoint) (start : Shared) (routines : List (Routine α))
    (order : List Nat) (course : Course α) : Prop
  | vacant (takers : course.past.takers = order.reverse)
      (shared : course.crew.shared = (inOrder endpoint start routines order).1)
      (unlocked : course.crew.shared.locked = []) :
    Occupancy endpoint start routines order course
  /-- Carried on alone, the task would end as if it had been alone from the beginning. -/
  | occupied (number : Nat) (takers : course.past.takers = number :: order.reverse)
      (waiting : Waiting α) (stands : course.crew.tasks[number]? = some waiting)
      (closes : waiting.Closes .session) (locked : course.crew.shared.locked = [.session])
      (routine : Routine α) (begun : routines[number]? = some routine)
      (runs : waiting.rest.run endpoint course.crew.shared =
        routine.run endpoint (inOrder endpoint start routines order).1) :
    Occupancy endpoint start routines order course

/-- The tasks of a list had the lock of the session, in this order; one more may have it, and the
others are waiting for it. -/
structure InSeries (endpoint : Endpoint) (start : Shared) (routines : List (Routine α))
    (course : Course α) (order : List Nat) : Prop where
  serial : course.past.Serial
  known : ∀ number ∈ course.past.takers, number < course.crew.tasks.length
  outside : ∀ number (waiting : Waiting α), course.crew.tasks[number]? = some waiting →
    number ∉ course.past.takers → ∃ rest : Except Fault Unit → Routine α,
      routines[number]? = some (.acquire .session rest) ∧ (rest (.ok ())).Closes .session ∧
        waiting = .forLock .session rest
  returned : List.Forall₂ course.Returns order (inOrder endpoint start routines order).2
  occupancy : Occupancy endpoint start routines order course

variable {endpoint : Endpoint} {start : Shared} {routines : List (Routine α)}
  {course next : Course α} {order : List Nat}

theorem inOrder_concat {routine : Routine α} (begun : routines[number]? = some routine) :
    inOrder endpoint start routines (order ++ [number]) =
      ((routine.run endpoint (inOrder endpoint start routines order).1).1,
        (inOrder endpoint start routines order).2 ++
          [(routine.run endpoint (inOrder endpoint start routines order).1).2]) := by
  simp [inOrder, begun, Routine.runAll_concat]

/-- Who has returned stays where it is. -/
theorem returned_of_stand {outcomes : List (Except Fault α)}
    (returned : List.Forall₂ course.Returns order outcomes)
    (stand : ∀ number ∈ order, next.crew.tasks[number]? = course.crew.tasks[number]?) :
    List.Forall₂ next.Returns order outcomes :=
  ((List.forall₂_and_left _ _).mpr ⟨stand, returned⟩).imp
    fun _ _ ⟨stands, returns⟩ => stands.trans returns

theorem exists_of_returned {outcomes : List (Except Fault α)}
    (returned : List.Forall₂ course.Returns order outcomes) (member : number ∈ order) :
    ∃ outcome, course.Returns number outcome := by
  induction returned with
  | nil => cases member
  | @cons first outcome _ _ returns _ ih =>
    rcases List.mem_cons.mp member with rfl | later
    · exact ⟨outcome, returns⟩
    · exact ih later

theorem InSeries.mem_takers (inSeries : course.InSeries endpoint start routines order)
    (member : number ∈ order) : number ∈ course.past.takers := by
  cases inSeries.occupancy with
  | vacant takers =>
    rw [takers]
    exact List.mem_reverse.mpr member
  | occupied _ takers =>
    rw [takers]
    exact List.mem_cons_of_mem _ (List.mem_reverse.mpr member)

/-- The task that has the lock of the session goes on while the others stand still. -/
private theorem InSeries.proceed (inSeries : course.InSeries endpoint start routines order)
    {remaining routine : Routine α} {world : World}
    (carries : Carries endpoint course next number remaining world)
    (closes : remaining.Closes .session) (serial : world.past.Serial)
    (takers : world.past.takers = number :: order.reverse)
    (older : ∀ other ∈ course.past.takers, other ∈ world.past.takers)
    (locked : world.shared.locked = [.session]) (begun : routines[number]? = some routine)
    (runs : remaining.run endpoint world.shared =
      routine.run endpoint (inOrder endpoint start routines order).1) :
    ∃ order, next.InSeries endpoint start routines order := by
  obtain ⟨still, same⟩ := closes.serial_enact endpoint (course.crew.contended number) serial
    (by rw [takers]; rfl)
  rw [← carries.past] at still same
  have distinct := serial.distinct
  rw [takers] at distinct
  have strange : ∀ other ∈ order, other ≠ number := by
    rintro other member rfl
    exact (List.nodup_cons.mp distinct).1 (List.mem_reverse.mpr member)
  have known : ∀ other ∈ next.past.takers, other < next.crew.tasks.length := by
    intro other member
    rw [same, takers] at member
    rcases List.mem_cons.mp member with rfl | before
    · exact (List.getElem?_eq_some_iff.mp carries.own).1
    · exact carries.known (inSeries.known other (inSeries.mem_takers (List.mem_reverse.mp before)))
  have outside : ∀ other waiting, next.crew.tasks[other]? = some waiting →
      other ∉ next.past.takers → ∃ rest : Except Fault Unit → Routine α,
        routines[other]? = some (.acquire .session rest) ∧ (rest (.ok ())).Closes .session ∧
          waiting = .forLock .session rest := by
    intro other waiting at? absent
    rw [same] at absent
    have different : other ≠ number := by
      rintro rfl
      exact absent (takers ▸ List.mem_cons_self)
    rw [carries.others other different] at at?
    exact inSeries.outside other waiting at? fun before => absent (older other before)
  have returned : List.Forall₂ next.Returns order (inOrder endpoint start routines order).2 :=
    returned_of_stand inSeries.returned fun other member =>
      carries.others other (strange other member)
  have alone := Routine.run_rest_advance endpoint (course.crew.contended number) remaining
    world.shared
  have own := carries.own
  simp only [standing] at own
  rcases closes.advance endpoint (course.crew.contended number) locked with
    ⟨outcome, finished, unlocked⟩ | ⟨inside, held⟩
  · rw [finished] at alone own
    rw [← carries.shared] at alone unlocked
    have ended := alone.trans runs
    refine ⟨order ++ [number], still, known, outside, ?_, .vacant ?_ ?_ unlocked⟩
    · rw [inOrder_concat begun, ← ended]
      exact List.rel_append returned (.cons own .nil)
    · rw [same, takers, List.reverse_append]
      rfl
    · rw [inOrder_concat begun, ← ended]
      rfl
  · rw [← carries.shared] at alone held
    exact ⟨order, still, known, outside, returned,
      .occupied number (same.trans takers) _ own inside held routine begun (alone.trans runs)⟩

/-- A task that takes the lock of the session, for the first time, does so when nobody has it. -/
private theorem InSeries.enter (inSeries : course.InSeries endpoint start routines order)
    {rest : Except Fault Unit → Routine α}
    (carries : Carries endpoint course next number (rest (.ok ()))
      (course.world.takes number .session))
    (begun : routines[number]? = some (.acquire .session rest))
    (closes : (rest (.ok ())).Closes .session) (new : number ∉ course.past.takers)
    (free : Lock.session ∉ course.crew.shared.locked) :
    ∃ order, next.InSeries endpoint start routines order := by
  have took : (course.world.takes number .session).past.takers = number :: course.past.takers :=
    History.takers_cons_of_took rfl
  cases inSeries.occupancy with
  | occupied _ _ _ _ _ locked => exact absurd (by simp [locked]) free
  | vacant takers shared unlocked =>
    refine inSeries.proceed carries closes (inSeries.serial.took rfl new) ?_ ?_ ?_ begun ?_
    · rw [took, takers]
    · rw [took]
      exact fun other => List.mem_cons_of_mem number
    · exact congrArg (Lock.session :: ·) unlocked
    · rw [← shared]
      rfl

/-- A task that has to wait for the lock of the session leaves everything as it is. -/
private theorem InSeries.stay (inSeries : course.InSeries endpoint start routines order)
    {rest : Except Fault Unit → Routine α} (same : next.world = course.world)
    (own : next.crew.tasks[number]? = some (.forLock .session rest))
    (others : ∀ other, other ≠ number → next.crew.tasks[other]? = course.crew.tasks[other]?)
    (known : ∀ other < course.crew.tasks.length, other < next.crew.tasks.length)
    (begun : routines[number]? = some (.acquire .session rest))
    (closes : (rest (.ok ())).Closes .session) (new : number ∉ course.past.takers) :
    next.InSeries endpoint start routines order := by
  have past : next.past = course.past := congrArg World.past same
  have shared : next.crew.shared = course.crew.shared := congrArg World.shared same
  have stand : ∀ other ∈ course.past.takers,
      next.crew.tasks[other]? = course.crew.tasks[other]? := by
    intro other taker
    exact others other fun same => new (same ▸ taker)
  refine ⟨past ▸ inSeries.serial, ?_, ?_, ?_, ?_⟩
  · rw [past]
    exact fun other taker => known other (inSeries.known other taker)
  · intro other waiting at? outside
    by_cases itself : other = number
    · subst itself
      exact ⟨rest, begun, closes, Option.some.inj (at?.symm.trans own)⟩
    · rw [others other itself] at at?
      exact inSeries.outside other waiting at? (past ▸ outside)
  · exact returned_of_stand inSeries.returned fun other member =>
      stand other (inSeries.mem_takers member)
  · cases inSeries.occupancy with
    | vacant takers left unlocked =>
      exact .vacant (past ▸ takers) (shared.trans left) (shared ▸ unlocked)
    | occupied holder takers waiting stands inside locked routine begun runs =>
      refine .occupied holder (past ▸ takers) waiting ?_ inside (shared ▸ locked) routine begun
        (shared ▸ runs)
      exact (stand holder (takers ▸ List.mem_cons_self)).trans stands

theorem InSeries.join (inSeries : course.InSeries endpoint start routines order)
    {routine : Routine α} (enclosed : routine.IsEnclosed .session)
    (begun : routines[course.crew.tasks.length]? = some routine) :
    ∃ order, (course.join endpoint routine).InSeries endpoint start routines order := by
  obtain ⟨rest, rfl, closes⟩ := enclosed
  have carries := course.carries_join endpoint (.acquire .session rest)
  have new : course.crew.tasks.length ∉ course.past.takers := fun member =>
    Nat.lt_irrefl _ (inSeries.known _ member)
  have world := carries.world
  have own := carries.own
  simp only [Routine.enact] at world
  simp only [standing, Routine.advance] at own
  split at own
  · rename_i waits
    rw [if_pos waits] at world
    exact ⟨order, inSeries.stay world own carries.others (fun _ => carries.known) begun closes new⟩
  · rename_i enters
    rw [if_neg enters] at world
    refine inSeries.enter ⟨world, own, carries.others⟩ begun closes new fun locked => enters ?_
    exact Bool.or_eq_true_iff.mpr (.inl (decide_eq_true locked))

theorem InSeries.resume (inSeries : course.InSeries endpoint start routines order) (number : Nat) :
    ∃ order, (course.resume endpoint number).InSeries endpoint start routines order := by
  by_cases able : course.CanResume number
  · obtain ⟨waiting, at?, ready⟩ := able
    have carries := course.carries_resume endpoint at? ready
    have unfinished : number ∉ order := by
      intro member
      obtain ⟨outcome, returns⟩ := exists_of_returned inSeries.returned member
      rw [Returns, at?, Option.some.injEq] at returns
      rw [returns] at ready
      cases ready
    by_cases taker : number ∈ course.past.takers
    · cases inSeries.occupancy with
      | vacant takers =>
        rw [takers, List.mem_reverse] at taker
        exact absurd taker unfinished
      | occupied holder takers inside stands closes locked routine begun runs =>
        rw [takers, List.mem_cons, List.mem_reverse] at taker
        obtain rfl := taker.resolve_right unfinished
        obtain rfl := Option.some.inj (stands.symm.trans at?)
        have last : course.world.past.takers.head? = some number :=
          congrArg List.head? takers
        obtain ⟨same, rest, serial, took⟩ := closes.wake inSeries.serial last
        have remaining := closes.remaining course.crew.shared
        refine inSeries.proceed carries remaining.2 serial (took.trans takers) ?_ ?_ begun ?_
        · rw [took]
          exact fun _ => id
        · rw [same]
          exact locked
        · rw [same, rest]
          exact runs
    · obtain ⟨rest, begun, closes, rfl⟩ := inSeries.outside number waiting at? taker
      exact inSeries.enter carries begun closes taker (by simpa [Waiting.isReady] using ready)
  · rw [resume_of_not_canResume endpoint course able]
    exact ⟨order, inSeries⟩

variable {Task : Type} {begin : Task → Routine α} {events : List (Event Task)}

/-- A series goes on as tasks begin that do everything under the lock of the session. -/
private theorem InSeries.follow (inSeries : course.InSeries endpoint start routines order)
    (enclosed : ∀ task ∈ Event.begun events, (begin task).IsEnclosed .session)
    (begun : (Event.begun events).map begin <+: routines.drop course.crew.tasks.length)
    (unbroken : Event.Breaks (fun _ => False) events) :
    ∃ order, (course.follow endpoint begin events).InSeries endpoint start routines order := by
  induction events generalizing course order with
  | nil => exact ⟨order, inSeries⟩
  | cons event rest ih =>
    have unbrokenRest : Event.Breaks (fun _ => False) rest := fun number fault member =>
      unbroken number fault (List.mem_cons_of_mem _ member)
    cases event with
    | begins task =>
      obtain ⟨beyond, split⟩ := begun
      have next : routines[course.crew.tasks.length]? = some (begin task) := by
        rw [← List.head?_drop, ← split]
        rfl
      obtain ⟨_, joined⟩ := inSeries.join (enclosed task List.mem_cons_self) next
      refine ih joined (fun other member => enclosed other (List.mem_cons_of_mem _ member)) ?_
        unbrokenRest
      simp only [step]
      rw [length_join, ← List.drop_drop, ← split]
      exact ⟨beyond, rfl⟩
    | turn number =>
      obtain ⟨_, resumed⟩ := inSeries.resume number
      refine ih resumed enclosed ?_ unbrokenRest
      simp only [step]
      rw [length_resume]
      exact begun
    | interruption number fault => exact (unbroken number fault List.mem_cons_self).elim

/-- The course is over, and everything is as if its tasks had been carried out alone, one after the
other in the order in which they took the lock of the session. -/
structure Serialised (endpoint : Endpoint) (start : Shared) (routines : List (Routine α))
    (final : Course α) : Prop where
  everybody : final.past.takers.Perm (List.range final.crew.tasks.length)
  /-- Nobody does anything between two deeds of another task. -/
  grouped : final.past =
    final.past.takers.flatMap fun number => final.past.filter (·.task == number)
  shared : final.crew.shared =
    (inOrder endpoint start routines final.past.takers.reverse).1
  returned : List.Forall₂ final.Returns final.past.takers.reverse
    (inOrder endpoint start routines final.past.takers.reverse).2

/-- A series in which nobody can go on is over. -/
theorem InSeries.serialised (inSeries : course.InSeries endpoint start routines order)
    (stuck : ∀ number, ¬ course.CanResume number) :
    Serialised endpoint start routines course := by
  cases inSeries.occupancy with
  | occupied number _ waiting stands closes =>
    exact absurd ⟨waiting, stands, (closes.remaining course.crew.shared).1⟩ (stuck number)
  | vacant takers shared unlocked =>
    have ordered : course.past.takers.reverse = order := by rw [takers, List.reverse_reverse]
    refine ⟨?_, inSeries.serial.grouped, ordered ▸ shared, ordered ▸ inSeries.returned⟩
    refine (List.perm_ext_iff_of_nodup inSeries.serial.distinct List.nodup_range).mpr
      fun number => ?_
    rw [List.mem_range]
    refine ⟨inSeries.known number, fun bound => by_contra fun absent => ?_⟩
    have at? := List.getElem?_eq_getElem bound
    obtain ⟨rest, _, _, waits⟩ := inSeries.outside number _ at? absent
    exact stuck number ⟨_, at?, by simp [waits, Waiting.isReady, unlocked]⟩

/-- **Tasks one after the other.** However tasks that do everything under the lock of the session
take their turns, they come to an end, and then everything is as if they had been carried out alone,
one after the other in the order in which they took the lock. -/
theorem inevitably_serialised (unlocked : start.locked = [])
    (enclosed : ∀ task ∈ Event.begun events, (begin task).IsEnclosed .session)
    (unbroken : Event.Breaks (fun _ => False) events) :
    Inevitably endpoint
      (fun final => final.crew.tasks.length = (Event.begun events).length ∧
        Serialised endpoint start ((Event.begun events).map begin) final)
      ((initial start).follow endpoint begin events) := by
  have first : (initial start : Course α).InSeries endpoint start ((Event.begun events).map begin)
      [] := by
    have nobody : (initial start : Course α).past.takers = [] := rfl
    refine ⟨⟨List.nodup_nil, rfl⟩, ?_, ?_, .nil, .vacant rfl rfl unlocked⟩
    · simp [nobody]
    · simp [initial]
  have length : ((initial start).follow endpoint begin events).crew.tasks.length =
      (Event.begun events).length := length_follow.trans (Nat.zero_add _)
  refine inevitably_of_kept
    (fun course => course.crew.tasks.length = (Event.begun events).length ∧
      ∃ order, course.InSeries endpoint start ((Event.begun events).map begin) order)
    ?_ ?_ ⟨length, first.follow enclosed List.prefix_rfl unbroken⟩
  · rintro course number ⟨length, order, inSeries⟩ _
    exact ⟨length_resume.trans length, inSeries.resume number⟩
  · rintro final ⟨length, order, inSeries⟩ stuck
    exact ⟨length, inSeries.serialised stuck⟩

end Course

end SessionKeeper
