import SessionKeeper.Task.Routine

/-! # Routines that are carried out alone

What carrying a routine out alone comes to, construct by construct. A routine that is carried to its
next wait and then alone comes to the same as one that is carried out alone from the beginning
(`Routine.run_rest_advance`), so waits do not show in the outcome as long as nobody else acts. What
the parts of a routine all keep to, the routine does too (`Routine.Behaves`).
-/

namespace SessionKeeper.Routine

variable {α β : Type} (endpoint : Endpoint)

theorem run_andThen (routine : Routine α) (next : Except Fault α → Routine β) (shared : Shared) :
    (routine.andThen next).run endpoint shared =
      (next (routine.run endpoint shared).2).run endpoint (routine.run endpoint shared).1 := by
  induction routine generalizing shared with
  | done outcome => rfl
  | look rest ih => exact ih shared shared
  | update change rest ih => exact ih (change shared)
  | exchange request rest ih => exact ih _ (shared.send request)
  | acquire lock rest ih => exact ih (.ok ()) (shared.lock lock)
  | pause rest ih => exact ih (.ok ()) shared

theorem run_bind (routine : Routine α) (next : α → Routine β) (shared : Shared) :
    (routine >>= next).run endpoint shared =
      match routine.run endpoint shared with
      | (after, .ok value) => (next value).run endpoint after
      | (after, .error fault) => (after, .error fault) := by
  refine (run_andThen endpoint routine _ shared).trans ?_
  obtain ⟨after, outcome⟩ := routine.run endpoint shared
  cases outcome <;> rfl

/-- A fault ends a sequence. -/
theorem run_bind_of_error {routine : Routine α} {shared after : Shared} {fault : Fault}
    (failed : routine.run endpoint shared = (after, .error fault)) (next : α → Routine β) :
    (routine >>= next).run endpoint shared = (after, .error fault) := by
  rw [run_bind, failed]

/-- A value is handed on in a sequence. -/
theorem run_bind_of_ok {routine : Routine α} {shared after : Shared} {value : α}
    (succeeded : routine.run endpoint shared = (after, .ok value)) (next : α → Routine β) :
    (routine >>= next).run endpoint shared = (next value).run endpoint after := by
  rw [run_bind, succeeded]

/-- Both parts of a sequence that succeeds do. -/
theorem run_bind_eq_ok {routine : Routine α} {next : α → Routine β} {shared after : Shared}
    {result : β} (succeeded : (routine >>= next).run endpoint shared = (after, .ok result)) :
    ∃ between value, routine.run endpoint shared = (between, .ok value) ∧
      (next value).run endpoint between = (after, .ok result) := by
  rw [run_bind] at succeeded
  generalize routine.run endpoint shared = first at succeeded
  obtain ⟨between, fault | value⟩ := first
  · cases succeeded
  · exact ⟨between, value, rfl, succeeded⟩

theorem run_attempt (routine : Routine α) (shared : Shared) :
    routine.attempt.run endpoint shared =
      ((routine.run endpoint shared).1, .ok (routine.run endpoint shared).2) :=
  run_andThen endpoint routine _ shared

theorem run_tryCatch_of_ok {routine : Routine α} {shared after : Shared} {value : α}
    (succeeded : routine.run endpoint shared = (after, .ok value)) (handler : Fault → Routine α) :
    (tryCatch routine handler).run endpoint shared = (after, .ok value) := by
  refine (run_andThen endpoint routine _ shared).trans ?_
  rw [succeeded]
  rfl

theorem run_tryCatch_of_error {routine : Routine α} {shared after : Shared} {fault : Fault}
    (failed : routine.run endpoint shared = (after, .error fault)) (handler : Fault → Routine α) :
    (tryCatch routine handler).run endpoint shared = (handler fault).run endpoint after := by
  refine (run_andThen endpoint routine _ shared).trans ?_
  rw [failed]

/-- What is done last stands behind everything else, if it does not fail. -/
theorem run_ensuring {routine : Routine α} {last : Routine Unit} {shared after : Shared}
    (done : last.run endpoint (routine.run endpoint shared).1 = (after, .ok ())) :
    (routine.ensuring last).run endpoint shared = (after, (routine.run endpoint shared).2) :=
  (run_andThen endpoint routine _ shared).trans (run_bind_of_ok endpoint done _)

/-- What is done last is done whatever the outcome, which stands unless that fails. -/
theorem run_ensuring_bind (routine : Routine α) (last : Routine Unit) (shared : Shared) :
    (routine.ensuring last).run endpoint shared =
      ((last.run endpoint (routine.run endpoint shared).1).1,
        (last.run endpoint (routine.run endpoint shared).1).2.bind fun _ =>
          (routine.run endpoint shared).2) := by
  refine (run_andThen endpoint routine _ shared).trans ((run_bind endpoint last _ _).trans ?_)
  obtain ⟨after, fault | value⟩ := last.run endpoint (routine.run endpoint shared).1 <;> rfl

theorem run_withLock (lock : Lock) (body : Routine α) (shared : Shared) :
    (withLock lock body).run endpoint shared =
      ((body.run endpoint (shared.lock lock)).1.unlock lock,
        (body.run endpoint (shared.lock lock)).2) :=
  run_ensuring endpoint rfl

theorem run_withLock_eq_ok {lock : Lock} {body : Routine α} {shared after : Shared} {result : α}
    (succeeded : (withLock lock body).run endpoint shared = (after, .ok result)) :
    ∃ last, body.run endpoint (shared.lock lock) = (last, .ok result) ∧
      after = last.unlock lock := by
  rw [run_withLock] at succeeded
  obtain ⟨rfl, outcome⟩ := Prod.mk.inj succeeded
  exact ⟨_, Prod.ext rfl outcome, rfl⟩

@[simp] theorem run_pure (value : α) (shared : Shared) :
    (pure value : Routine α).run endpoint shared = (shared, .ok value) := rfl

@[simp] theorem run_throw (fault : Fault) (shared : Shared) :
    (throw fault : Routine α).run endpoint shared = (shared, .error fault) := rfl

@[simp] theorem run_get (shared : Shared) :
    Routine.get.run endpoint shared = (shared, .ok shared) := rfl

@[simp] theorem run_modify (change : Shared → Shared) (shared : Shared) :
    (modify change).run endpoint shared = (change shared, .ok ()) := rfl

@[simp] theorem run_say (level : Level) (message : Text) (shared : Shared) :
    (say level message).run endpoint shared = (shared.say level message, .ok ()) := rfl

@[simp] theorem run_ofExcept (outcome : Except Fault α) (shared : Shared) :
    (ofExcept outcome).run endpoint shared = (shared, outcome) := rfl

@[simp] theorem run_yieldTurn (shared : Shared) :
    yieldTurn.run endpoint shared = (shared, .ok ()) := rfl

/-- The waits of a routine do not show if nobody else acts. -/
theorem run_rest_advance (contended : List Lock) (routine : Routine α) (shared : Shared) :
    (routine.advance endpoint contended shared).2.rest.run endpoint
        (routine.advance endpoint contended shared).1 = routine.run endpoint shared := by
  induction routine generalizing shared with
  | done outcome => rfl
  | look next ih => exact ih shared shared
  | update change next ih => exact ih (change shared)
  | exchange request next ih =>
    simp only [advance, run]
    cases endpoint shared.sent request with
    | atOnce answer => exact ih answer (shared.send request)
    | later answer => rfl
  | acquire lock next ih =>
    simp only [advance, run]
    split
    · rfl
    · exact ih (.ok ()) (shared.lock lock)
  | pause next ih => rfl

/-! ## What routines have in common -/

/-- What may become of what is shared when a routine is carried out alone, and what the routine may
fail with. -/
structure Manner where
  passes : Shared → Shared → Prop
  fails : Fault → Prop
  refl : ∀ shared, passes shared shared
  trans : ∀ {first second third}, passes first second → passes second third → passes first third

/-- The routine keeps to a manner from whatever state it is carried out. -/
def Behaves (manner : Manner) (routine : Routine α) : Prop :=
  ∀ shared, manner.passes shared (routine.run endpoint shared).1 ∧
    ∀ fault, (routine.run endpoint shared).2 = .error fault → manner.fails fault

variable {endpoint} {manner : Manner} {routine : Routine α} {next : α → Routine β}

theorem behaves_ofExcept {outcome : Except Fault α}
    (fails : ∀ fault, outcome = .error fault → manner.fails fault) :
    (ofExcept outcome).Behaves endpoint manner :=
  fun shared => ⟨manner.refl shared, fails⟩

theorem behaves_pure (value : α) : (pure value : Routine α).Behaves endpoint manner :=
  behaves_ofExcept nofun

theorem behaves_throw {fault : Fault} (fails : manner.fails fault) :
    (throw fault : Routine α).Behaves endpoint manner :=
  behaves_ofExcept (by rintro _ ⟨rfl⟩; exact fails)

theorem behaves_get : Routine.get.Behaves endpoint manner :=
  fun shared => ⟨manner.refl shared, nofun⟩

theorem behaves_yieldTurn : yieldTurn.Behaves endpoint manner :=
  fun shared => ⟨manner.refl shared, nofun⟩

theorem behaves_modify {change : Shared → Shared}
    (passes : ∀ shared, manner.passes shared (change shared)) :
    (modify change).Behaves endpoint manner :=
  fun shared => ⟨passes shared, nofun⟩

/-- What follows has to keep to the manner for the values that its first part can have. -/
theorem Behaves.bind_of (first : routine.Behaves endpoint manner)
    (rest : ∀ shared value, (routine.run endpoint shared).2 = .ok value →
      (next value).Behaves endpoint manner) :
    (routine >>= next).Behaves endpoint manner := by
  intro shared
  have begun := first shared
  have known := rest shared
  rw [run_bind]
  generalize routine.run endpoint shared = result at begun known
  obtain ⟨between, fault | value⟩ := result
  · refine ⟨begun.1, ?_⟩
    rintro _ ⟨rfl⟩
    exact begun.2 fault rfl
  · obtain ⟨passes, fails⟩ := known value rfl between
    exact ⟨manner.trans begun.1 passes, fails⟩

theorem Behaves.bind (first : routine.Behaves endpoint manner)
    (rest : ∀ value, (next value).Behaves endpoint manner) :
    (routine >>= next).Behaves endpoint manner :=
  first.bind_of fun _ value _ => rest value

theorem Behaves.tryCatch {handler : Fault → Routine α} (body : routine.Behaves endpoint manner)
    (handled : ∀ fault, manner.fails fault → (handler fault).Behaves endpoint manner) :
    (tryCatch routine handler).Behaves endpoint manner := by
  intro shared
  have begun := body shared
  generalize ended : routine.run endpoint shared = result at begun
  obtain ⟨between, fault | value⟩ := result
  · obtain ⟨passes, fails⟩ := handled fault (begun.2 fault rfl) between
    rw [run_tryCatch_of_error endpoint ended]
    exact ⟨manner.trans begun.1 passes, fails⟩
  · rw [run_tryCatch_of_ok endpoint ended]
    exact begun

theorem Behaves.ensuring {last : Routine Unit} (body : routine.Behaves endpoint manner)
    (done : last.Behaves endpoint manner) : (routine.ensuring last).Behaves endpoint manner := by
  intro shared
  have begun := body shared
  have ended := done (routine.run endpoint shared).1
  rw [run_ensuring_bind]
  generalize last.run endpoint (routine.run endpoint shared).1 = result at ended
  obtain ⟨after, fault | value⟩ := result
  · refine ⟨manner.trans begun.1 ended.1, ?_⟩
    rintro _ ⟨rfl⟩
    exact ended.2 fault rfl
  · exact ⟨manner.trans begun.1 ended.1, begun.2⟩

theorem Behaves.withLock {lock : Lock} (body : routine.Behaves endpoint manner)
    (takes : ∀ shared, manner.passes shared (shared.lock lock))
    (gives : ∀ shared, manner.passes shared (shared.unlock lock)) :
    (withLock lock routine).Behaves endpoint manner := by
  intro shared
  obtain ⟨passes, fails⟩ := body (shared.lock lock)
  rw [run_withLock]
  exact ⟨manner.trans (takes shared) (manner.trans passes (gives _)), fails⟩

variable (endpoint)

/-- Carry routines out one after the other: what is shared in the end, and what each came to. -/
def runAll : List (Routine α) → Shared → Shared × List (Except Fault α)
  | [], shared => (shared, [])
  | routine :: rest, shared =>
    let (between, outcome) := routine.run endpoint shared
    let (after, outcomes) := runAll rest between
    (after, outcome :: outcomes)

theorem runAll_concat (routines : List (Routine α)) (last : Routine α) (shared : Shared) :
    runAll endpoint (routines ++ [last]) shared =
      ((last.run endpoint (runAll endpoint routines shared).1).1,
        (runAll endpoint routines shared).2 ++
          [(last.run endpoint (runAll endpoint routines shared).1).2]) := by
  induction routines generalizing shared with
  | nil => rfl
  | cons routine rest ih => simp only [List.cons_append, runAll, ih]

end SessionKeeper.Routine
