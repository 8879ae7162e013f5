import SessionKeeper.Proofs.Task.Course

/-! # Routines enclosed by a lock

A routine is enclosed by a lock if it takes the lock first, then no other one, and gives it back as
the last thing (`Routine.IsEnclosed`). Once it has the lock, it comes to the end without waiting for
anybody else: at each of its waits the lock is in hand (`Waiting.Closes`).
-/

namespace SessionKeeper

variable {α β : Type}

namespace Routine

/-- The routine neither takes a lock nor gives one back. -/
def IsLockless : Routine α → Prop
  | done _ => True
  | look next => ∀ shared, (next shared).IsLockless
  | update change next => (∀ shared, (change shared).locked = shared.locked) ∧ next.IsLockless
  | exchange _ next => ∀ answer, (next answer).IsLockless
  | acquire .. => False
  | pause next => ∀ turn, (next turn).IsLockless

/-- The routine takes no lock, and giving one back, which it has in hand, is the last thing it
does. -/
def Closes (lock : Lock) : Routine α → Prop
  | done _ => False
  | look next => ∀ shared, (next shared).Closes lock
  | update change next =>
    (change = (·.unlock lock) ∧ ∃ outcome, next = done outcome) ∨
      (∀ shared, (change shared).locked = shared.locked) ∧ next.Closes lock
  | exchange _ next => ∀ answer, (next answer).Closes lock
  | acquire .. => False
  | pause next => ∀ turn, (next turn).Closes lock

/-- The routine begins by taking a lock and ends by giving it back, and needs no other one. -/
def IsEnclosed (lock : Lock) (routine : Routine α) : Prop :=
  ∃ next, routine = acquire lock next ∧ (next (.ok ())).Closes lock

variable {routine : Routine α} {lock : Lock}

/-! ## Routines under a lock -/

/-- What is done with a lock in hand is followed by giving the lock back. -/
theorem IsLockless.closes {body : Routine α} (lockless : body.IsLockless) (lock : Lock) :
    (body.ensuring (modify (·.unlock lock))).Closes lock := by
  unfold Routine.ensuring
  induction body with
  | done outcome => exact .inl ⟨rfl, outcome, rfl⟩
  | look _ ih => exact fun shared => ih shared (lockless shared)
  | update _ _ ih => exact .inr ⟨lockless.1, ih lockless.2⟩
  | exchange _ _ ih => exact fun answer => ih answer (lockless answer)
  | acquire _ _ _ => exact lockless.elim
  | pause _ ih => exact fun turn => ih turn (lockless turn)

theorem isEnclosed_withLock {body : Routine α} (lockless : body.IsLockless) (lock : Lock) :
    (withLock lock body).IsEnclosed lock :=
  ⟨_, rfl, lockless.closes lock⟩

theorem Closes.map (closes : routine.Closes lock) (change : α → β) :
    (change <$> routine).Closes lock := by
  induction routine with
  | done _ => exact closes.elim
  | look _ ih => exact fun shared => ih shared (closes shared)
  | update _ _ ih =>
    rcases closes with ⟨rfl, outcome, rfl⟩ | ⟨kept, rest⟩
    · cases outcome with
      | ok value => exact .inl ⟨rfl, .ok (change value), rfl⟩
      | error fault => exact .inl ⟨rfl, .error fault, rfl⟩
    · exact .inr ⟨kept, ih rest⟩
  | exchange _ _ ih => exact fun answer => ih answer (closes answer)
  | acquire _ _ _ => exact closes.elim
  | pause _ ih => exact fun turn => ih turn (closes turn)

theorem IsEnclosed.map (enclosed : routine.IsEnclosed lock) (change : α → β) :
    (change <$> routine).IsEnclosed lock := by
  obtain ⟨next, rfl, closes⟩ := enclosed
  exact ⟨_, rfl, closes.map change⟩

end Routine

/-! ## Carrying out what is enclosed -/

/-- The task waits with a lock in hand, which it gives back in the end. -/
def Waiting.Closes (lock : Lock) : Waiting α → Prop
  | .forAnswer _ _ next => ∀ answer, (next answer).Closes lock
  | .forTurn next => ∀ turn, (next turn).Closes lock
  | _ => False

/-- Who waits with a lock in hand can go on, and still has the lock in hand. -/
theorem Waiting.Closes.remaining {waiting : Waiting α} {lock : Lock} (closes : waiting.Closes lock)
    (shared : Shared) : waiting.isReady shared = true ∧ waiting.remaining.Closes lock := by
  cases waiting with
  | finished _ => exact closes.elim
  | forAnswer _ answer _ => exact ⟨rfl, closes answer⟩
  | forLock _ _ => exact closes.elim
  | forTurn _ => exact ⟨rfl, closes (.ok ())⟩

/-- Who has a lock in hand either gives it back and comes to the end or keeps it while it waits. -/
theorem Routine.Closes.advance {routine : Routine α} {lock : Lock} (closes : routine.Closes lock)
    (endpoint : Endpoint) (contended : List Lock) {shared : Shared}
    (locked : shared.locked = [lock]) :
    (∃ outcome, (routine.advance endpoint contended shared).2 = .finished outcome ∧
        (routine.advance endpoint contended shared).1.locked = []) ∨
      ((routine.advance endpoint contended shared).2.Closes lock ∧
        (routine.advance endpoint contended shared).1.locked = [lock]) := by
  induction routine generalizing shared with
  | done _ => exact closes.elim
  | look _ ih => exact ih shared (closes shared) locked
  | update change next ih =>
    rcases closes with ⟨rfl, outcome, rfl⟩ | ⟨kept, rest⟩
    · exact .inl ⟨outcome, rfl, by simp [Routine.advance, Shared.unlock, locked]⟩
    · exact ih rest ((kept shared).trans locked)
  | exchange request next ih =>
    simp only [Routine.advance]
    cases endpoint shared.sent request with
    | atOnce answer => exact ih answer (closes answer) locked
    | later answer => exact .inr ⟨closes, locked⟩
  | acquire _ _ _ => exact closes.elim
  | pause next _ => exact .inr ⟨closes, locked⟩

end SessionKeeper
