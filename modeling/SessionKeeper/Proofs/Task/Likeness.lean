import Mathlib.Data.List.Forall2
import SessionKeeper.Proofs.Task.Course

/-! # Two runs side by side

Two crews whose tasks differ only as a likeness allows go on side by side. A likeness relates what
is shared, the requests, the answers and the faults of the first run to those of the second
(`Likeness`). Routines are alike if they do the same steps, with what the likeness relates in them
(`Routine.Alike`). Such routines come to the same waits (`Routine.Alike.advance`), so crews of them
take the same turns (`Crew.Alike.resume`), and remain alike whatever happens to both
(`Course.alike_follow`).
-/

namespace SessionKeeper

/-- How the second of two runs may differ from the first. Which locks are taken makes no
difference, and whatever breaks off an exchange is the same in both. -/
structure Likeness where
  shared : Shared → Shared → Prop
  request : Request → Request → Prop
  /-- Answers to a request of the first run, and to the one like it. -/
  answer : Request → Answer → Answer → Prop
  fault : Fault → Fault → Prop
  same_fault : ∀ broken, fault broken broken
  locked : ∀ {first second}, shared first second → second.locked = first.locked
  lock : ∀ {first second} taken, shared first second → shared (first.lock taken) (second.lock taken)
  unlock : ∀ {first second} given, shared first second →
    shared (first.unlock given) (second.unlock given)
  sent : ∀ {first second}, shared first second → List.Forall₂ request first.sent second.sent
  send : ∀ {first second asked other}, shared first second → request asked other →
    shared (first.send asked) (second.send other)
  broken : ∀ asked fault, answer asked (.error fault) (.error fault)

variable {α β : Type} {like : Likeness}

/-- Both outcomes are values that are alike, or both are faults that are alike. -/
inductive Likeness.Outcome (like : Likeness) (values : α → α → Prop) :
    Except Fault α → Except Fault α → Prop
  | ok {first second : α} (alike : values first second) :
    Outcome like values (.ok first) (.ok second)
  | error {first second : Fault} (alike : like.fault first second) :
    Outcome like values (.error first) (.error second)

/-- Answers that arrive in the same way and are alike. -/
inductive Likeness.Delivered (like : Likeness) (request : Request) : Delivery → Delivery → Prop
  | atOnce {first second : Answer} (alike : like.answer request first second) :
    Delivered like request (.atOnce first) (.atOnce second)
  | later {first second : Answer} (alike : like.answer request first second) :
    Delivered like request (.later first) (.later second)

/-- Requests that are alike, after requests that were, are answered alike. -/
def Endpoint.Alike (like : Likeness) (first second : Endpoint) : Prop :=
  ∀ earlier other request again, List.Forall₂ like.request earlier other →
    like.request request again →
      like.Delivered request (first earlier request) (second other again)

/-- The routines do the same steps, and come to outcomes that are alike. -/
inductive Routine.Alike (like : Likeness) (values : α → α → Prop) : Routine α → Routine α → Prop
  | done {first second : Except Fault α} (outcomes : like.Outcome values first second) :
    Alike like values (done first) (done second)
  | look {first second : Shared → Routine α}
      (rest : ∀ seen other, like.shared seen other →
        Alike like values (first seen) (second other)) :
    Alike like values (look first) (look second)
  | update {change other : Shared → Shared} {first second : Routine α}
      (changes : ∀ before again, like.shared before again →
        like.shared (change before) (other again))
      (rest : Alike like values first second) :
    Alike like values (update change first) (update other second)
  | exchange {request other : Request} {first second : Answer → Routine α}
      (requests : like.request request other)
      (rest : ∀ answer again, like.answer request answer again →
        Alike like values (first answer) (second again)) :
    Alike like values (exchange request first) (exchange other second)
  | acquire {lock : Lock} {first second : Except Fault Unit → Routine α}
      (rest : ∀ granted, Alike like values (first granted) (second granted)) :
    Alike like values (acquire lock first) (acquire lock second)
  | pause {first second : Except Fault Unit → Routine α}
      (rest : ∀ turn, Alike like values (first turn) (second turn)) :
    Alike like values (pause first) (pause second)

/-! ## Routines made of others -/

namespace Routine

variable {values : α → α → Prop} {others : β → β → Prop} {first second : Routine α}

theorem Alike.andThen {next again : Except Fault α → Routine β}
    (alike : Alike like values first second)
    (rest : ∀ outcome other, like.Outcome values outcome other →
      Alike like others (next outcome) (again other)) :
    Alike like others (first.andThen next) (second.andThen again) := by
  induction alike with
  | done outcomes => exact rest _ _ outcomes
  | look _ ih => exact .look ih
  | update changes _ ih => exact .update changes ih
  | exchange requests _ ih => exact .exchange requests ih
  | acquire _ ih => exact .acquire ih
  | pause _ ih => exact .pause ih

theorem Alike.bind {next again : α → Routine β} (alike : Alike like values first second)
    (rest : ∀ value other, values value other → Alike like others (next value) (again other)) :
    Alike like others (first >>= next) (second >>= again) := by
  refine alike.andThen fun outcome other outcomes => ?_
  cases outcomes with
  | ok values => exact rest _ _ values
  | error faults => exact .done (.error faults)

theorem Alike.map {change other : α → β} (alike : Alike like values first second)
    (changes : ∀ value again, values value again → others (change value) (other again)) :
    Alike like others (change <$> first) (other <$> second) :=
  alike.bind fun value again same => .done (.ok (changes value again same))

theorem Alike.tryCatch {handler other : Fault → Routine α} (alike : Alike like values first second)
    (rest : ∀ fault again, like.fault fault again →
      Alike like values (handler fault) (other again)) :
    Alike like values (tryCatch first handler) (tryCatch second other) := by
  refine alike.andThen fun outcome again outcomes => ?_
  cases outcomes with
  | ok values => exact .done (.ok values)
  | error faults => exact rest _ _ faults

theorem Alike.attempt (alike : Alike like values first second) :
    Alike like (like.Outcome values) first.attempt second.attempt :=
  alike.andThen fun _ _ outcomes => .done (.ok outcomes)

theorem Alike.ensuring {last other : Routine Unit} {units : Unit → Unit → Prop}
    (alike : Alike like values first second) (rest : Alike like units last other) :
    Alike like values (first.ensuring last) (second.ensuring other) :=
  alike.andThen fun _ _ outcomes => rest.bind fun _ _ _ => .done outcomes

theorem alike_pure {value other : α} (alike : values value other) :
    Alike like values (pure value) (pure other) :=
  .done (.ok alike)

theorem alike_throw {fault other : Fault} (alike : like.fault fault other) :
    Alike like values (throw fault) (throw other) :=
  .done (.error alike)

theorem alike_get : Alike like like.shared Routine.get Routine.get :=
  .look fun _ _ alike => .done (.ok alike)

theorem alike_modify {change other : Shared → Shared}
    (changes : ∀ before again, like.shared before again →
      like.shared (change before) (other again)) :
    Alike like Eq (modify change) (modify other) :=
  .update changes (.done (.ok rfl))

theorem alike_yieldTurn : Alike like Eq yieldTurn yieldTurn :=
  .pause fun turn => by
    cases turn with
    | ok value => exact .done (.ok rfl)
    | error fault => exact .done (.error (like.same_fault fault))

theorem Alike.withLock (alike : Alike like values first second) (lock : Lock) :
    Alike like values (withLock lock first) (withLock lock second) :=
  .acquire fun granted => by
    cases granted with
    | ok value => exact alike.ensuring (alike_modify fun _ _ shared => like.unlock lock shared)
    | error fault => exact .done (.error (like.same_fault fault))

end Routine

/-- Alike routines that are carried out alone come to the same. -/
theorem Routine.Alike.run {values : α → α → Prop} {first second : Routine α}
    {endpoint other : Endpoint} (alike : Alike like values first second)
    (answers : ∀ earlier past request again, List.Forall₂ like.request earlier past →
      like.request request again →
        like.answer request (endpoint earlier request).answer (other past again).answer)
    {before again : Shared} (shared : like.shared before again) :
    like.shared (first.run endpoint before).1 (second.run other again).1 ∧
      like.Outcome values (first.run endpoint before).2 (second.run other again).2 := by
  induction alike generalizing before again with
  | done outcomes => exact ⟨shared, outcomes⟩
  | look _ ih => exact ih _ _ shared shared
  | update changes _ ih => exact ih (changes _ _ shared)
  | exchange requests _ ih =>
    exact ih _ _ (answers _ _ _ _ (like.sent shared) requests) (like.send shared requests)
  | acquire _ ih => exact ih (.ok ()) (like.lock _ shared)
  | pause _ ih => exact ih (.ok ()) shared

/-! ## Waits -/

/-- Both tasks have come to their end, or both wait for the same and go on alike. -/
inductive Waiting.Alike (like : Likeness) (values : α → α → Prop) : Waiting α → Waiting α → Prop
  | finished {first second : Except Fault α} (outcomes : like.Outcome values first second) :
    Alike like values (finished first) (finished second)
  | forAnswer {request other : Request} {answer again : Answer} {first second : Answer → Routine α}
      (answers : like.answer request answer again)
      (rest : ∀ answer again, like.answer request answer again →
        Routine.Alike like values (first answer) (second again)) :
    Alike like values (forAnswer request answer first) (forAnswer other again second)
  | forLock {lock : Lock} {first second : Except Fault Unit → Routine α}
      (rest : ∀ granted, Routine.Alike like values (first granted) (second granted)) :
    Alike like values (forLock lock first) (forLock lock second)
  | forTurn {first second : Except Fault Unit → Routine α}
      (rest : ∀ turn, Routine.Alike like values (first turn) (second turn)) :
    Alike like values (forTurn first) (forTurn second)

namespace Waiting.Alike

variable {values : α → α → Prop} {first second : Waiting α}
  (alike : Waiting.Alike like values first second)

include alike

theorem rest : Routine.Alike like values first.rest second.rest := by
  cases alike with
  | finished outcomes => exact .done outcomes
  | forAnswer answers rest => exact rest _ _ answers
  | forLock rest => exact .update (fun _ _ shared => like.lock _ shared) (rest _)
  | forTurn rest => exact rest _

theorem interrupted (fault : Fault) :
    Routine.Alike like values (first.interrupted fault) (second.interrupted fault) := by
  cases alike with
  | finished outcomes => exact .done outcomes
  | forAnswer answers rest => exact rest _ _ (like.broken _ fault)
  | forLock rest => exact rest _
  | forTurn rest => exact rest _

theorem lock? : second.lock? = first.lock? := by
  cases alike <;> rfl

theorem endsByItself : second.endsByItself = first.endsByItself := by
  cases alike <;> rfl

theorem isReady {shared other : Shared} (same : like.shared shared other) :
    second.isReady other = first.isReady shared := by
  cases alike with
  | forLock rest => simp only [Waiting.isReady, like.locked same]
  | _ => rfl

end Waiting.Alike

/-- Routines that are alike come to the same wait, and leave alike what is shared. -/
theorem Routine.Alike.advance {values : α → α → Prop} {first second : Routine α}
    {endpoint other : Endpoint} (alike : Routine.Alike like values first second)
    (endpoints : endpoint.Alike like other) (contended : List Lock) {shared again : Shared}
    (same : like.shared shared again) :
    like.shared (first.advance endpoint contended shared).1
        (second.advance other contended again).1 ∧
      Waiting.Alike like values (first.advance endpoint contended shared).2
        (second.advance other contended again).2 := by
  induction alike generalizing shared again with
  | done outcomes => exact ⟨same, .finished outcomes⟩
  | look _ ih => exact ih _ _ same same
  | update changes _ ih => exact ih (changes _ _ same)
  | @exchange request asked _ _ requests rest ih =>
    have delivered := endpoints _ _ request asked (like.sent same) requests
    have sending := like.send same requests
    simp only [Routine.advance]
    generalize endpoint shared.sent request = delivery at delivered
    generalize other again.sent asked = redelivery at delivered
    cases delivered with
    | atOnce answers => exact ih _ _ answers sending
    | later answers => exact ⟨sending, .forAnswer answers rest⟩
  | @acquire lock _ _ rest ih =>
    simp only [Routine.advance, like.locked same]
    split
    · exact ⟨same, .forLock rest⟩
    · exact ih (.ok ()) (like.lock lock same)
  | pause rest ih => exact ⟨same, .forTurn rest⟩

/-! ## Crews -/

/-- The tasks wait for the same, in the same order. -/
structure Crew.Alike (like : Likeness) (values : α → α → Prop) (first second : Crew α) : Prop where
  shared : like.shared first.shared second.shared
  tasks : List.Forall₂ (Waiting.Alike like values) first.tasks second.tasks
  promised : second.promised = first.promised
  queue : second.queue = first.queue

private theorem forall₂_set {relation : α → β → Prop} {first : List α} {second : List β}
    {value : α} {other : β} (related : List.Forall₂ relation first second)
    (values : relation value other) (number : Nat) :
    List.Forall₂ relation (first.set number value) (second.set number other) := by
  induction related generalizing number with
  | nil => exact .nil
  | cons heads tails ih =>
    cases number with
    | zero => exact .cons values tails
    | succ number => exact .cons heads (ih number)

namespace Crew.Alike

variable {values : α → α → Prop} {first second : Crew α} (alike : Alike like values first second)

include alike

theorem getElem? (number : Nat) :
    Option.Rel (Waiting.Alike like values) first.tasks[number]? second.tasks[number]? := by
  by_cases bound : number < first.tasks.length
  · have other : number < second.tasks.length := alike.tasks.length_eq ▸ bound
    rw [List.getElem?_eq_getElem bound, List.getElem?_eq_getElem other]
    exact .some (alike.tasks.get bound other)
  · have other : ¬ number < second.tasks.length := alike.tasks.length_eq ▸ bound
    rw [List.getElem?_eq_none (Nat.le_of_not_lt bound),
      List.getElem?_eq_none (Nat.le_of_not_lt other)]
    exact .none

theorem lockOf? (number : Nat) : second.lockOf? number = first.lockOf? number := by
  have at? := alike.getElem? number
  unfold Crew.lockOf?
  generalize first.tasks[number]? = standing at at?
  generalize second.tasks[number]? = other at at?
  cases at? with
  | none => rfl
  | some waits => exact waits.lock?

theorem contended (number : Nat) : second.contended number = first.contended number := by
  unfold Crew.contended
  rw [alike.queue]
  exact congrArg (List.filterMap · _) (funext alike.lockOf?)

theorem heirs : second.heirs = first.heirs := by
  unfold Crew.heirs
  rw [like.locked alike.shared, alike.queue]
  simp only [alike.lockOf?]

theorem settle (number : Nat) {waiting other : Waiting α}
    (waits : Waiting.Alike like values waiting other) :
    Alike like values (first.settle number waiting) (second.settle number other) := by
  have queue : (if other.lock?.isSome then second.queue.erase number ++ [number]
      else second.queue.erase number) =
        if waiting.lock?.isSome then first.queue.erase number ++ [number]
        else first.queue.erase number := by
    rw [waits.lock?, alike.queue]
  refine ⟨alike.shared, alike.tasks, ?_, queue⟩
  have queued : Alike like values
      { first with queue := if waiting.lock?.isSome then first.queue.erase number ++ [number]
                            else first.queue.erase number }
      { second with queue := if other.lock?.isSome then second.queue.erase number ++ [number]
                             else second.queue.erase number } :=
    ⟨alike.shared, alike.tasks, alike.promised, queue⟩
  simp only [Crew.settle]
  rw [queued.heirs, alike.promised, waits.endsByItself]

variable {endpoint other : Endpoint} (endpoints : endpoint.Alike like other)
  {routine again : Routine α} (routines : Routine.Alike like values routine again)

include endpoints

section Carried

include routines

theorem proceed (number : Nat) :
    Alike like values (first.proceed endpoint number routine)
      (second.proceed other number again) := by
  obtain ⟨shared, waits⟩ := routines.advance endpoints (first.contended number) alike.shared
  have carried : Alike like values
      { first with
        shared := (routine.advance endpoint (first.contended number) first.shared).1
        tasks := first.tasks.set number
          (routine.advance endpoint (first.contended number) first.shared).2 }
      { second with
        shared := (again.advance other (first.contended number) second.shared).1
        tasks := second.tasks.set number
          (again.advance other (first.contended number) second.shared).2 } :=
    ⟨shared, forall₂_set alike.tasks waits number, alike.promised, alike.queue⟩
  unfold Crew.proceed
  rw [alike.contended number]
  exact carried.settle number waits

theorem join : Alike like values (first.join endpoint routine) (second.join other again) := by
  obtain ⟨shared, waits⟩ :=
    routines.advance endpoints (first.contended first.tasks.length) alike.shared
  have carried : Alike like values
      { first with
        shared := (routine.advance endpoint (first.contended first.tasks.length) first.shared).1
        tasks := first.tasks ++
          [(routine.advance endpoint (first.contended first.tasks.length) first.shared).2] }
      { second with
        shared := (again.advance other (first.contended first.tasks.length) second.shared).1
        tasks := second.tasks ++
          [(again.advance other (first.contended first.tasks.length) second.shared).2] } :=
    ⟨shared, List.rel_append alike.tasks (.cons waits .nil), alike.promised, alike.queue⟩
  unfold Crew.join
  simp only [← alike.tasks.length_eq, alike.contended]
  exact carried.settle first.tasks.length waits

end Carried

theorem resume (number : Nat) :
    Alike like values (first.resume endpoint number) (second.resume other number) := by
  have at? := alike.getElem? number
  unfold Crew.resume
  generalize first.tasks[number]? = standing at at?
  generalize second.tasks[number]? = there at at?
  cases at? with
  | none => exact alike
  | some waits =>
    simp only [waits.isReady alike.shared]
    split
    · exact alike.proceed endpoints waits.rest number
    · exact alike

theorem interrupt (number : Nat) (fault : Fault) :
    Alike like values (first.interrupt endpoint number fault)
      (second.interrupt other number fault) := by
  have at? := alike.getElem? number
  unfold Crew.interrupt
  generalize first.tasks[number]? = standing at at?
  generalize second.tasks[number]? = there at at?
  cases at? with
  | none => exact alike
  | some waits =>
    have onwards := alike.proceed endpoints (waits.interrupted fault) number
    cases waits with
    | finished outcomes => exact alike
    | _ => exact onwards

end Crew.Alike

/-! ## Courses -/

/-- The same happens, where tasks begin that are alike. -/
inductive Event.Alike {Task : Type} (tasks : Task → Task → Prop) : Event Task → Event Task → Prop
  | begins {first second : Task} (alike : tasks first second) :
    Alike tasks (begins first) (begins second)
  | turn (number : Nat) : Alike tasks (turn number) (turn number)
  | interruption (number : Nat) (fault : Fault) :
    Alike tasks (interruption number fault) (interruption number fault)

/-- Crews remain alike as long as the same happens to both. -/
theorem Course.alike_follow {Task : Type} {tasks : Task → Task → Prop} {values : α → α → Prop}
    {routine again : Task → Routine α} {endpoint other : Endpoint}
    (endpoints : endpoint.Alike like other)
    (routines : ∀ task next, tasks task next →
      Routine.Alike like values (routine task) (again next))
    {events happenings : List (Event Task)}
    (same : List.Forall₂ (Event.Alike tasks) events happenings)
    {first second : Course α} (alike : first.crew.Alike like values second.crew) :
    (first.follow endpoint routine events).crew.Alike like values
      (second.follow other again happenings).crew := by
  induction same generalizing first second with
  | nil => exact alike
  | @cons event happening rest others step _ ih =>
    refine @ih (first.step endpoint routine event) (second.step other again happening) ?_
    cases step with
    | begins tasks => exact alike.join endpoints (routines _ _ tasks)
    | turn number => exact alike.resume endpoints number
    | interruption number fault => exact alike.interrupt endpoints number fault

end SessionKeeper
