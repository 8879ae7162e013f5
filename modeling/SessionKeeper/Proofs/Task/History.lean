import Mathlib.Logic.Relation
import SessionKeeper.Task.Routine

/-! # Histories

Everything that tasks do, one deed after the other, together with what is shared before and after
it. A history shows what the shared state alone does not: who did something, and in which order.

A world is what is shared at a moment together with the history up to then. It *allows* a moment
that does to the shared state what its deed says, by a task that holds the lock which the deed
needs. Two ways in which worlds follow each other matter later: what happens while a task waits
(`World.Meanwhile`), and what happens while it does nothing that others would notice
(`World.Calmly`). Neither touches what the lock of the session protects if that task holds it
(`Moment.IsApart`).
-/

namespace SessionKeeper

/-- What a task does, or what happens to it. -/
inductive Deed where
  /-- An update of no consequence for what is held, told, locked, sent, started or connected. -/
  | changed
  /-- An update of what is started or connected. -/
  | managed
  /-- What is held is replaced. -/
  | assigned (held : Option Credential)
  | told (notice : Notice)
  | sent (request : Request)
  | answered (request : Request) (answer : Answer)
  | took (lock : Lock)
  | released (lock : Lock)
  /-- A wait for a turn is over. -/
  | resumed
  /-- A wait was broken off. -/
  | interrupted (fault : Fault)

namespace Deed

/-- The lock that a deed needs. A request with headers of its own is anybody's. -/
def needs : Deed → Option Lock
  | assigned _ | told _ => some .session
  | sent request | answered request _ => if request.headers.isSome then none else some .session
  | released lock => some lock
  | managed => some .lifecycle
  | _ => none

/-- The deed is nothing that another task would notice. -/
def IsQuiet : Deed → Prop
  | changed | resumed | interrupted _ => True
  | _ => False

end Deed

/-- Whether an application is started and connected, how many HTTP sessions were opened, and how
often one was told to close. -/
abbrev Stage := Bool × Bool × Nat × Nat

namespace Shared

/-- At which stage the application is. -/
def stage (shared : Shared) : Stage :=
  (shared.started, shared.connected, shared.openings, shared.closings)

/-- The registered listeners are the same, or one of the roster was added or removed. -/
def Enrolment (before after : Shared) : Prop :=
  after.listeners = before.listeners ∨
    ∃ listener ∈ before.roster,
      after.listeners = (before.enlist listener).2.listeners ∨
        after.listeners = (before.dismiss listener).2.listeners

/-- The states differ in what is written down and in who is registered, if at all. -/
structure Alike (before after : Shared) : Prop where
  held : after.held = before.held
  notices : after.notices = before.notices
  locked : after.locked = before.locked
  sent : after.sent = before.sent
  roster : after.roster = before.roster
  enrolment : Enrolment before after

/-- An update that leaves everything alone but what is written down and who is registered, and that
would do so in any state. -/
structure Harmless (change : Shared → Shared) (before : Shared) : Prop where
  held : ∀ shared, (change shared).held = shared.held
  notices : ∀ shared, (change shared).notices = shared.notices
  locked : ∀ shared, (change shared).locked = shared.locked
  stage : ∀ shared, (change shared).stage = shared.stage
  sent : (change before).sent = before.sent
  roster : (change before).roster = before.roster
  enrolment : Enrolment before (change before)

end Shared

namespace Deed

/-- The lock that an update gives back: it takes it off a list on which it stands alone. -/
def releasedBy? (change : Shared → Shared) (before : Shared) : Option Lock :=
  Lock.all.find? fun lock => (change { before with locked := [lock] }).locked.isEmpty

/-- What an update amounts to. It assigns what is held if the same is held afterwards whatever was
held before. -/
def ofUpdate (change : Shared → Shared) (before : Shared) : Deed :=
  let after := change before
  if (change (before.hold none)).held = (change (before.hold (some ⟨"", ""⟩))).held then
    assigned after.held
  else
    match after.notices.drop before.notices.length, releasedBy? change before with
    | notice :: _, _ => told notice
    | [], some lock => released lock
    | [], none => if after.stage = before.stage then changed else managed

theorem ofUpdate_hold (held : Option Credential) (before : Shared) :
    ofUpdate (·.hold held) before = assigned held := by
  simp [ofUpdate, Shared.hold]

theorem ofUpdate_tell (notice : Notice) (before : Shared) :
    ofUpdate (·.tell notice) before = told notice := by
  simp [ofUpdate, Shared.hold, Shared.tell]

theorem ofUpdate_unlock (lock : Lock) (before : Shared) :
    ofUpdate (·.unlock lock) before = released lock := by
  cases lock <;> simp [ofUpdate, releasedBy?, Lock.all, Shared.hold, Shared.unlock]

theorem ofUpdate_harmless {change : Shared → Shared} {before : Shared}
    (harmless : Shared.Harmless change before) : ofUpdate change before = changed := by
  have unreleased : releasedBy? change before = none := by
    simp [releasedBy?, Lock.all, harmless.locked]
  simp [ofUpdate, unreleased, harmless.held, harmless.notices, harmless.stage, Shared.hold]

end Deed

/-- A deed, who did it, and what was shared before and after. -/
structure Moment where
  task : Nat
  deed : Deed
  before : Shared
  after : Shared

/-- The deed did to the shared state what it says. -/
def Moment.Lawful (moment : Moment) : Prop :=
  match moment.deed with
  | .changed => moment.before.Alike moment.after ∧ moment.after.stage = moment.before.stage
  | .managed => moment.before.Alike moment.after
  | .assigned held => moment.after = moment.before.hold held
  | .told notice => moment.after = moment.before.tell notice
  | .sent request => moment.after = moment.before.send request
  | .took lock => moment.after = moment.before.lock lock
  | .released lock => moment.after = moment.before.unlock lock
  | .answered .. | .resumed | .interrupted _ => moment.after = moment.before

/-- What a moment puts in the place of what was held. -/
def Moment.assigned? (moment : Moment) : Option (Option Credential) :=
  match moment.deed with
  | .assigned held => some held
  | _ => none

/-- Moments, the latest first. -/
abbrev History := List Moment

namespace History

/-- The task that holds a lock. -/
def holder (lock : Lock) : History → Option Nat
  | [] => none
  | moment :: earlier =>
    match moment.deed with
    | .took other => if other = lock then some moment.task else holder lock earlier
    | .released other => if other = lock then none else holder lock earlier
    | _ => holder lock earlier

/-- The requests that a task sent, in their order. -/
def sentBy (number : Nat) : History → List Request
  | [] => []
  | moment :: earlier =>
    match moment.deed with
    | .sent request =>
      if moment.task = number then sentBy number earlier ++ [request] else sentBy number earlier
    | _ => sentBy number earlier

/-- The answers that a task got, with their requests, in their order. -/
def heardBy (number : Nat) : History → List (Request × Answer)
  | [] => []
  | moment :: earlier =>
    match moment.deed with
    | .answered request answer =>
      if moment.task = number then heardBy number earlier ++ [(request, answer)]
      else heardBy number earlier
    | _ => heardBy number earlier

/-- What a task told listeners, in its order. -/
def toldBy (number : Nat) : History → List Notice
  | [] => []
  | moment :: earlier =>
    match moment.deed with
    | .told notice =>
      if moment.task = number then toldBy number earlier ++ [notice] else toldBy number earlier
    | _ => toldBy number earlier

end History

/-- What is shared, and how it came to be so. -/
structure World where
  shared : Shared
  past : History

namespace World

def holder (world : World) (lock : Lock) : Option Nat := world.past.holder lock

def add (world : World) (moment : Moment) : World := ⟨moment.after, moment :: world.past⟩

def did (world : World) (number : Nat) (deed : Deed) (after : Shared) : World :=
  world.add ⟨number, deed, world.shared, after⟩

def updates (world : World) (number : Nat) (change : Shared → Shared) : World :=
  world.did number (.ofUpdate change world.shared) (change world.shared)

def assigns (world : World) (number : Nat) (held : Option Credential) : World :=
  world.did number (.assigned held) (world.shared.hold held)

def tells (world : World) (number : Nat) (notice : Notice) : World :=
  world.did number (.told notice) (world.shared.tell notice)

def sends (world : World) (number : Nat) (request : Request) : World :=
  world.did number (.sent request) (world.shared.send request)

def hears (world : World) (number : Nat) (request : Request) (answer : Answer) : World :=
  world.did number (.answered request answer) world.shared

def takes (world : World) (number : Nat) (lock : Lock) : World :=
  world.did number (.took lock) (world.shared.lock lock)

def releases (world : World) (number : Nat) (lock : Lock) : World :=
  world.did number (.released lock) (world.shared.unlock lock)

def wakes (world : World) (number : Nat) : World := world.did number .resumed world.shared

def stops (world : World) (number : Nat) (fault : Fault) : World :=
  world.did number (.interrupted fault) world.shared

/-- The task holds the lock that a deed needs. -/
def Entitles (world : World) (number : Nat) (deed : Deed) : Prop :=
  ∀ lock, deed.needs = some lock → world.holder lock = some number

/-- The moment comes next, its deed is what it says, and its task holds the lock that it needs. -/
structure Allows (world : World) (moment : Moment) : Prop where
  before : moment.before = world.shared
  lawful : moment.Lawful
  entitled : world.Entitles moment.task moment.deed
  vacant : ∀ lock, moment.deed = .took lock → world.holder lock = none

/-- One allowed moment of a given kind leads from one world to the other. -/
def Step (kind : Moment → Prop) (world next : World) : Prop :=
  ∃ moment, kind moment ∧ world.Allows moment ∧ next = world.add moment

/-- Allowed moments lead from one world to the other. -/
def Leads : World → World → Prop := Relation.ReflTransGen (Step fun _ => True)

/-- What other tasks do leads from one world to the other. -/
def Meanwhile (number : Nat) : World → World → Prop :=
  Relation.ReflTransGen (Step fun moment => moment.task ≠ number)

/-- What other tasks do, and quiet deeds of one task, lead from one world to the other. -/
def Calmly (number : Nat) : World → World → Prop :=
  Relation.ReflTransGen (Step fun moment => moment.task = number → moment.deed.IsQuiet)

end World

/-- The deed is none for which the lock of the session is needed. -/
def Moment.IsApart (moment : Moment) : Prop :=
  moment.deed.needs ≠ some .session ∧ moment.deed ≠ .took .session

end SessionKeeper
