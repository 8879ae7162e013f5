import SessionKeeper.Proofs.Listener.Roster
import SessionKeeper.Proofs.Session.Draft

/-! # Visits to the session

A visit is what a task does from taking the lock of the session to giving it back. The history shows
all of them, one after the other (`History.visits`), since nobody else gets in, and a visit that is
over stays as it is (`World.Meanwhile.mem_visits`). What a task sends and hears during a visit is in
the record of the visit (`Visiting`).
-/

namespace SessionKeeper

/-- What a task did with the lock of the session in hand. -/
structure Visit where
  task : Nat
  /-- What was held when the lock was taken. -/
  found : Option Credential
  /-- The requests that were sent, in their order. -/
  asked : List Request := []
  /-- The answers that came, with their requests, in their order. -/
  heard : List (Request × Answer) := []

namespace Visit

/-- The visit with one more request. -/
def ask (visit : Visit) (request : Request) : Visit :=
  { visit with asked := visit.asked ++ [request] }

/-- The visit with one more answer. -/
def hear (visit : Visit) (request : Request) (answer : Answer) : Visit :=
  { visit with heard := visit.heard ++ [(request, answer)] }

/-- A later record is of the same visit. -/
structure Continues (visit later : Visit) : Prop where
  task : later.task = visit.task
  found : later.found = visit.found
  asked : visit.asked <+: later.asked

end Visit

namespace History

/-- The visits, the latest first. -/
def visits : History → List Visit
  | [] => []
  | moment :: earlier =>
    match moment.deed with
    | .took .session => { task := moment.task, found := moment.after.held } :: visits earlier
    | .sent request =>
      if request.headers.isSome then visits earlier else (visits earlier).modifyHead (·.ask request)
    | .answered request answer =>
      if request.headers.isSome then visits earlier
      else (visits earlier).modifyHead (·.hear request answer)
    | _ => visits earlier

/-- The tasks that took the lock of the session, the latest first. -/
def takers (past : History) : List Nat := past.filterMap fun moment =>
  match moment.deed with
  | .took .session => some moment.task
  | _ => none

variable {moment : Moment} {number : Nat} {past : History}

/-- A moment leaves the visits as they are, or begins one, or goes on with the last one. -/
theorem visits_cons (moment : Moment) (past : History) :
    visits (moment :: past) = past.visits ∨
      (moment.deed = .took .session ∧ ∃ found,
        visits (moment :: past) = { task := moment.task, found := found } :: past.visits) ∨
      (moment.deed.needs = some .session ∧ ∃ change : Visit → Visit,
        (∀ visit : Visit, visit.Continues (change visit)) ∧
          visits (moment :: past) = past.visits.modifyHead change) := by
  cases deed : moment.deed with
  | took lock =>
    cases lock with
    | session => exact .inr (.inl ⟨rfl, moment.after.held, by simp only [visits, deed]⟩)
    | lifecycle => exact .inl (by simp only [visits, deed])
  | sent request =>
    cases headed : request.headers.isSome with
    | true => exact .inl (by simp [visits, deed, headed])
    | false =>
      refine .inr (.inr ⟨by simp [Deed.needs, headed], (·.ask request), fun visit => ?_, ?_⟩)
      · exact ⟨rfl, rfl, List.prefix_append _ _⟩
      · simp [visits, deed, headed]
  | answered request answer =>
    cases headed : request.headers.isSome with
    | true => exact .inl (by simp [visits, deed, headed])
    | false =>
      refine .inr (.inr ⟨by simp [Deed.needs, headed], (·.hear request answer), fun visit => ?_,
        ?_⟩)
      · exact ⟨rfl, rfl, List.prefix_rfl⟩
      · simp [visits, deed, headed]
  | _ => exact .inl (by simp only [visits, deed])

theorem visits_of_apart (apart : moment.IsApart) : visits (moment :: past) = past.visits := by
  rcases visits_cons moment past with same | ⟨taken, _⟩ | ⟨needed, _⟩
  · exact same
  · exact absurd taken apart.2
  · exact absurd needed apart.1

theorem visits_of_all_apart (apart : ∀ moment ∈ past, moment.IsApart) : past.visits = [] := by
  induction past with
  | nil => rfl
  | cons moment earlier ih =>
    rw [visits_of_apart (apart moment List.mem_cons_self)]
    exact ih fun other member => apart other (List.mem_cons_of_mem _ member)

theorem task_visits (past : History) : past.visits.map (·.task) = past.takers := by
  have kept (visits : List Visit) (change : Visit → Visit)
      (same : ∀ visit, (change visit).task = visit.task) :
      (visits.modifyHead change).map (·.task) = visits.map (·.task) := by
    cases visits with
    | nil => rfl
    | cons visit rest => simp [same]
  induction past with
  | nil => rfl
  | cons moment earlier ih =>
    rw [takers, List.filterMap_cons, ← takers, ← ih]
    cases deed : moment.deed with
    | took lock => cases lock <;> simp [visits, deed]
    | sent request =>
      simp only [visits, deed]
      split
      · rfl
      · exact kept _ _ fun _ => rfl
    | answered request answer =>
      simp only [visits, deed]
      split
      · rfl
      · exact kept _ _ fun _ => rfl
    | _ => simp only [visits, deed]

/-- Only those who did something took the lock. -/
theorem exists_of_mem_takers (member : number ∈ past.takers) :
    ∃ moment ∈ past, moment.task = number := by
  obtain ⟨moment, known, taking⟩ := List.mem_filterMap.mp member
  split at taking
  · exact ⟨moment, known, Option.some.inj taking⟩
  · cases taking

end History

namespace World

variable {world next : World} {moment : Moment} {number : Nat} {visit : Visit}

/-- The last visit is that of the task which holds the lock of the session. -/
def Headed (world : World) : Prop :=
  ∀ number, world.holder .session = some number →
    ∃ visit earlier, world.past.visits = visit :: earlier ∧ visit.task = number

theorem Headed.add (headed : world.Headed) (moment : Moment) : (world.add moment).Headed := by
  intro number holding
  by_cases taken : moment.deed = .took .session
  · rw [holder_add_took taken, Option.some.injEq] at holding
    refine ⟨{ task := moment.task, found := moment.after.held }, world.past.visits, ?_, holding⟩
    simp only [past_add, History.visits, taken]
  have kept : moment.deed ≠ .released .session := by
    intro released
    rw [holder_add_released released] at holding
    cases holding
  rw [holder_add_of_apart taken kept] at holding
  obtain ⟨visit, earlier, visits, own⟩ := headed number holding
  rcases History.visits_cons moment world.past with same | ⟨took, _⟩ | ⟨_, change, same, changed⟩
  · exact ⟨visit, earlier, same.trans visits, own⟩
  · exact absurd took taken
  · refine ⟨change visit, earlier, ?_, (same visit).task.trans own⟩
    rw [past_add, changed, visits]
    rfl

/-- Others do not change what a task did. -/
theorem Headed.mem_visits (headed : world.Headed) (allowed : world.Allows moment)
    (other : moment.task ≠ visit.task) (member : visit ∈ world.past.visits) :
    visit ∈ (world.add moment).past.visits := by
  rcases History.visits_cons moment world.past with
    same | ⟨_, found, begun⟩ | ⟨needed, change, _, changed⟩
  · rw [past_add, same]
    exact member
  · rw [past_add, begun]
    exact List.mem_cons_of_mem _ member
  · obtain ⟨last, earlier, visits, own⟩ := headed _ (allowed.entitled .session needed)
    rw [visits] at member
    rw [past_add, changed, visits]
    rcases List.mem_cons.mp member with rfl | before
    · exact absurd own.symm other
    · exact List.mem_cons_of_mem _ before

theorem Leads.headed {start : Shared} (leads : Leads ⟨start, []⟩ world) : world.Headed := by
  induction leads with
  | refl => exact fun number holding => nomatch holding
  | tail _ step ih =>
    obtain ⟨moment, _, _, rfl⟩ := step
    exact ih.add moment

/-- The requests without headers of their own are those of the visits. -/
theorem Leads.sent_visits {start : Shared} (leads : Leads ⟨start, []⟩ world) :
    world.shared.sent.filter (·.headers.isNone) =
      start.sent.filter (·.headers.isNone) ++ world.past.visits.reverse.flatMap (·.asked) := by
  induction leads with
  | refl => simp [History.visits]
  | @tail before _ leads step ih =>
    obtain ⟨moment, _, allowed, rfl⟩ := step
    have silent (unsent : ∀ request, moment.deed ≠ .sent request)
        (same : (History.visits (moment :: before.past)).reverse.flatMap (·.asked) =
          before.past.visits.reverse.flatMap (·.asked)) :
        (before.add moment).shared.sent.filter (·.headers.isNone) =
          start.sent.filter (·.headers.isNone) ++
            (before.add moment).past.visits.reverse.flatMap (·.asked) := by
      rw [shared_add, past_add, allowed.sent_eq unsent, ih, same]
    cases deed : moment.deed with
    | sent request =>
      have sent : moment.after.sent = before.shared.sent ++ [request] := by
        have lawful := allowed.lawful
        rw [Moment.Lawful, deed, allowed.before] at lawful
        rw [lawful]
        rfl
      rw [shared_add, past_add, sent, List.filter_append, ih]
      cases headed : request.headers with
      | some headers => simp [History.visits, deed, headed]
      | none =>
        obtain ⟨visit, earlier, visits, _⟩ :=
          Leads.headed leads _ (allowed.entitled .session (by simp [deed, Deed.needs, headed]))
        simp [History.visits, deed, headed, visits, Visit.ask]
    | answered request answer =>
      apply silent (by simp [deed])
      cases visits : before.past.visits with
      | nil => simp [History.visits, deed, visits]
      | cons visit earlier =>
        cases headed : request.headers <;> simp [History.visits, deed, headed, visits, Visit.hear]
    | took lock =>
      apply silent (by simp [deed])
      cases lock <;> simp [History.visits, deed]
    | _ => exact silent (by simp [deed]) (by simp only [History.visits, deed])

/-- A visit that is over stays as it is. -/
theorem Meanwhile.mem_visits (meanwhile : world.Meanwhile number next)
    (vacant : world.holder .session = none) (own : visit.task = number)
    (member : visit ∈ world.past.visits) : visit ∈ next.past.visits := by
  have both : next.Headed ∧ visit ∈ next.past.visits := by
    induction meanwhile with
    | refl =>
      refine ⟨fun holder holding => ?_, member⟩
      rw [vacant] at holding
      cases holding
    | tail _ step ih =>
      obtain ⟨moment, other, allowed, rfl⟩ := step
      exact ⟨ih.1.add moment, ih.1.mem_visits allowed (own.symm ▸ other) ih.2⟩
  exact both.2

end World

/-- A task is in a visit that began in the world `origin`: what it did since is in the record of the
visit. It is known too what is held, and that no listener demands to stop. -/
structure Visiting (number : Nat) (origin : World) (visit : Visit) (held : Option Credential)
    (world : World) : Prop where
  visits : world.past.visits = visit :: origin.past.visits
  sent : world.past.sentBy number = origin.past.sentBy number ++ visit.asked
  heard : world.past.heardBy number = origin.past.heardBy number ++ visit.heard
  told : visit.asked = [] → world.past.toldBy number = origin.past.toldBy number
  held : world.shared.held = held
  tame : world.shared.Tame

namespace Visiting

variable {regime : Regime} {number : Nat} {origin : World} {visit : Visit}
  {held : Option Credential} {world after : World}

/-- A visit begins when the lock is taken. -/
theorem began (number : Nat) (tame : world.shared.Tame) :
    Visiting number world { task := number, found := world.shared.held } world.shared.held
      (world.takes number .session) where
  visits := rfl
  sent := by simp [World.takes, History.sentBy]
  heard := by simp [World.takes, History.heardBy]
  told _ := rfl
  held := rfl
  tame := tame.enrolment (.inl rfl) rfl

theorem keptCalm : World.KeptCalm number (Visiting number origin visit held) := by
  intro world moment holding visiting allowed quiet
  have apart := allowed.isApart_of_quiet holding quiet
  constructor
  · rw [World.past_add, History.visits_of_apart apart]
    exact visiting.visits
  · rw [World.past_add, History.sentBy_of_aside quiet]
    exact visiting.sent
  · rw [World.past_add, History.heardBy_of_aside quiet]
    exact visiting.heard
  · intro nothing
    rw [World.past_add, History.toldBy_of_aside quiet]
    exact visiting.told nothing
  · exact Session.keptApart_held held world moment visiting.held allowed apart
  · exact keptApart_tame world moment visiting.tame allowed apart

theorem calmly (visiting : Visiting number origin visit held world)
    (holding : world.holder .session = some number) (calmly : world.Calmly number after) :
    Visiting number origin visit held after :=
  calmly.keeps keptCalm holding visiting

theorem sends (visiting : Visiting number origin visit held world) {request : Request}
    (bare : request.headers = none) :
    Visiting number origin (visit.ask request) held (world.sends number request) where
  visits := by simp [World.sends, History.visits, bare, visiting.visits]
  sent := by simp [World.sends, History.sentBy, visiting.sent, Visit.ask]
  heard := by simp [World.sends, History.heardBy, visiting.heard, Visit.ask]
  told asked := by simp [Visit.ask] at asked
  held := visiting.held
  tame := visiting.tame.enrolment (.inl rfl) rfl

theorem hears (visiting : Visiting number origin visit held world) {request : Request}
    (bare : request.headers = none) (answer : Answer) :
    Visiting number origin (visit.hear request answer) held
      (world.hears number request answer) where
  visits := by simp [World.hears, History.visits, bare, visiting.visits]
  sent := by simp [World.hears, History.sentBy, visiting.sent, Visit.hear]
  heard := by simp [World.hears, History.heardBy, visiting.heard, Visit.hear]
  told asked := visiting.told asked
  held := visiting.held
  tame := visiting.tame

/-- An exchange, in which nobody breaks off the wait, brings the answer of the endpoint. -/
theorem exchanged {request : Request} {outcome : Except Fault Response}
    (visiting : Visiting number origin visit held world)
    (holding : world.holder .session = some number) (bare : request.headers = none)
    (unbroken : ∀ fault, ¬ regime.breaks fault)
    (exchanged : request.Exchanged regime number world outcome after) :
    ∃ answer, (regime.endpoint world.shared.sent request).answer = answer ∧
      outcome = request.settle answer ∧
      Visiting number origin ((visit.ask request).hear request answer) held after := by
  have sending : (world.sends number request).holder .session = some number :=
    (World.grips_did (by simp) (by simp) .session).mpr holding
  cases exchanged with
  | answered answer delivered later meanwhile =>
    refine ⟨answer, delivered, rfl, Visiting.hears ?_ bare answer⟩
    exact (visiting.sends bare).calmly sending meanwhile.calmly
  | brokenOff fault breaks later meanwhile => exact absurd breaks (unbroken fault)

/-- Something else is held, and the listeners were told, in a visit that has asked for something. -/
theorem assigned {next : Option Credential} {occasion : Occasion} {outcome : Except Fault Unit}
    (visiting : Visiting number origin visit held world)
    (holding : world.holder .session = some number) (asked : visit.asked ≠ [])
    (unbroken : ∀ fault, ¬ regime.breaks fault)
    (told : Listener.Told regime number occasion world.shared.listeners.members
      (world.assigns number next) outcome after) :
    outcome = .ok () ∧ Visiting number origin visit next after := by
  constructor
  · exact told.ok visiting.tame.registered fun ⟨fault, breaks, _⟩ => unbroken fault breaks
  · refine told.keeps keptCalm (fun world notice visiting => ?_)
      (Session.holder_assigns.trans holding)
      ⟨visiting.visits, visiting.sent, visiting.heard, visiting.told, rfl,
        visiting.tame.enrolment (.inl rfl) rfl⟩
    exact ⟨visiting.visits, visiting.sent, visiting.heard, fun nothing => absurd nothing asked,
      visiting.held, visiting.tame.enrolment (.inl rfl) rfl⟩

end Visiting

end SessionKeeper
