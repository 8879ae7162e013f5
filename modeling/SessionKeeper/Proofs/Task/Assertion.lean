import SessionKeeper.Proofs.Task.World

/-! # What routines ensure

`Routine.Ensures` says that a routine, carried out by one task of many, does only what is allowed,
gives a lock back only in a world that is free of it, and ends as a postcondition says, whatever the
other tasks do while it waits. The others are not named: they are the moments of `World.Meanwhile`.

A lock that nobody holds leaves something to rely on for whoever takes it next (`Regime.free`). The
rules at the end are those by which the routines of the library are gone through.
-/

namespace SessionKeeper

/-- Whoever waits for the second lock may hold the first one. -/
def Lock.Precedes (first second : Lock) : Prop := first = .lifecycle ∧ second = .session

/-- What the tasks of a crew may count on. -/
structure Regime where
  endpoint : Endpoint
  /-- The faults that may break off a wait. -/
  breaks : Fault → Prop
  /-- What holds whenever nobody has a lock. -/
  free : Lock → World → Prop

/-- What holds while nobody has a lock goes on to hold until somebody takes it. -/
def Regime.Stable (regime : Regime) : Prop :=
  ∀ lock world moment, world.holder lock = none → regime.free lock world → world.Allows moment →
    (world.add moment).holder lock = none → regime.free lock (world.add moment)

/-- The task holds no lock. -/
def World.Idle (world : World) (number : Nat) : Prop := ∀ lock, world.holder lock ≠ some number

variable {α β : Type} {regime : Regime} {number : Nat}

theorem World.Grips.idle {world next : World} (grips : world.Grips number next)
    (idle : world.Idle number) : next.Idle number :=
  fun lock holds => idle lock ((grips lock).mp holds)

namespace Routine

/-- A routine of a task, begun in a world, ends as `post` says. -/
def Ensures (regime : Regime) (number : Nat) (post : Except Fault α → World → Prop) :
    Routine α → World → Prop
  | done outcome, world => post outcome world
  | look next, world => (next world.shared).Ensures regime number post world
  | update change next, world =>
    world.Allows ⟨number, .ofUpdate change world.shared, world.shared, change world.shared⟩ ∧
      (∀ lock, Deed.ofUpdate change world.shared = .released lock →
        regime.free lock (world.updates number change)) ∧
      next.Ensures regime number post (world.updates number change)
  | exchange request next, world =>
    world.Allows ⟨number, .sent request, world.shared, world.shared.send request⟩ ∧
      match regime.endpoint world.shared.sent request with
      | .atOnce answer =>
        (next answer).Ensures regime number post
          ((world.sends number request).hears number request answer)
      | .later answer =>
        ∀ later, (world.sends number request).Meanwhile number later →
          (next answer).Ensures regime number post (later.hears number request answer) ∧
            ∀ fault, regime.breaks fault →
              (next (.error fault)).Ensures regime number post (later.stops number fault)
  | acquire lock next, world =>
    (∀ held, world.holder held = some number → held.Precedes lock) ∧
      ∀ later, world.Meanwhile number later →
        (later.holder lock = none → regime.free lock later →
          (next (.ok ())).Ensures regime number post (later.takes number lock)) ∧
          ∀ fault, regime.breaks fault →
            (next (.error fault)).Ensures regime number post (later.stops number fault)
  | pause next, world =>
    ∀ later, world.Meanwhile number later →
      (next (.ok ())).Ensures regime number post (later.wakes number) ∧
        ∀ fault, regime.breaks fault →
          (next (.error fault)).Ensures regime number post (later.stops number fault)

variable {post stronger other : Except Fault α → World → Prop} {world : World}

theorem Ensures.mono {routine : Routine α} (ensured : routine.Ensures regime number stronger world)
    (implies : ∀ outcome after, stronger outcome after → post outcome after) :
    routine.Ensures regime number post world := by
  induction routine generalizing world with
  | done outcome => exact implies outcome world ensured
  | look next ih => exact ih world.shared ensured
  | update change next ih => exact ⟨ensured.1, ensured.2.1, ih ensured.2.2⟩
  | exchange request next ih =>
    simp only [Ensures] at ensured ⊢
    refine ⟨ensured.1, ?_⟩
    cases delivery : regime.endpoint world.shared.sent request with
    | atOnce answer =>
      simp only [delivery] at ensured
      exact ih answer ensured.2
    | later answer =>
      simp only [delivery] at ensured
      intro later meanwhile
      obtain ⟨answered, broken⟩ := ensured.2 later meanwhile
      exact ⟨ih _ answered, fun fault breaks => ih _ (broken fault breaks)⟩
  | acquire lock next ih =>
    refine ⟨ensured.1, fun later meanwhile => ?_⟩
    obtain ⟨granted, broken⟩ := ensured.2 later meanwhile
    exact ⟨fun vacant free => ih _ (granted vacant free),
      fun fault breaks => ih _ (broken fault breaks)⟩
  | pause next ih =>
    intro later meanwhile
    obtain ⟨resumed, broken⟩ := ensured later meanwhile
    exact ⟨ih _ resumed, fun fault breaks => ih _ (broken fault breaks)⟩

/-- What a routine ensures it ensures together. -/
theorem Ensures.and {routine : Routine α} (first : routine.Ensures regime number post world)
    (second : routine.Ensures regime number other world) :
    routine.Ensures regime number (fun outcome after => post outcome after ∧ other outcome after)
      world := by
  induction routine generalizing world with
  | done outcome => exact ⟨first, second⟩
  | look next ih => exact ih world.shared first second
  | update change next ih => exact ⟨first.1, first.2.1, ih first.2.2 second.2.2⟩
  | exchange request next ih =>
    simp only [Ensures] at first second ⊢
    refine ⟨first.1, ?_⟩
    cases delivery : regime.endpoint world.shared.sent request with
    | atOnce answer =>
      simp only [delivery] at first second
      exact ih answer first.2 second.2
    | later answer =>
      simp only [delivery] at first second
      intro later meanwhile
      refine ⟨ih _ (first.2 later meanwhile).1 (second.2 later meanwhile).1, ?_⟩
      exact fun fault breaks =>
        ih _ ((first.2 later meanwhile).2 fault breaks) ((second.2 later meanwhile).2 fault breaks)
  | acquire lock next ih =>
    refine ⟨first.1, fun later meanwhile => ?_⟩
    obtain ⟨granted, broken⟩ := first.2 later meanwhile
    obtain ⟨granted', broken'⟩ := second.2 later meanwhile
    exact ⟨fun vacant free => ih _ (granted vacant free) (granted' vacant free),
      fun fault breaks => ih _ (broken fault breaks) (broken' fault breaks)⟩
  | pause next ih =>
    intro later meanwhile
    obtain ⟨resumed, broken⟩ := first later meanwhile
    obtain ⟨resumed', broken'⟩ := second later meanwhile
    exact ⟨ih _ resumed resumed', fun fault breaks => ih _ (broken fault breaks)
      (broken' fault breaks)⟩

/-- What a routine followed by another ensures, the first one ends in what the second one needs. -/
theorem ensures_andThen {routine : Routine α} {next : Except Fault α → Routine β}
    {post : Except Fault β → World → Prop} :
    (routine.andThen next).Ensures regime number post world ↔
      routine.Ensures regime number
        (fun outcome after => (next outcome).Ensures regime number post after) world := by
  induction routine generalizing world with
  | done outcome => exact Iff.rfl
  | look rest ih => exact ih world.shared
  | update change rest ih => simp only [andThen, Ensures, ih]
  | exchange request rest ih =>
    simp only [andThen, Ensures]
    cases regime.endpoint world.shared.sent request <;> simp only [ih]
  | acquire lock rest ih => simp only [andThen, Ensures, ih]
  | pause rest ih => simp only [andThen, Ensures, ih]

theorem ensures_bind {routine : Routine α} {next : α → Routine β}
    {post : Except Fault β → World → Prop} :
    (routine >>= next).Ensures regime number post world ↔
      routine.Ensures regime number
        (fun outcome after =>
          match outcome with
          | .ok value => (next value).Ensures regime number post after
          | .error fault => post (.error fault) after) world := by
  refine ensures_andThen.trans (iff_of_eq ?_)
  congr 1
  funext outcome after
  cases outcome <;> rfl

theorem ensures_pure {value : α} :
    (pure value : Routine α).Ensures regime number post world ↔ post (.ok value) world := Iff.rfl

theorem ensures_map {routine : Routine α} {change : α → β}
    {post : Except Fault β → World → Prop} :
    (change <$> routine).Ensures regime number post world ↔
      routine.Ensures regime number (fun outcome after => post (outcome.map change) after)
        world := by
  refine ensures_bind.trans (iff_of_eq ?_)
  congr 1
  funext outcome after
  cases outcome <;> rfl

theorem ensures_throw {fault : Fault} :
    (throw fault : Routine α).Ensures regime number post world ↔ post (.error fault) world :=
  Iff.rfl

theorem ensures_ofExcept {outcome : Except Fault α} :
    (ofExcept outcome).Ensures regime number post world ↔ post outcome world := Iff.rfl

theorem ensures_get {post : Except Fault Shared → World → Prop} :
    Routine.get.Ensures regime number post world ↔ post (.ok world.shared) world := Iff.rfl

theorem ensures_tryCatch {routine : Routine α} {handler : Fault → Routine α} :
    (tryCatch routine handler).Ensures regime number post world ↔
      routine.Ensures regime number
        (fun outcome after =>
          match outcome with
          | .ok value => post (.ok value) after
          | .error fault => (handler fault).Ensures regime number post after) world := by
  refine ensures_andThen.trans (iff_of_eq ?_)
  congr 1
  funext outcome after
  cases outcome <;> rfl

theorem ensures_ensuring {routine : Routine α} {last : Routine Unit} :
    (routine.ensuring last).Ensures regime number post world ↔
      routine.Ensures regime number
        (fun outcome after =>
          last.Ensures regime number
            (fun ending final =>
              match ending with
              | .ok () => post outcome final
              | .error fault => post (.error fault) final) after) world := by
  unfold ensuring
  rw [ensures_andThen]
  apply iff_of_eq
  congr 1
  funext outcome after
  refine propext (ensures_andThen.trans (iff_of_eq ?_))
  congr 1
  funext ending final
  cases ending <;> rfl

theorem ensures_attempt {routine : Routine α}
    {post : Except Fault (Except Fault α) → World → Prop} :
    routine.attempt.Ensures regime number post world ↔
      routine.Ensures regime number (fun outcome after => post (.ok outcome) after) world :=
  ensures_andThen

end Routine

/-! ## Quiet routines -/

namespace World

theorem allows_of_quiet {world : World} {deed : Deed} {after : Shared} (quiet : deed.IsQuiet)
    (lawful : Moment.Lawful ⟨number, deed, world.shared, after⟩) :
    world.Allows ⟨number, deed, world.shared, after⟩ where
  before := rfl
  lawful := lawful
  entitled := by cases deed <;> simp_all [Deed.IsQuiet, Entitles, Deed.needs]
  vacant := by cases deed <;> simp_all [Deed.IsQuiet]

theorem calmly_did {world : World} {deed : Deed} {after : Shared} (quiet : deed.IsQuiet)
    (lawful : Moment.Lawful ⟨number, deed, world.shared, after⟩) :
    world.Calmly number (world.did number deed after) :=
  .single ⟨_, fun _ => quiet, allows_of_quiet quiet lawful, rfl⟩

theorem lawful_of_harmless {world : World} {change : Shared → Shared} (number : Nat)
    (harmless : Shared.Harmless change world.shared) :
    Moment.Lawful ⟨number, .changed, world.shared, change world.shared⟩ :=
  ⟨⟨harmless.held _, harmless.notices _, harmless.locked _, harmless.sent, harmless.roster,
    harmless.enrolment⟩, harmless.stage _⟩

theorem allows_answered {world : World} {request : Request} (answer : Answer)
    (entitles : world.Entitles number (.sent request)) :
    world.Allows ⟨number, .answered request answer, world.shared, world.shared⟩ where
  before := rfl
  lawful := rfl
  entitled := entitles
  vacant := by simp

theorem allows_took {world : World} {lock : Lock} (vacant : world.holder lock = none) :
    world.Allows ⟨number, .took lock, world.shared, world.shared.lock lock⟩ where
  before := rfl
  lawful := rfl
  entitled := by simp [Entitles, Deed.needs]
  vacant := by
    rintro other ⟨rfl⟩
    exact vacant

end World

namespace Shared

theorem harmless_say (level : Level) (message : Text) (before : Shared) :
    Harmless (·.say level message) before where
  held _ := rfl
  notices _ := rfl
  locked _ := rfl
  stage _ := rfl
  sent := rfl
  roster := rfl
  enrolment := .inl rfl

theorem harmless_note (listener : Text) (occasion : Occasion) (before : Shared) :
    Harmless (·.note listener occasion) before where
  held _ := rfl
  notices _ := rfl
  locked _ := rfl
  stage _ := rfl
  sent := rfl
  roster := rfl
  enrolment := .inl rfl

theorem harmless_enlist {listener : Listener} {before : Shared}
    (known : listener ∈ before.roster) :
    Harmless (fun shared => (shared.enlist listener).2) before where
  held _ := rfl
  notices _ := rfl
  locked _ := rfl
  stage _ := rfl
  sent := rfl
  roster := rfl
  enrolment := .inr ⟨listener, known, .inl rfl⟩

theorem harmless_dismiss {listener : Listener} {before : Shared}
    (known : listener ∈ before.roster) :
    Harmless (fun shared => (shared.dismiss listener).2) before where
  held _ := rfl
  notices _ := rfl
  locked _ := rfl
  stage _ := rfl
  sent := rfl
  roster := rfl
  enrolment := .inr ⟨listener, known, .inr rfl⟩

/-- Writing log lines, one after the other. -/
theorem harmless_report (lines : List (Level × Text)) (before : Shared) :
    Harmless (fun shared => lines.foldl (fun shared line => shared.say line.1 line.2) shared)
      before := by
  have kept {β : Type} (field : Shared → β)
      (same : ∀ shared level message, field (shared.say level message) = field shared)
      (shared : Shared) :
      field (lines.foldl (fun shared line => shared.say line.1 line.2) shared) = field shared := by
    induction lines generalizing shared with
    | nil => rfl
    | cons line rest ih => rw [List.foldl_cons, ih, same]
  exact ⟨kept (·.held) fun _ _ _ => rfl, kept (·.notices) fun _ _ _ => rfl,
    kept (·.locked) fun _ _ _ => rfl, kept stage fun _ _ _ => rfl,
    kept (·.sent) (fun _ _ _ => rfl) before, kept (·.roster) (fun _ _ _ => rfl) before,
    .inl (kept (·.listeners) (fun _ _ _ => rfl) before)⟩

end Shared

namespace Routine

variable {world : World}

/-- A harmless update is nothing that another task would notice. -/
theorem ensures_update {change : Shared → Shared} {next : Routine α}
    {post : Except Fault α → World → Prop} (harmless : Shared.Harmless change world.shared)
    (ensured : ∀ after, world.Calmly number after → after.shared = change world.shared →
      next.Ensures regime number post after) :
    (update change next).Ensures regime number post world := by
  have changed := Deed.ofUpdate_harmless harmless
  have lawful := World.lawful_of_harmless number harmless
  refine ⟨?_, fun lock released => ?_, ?_⟩
  · rw [changed]
    exact World.allows_of_quiet trivial lawful
  · rw [changed] at released
    cases released
  · rw [World.updates, changed]
    exact ensured _ (World.calmly_did trivial lawful) rfl

theorem ensures_modify {change : Shared → Shared} (harmless : Shared.Harmless change world.shared) :
    (modify change).Ensures regime number
      (fun outcome after => outcome = .ok () ∧ world.Calmly number after) world :=
  ensures_update harmless fun _ calmly _ => ⟨rfl, calmly⟩

theorem ensures_say (level : Level) (message : Text) :
    (say level message).Ensures regime number
      (fun outcome after => outcome = .ok () ∧ world.Calmly number after) world :=
  ensures_modify (Shared.harmless_say level message world.shared)

theorem ensures_ofReported (reported : Reported α) :
    (ofReported reported).Ensures regime number
      (fun outcome after => outcome = reported.outcome ∧ world.Calmly number after) world :=
  ensures_update (Shared.harmless_report reported.lines world.shared)
    fun _ calmly _ => ⟨rfl, calmly⟩

theorem ensures_yieldTurn :
    yieldTurn.Ensures regime number
      (fun outcome after => world.Calmly number after ∧
        ∀ fault, outcome = .error fault →
          regime.breaks fault ∧ ∃ before : World, after = before.stops number fault) world := by
  intro later meanwhile
  refine ⟨⟨meanwhile.calmly.trans (World.calmly_did trivial rfl), by simp⟩, fun fault breaks => ?_⟩
  refine ⟨meanwhile.calmly.trans (World.calmly_did trivial rfl), ?_⟩
  rintro _ ⟨rfl⟩
  exact ⟨breaks, later, rfl⟩

/-- Every update of the routine is of a kind. -/
def Updates (kind : (Shared → Shared) → Prop) : Routine α → Prop
  | done _ => True
  | look next => ∀ shared, (next shared).Updates kind
  | update change next => kind change ∧ next.Updates kind
  | exchange _ next => ∀ answer, (next answer).Updates kind
  | acquire _ next => ∀ granted, (next granted).Updates kind
  | pause next => ∀ turn, (next turn).Updates kind

theorem updates_of_forall {kind : (Shared → Shared) → Prop} (all : ∀ change, kind change)
    (routine : Routine α) : routine.Updates kind := by
  induction routine with
  | done outcome => trivial
  | look next ih => exact ih
  | update change next ih => exact ⟨all change, ih⟩
  | exchange request next ih => exact ih
  | acquire lock next ih => exact ih
  | pause next ih => exact ih

/-- A routine leads only to worlds that follow by moments of a kind, if its updates are such
moments, and so is whatever others do and whatever replaces nothing that is held. -/
theorem Ensures.stepping {routine : Routine α} {post : Except Fault α → World → Prop}
    {start : World} {kind : Moment → Prop} {changes : (Shared → Shared) → Prop}
    (made : routine.Updates changes)
    (updating : ∀ change before, changes change →
      kind ⟨number, .ofUpdate change before, before, change before⟩)
    (others : ∀ moment, moment.task ≠ number → kind moment)
    (sparing : ∀ moment, moment.assigned? = none → kind moment)
    (leads : Relation.ReflTransGen (World.Step kind) start world)
    (ensured : routine.Ensures regime number post world) :
    routine.Ensures regime number
      (fun outcome after => post outcome after ∧
        Relation.ReflTransGen (World.Step kind) start after) world := by
  have moved {world : World} {deed : Deed} {after : Shared}
      (leads : Relation.ReflTransGen (World.Step kind) start world)
      (isKind : kind ⟨number, deed, world.shared, after⟩)
      (allowed : world.Allows ⟨number, deed, world.shared, after⟩) :
      Relation.ReflTransGen (World.Step kind) start (world.did number deed after) :=
    leads.tail ⟨_, isKind, allowed, rfl⟩
  have rested {world : World} {deed : Deed}
      (leads : Relation.ReflTransGen (World.Step kind) start world) (quiet : deed.IsQuiet)
      (lawful : Moment.Lawful ⟨number, deed, world.shared, world.shared⟩) :
      Relation.ReflTransGen (World.Step kind) start (world.did number deed world.shared) :=
    moved leads (sparing _ (Moment.IsApart.of_quiet quiet).assigned?)
      (World.allows_of_quiet quiet lawful)
  have waited {first later : World}
      (leads : Relation.ReflTransGen (World.Step kind) start first)
      (meanwhile : first.Meanwhile number later) :
      Relation.ReflTransGen (World.Step kind) start later :=
    leads.trans (Relation.ReflTransGen.mono (fun _ _ step => step.mono others) _ _ meanwhile)
  induction routine generalizing world with
  | done outcome => exact ⟨ensured, leads⟩
  | look next ih => exact ih world.shared (made world.shared) leads ensured
  | update change next ih =>
    obtain ⟨allowed, released, rest⟩ := ensured
    exact ⟨allowed, released, ih made.2 (moved leads (updating change _ made.1) allowed) rest⟩
  | exchange request next ih =>
    simp only [Ensures] at ensured ⊢
    obtain ⟨allowed, rest⟩ := ensured
    have sending := moved leads (sparing _ rfl) allowed
    have entitles : (world.sends number request).Entitles number (.sent request) :=
      World.Entitles.keeps allowed.entitled fun lock =>
        (World.grips_did (by simp) (by simp) lock).mpr
    refine ⟨allowed, ?_⟩
    cases delivery : regime.endpoint world.shared.sent request with
    | atOnce answer =>
      simp only [delivery] at rest
      have heard := moved sending (sparing _ rfl) (World.allows_answered answer entitles)
      exact ih answer (made answer) heard rest
    | later answer =>
      simp only [delivery] at rest
      intro later meanwhile
      obtain ⟨answered, broken⟩ := rest later meanwhile
      have since := waited sending meanwhile
      have still := entitles.keeps fun lock => (meanwhile.calmly.grips lock).mpr
      have heard := moved since (sparing _ rfl) (World.allows_answered answer still)
      refine ⟨ih _ (made answer) heard answered, ?_⟩
      exact fun fault breaks => ih _ (made _) (rested since trivial rfl) (broken fault breaks)
  | acquire lock next ih =>
    refine ⟨ensured.1, fun later meanwhile => ?_⟩
    obtain ⟨granted, broken⟩ := ensured.2 later meanwhile
    have since := waited leads meanwhile
    refine ⟨fun vacant free => ?_, fun fault breaks => ?_⟩
    · have taken := moved since (sparing _ rfl) (World.allows_took vacant)
      exact ih _ (made _) taken (granted vacant free)
    · exact ih _ (made _) (rested since trivial rfl) (broken fault breaks)
  | pause next ih =>
    intro later meanwhile
    obtain ⟨resumed, broken⟩ := ensured later meanwhile
    have since := waited leads meanwhile
    refine ⟨ih _ (made _) (rested since trivial rfl) resumed, fun fault breaks => ?_⟩
    exact ih _ (made _) (rested since trivial rfl) (broken fault breaks)

/-- A routine leads only to worlds that follow. -/
theorem Ensures.following {routine : Routine α} {post : Except Fault α → World → Prop}
    {start : World} (leads : start.Leads world)
    (ensured : routine.Ensures regime number post world) :
    routine.Ensures regime number (fun outcome after => post outcome after ∧ start.Leads after)
      world :=
  ensured.stepping (updates_of_forall (fun _ => trivial) routine) (fun _ _ _ => trivial)
    (fun _ _ => trivial) (fun _ _ => trivial) leads

/-! ## Locks -/

/-- A routine that a task carries out while it holds the lock of the session ends as a relation of
worlds says. -/
def Does (regime : Regime) (number : Nat) (routine : Routine α)
    (relation : World → Except Fault α → World → Prop) : Prop :=
  ∀ world, world.holder .session = some number →
    routine.Ensures regime number (relation world) world

/-- A routine under a lock is begun in a world that is free of the lock, and has to end in one that
is. -/
theorem ensures_lock {lock : Lock} {body : Routine α} {post : Except Fault α → World → Prop}
    (order : ∀ held, world.holder held = some number → held.Precedes lock)
    (granted : ∀ before, world.Meanwhile number before → before.holder lock = none →
      regime.free lock before →
      body.Ensures regime number
        (fun outcome after => after.holder lock = some number ∧
          regime.free lock (after.releases number lock) ∧ post outcome (after.releases number lock))
        (before.takes number lock))
    (refused : ∀ before fault, world.Meanwhile number before → regime.breaks fault →
      post (.error fault) (before.stops number fault)) :
    (withLock lock body).Ensures regime number post world := by
  refine ⟨order, fun before meanwhile =>
    ⟨fun vacant free => ?_, fun fault breaks => refused before fault meanwhile breaks⟩⟩
  simp only
  rw [ensures_ensuring]
  apply (granted before meanwhile vacant free).mono
  rintro outcome after ⟨holding, still, ended⟩
  have released : Deed.ofUpdate (·.unlock lock) after.shared = .released lock :=
    Deed.ofUpdate_unlock lock after.shared
  refine ⟨?_, fun other same => ?_, ?_⟩
  · rw [released]
    refine ⟨rfl, rfl, ?_, by simp⟩
    rintro other ⟨rfl⟩
    exact holding
  · rw [released] at same
    cases same
    rw [World.updates, released]
    exact still
  · rw [World.updates, released]
    exact ended

/-- What is done under the lock of the session, by a task that may have other locks in hand. -/
theorem ensures_visit {body : Routine α} {relation : World → Except Fault α → World → Prop}
    {post : Except Fault α → World → Prop} (does : body.Does regime number relation)
    (grips : ∀ before outcome after, relation before outcome after → before.Grips number after)
    (unheld : world.holder .session ≠ some number)
    (granted : ∀ before outcome after, world.Meanwhile number before →
      before.holder .session = none → regime.free .session before →
      relation (before.takes number .session) outcome after →
      (before.takes number .session).Leads after →
      regime.free .session (after.releases number .session) ∧
        (world.Grips number (after.releases number .session) →
          post outcome (after.releases number .session)))
    (refused : ∀ before fault, world.Meanwhile number before → regime.breaks fault →
      world.Grips number (before.stops number fault) →
        post (.error fault) (before.stops number fault)) :
    (withLock .session body).Ensures regime number post world := by
  apply ensures_lock
  · intro held holds
    cases held with
    | session => exact absurd holds unheld
    | lifecycle => exact ⟨rfl, rfl⟩
  · intro before meanwhile vacant free
    apply ((does (before.takes number .session) World.holder_takes).following .refl).mono
    rintro outcome after ⟨related, leads⟩
    have gripped := grips _ outcome after related
    obtain ⟨still, ended⟩ := granted before outcome after meanwhile vacant free related leads
    refine ⟨(gripped .session).mpr World.holder_takes, still, ended fun lock => ?_⟩
    cases lock with
    | session =>
      rw [World.holder_releases]
      exact iff_of_false (Option.some_ne_none number).symm unheld
    | lifecycle =>
      rw [World.releases, World.did, World.holder_add_of_apart (by simp) (by simp),
        gripped .lifecycle, World.takes, World.did, World.holder_add_of_apart (by simp) (by simp)]
      exact meanwhile.calmly.grips .lifecycle
  · intro before fault meanwhile breaks
    exact refused before fault meanwhile breaks
      (meanwhile.calmly.grips.trans (World.grips_did (by simp) (by simp)))

/-- What is done under the lock of the session, by a task without a lock in hand. -/
theorem ensures_withLock {body : Routine α} {relation : World → Except Fault α → World → Prop}
    {post : Except Fault α → World → Prop} (does : body.Does regime number relation)
    (grips : ∀ before outcome after, relation before outcome after → before.Grips number after)
    (idle : world.Idle number)
    (granted : ∀ before outcome after, world.Meanwhile number before →
      before.holder .session = none → regime.free .session before →
      relation (before.takes number .session) outcome after →
      (before.takes number .session).Leads after →
      regime.free .session (after.releases number .session) ∧
        ((after.releases number .session).Idle number →
          post outcome (after.releases number .session)))
    (refused : ∀ before fault, world.Meanwhile number before → regime.breaks fault →
      (before.stops number fault).Idle number → post (.error fault) (before.stops number fault)) :
    (withLock .session body).Ensures regime number post world := by
  apply ensures_visit does grips (idle .session)
  · intro before outcome after meanwhile vacant free related leads
    obtain ⟨still, ended⟩ := granted before outcome after meanwhile vacant free related leads
    exact ⟨still, fun gripped => ended (gripped.idle idle)⟩
  · intro before fault meanwhile breaks gripped
    exact refused before fault meanwhile breaks (gripped.idle idle)

end Routine

end SessionKeeper
