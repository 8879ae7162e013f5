import SessionKeeper.Proofs.Task.History

/-! # Worlds that follow each other

What allowed moments keep. A lock has one holder, and it is taken exactly when it has one
(`World.Consistent`); only the holder gives it back (`World.Calmly.holder_iff`), and while somebody
holds the lock of the session, nobody else touches what it protects (`World.Allows.isApart`).
-/

namespace SessionKeeper

theorem Moment.IsApart.of_quiet {moment : Moment} (quiet : moment.deed.IsQuiet) :
    moment.IsApart := by
  unfold Moment.IsApart
  cases deed : moment.deed <;> simp_all [Deed.IsQuiet, Deed.needs]

theorem Moment.IsApart.assigned? {moment : Moment} (apart : moment.IsApart) :
    moment.assigned? = none := by
  unfold Moment.assigned?
  split
  · rename_i deed
    exact absurd (by rw [deed]; rfl) apart.1
  · rfl

namespace History

variable {moment : Moment} {number : Nat} {past : History}

/-! ## Readings of a history -/

/-- What somebody else does, and what a task does quietly, is no request of the task. -/
theorem sentBy_of_aside (quiet : moment.task = number → moment.deed.IsQuiet) :
    sentBy number (moment :: past) = past.sentBy number := by
  simp only [sentBy]
  split
  · rename_i request deed
    refine if_neg fun own => ?_
    have still := quiet own
    rw [deed] at still
    cases still
  · rfl

theorem heardBy_of_aside (quiet : moment.task = number → moment.deed.IsQuiet) :
    heardBy number (moment :: past) = past.heardBy number := by
  simp only [heardBy]
  split
  · rename_i request answer deed
    refine if_neg fun own => ?_
    have still := quiet own
    rw [deed] at still
    cases still
  · rfl

theorem toldBy_of_aside (quiet : moment.task = number → moment.deed.IsQuiet) :
    toldBy number (moment :: past) = past.toldBy number := by
  simp only [toldBy]
  split
  · rename_i notice deed
    refine if_neg fun own => ?_
    have still := quiet own
    rw [deed] at still
    cases still
  · rfl

/-- Who is not on record for a request sent none. -/
theorem unsent (silent : past.sentBy number = []) :
    ∀ moment ∈ past, moment.task = number → ∀ request, moment.deed ≠ .sent request := by
  induction past with
  | nil => exact fun moment member => absurd member List.not_mem_nil
  | cons moment earlier ih =>
    have before : sentBy number earlier = [] := by
      simp only [sentBy] at silent
      split at silent
      · split at silent
        · exact absurd silent (by simp)
        · exact silent
      · exact silent
    rintro other (_ | ⟨_, member⟩) own request deed
    · simp [sentBy, deed, own] at silent
    · exact ih before other member own request deed

/-- Who did nothing sent, heard and told nothing. -/
theorem readings_of_unknown (unknown : ∀ moment ∈ past, moment.task ≠ number) :
    past.sentBy number = [] ∧ past.heardBy number = [] ∧ past.toldBy number = [] := by
  induction past with
  | nil => exact ⟨rfl, rfl, rfl⟩
  | cons moment earlier ih =>
    have other : moment.task = number → moment.deed.IsQuiet := fun own =>
      absurd own (unknown moment List.mem_cons_self)
    rw [sentBy_of_aside other, heardBy_of_aside other, toldBy_of_aside other]
    exact ih fun moment member => unknown moment (List.mem_cons_of_mem _ member)

end History

namespace World

variable {world next : World} {moment : Moment} {number : Nat} {lock : Lock}

@[simp] theorem shared_add : (world.add moment).shared = moment.after := rfl

@[simp] theorem past_add : (world.add moment).past = moment :: world.past := rfl

@[simp] theorem past_did {deed : Deed} {after : Shared} :
    (world.did number deed after).past = ⟨number, deed, world.shared, after⟩ :: world.past := rfl

/-! ## Holders -/

theorem holder_add_of_apart (untaken : moment.deed ≠ .took lock)
    (kept : moment.deed ≠ .released lock) : (world.add moment).holder lock = world.holder lock := by
  simp only [holder, add, History.holder]
  cases deed : moment.deed with
  | took other =>
    have different : other ≠ lock := fun same => untaken (by rw [deed, same])
    simp [different]
  | released other =>
    have different : other ≠ lock := fun same => kept (by rw [deed, same])
    simp [different]
  | _ => rfl

theorem holder_add_took (taken : moment.deed = .took lock) :
    (world.add moment).holder lock = some moment.task := by
  simp [holder, add, History.holder, taken]

theorem holder_add_released (released : moment.deed = .released lock) :
    (world.add moment).holder lock = none := by
  simp [holder, add, History.holder, released]

@[simp] theorem holder_takes : (world.takes number lock).holder lock = some number :=
  holder_add_took rfl

@[simp] theorem holder_releases : (world.releases number lock).holder lock = none :=
  holder_add_released rfl

theorem holder_add_eq_some (allowed : world.Allows moment) (other : moment.task ≠ number) :
    (world.add moment).holder lock = some number ↔ world.holder lock = some number := by
  by_cases taken : moment.deed = .took lock
  · rw [holder_add_took taken, allowed.vacant lock taken]
    simp [other]
  by_cases released : moment.deed = .released lock
  · rw [holder_add_released released, allowed.entitled lock (by rw [released]; rfl)]
    simp [other]
  · rw [holder_add_of_apart taken released]

theorem holder_add_of_quiet (quiet : moment.deed.IsQuiet) :
    (world.add moment).holder lock = world.holder lock :=
  holder_add_of_apart (fun same => by rw [same] at quiet; exact quiet)
    (fun same => by rw [same] at quiet; exact quiet)

theorem Entitles.keeps {deed : Deed} (entitles : world.Entitles number deed)
    (kept : ∀ lock, world.holder lock = some number → next.holder lock = some number) :
    next.Entitles number deed :=
  fun lock needed => kept lock (entitles lock needed)

theorem exists_of_holder (held : world.holder lock = some number) :
    ∃ moment ∈ world.past, moment.task = number := by
  obtain ⟨shared, past⟩ := world
  simp only [holder] at held
  induction past with
  | nil => cases held
  | cons moment earlier ih =>
    by_cases own : moment.task = number
    · exact ⟨moment, List.mem_cons_self, own⟩
    · have before : History.holder lock earlier = some number := by
        simp only [History.holder] at held
        cases deed : moment.deed with
        | took other =>
          simp only [deed] at held
          split at held
          · exact absurd (Option.some.inj held) own
          · exact held
        | released other =>
          simp only [deed] at held
          split at held
          · cases held
          · exact held
        | _ => simpa only [deed] using held
      obtain ⟨member, known, same⟩ := ih before
      exact ⟨member, List.mem_cons_of_mem _ known, same⟩

theorem idle_of_past (unknown : ∀ moment ∈ world.past, moment.task ≠ number) :
    ∀ lock, world.holder lock ≠ some number := by
  intro lock holds
  obtain ⟨moment, member, own⟩ := exists_of_holder holds
  exact unknown moment member own

/-! ## What a moment keeps -/

namespace Allows

theorem held_eq (allowed : world.Allows moment)
    (unassigned : ∀ held, moment.deed ≠ .assigned held) :
    moment.after.held = world.shared.held := by
  rw [← allowed.before]
  have lawful := allowed.lawful
  unfold Moment.Lawful at lawful
  cases deed : moment.deed with
  | assigned held => exact absurd deed (unassigned held)
  | changed => rw [deed] at lawful; exact lawful.1.held
  | managed => rw [deed] at lawful; exact lawful.held
  | _ => rw [deed] at lawful; exact (congrArg Shared.held lawful).trans rfl

theorem notices_eq (allowed : world.Allows moment) (untold : ∀ notice, moment.deed ≠ .told notice) :
    moment.after.notices = world.shared.notices := by
  rw [← allowed.before]
  have lawful := allowed.lawful
  unfold Moment.Lawful at lawful
  cases deed : moment.deed with
  | told notice => exact absurd deed (untold notice)
  | changed => rw [deed] at lawful; exact lawful.1.notices
  | managed => rw [deed] at lawful; exact lawful.notices
  | _ => rw [deed] at lawful; exact (congrArg Shared.notices lawful).trans rfl

theorem stage_eq (allowed : world.Allows moment) (unmanaged : moment.deed ≠ .managed) :
    moment.after.stage = world.shared.stage := by
  rw [← allowed.before]
  have lawful := allowed.lawful
  unfold Moment.Lawful at lawful
  cases deed : moment.deed with
  | managed => exact absurd deed unmanaged
  | changed => rw [deed] at lawful; exact lawful.2
  | _ => rw [deed] at lawful; exact (congrArg Shared.stage lawful).trans rfl

theorem sent_eq (allowed : world.Allows moment) (unsent : ∀ request, moment.deed ≠ .sent request) :
    moment.after.sent = world.shared.sent := by
  rw [← allowed.before]
  have lawful := allowed.lawful
  unfold Moment.Lawful at lawful
  cases deed : moment.deed with
  | sent request => exact absurd deed (unsent request)
  | changed => rw [deed] at lawful; exact lawful.1.sent
  | managed => rw [deed] at lawful; exact lawful.sent
  | _ => rw [deed] at lawful; exact (congrArg Shared.sent lawful).trans rfl

theorem roster_eq (allowed : world.Allows moment) : moment.after.roster = world.shared.roster := by
  rw [← allowed.before]
  have lawful := allowed.lawful
  unfold Moment.Lawful at lawful
  cases deed : moment.deed with
  | changed => rw [deed] at lawful; exact lawful.1.roster
  | managed => rw [deed] at lawful; exact lawful.roster
  | _ => rw [deed] at lawful; exact (congrArg Shared.roster lawful).trans rfl

theorem enrolment (allowed : world.Allows moment) :
    world.shared.Enrolment moment.after := by
  rw [← allowed.before]
  have lawful := allowed.lawful
  unfold Moment.Lawful at lawful
  cases deed : moment.deed with
  | changed => rw [deed] at lawful; exact lawful.1.enrolment
  | managed => rw [deed] at lawful; exact lawful.enrolment
  | _ => rw [deed] at lawful; exact .inl ((congrArg Shared.listeners lawful).trans rfl)

theorem locked_eq (allowed : world.Allows moment) (untaken : ∀ lock, moment.deed ≠ .took lock)
    (kept : ∀ lock, moment.deed ≠ .released lock) :
    moment.after.locked = world.shared.locked := by
  rw [← allowed.before]
  have lawful := allowed.lawful
  unfold Moment.Lawful at lawful
  cases deed : moment.deed with
  | took lock => exact absurd deed (untaken lock)
  | released lock => exact absurd deed (kept lock)
  | changed => rw [deed] at lawful; exact lawful.1.locked
  | managed => rw [deed] at lawful; exact lawful.locked
  | _ => rw [deed] at lawful; exact (congrArg Shared.locked lawful).trans rfl

/-- While somebody holds the lock of the session, a deed of somebody else leaves the session
alone. -/
theorem isApart (allowed : world.Allows moment) (held : world.holder .session = some number)
    (other : moment.task ≠ number) : moment.IsApart := by
  constructor
  · intro needed
    have entitled := allowed.entitled .session needed
    rw [held] at entitled
    exact other (Option.some.inj entitled).symm
  · intro taken
    have vacant := allowed.vacant .session taken
    rw [held] at vacant
    cases vacant

/-- While a task that holds the lock of the session is quiet, every deed leaves the session
alone. -/
theorem isApart_of_quiet (allowed : world.Allows moment)
    (held : world.holder .session = some number)
    (quiet : moment.task = number → moment.deed.IsQuiet) : moment.IsApart := by
  by_cases own : moment.task = number
  · exact Moment.IsApart.of_quiet (quiet own)
  · exact allowed.isApart held own

/-- What happens while nobody holds the lock of the session, and leaves it so, leaves the session
alone. -/
theorem isApart_of_vacant (allowed : world.Allows moment) (vacant : world.holder .session = none)
    (still : (world.add moment).holder .session = none) : moment.IsApart := by
  constructor
  · intro needed
    have entitled := allowed.entitled .session needed
    rw [vacant] at entitled
    cases entitled
  · intro taken
    rw [holder_add_took taken] at still
    cases still

end Allows

/-! ## Locks and their holders -/

/-- A lock is taken exactly when it has a holder. -/
def Consistent (world : World) : Prop :=
  ∀ lock, world.shared.locked.count lock = if (world.holder lock).isSome then 1 else 0

theorem Consistent.mem_locked (consistent : world.Consistent) :
    lock ∈ world.shared.locked ↔ (world.holder lock).isSome := by
  rw [← List.count_pos_iff, consistent lock]
  split <;> simp_all

theorem Consistent.add (consistent : world.Consistent) (allowed : world.Allows moment) :
    (world.add moment).Consistent := by
  intro lock
  have lawful := allowed.lawful
  rw [Moment.Lawful, allowed.before] at lawful
  have counted := consistent lock
  cases deed : moment.deed with
  | took other =>
    have after : moment.after.locked = other :: world.shared.locked := by
      rw [deed] at lawful
      rw [lawful]
      rfl
    rw [shared_add, after, List.count_cons, counted]
    by_cases same : other = lock
    · subst same
      simp [holder_add_took deed, allowed.vacant other deed]
    · rw [holder_add_of_apart (by simpa [deed] using same) (by simp [deed])]
      simp [same]
  | released other =>
    have after : moment.after.locked = world.shared.locked.erase other := by
      rw [deed] at lawful
      rw [lawful]
      rfl
    rw [shared_add, after]
    by_cases same : other = lock
    · subst same
      rw [List.count_erase_self, counted, holder_add_released deed,
        allowed.entitled other (by rw [deed]; rfl)]
      rfl
    · rw [holder_add_of_apart (by simp [deed]) (by simpa [deed] using same),
        List.count_erase_of_ne (Ne.symm same), counted]
  | _ =>
    rw [holder_add_of_apart (by simp [deed]) (by simp [deed]), shared_add,
      allowed.locked_eq (by simp [deed]) (by simp [deed]), counted]

/-! ## Sequences of moments -/

theorem Step.mono {kind other : Moment → Prop} (implies : ∀ moment, kind moment → other moment)
    (step : Step kind world next) : Step other world next := by
  obtain ⟨moment, isKind, allowed, rfl⟩ := step
  exact ⟨moment, implies moment isKind, allowed, rfl⟩

theorem Meanwhile.calmly (meanwhile : Meanwhile number world next) : Calmly number world next :=
  Relation.ReflTransGen.mono
    (fun _ _ step => step.mono fun _ other own => absurd own other) _ _ meanwhile

theorem Calmly.leads (calmly : Calmly number world next) : Leads world next :=
  Relation.ReflTransGen.mono (fun _ _ step => step.mono fun _ _ => trivial) _ _ calmly

theorem Meanwhile.leads (meanwhile : Meanwhile number world next) : Leads world next :=
  meanwhile.calmly.leads

/-- Who did nothing does nothing while it waits. -/
theorem Meanwhile.unknown (meanwhile : Meanwhile number world next)
    (unknown : ∀ moment ∈ world.past, moment.task ≠ number) :
    ∀ moment ∈ next.past, moment.task ≠ number := by
  induction meanwhile with
  | refl => exact unknown
  | tail _ step ih =>
    obtain ⟨last, other, _, rfl⟩ := step
    intro moment member
    rcases List.mem_cons.mp member with rfl | earlier
    · exact other
    · exact ih moment earlier

theorem Calmly.holder_iff (calmly : Calmly number world next) :
    next.holder lock = some number ↔ world.holder lock = some number := by
  induction calmly with
  | refl => rfl
  | tail _ step ih =>
    obtain ⟨moment, quiet, allowed, rfl⟩ := step
    by_cases own : moment.task = number
    · rw [holder_add_of_quiet (quiet own), ih]
    · rw [holder_add_eq_some allowed own, ih]

section Readings

variable (calmly : Calmly number world next)

include calmly

/-- What a task sent, heard and told stays the same while it is quiet. -/
private theorem Calmly.reading {β : Type} {reading : History → β}
    (aside : ∀ (moment : Moment) (past : History), (moment.task = number → moment.deed.IsQuiet) →
      reading (moment :: past) = reading past) : reading next.past = reading world.past := by
  induction calmly with
  | refl => rfl
  | tail _ step ih =>
    obtain ⟨moment, quiet, _, rfl⟩ := step
    rw [past_add, aside moment _ quiet, ih]

theorem Calmly.sentBy : next.past.sentBy number = world.past.sentBy number :=
  calmly.reading fun _ _ => History.sentBy_of_aside

theorem Calmly.heardBy : next.past.heardBy number = world.past.heardBy number :=
  calmly.reading fun _ _ => History.heardBy_of_aside

theorem Calmly.toldBy : next.past.toldBy number = world.past.toldBy number :=
  calmly.reading fun _ _ => History.toldBy_of_aside

end Readings

/-- The task holds the same locks in both worlds. -/
def Grips (number : Nat) (world next : World) : Prop :=
  ∀ lock, next.holder lock = some number ↔ world.holder lock = some number

theorem Grips.refl : Grips number world world := fun _ => Iff.rfl

theorem Grips.trans {final : World} (first : Grips number world next)
    (second : Grips number next final) : Grips number world final :=
  fun lock => (second lock).trans (first lock)

theorem Calmly.grips (calmly : Calmly number world next) : Grips number world next :=
  fun _ => calmly.holder_iff

theorem grips_did {task : Nat} {deed : Deed} {after : Shared}
    (untaken : ∀ lock, deed ≠ .took lock) (kept : ∀ lock, deed ≠ .released lock) :
    Grips number world (world.did task deed after) :=
  fun lock => by rw [did, holder_add_of_apart (untaken lock) (kept lock)]

theorem Leads.suffix (leads : Leads world next) : world.past <:+ next.past := by
  induction leads with
  | refl => exact List.suffix_rfl
  | tail _ step ih =>
    obtain ⟨moment, _, _, rfl⟩ := step
    exact ih.trans (List.suffix_cons moment _)

theorem Leads.consistent (leads : Leads world next) (consistent : world.Consistent) :
    next.Consistent := by
  induction leads with
  | refl => exact consistent
  | tail _ step ih =>
    obtain ⟨moment, _, allowed, rfl⟩ := step
    exact ih.add allowed

/-- What is held is what was put in its place last. -/
theorem Leads.held_eq {start : Shared} (leads : Leads ⟨start, []⟩ world) :
    world.shared.held = (world.past.findSome? Moment.assigned?).getD start.held := by
  induction leads with
  | refl => rfl
  | tail before step ih =>
    obtain ⟨moment, _, allowed, rfl⟩ := step
    rw [shared_add, past_add, List.findSome?_cons]
    cases deed : moment.deed with
    | assigned held =>
      have lawful := allowed.lawful
      rw [Moment.Lawful, deed] at lawful
      simp only [Moment.assigned?, deed, Option.getD_some]
      rw [lawful]
      rfl
    | _ =>
      simp only [Moment.assigned?, deed]
      rw [allowed.held_eq (by simp [deed]), ih]

/-- The requests are the same as long as nobody sends one. -/
theorem Leads.sent_of_silent {start : Shared} (leads : Leads ⟨start, []⟩ world)
    (silent : ∀ moment ∈ world.past, ∀ request, moment.deed ≠ .sent request) :
    world.shared.sent = start.sent := by
  induction leads with
  | refl => rfl
  | tail _ step ih =>
    obtain ⟨moment, _, allowed, rfl⟩ := step
    rw [shared_add, allowed.sent_eq (silent moment List.mem_cons_self)]
    exact ih fun other member => silent other (List.mem_cons_of_mem _ member)

/-- The same is held as long as nobody does anything in the session. -/
theorem Leads.held_of_apart {start : Shared} (leads : Leads ⟨start, []⟩ world)
    (apart : ∀ moment ∈ world.past, moment.IsApart) : world.shared.held = start.held := by
  rw [leads.held_eq,
    List.findSome?_eq_none_iff.mpr fun moment member => (apart moment member).assigned?]
  rfl

/-- A course of worlds went through the world after each of its moments. -/
theorem Leads.of_suffix {start : Shared} (leads : Leads ⟨start, []⟩ world) {earlier : History}
    (suffix : moment :: earlier <:+ world.past) :
    Leads ⟨start, []⟩ ⟨moment.after, moment :: earlier⟩ := by
  induction leads with
  | refl => exact absurd (List.suffix_nil.mp suffix) (List.cons_ne_nil _ _)
  | tail before step ih =>
    obtain ⟨last, known, allowed, rfl⟩ := step
    rcases List.suffix_cons_iff.mp suffix with same | shorter
    · obtain ⟨rfl, rfl⟩ := List.cons.inj same
      exact before.tail ⟨_, known, allowed, rfl⟩
    · exact ih shorter

/-- The last moment was allowed in a world that followed. -/
theorem Leads.last {start : Shared} (leads : Leads ⟨start, []⟩ world) {earlier : History}
    (past : world.past = moment :: earlier) :
    ∃ before : World, Leads ⟨start, []⟩ before ∧ before.past = earlier ∧ before.Allows moment := by
  cases leads with
  | refl => cases past
  | tail before step =>
    obtain ⟨last, _, allowed, rfl⟩ := step
    obtain ⟨rfl, rfl⟩ := List.cons.inj past
    exact ⟨_, before, rfl, allowed⟩

/-- Every moment of a task has a property, given what was before it. -/
def Own (number : Nat) (property : Moment → History → Prop) (world : World) : Prop :=
  ∀ moment earlier, moment :: earlier <:+ world.past → moment.task = number →
    property moment earlier

theorem Own.add {property : Moment → History → Prop} (own : world.Own number property)
    (holds : moment.task = number → property moment world.past) :
    (world.add moment).Own number property := by
  intro last earlier suffix task
  rcases List.suffix_cons_iff.mp suffix with same | shorter
  · obtain ⟨rfl, rfl⟩ := List.cons.inj same
    exact holds task
  · exact own last earlier shorter task

theorem Own.meanwhile {property : Moment → History → Prop} (own : world.Own number property)
    (meanwhile : Meanwhile number world next) : next.Own number property := by
  induction meanwhile with
  | refl => exact own
  | tail _ step ih =>
    obtain ⟨moment, other, _, rfl⟩ := step
    exact ih.add fun task => absurd task other

theorem own_of_unknown {property : Moment → History → Prop}
    (unknown : ∀ moment ∈ world.past, moment.task ≠ number) : world.Own number property :=
  fun moment _ suffix task => absurd task (unknown moment (suffix.subset List.mem_cons_self))

/-- If a task was quiet since a moment, this leads calmly from there on. -/
theorem Leads.calmly {start : Shared} (leads : Leads ⟨start, []⟩ world) {recent earlier : History}
    (past : world.past = recent ++ moment :: earlier)
    (quiet : ∀ later ∈ recent, later.task = number → later.deed.IsQuiet) :
    Calmly number ⟨moment.after, moment :: earlier⟩ world := by
  induction leads generalizing recent with
  | refl => exact absurd past.symm (by simp)
  | tail before step ih =>
    obtain ⟨last, _, allowed, rfl⟩ := step
    cases recent with
    | nil =>
      obtain ⟨rfl, rfl⟩ := List.cons.inj past
      exact .refl
    | cons latest rest =>
      obtain ⟨rfl, since⟩ := List.cons.inj past
      refine (ih since fun later member => quiet later (List.mem_cons_of_mem _ member)).tail ?_
      exact ⟨last, quiet last List.mem_cons_self, allowed, rfl⟩

end World

end SessionKeeper
