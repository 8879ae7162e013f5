import SessionKeeper.Proofs.Session.Calls

/-! # Who has been told of a token

A grant is put in the place of what was held before the listeners are told of it, and whoever finds
a token held takes it for announced. So it matters what became of the round of telling. It reaches
the listeners that were registered when the token was installed, one after the other, and misses
some of them only if the last one that it reached or the wait for that one demanded to stop
(`History.Tells`). A token that is held while nobody has the lock of the session was told of in this
way (`World.Announced`), so every login returns a token that was (`Session.announced_follow`): to
all listeners unless somebody demanded to stop, and otherwise to some of them only.
-/

namespace SessionKeeper

variable {regime : Regime} {number : Nat} {world after : World}

namespace History

/-- In recent moments a task told listeners of an occasion, in their order and nobody else, while
the same was held. It missed others only if the last one that it reached demanded to stop, or the
wait for that one was broken off by such a demand. -/
structure Tells (recent : History) (number : Nat) (occasion : Occasion)
    (reached missed : List Listener) : Prop where
  unassigned : ∀ later ∈ recent, later.assigned? = none
  told : recent.toldBy number = reached.map fun listener => ⟨listener.name, occasion⟩
  demanded : missed ≠ [] → ∃ last, reached.getLast? = some last ∧
    (last.Halts ∨ ∃ later ∈ recent, later.task = number ∧
      ∃ fault, later.deed = .interrupted fault ∧ fault.isFailure = false)

theorem toldBy_append (recent past : History) :
    toldBy number (recent ++ past) = past.toldBy number ++ recent.toldBy number := by
  induction recent with
  | nil => simp [toldBy]
  | cons moment earlier ih =>
    rw [List.cons_append]
    cases deed : moment.deed with
    | told notice =>
      simp only [toldBy, deed]
      split
      · rw [ih, List.append_assoc]
      · exact ih
    | _ => simpa only [toldBy, deed] using ih

theorem toldBy_cons_of_untold {moment : Moment} (untold : ∀ notice, moment.deed ≠ .told notice)
    (past : History) : toldBy number (moment :: past) = past.toldBy number := by
  cases deed : moment.deed with
  | told notice => exact absurd deed (untold notice)
  | _ => simp only [toldBy, deed]

theorem toldBy_of_all_apart {past : History} (apart : ∀ moment ∈ past, moment.IsApart) :
    past.toldBy number = [] := by
  induction past with
  | nil => rfl
  | cons moment earlier ih =>
    have untold (notice : Notice) : moment.deed ≠ .told notice := fun deed =>
      (apart moment List.mem_cons_self).1 (by rw [deed]; rfl)
    rw [toldBy_cons_of_untold untold]
    exact ih fun other member => apart other (List.mem_cons_of_mem _ member)

namespace Tells

variable {recent : History} {occasion : Occasion} {reached missed : List Listener}

/-- A moment that neither tells nor assigns anything adds nothing. -/
theorem cons (tells : recent.Tells number occasion reached missed) {moment : Moment}
    (unassigned : moment.assigned? = none) (untold : ∀ notice, moment.deed ≠ .told notice) :
    Tells (moment :: recent) number occasion reached missed where
  unassigned := by
    rintro later (_ | ⟨_, member⟩)
    · exact unassigned
    · exact tells.unassigned later member
  told := (toldBy_cons_of_untold untold recent).trans tells.told
  demanded unreached := by
    obtain ⟨last, ending, demand⟩ := tells.demanded unreached
    refine ⟨last, ending, demand.imp_right ?_⟩
    rintro ⟨later, member, broken⟩
    exact ⟨later, List.mem_cons_of_mem _ member, broken⟩

/-- One listener was told before the others. -/
theorem next {first : History} (tells : recent.Tells number occasion reached missed)
    (listener : Listener) (before after : Shared) (apart : ∀ later ∈ first, later.IsApart) :
    Tells (recent ++ (first ++ [⟨number, .told ⟨listener.name, occasion⟩, before, after⟩])) number
      occasion (listener :: reached) missed where
  unassigned later member := by
    simp only [List.mem_append, List.mem_singleton] at member
    rcases member with last | between | rfl
    · exact tells.unassigned later last
    · exact (apart later between).assigned?
    · rfl
  told := by
    rw [toldBy_append, toldBy_append, toldBy_of_all_apart apart, tells.told]
    simp [toldBy]
  demanded unreached := by
    obtain ⟨last, ending, demand⟩ := tells.demanded unreached
    refine ⟨last, ?_, demand.imp_right ?_⟩
    · rw [List.getLast?_cons, ending]
      rfl
    · rintro ⟨later, member, broken⟩
      exact ⟨later, List.mem_append_left _ member, broken⟩

/-- One listener was told, and missed others only if there was a demand to stop. -/
theorem single {listener : Listener} {first : History} (before after : Shared)
    (apart : ∀ later ∈ first, later.IsApart)
    (demanded : listener.Halts ∨ ∃ later ∈ first, later.task = number ∧
      ∃ fault, later.deed = .interrupted fault ∧ fault.isFailure = false) :
    Tells (first ++ [⟨number, .told ⟨listener.name, occasion⟩, before, after⟩]) number occasion
      [listener] missed where
  unassigned later member := by
    rcases List.mem_append.mp member with between | last
    · exact (apart later between).assigned?
    · rw [List.mem_singleton.mp last]
      rfl
  told := by
    rw [toldBy_append, toldBy_of_all_apart apart]
    simp [toldBy]
  demanded _ := by
    refine ⟨listener, rfl, demanded.imp_right ?_⟩
    rintro ⟨later, member, broken⟩
    exact ⟨later, List.mem_append_left _ member, broken⟩

end Tells

end History

/-- While a task that has the lock of the session is quiet, everything is apart from the session. -/
theorem World.Calmly.apart (calmly : world.Calmly number after)
    (holding : world.holder .session = some number) :
    ∃ recent, after.past = recent ++ world.past ∧ ∀ later ∈ recent, later.IsApart := by
  induction calmly with
  | refl => exact ⟨[], rfl, fun _ member => absurd member List.not_mem_nil⟩
  | tail before step ih =>
    obtain ⟨moment, quiet, allowed, rfl⟩ := step
    obtain ⟨recent, split, apart⟩ := ih
    have still := (World.Calmly.grips before .session).mpr holding
    have last := allowed.isApart_of_quiet still quiet
    refine ⟨moment :: recent, by rw [World.past_add, split]; rfl, ?_⟩
    rintro later (_ | ⟨_, member⟩)
    · exact last
    · exact apart later member

/-- A round tells the listeners from the first one on, and misses some of them only if there was a
demand to stop. -/
theorem Listener.Told.tells {occasion : Occasion} {listeners : List Listener}
    {outcome : Except Fault Unit} (told : Told regime number occasion listeners world outcome after)
    (holding : world.holder .session = some number) :
    ∃ reached missed recent, listeners = reached ++ missed ∧ after.past = recent ++ world.past ∧
      recent.Tells number occasion reached missed := by
  have telling {world : World} {notice : Notice} (holding : world.holder .session = some number) :
      (world.tells number notice).holder .session = some number :=
    (World.grips_did (by simp) (by simp) .session).mpr holding
  induction told with
  | nobody world =>
    exact ⟨[], [], [], rfl, rfl, fun _ member => absurd member List.not_mem_nil, rfl,
      fun missed => absurd rfl missed⟩
  | @next listener rest world between after outcome calmly others ih =>
    obtain ⟨first, since, apart⟩ := calmly.apart (telling holding)
    obtain ⟨reached, missed, recent, split, past, tells⟩ :=
      ih ((calmly.grips .session).mpr (telling holding))
    refine ⟨listener :: reached, missed, _, by rw [split]; rfl, ?_,
      tells.next listener world.shared (world.shared.tell ⟨listener.name, occasion⟩) apart⟩
    rw [past, since, List.append_assoc, List.append_assoc]
    rfl
  | @stopped listener rest world after fault calmly halts =>
    obtain ⟨first, since, apart⟩ := calmly.apart (telling holding)
    refine ⟨[listener], rest, _, rfl, ?_,
      .single world.shared (world.shared.tell ⟨listener.name, occasion⟩) apart (halts.imp_right ?_)⟩
    · rw [since, List.append_assoc]
      rfl
    · -- The moment of the interruption is the last one, so it comes after that of the notice.
      rintro ⟨fault, before, _, demand, rfl⟩
      cases first with
      | nil => cases since
      | cons later between =>
        obtain ⟨rfl, _⟩ := List.cons.inj since
        exact ⟨_, List.mem_cons_self, rfl, fault, rfl, demand⟩

/-- The listeners were told of what is held, as far as there was no demand to stop: those that were
registered when it was installed, by the task that installed it. -/
def World.Announced (world : World) : Prop :=
  ∀ credential, world.shared.held = some credential →
    ∃ recent moment earlier reached missed, world.past = recent ++ moment :: earlier ∧
      moment.deed = .assigned (some credential) ∧
      moment.after.listeners.members = reached ++ missed ∧
      History.Tells recent moment.task (.login credential.token credential.instanceUrl) reached
        missed

theorem World.Announced.of_held_eq_none (unheld : world.shared.held = none) : world.Announced := by
  intro credential held
  rw [unheld] at held
  cases held

/-- A moment that neither tells nor assigns anything leaves everybody told. -/
theorem World.Announced.add (announced : world.Announced) {moment : Moment}
    (unassigned : moment.assigned? = none) (untold : ∀ notice, moment.deed ≠ .told notice)
    (same : moment.after.held = world.shared.held) : (world.add moment).Announced := by
  intro credential held
  obtain ⟨recent, installation, earlier, reached, missed, past, deed, members, tells⟩ :=
    announced credential (same ▸ held)
  exact ⟨moment :: recent, installation, earlier, reached, missed,
    by rw [World.past_add, past]; rfl, deed, members, tells.cons unassigned untold⟩

theorem keptApart_announced : World.KeptApart World.Announced := by
  intro world moment announced allowed apart
  refine announced.add apart.assigned? (fun notice deed => apart.1 (by rw [deed]; rfl)) ?_
  exact allowed.held_eq fun held deed => apart.1 (by rw [deed]; rfl)

namespace Session

variable {session : Session} {endpoint : Endpoint}

theorem announced_of_exchanged {request : Request} {outcome : Except Fault Response}
    (announced : world.Announced) (holding : world.holder .session = some number)
    (exchanged : request.Exchanged regime number world outcome after) : after.Announced :=
  exchanged.keeps keptApart_announced.calm (fun _ _ announced => announced.add rfl (by simp) rfl)
    holding (announced.add rfl (by simp) rfl)

/-- Whoever installs a grant tells the listeners of it, as far as there is no demand to stop. -/
theorem Installed.announced {response : Response} {outcome : Except Fault String}
    (installed : Installed regime number response world outcome after)
    (announced : world.Announced) (holding : world.holder .session = some number) :
    after.Announced := by
  cases installed with
  | rejected fault refusal => exact announced
  | accepted grant granted between calmly told after telling =>
    have still : (between.assigns number (some grant.credential)).holder .session = some number :=
      holder_assigns.trans ((calmly.grips .session).mpr holding)
    intro credential held
    rw [told_held telling still] at held
    obtain rfl : grant.credential = credential := Option.some.inj held
    obtain ⟨reached, missed, recent, members, past, tells⟩ := telling.tells still
    exact ⟨recent, _, between.past, reached, missed, past, rfl, members, tells⟩

theorem LoggedIn.announced {url : Option Text} {outcome : Except Fault String}
    (login : session.LoggedIn regime number url world outcome after)
    (announced : world.Announced) (holding : world.holder .session = some number) :
    after.Announced := by
  cases login with
  | undrafted fault draft after calmly =>
    exact calmly.keeps keptApart_announced.calm holding announced
  | unanswered request draft between calmly fault after exchanged =>
    exact announced_of_exchanged (calmly.keeps keptApart_announced.calm holding announced)
      ((calmly.grips .session).mpr holding) exchanged
  | answered request draft between calmly response middle exchanged outcome after installed =>
    have still := (calmly.grips .session).mpr holding
    refine installed.announced ?_ ((exchanged.grips .session).mpr still)
    exact announced_of_exchanged (calmly.keeps keptApart_announced.calm holding announced) still
      exchanged

theorem LoginVisit.announced {old : Option Text} {outcome : Except Fault String}
    (visit : session.LoginVisit regime number old world outcome after)
    (announced : world.Announced) (holding : world.holder .session = some number) :
    after.Announced :=
  visit.keeps_of holding keptApart_announced.calm
    (fun revoking => .of_held_eq_none (revoking.held holding))
    (fun still begins login => login.announced begins still) announced

/-- What is held was told of, whenever nobody has the lock of the session. -/
def announcedRegime (endpoint : Endpoint) : Regime :=
  Regime.ofFree endpoint (fun _ => True) World.Announced

theorem keeps_announced {call : Call} :
    session.Keeps (announcedRegime endpoint) (fun _ => True) number call := by
  have taking {before : World} (announced : before.Announced) :
      (before.takes number .session).Announced :=
    announced.add rfl (by simp) rfl
  have left {after : World} (announced : after.Announced) :
      (after.releases number .session).Announced ∧ True :=
    ⟨announced.add rfl (by simp) rfl, trivial⟩
  refine ⟨fun _ _ _ _ _ => trivial, ?_, ?_, ?_, fun _ _ _ _ _ _ _ _ _ => trivial,
    fun _ _ _ _ _ => trivial⟩
  · exact fun old _ before outcome after _ _ announced visit _ =>
      left (visit.announced (taking announced) World.holder_takes)
  · intro _ before outcome after _ _ announced visit _
    cases visit with
    | absent unheld => exact left (taking announced)
    | present credential held outcome after revoking =>
      exact left (.of_held_eq_none (revoking.held World.holder_takes))
  · exact fun response _ before outcome after _ _ announced installed _ =>
      left (installed.announced (taking announced) World.holder_takes)

/-- **What a login returns was told of.** Whatever calls tasks make of a session that starts empty,
in whatever order they go on, whatever the endpoint answers, the listeners do and breaks off waits:
whenever nobody has the lock of the session, the listeners were told of what is held, all of them
unless one or the wait for one demanded to stop. A task that gets a token for a login left the
session at such a moment, when that token was held, and did nothing since. -/
theorem announced_follow (session : Session) (endpoint : Endpoint) {shared : Shared}
    (empty : shared.held = none) (unlocked : shared.locked = []) (events : List (Event Call)) :
    let calls := Event.begun events
    let course := (Course.initial shared).follow endpoint session.answer events
    (∀ world, course.Passes world → world.holder .session = none → world.Announced) ∧
      ∀ number old token, calls[number]? = some (.login old) →
        course.Returns number (.ok (.token token)) →
          ∃ world, course.Passes world ∧ world.holder .session = none ∧ world.Announced ∧
            world.shared.token? = some token ∧ world.Meanwhile number course.world := by
  intro calls course
  have sound : course.Sound (announcedRegime endpoint) _ shared :=
    session.sound_answer (Regime.stable_ofFree keptApart_announced)
      (fun number call asked => keeps_announced) (fun _ _ _ => trivial) unlocked
      (Regime.free_ofFree (.of_held_eq_none empty)) fun _ _ _ => trivial
  have announced (world : World) (passed : course.Passes world)
      (vacant : world.holder .session = none) : world.Announced :=
    sound.upheld world passed .session vacant
  refine ⟨announced, fun number old token asked returned => ?_⟩
  obtain ⟨ending, ⟨_, shows⟩, _, since⟩ := sound.stands number _ returned
  obtain ⟨before, rfl, held⟩ := shows _ asked token rfl
  have passed : course.Passes (before.releases number .session) :=
    .inr ⟨_, _, since.leads.suffix, rfl⟩
  exact ⟨_, passed, World.holder_releases, announced _ passed World.holder_releases, held, since⟩

/-- A token that one of two listeners was never told of. -/
theorem announced_follow_halted :
    let session : Session := ⟨⟨"https://login.test", "id", "secret", "user", "password", 5000⟩⟩
    let endpoint : Endpoint := fun _ _ => .later (.ok ⟨200, none,
      .text "\x7b\"access_token\": \"t\", \"instance_url\": \"https://a.test\"\x7d"⟩)
    let first : Listener :=
      { name := "A", onLogin := some fun _ _ => [.fail (.foreign .cancelled)] }
    let second : Listener := { name := "B", onLogin := some fun _ _ => [.note] }
    let course := (Course.initial { listeners := ⟨[first, second]⟩ }).follow endpoint
      session.answer [.begins (.login none), .turn 0, .begins (.login none)]
    course.world.shared.notices = [⟨"A", .login "t" "https://a.test"⟩] ∧
      course.Returns 1 (.ok (.token "t")) ∧
      ∃ world, course.Passes world ∧ world.holder .session = none ∧ world.Announced ∧
        world.shared.token? = some "t" ∧ world.Meanwhile 1 course.world := by
  intro session endpoint first second course
  have returned : course.Returns 1 (.ok (.token "t")) :=
    Course.returns_of_reported? (by decide +kernel)
  exact ⟨by decide +kernel, returned,
    (announced_follow session endpoint rfl rfl _).2 1 none "t" rfl returned⟩

end Session

end SessionKeeper
