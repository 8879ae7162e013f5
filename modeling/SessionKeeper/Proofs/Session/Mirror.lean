import SessionKeeper.Proofs.Session.Calls
import SessionKeeper.Proofs.Session.Draft
import SessionKeeper.Proofs.Session.Reflection
import SessionKeeper.Proofs.Task.Completion

/-! # Listeners mirror the session

A listener that stays registered is told of every transition of the session, once, in their order,
and while the transition is the last one: a transition begins only when all earlier ones have been
told, and the lock of the session is given back only when its own has been told too. So a listener
can tell at any time what is held (`Session.mirrors_follow`).
-/

namespace SessionKeeper.Session

variable {session : Session} {name : Text} {regime : Regime} {number : Nat} {world after : World}
  {revocations : List Revocation}

/-! ## Transitions -/

theorem Settled.calmly (settled : session.Settled name revocations world)
    (held : world.holder .session = some number) (calmly : world.Calmly number after) :
    session.Settled name revocations after :=
  calmly.keeps keptApart_settled.calm held settled

theorem Settled.exchanged {request : Request} {outcome : Except Fault Response}
    (settled : session.Settled name revocations world) (held : world.holder .session = some number)
    (exchanged : request.Exchanged regime number world outcome after) :
    session.Settled name
      ((Moment.revocation?
        ⟨number, .sent request, world.shared, world.shared.send request⟩).toList ++
        revocations) after := by
  refine exchanged.keeps keptApart_settled.calm (fun world answer settled => ?_) held ?_
  · exact settled.silent ⟨number, .answered request answer, world.shared, _⟩
      (settled.tidy.enrolment (.inl rfl) rfl) ⟨rfl, rfl, nofun⟩
  · exact settled.silent ⟨number, .sent request, world.shared, _⟩
      (settled.tidy.enrolment (.inl rfl) rfl) ⟨rfl, rfl, nofun⟩

theorem Settled.revokedAndCleared {token : Text} {url : Option Text} {result : Except Fault Unit}
    (settled : session.Settled name revocations world) (attempts : session.Attempts revocations)
    (unbroken : ¬ regime.Halts) (held : world.holder .session = some number)
    (revoked : session.RevokedAndCleared regime number token url world result after) :
    ∃ revocations, session.Attempts revocations ∧ session.Settled name revocations after := by
  obtain ⟨_, cleared, between, _, revoking, clearing⟩ := revoked
  have holding := (revoking.grips .session).mpr held
  cases revoking with
  | undrafted fault draft =>
    exact ⟨_, .undrafted token url fault draft attempts,
      settled.assigned none unbroken holding clearing⟩
  | exchanged request draft outcome middle between exchanged calmly =>
    have asked := settled.exchanged held exchanged
    obtain ⟨get, bare⟩ := Settings.of_draftLogout draft
    simp only [Moment.revocation?, get, bare, and_self, if_true] at asked
    have waited := asked.calmly ((exchanged.grips .session).mpr held) calmly
    exact ⟨_, .asked attempts, waited.assigned none unbroken holding clearing⟩

theorem Settled.installed {response : Response} {outcome : Except Fault String}
    (settled : session.Settled name revocations world) (unbroken : ¬ regime.Halts)
    (held : world.holder .session = some number)
    (installed : Installed regime number response world outcome after) :
    session.Settled name revocations after := by
  cases installed with
  | rejected fault refusal => exact settled
  | accepted grant granted between calmly told after telling =>
    exact (settled.calmly held calmly).assigned (some grant.credential) unbroken
      ((calmly.grips .session).mpr held) telling

theorem Settled.loggedIn {url : Option Text} {outcome : Except Fault String}
    (settled : session.Settled name revocations world) (unbroken : ¬ regime.Halts)
    (held : world.holder .session = some number)
    (login : session.LoggedIn regime number url world outcome after) :
    session.Settled name revocations after := by
  have asked {request : Request} {between after : World} {outcome : Except Fault Response}
      (draft : (session.settings.draftLogin url).outcome = .ok request)
      (calmly : world.Calmly number between)
      (exchanged : request.Exchanged regime number between outcome after) :
      session.Settled name revocations after := by
    have next := (settled.calmly held calmly).exchanged ((calmly.grips .session).mpr held) exchanged
    have post := (Settings.of_draftLogin draft).1
    have other : ("POST" : Text) ≠ "GET" := by decide
    simpa only [Moment.revocation?, post, other, and_false, if_false, Option.toList_none,
      List.nil_append] using next
  cases login with
  | undrafted fault draft after calmly => exact settled.calmly held calmly
  | unanswered request draft between calmly fault after exchanged =>
    exact asked draft calmly exchanged
  | answered request draft between calmly response middle exchanged outcome after installed =>
    exact (asked draft calmly exchanged).installed unbroken
      (((calmly.grips.trans exchanged.grips) .session).mpr held) installed

theorem Settled.visited {old : Option Text} {outcome : Except Fault String}
    (settled : session.Settled name revocations world) (attempts : session.Attempts revocations)
    (unbroken : ¬ regime.Halts) (held : world.holder .session = some number)
    (visit : session.LoginVisit regime number old world outcome after) :
    ∃ revocations, session.Attempts revocations ∧ session.Settled name revocations after := by
  refine visit.keeps_of held ?_
    (fun revoking => settled.revokedAndCleared attempts unbroken held revoking) ?_
    ⟨revocations, attempts, settled⟩
  · rintro world moment holding ⟨revocations, attempts, settled⟩ allowed quiet
    exact ⟨revocations, attempts,
      keptApart_settled.calm world moment holding settled allowed quiet⟩
  · rintro start url result next still ⟨revocations, attempts, begins⟩ login
    exact ⟨revocations, attempts, begins.loggedIn unbroken still login⟩

/-! ## Courses -/

/-- The listener with a name was told of everything, whenever nobody has the lock of the session,
and no wait is broken off by a demand to stop. -/
def mirrorRegime (session : Session) (name : Text) (endpoint : Endpoint) : Regime :=
  Regime.ofFree endpoint (fun fault => fault.isFailure = true) fun world =>
    ∃ revocations, session.Attempts revocations ∧ session.Settled name revocations world

theorem unbroken_mirrorRegime {endpoint : Endpoint} :
    ¬ (session.mirrorRegime name endpoint).Halts := by
  rintro ⟨fault, failure, demand⟩
  rw [show fault.isFailure = true from failure] at demand
  cases demand

theorem stable_mirrorRegime {endpoint : Endpoint} :
    (session.mirrorRegime name endpoint).Stable := by
  refine Regime.stable_ofFree fun world moment free allowed apart => ?_
  obtain ⟨revocations, attempts, settled⟩ := free
  exact ⟨revocations, attempts, keptApart_settled world moment settled allowed apart⟩

theorem keeps_mirrorRegime {endpoint : Endpoint} {call : Call} :
    session.Keeps (session.mirrorRegime name endpoint) (fun _ => True) number call := by
  have visited {α : Type} {relation : World → Except Fault α → World → Prop}
      (settles : ∀ before outcome after revocations, before.holder .session = some number →
        relation before outcome after → session.Attempts revocations →
        session.Settled name revocations before →
          ∃ revocations, session.Attempts revocations ∧ session.Settled name revocations after) :
      (session.mirrorRegime name endpoint).KeptBy (fun _ => True) number relation := by
    intro before outcome after _ _ free related _
    obtain ⟨revocations, attempts, settled⟩ := free
    have taken : session.Settled name revocations (before.takes number .session) :=
      settled.silent ⟨number, .took .session, before.shared, _⟩
        (settled.tidy.enrolment (.inl rfl) rfl) ⟨rfl, rfl, nofun⟩
    obtain ⟨others, still, ended⟩ :=
      settles _ outcome after revocations World.holder_takes related attempts taken
    refine ⟨⟨others, still, ?_⟩, trivial⟩
    refine ⟨ended.toReflected.add ⟨number, .released .session, after.shared, _⟩
      (ended.tidy.enrolment (.inl rfl) rfl) fun attended => ⟨nofun, nofun, fun _ => ?_⟩,
      fun attended => (ended.inStep attended.tail).silent rfl rfl⟩
    exact ⟨ended.inStep attended, ended.revoked ▸ still⟩
  refine ⟨fun _ _ _ _ _ => trivial, fun old _ => visited ?_, fun _ => visited ?_,
    fun response _ => visited ?_,
    fun _ _ _ _ _ _ _ _ _ => trivial, fun _ _ _ _ _ => trivial⟩
  · intro before outcome after revocations held visit attempts settled
    exact settled.visited attempts unbroken_mirrorRegime held visit
  · intro before outcome after revocations held visit attempts settled
    cases visit with
    | absent unheld => exact ⟨revocations, attempts, settled⟩
    | present credential present outcome after revoking =>
      exact settled.revokedAndCleared attempts unbroken_mirrorRegime held revoking
  · intro before outcome after revocations held installed attempts settled
    exact ⟨revocations, attempts, settled.installed unbroken_mirrorRegime held installed⟩

/-- The listener with a name mirrors the session, in a world that came about from `start`. -/
structure Mirrors (session : Session) (name : Text) (start : Shared) (world : World) : Prop where
  /-- The notices show what it was told of since. -/
  heard : world.shared.heard name = start.heard name ++ (world.past.told name).reverse
  /-- It was told of every transition, once and in their order; at most the last one is still to be
  told. -/
  told : world.past.InStep name ∨ ∃ occasion, world.past.Owes name occasion
  /-- Whenever nobody has the lock of the session, thus after every operation, it was told of every
  transition, and what it was told last is what is held. -/
  settled : world.holder .session = none → world.past.InStep name ∧
    world.shared.pair? = ((world.past.told name).head?.map Occasion.pair?).getD start.pair?
  /-- While it is told of an occasion, which lasts at least until its teller does something that
  others may notice, the occasion is what is held. -/
  during : ∀ recent moment earlier occasion, world.past = recent ++ moment :: earlier →
    moment.deed = .told ⟨name, occasion⟩ →
    (∀ later ∈ recent, later.task = moment.task → later.deed.IsQuiet) →
      world.shared.pair? = occasion.pair?
  /-- Every attempt to revoke a token, whatever came of it, made one transition. -/
  attempts : world.holder .session = none → session.Attempts world.past.revocations

theorem Respected.suffix {past recent : History} (respected : session.Respected name recent)
    (suffix : past <:+ recent) : session.Respected name past :=
  fun moment earlier shorter => respected moment earlier (shorter.trans suffix)

variable {start : Shared}

theorem Respected.told (leads : World.Leads ⟨start, []⟩ world)
    (respected : session.Respected name world.past) (attended : world.past.Attended name) :
    world.past.InStep name ∨ ∃ occasion, world.past.Owes name occasion := by
  induction leads with
  | refl => exact .inl rfl
  | tail before step ih =>
    obtain ⟨moment, _, allowed, rfl⟩ := step
    have respects := respected moment _ List.suffix_rfl attended.tail
    have earlier := ih (respected.suffix (List.suffix_cons moment _)) attended.tail
    cases assigned : moment.assigned? with
    | some held =>
      have deed : moment.deed = .assigned held := by
        cases deed : moment.deed with
        | assigned other => simpa [Moment.assigned?, deed] using assigned
        | _ => simp [Moment.assigned?, deed] at assigned
      exact .inr ⟨_, (respects.assigned held deed).assigned deed⟩
    | none =>
      cases told : moment.told? name with
      | some occasion =>
        have deed : moment.deed = .told ⟨name, occasion⟩ := by
          cases deed : moment.deed with
          | told notice =>
            simp only [Moment.told?, deed, Option.ite_none_right_eq_some, Option.some.injEq] at told
            obtain ⟨rfl, rfl⟩ := told
            rfl
          | _ => simp [Moment.told?, deed] at told
        exact .inl ((respects.told occasion deed).told deed)
      | none =>
        apply earlier.imp (·.silent assigned told)
        rintro ⟨occasion, owes⟩
        exact ⟨occasion, owes.silent assigned told⟩

/-- Whenever nobody has the lock of the session, the last thing about it was that it was given back,
if it was ever taken. -/
theorem Respected.settled (leads : World.Leads ⟨start, []⟩ world)
    (respected : session.Respected name world.past) (attended : world.past.Attended name)
    (vacant : world.holder .session = none) :
    world.past.InStep name ∧ session.Attempts world.past.revocations := by
  induction leads with
  | refl => exact ⟨rfl, .nothing⟩
  | @tail earlier _ before step ih =>
    obtain ⟨moment, _, allowed, rfl⟩ := step
    by_cases released : moment.deed = .released .session
    · obtain ⟨inStep, attempts⟩ :=
        (respected moment _ List.suffix_rfl attended.tail).released released
      have assigned : moment.assigned? = none := by rw [Moment.assigned?, released]
      have told : moment.told? name = none := by rw [Moment.told?, released]
      have revocation : moment.revocation? = none := by rw [Moment.revocation?, released]
      refine ⟨inStep.silent assigned told, ?_⟩
      rw [World.past_add, History.revocations, List.filterMap_cons_none revocation]
      exact attempts
    · have before : earlier.holder .session = none := by
        by_cases taken : moment.deed = .took .session
        · exact allowed.vacant .session taken
        · rwa [World.holder_add_of_apart taken released] at vacant
      have apart := allowed.isApart_of_vacant before vacant
      obtain ⟨inStep, attempts⟩ :=
        ih (respected.suffix (List.suffix_cons moment _)) attended.tail before
      have silent := apart.isSilent name
      refine ⟨inStep.silent silent.assigned silent.told, ?_⟩
      rw [World.past_add, History.revocations, List.filterMap_cons_none apart.revocation?]
      exact attempts

theorem Respected.during (leads : World.Leads ⟨start, []⟩ world)
    (respected : session.Respected name world.past) (attended : world.past.Attended name)
    {recent earlier : History} {moment : Moment} {occasion : Occasion}
    (past : world.past = recent ++ moment :: earlier)
    (deed : moment.deed = .told ⟨name, occasion⟩)
    (quiet : ∀ later ∈ recent, later.task = moment.task → later.deed.IsQuiet) :
    world.shared.pair? = occasion.pair? := by
  have suffix : moment :: earlier <:+ world.past := ⟨recent, past.symm⟩
  have telling := leads.of_suffix suffix
  obtain ⟨before, _, rfl, allowed⟩ := telling.last rfl
  have holding :
      World.holder ⟨moment.after, moment :: before.past⟩ .session = some moment.task := by
    have entitled := allowed.entitled .session (by rw [deed]; rfl)
    rw [← entitled]
    exact World.holder_add_of_apart (by simp [deed]) (by simp [deed])
  have attendance : before.past.Attended name := fun other member =>
    attended other (suffix.subset (List.mem_cons_of_mem _ member))
  obtain ⟨held, rest, transitions, rfl, _⟩ :=
    (respected moment before.past suffix attendance).told occasion deed
  -- The transition that is told is the last one, so it is what is held when the telling begins.
  have begun : moment.after.held = held := by
    have last := telling.held_eq
    have silent : moment.assigned? = none := by rw [Moment.assigned?, deed]
    rw [List.findSome?_cons, silent, ← List.head?_filterMap] at last
    rw [History.transitions] at transitions
    rw [transitions] at last
    exact last
  have still := (leads.calmly past quiet).keeps (keptApart_held held).calm holding begun
  rw [Shared.pair?, still, Occasion.pair?_ofHeld]

theorem mirrors_of_respected (leads : World.Leads ⟨start, []⟩ world)
    (respected : session.Respected name world.past) (attended : world.past.Attended name) :
    session.Mirrors name start world where
  heard := History.heard_eq leads
  told := respected.told leads attended
  settled vacant := by
    obtain ⟨inStep, _⟩ := respected.settled leads attended vacant
    refine ⟨inStep, ?_⟩
    rw [Shared.pair?, leads.held_eq, inStep, ← List.head?_filterMap, List.head?_map]
    change _ = (((world.past.filterMap Moment.assigned?).head?.map _).map _).getD _
    cases (world.past.filterMap Moment.assigned?).head? with
    | none => rfl
    | some held => exact (Occasion.pair?_ofHeld held).symm
  during _ _ _ _ := respected.during leads attended
  attempts vacant := (respected.settled leads attended vacant).2

/-- **Listeners mirror the session.** Whatever calls tasks make of a session, in whatever order they
go on, whatever the endpoint answers and the listeners do, short of demanding to stop: a listener
that is registered from the beginning, and stays so, mirrors the session after every moment. -/
theorem mirrors_follow (session : Session) (endpoint : Endpoint) {shared : Shared}
    (unlocked : shared.locked = []) (tidy : shared.Tidy) {name : Text}
    (enlisted : name ∈ shared.names) {events : List (Event Call)}
    (unbroken : Event.Breaks (fun fault => fault.isFailure = true) events)
    (attended :
      ((Course.initial shared).follow endpoint session.answer events).past.Attended name) :
    ∀ world, ((Course.initial shared).follow endpoint session.answer events).Passes world →
      session.Mirrors name shared world := by
  have fresh : session.Settled name [] ⟨shared, []⟩ :=
    { tidy := tidy
      enlisted := fun _ => enlisted
      respected := fun _ _ suffix => absurd (List.suffix_nil.mp suffix) (List.cons_ne_nil _ _)
      revoked := rfl
      inStep := fun _ => rfl }
  have sound : ((Course.initial shared).follow endpoint session.answer events).Sound
      (session.mirrorRegime name endpoint) (fun _ _ _ => True) shared := by
    refine Course.sound_follow (Event.begun events) stable_mirrorRegime ?_ unlocked ?_
      List.prefix_rfl unbroken
    · intro number call asked world _ unknown
      exact roams_answer keeps_mirrorRegime world trivial (World.idle_of_past unknown)
    · rintro (_ | _)
      · exact ⟨[], .nothing, fresh⟩
      · trivial
  obtain ⟨final, ended, complete, longer⟩ := sound.completes stable_mirrorRegime
  obtain ⟨_, _, settled⟩ := ended.vacant .session (ended.unheld complete .session)
  intro world passed
  obtain ⟨leads, suffix⟩ := sound.passed passed
  apply mirrors_of_respected leads (settled.respected.suffix (suffix.trans longer))
  exact fun moment member => attended moment (suffix.subset member)

theorem mirrors_follow_visit :
    let session : Session := ⟨⟨"https://login.test", "id", "secret", "user", "password", 5000⟩⟩
    let endpoint : Endpoint := fun _ _ => .later (.ok ⟨200, none,
      .text "\x7b\"access_token\": \"t\", \"instance_url\": \"https://a.test\"\x7d"⟩)
    let listener : Listener :=
      { name := "L", onLogin := some fun _ _ => [.pause, .note],
        onLogout := some fun _ _ => [.note] }
    let shared : Shared := { listeners := ⟨[listener]⟩, roster := [listener] }
    let course := (Course.initial shared).follow endpoint session.answer
      [.begins (.login none), .turn 0, .begins .logout, .turn 0, .turn 1, .turn 1]
    course.past.told "L" = [.logout, .login "t" "https://a.test"] ∧
      session.Mirrors "L" shared course.world := by
  intro session endpoint listener shared course
  have calm : ¬ listener.Halts := by
    rintro ⟨occasion, earlier, fault, member, _⟩
    cases occasion <;> simp [Listener.moves, Listener.callback?, listener] at member
  have tidy : shared.Tidy := by
    refine ⟨⟨fun other member => ?_, fun other member => ?_⟩, by decide⟩
    · rw [List.mem_singleton.mp member]
      exact calm
    · rw [List.mem_singleton.mp member]
      exact calm
  have attended : ∀ moment ∈ course.past, ("L" : Text) ∈ moment.after.names := by decide +kernel
  exact ⟨by decide +kernel, mirrors_follow session endpoint rfl tidy (List.mem_singleton.mpr rfl)
    (by simp [Event.Breaks]) attended _ (.inl rfl)⟩

end SessionKeeper.Session
