import SessionKeeper.Proofs.Session.Renewal
import SessionKeeper.Proofs.Task.Completion

/-! # One login for many

Any number of tasks log in, all with the same old token. They get the lock of the session one after
the other, and each renews the session as long as it finds nothing or the old token; the first one
that gets a fresh token serves all others (`Session.fenced_follow`). A failure is nobody's but that
of the task whose exchange failed.
-/

namespace SessionKeeper

/-- What a task heard last, if it is taken for the answer to a login. -/
def History.lastGranted? (heard : List (Request × Answer)) : Option (Except Fault String) :=
  heard.getLast?.map fun (request, answer) => request.granted answer

namespace Session

variable {session : Session} {endpoint : Endpoint} {old : Option String} {visit : Visit}
  {own served : List Visit} {held next : Option Credential} {outcome : Except Fault String}

theorem lastGranted?_of_renews (renews : visit.Renews session endpoint old outcome) :
    History.lastGranted? visit.heard = some outcome := by
  obtain ⟨earlier, request, _, _, last, rfl⟩ := renews.granted
  rw [History.lastGranted?, last]
  rfl

/-- The visits of logins with one old token, the latest first: some renewed the session, and those
after them were served with the fresh token that is held. -/
structure Fence (session : Session) (endpoint : Endpoint) (old : Option String)
    (own served : List Visit) (held : Option Credential) : Prop where
  renewed : ∀ visit ∈ own, ∃ outcome, visit.Renews session endpoint old outcome
  /-- Only the last renewal may have brought a fresh token. -/
  stale : ∀ visit ∈ own.tail, ∀ token,
    History.lastGranted? visit.heard = some (.ok token) → old = some token
  /-- What the last renewal came to is what is held. -/
  shown : ∀ last, own.head? = some last → ∃ outcome,
    History.lastGranted? last.heard = some outcome ∧ held.map (·.token) = outcome.toOption
  untouched : own = [] → Spent old held
  served : ∀ visit ∈ served, visit.asked = [] ∧
    ∃ credential, held = some credential ∧ visit.found = held ∧ old ≠ some credential.token

/-- A renewal comes after renewals only. -/
theorem Fence.renew (fence : session.Fence endpoint old own served held) (spent : Spent old held)
    (renews : visit.Renews session endpoint old outcome)
    (shown : next.map (·.token) = outcome.toOption) :
    served = [] ∧ session.Fence endpoint old (visit :: own) [] next := by
  constructor
  · refine List.eq_nil_iff_forall_not_mem.mpr fun other member => ?_
    obtain ⟨_, credential, present, _, fresh⟩ := fence.served other member
    exact fresh (spent credential present)
  · refine ⟨?_, ?_, ?_, nofun, nofun⟩
    · rintro other (_ | ⟨_, earlier⟩)
      · exact ⟨outcome, renews⟩
      · exact fence.renewed other earlier
    · intro other earlier token granted
      cases own with
      | nil => cases earlier
      | cons last rest =>
        rcases List.mem_cons.mp earlier with rfl | before
        · obtain ⟨last, came, present⟩ := fence.shown other rfl
          obtain rfl : last = .ok token := Option.some.inj (came.symm.trans granted)
          obtain ⟨credential, rfl, rfl⟩ := Option.map_eq_some_iff.mp present
          exact spent credential rfl
        · exact fence.stale other before token granted
    · rintro _ ⟨rfl⟩
      exact ⟨outcome, lastGranted?_of_renews renews, shown⟩

/-- Who finds a fresh token changes nothing. -/
theorem Fence.serve {credential : Credential}
    (fence : session.Fence endpoint old own served (some credential))
    (found : visit.found = some credential) (fresh : old ≠ some credential.token)
    (unasked : visit.asked = []) :
    session.Fence endpoint old own (visit :: served) (some credential) := by
  refine ⟨fence.renewed, fence.stale, fence.shown, fence.untouched, ?_⟩
  rintro other (_ | ⟨_, earlier⟩)
  · exact ⟨unasked, credential, rfl, found, fresh⟩
  · exact fence.served other earlier

/-- Who was served was served after a renewal that brought the token. -/
theorem Fence.winner (fence : session.Fence endpoint old own served held) (several : served ≠ []) :
    ∃ last rest credential, own = last :: rest ∧ held = some credential ∧
      old ≠ some credential.token ∧
      History.lastGranted? last.heard = some (.ok credential.token) := by
  obtain ⟨visit, member⟩ := List.exists_mem_of_ne_nil served several
  obtain ⟨_, credential, present, _, fresh⟩ := fence.served visit member
  cases own with
  | nil => exact absurd (fence.untouched rfl credential present) fresh
  | cons last rest =>
    obtain ⟨outcome, came, shown⟩ := fence.shown last rfl
    refine ⟨last, rest, credential, rfl, present, fresh, ?_⟩
    rw [present] at shown
    cases outcome with
    | ok token =>
      obtain rfl : credential.token = token := Option.some.inj shown
      exact came
    | error fault => cases shown

/-! ## One task -/

/-- All tasks log in with one old token, and nobody breaks off a wait. -/
def fenceRegime (session : Session) (old : Option String) (endpoint : Endpoint) : Regime :=
  Regime.ofFree endpoint (fun _ => False) fun world =>
    world.shared.Tame ∧ (world.past.visits.map (·.task)).Nodup ∧
      ∃ own served, world.past.visits = served ++ own ∧
        session.Fence endpoint old own served world.shared.held

theorem stable_fenceRegime : (session.fenceRegime old endpoint).Stable := by
  refine Regime.stable_ofFree fun world moment free allowed apart => ?_
  obtain ⟨tame, distinct, own, served, visits, fence⟩ := free
  have same : (world.add moment).past.visits = world.past.visits := History.visits_of_apart apart
  refine ⟨keptApart_tame world moment tame allowed apart, ?_, own, served, ?_, ?_⟩
  · rw [same]
    exact distinct
  · rw [same]
    exact visits
  · rw [keptApart_held world.shared.held world moment rfl allowed apart]
    exact fence

/-- A visit is all that its task did, and it made the outcome of the task. -/
structure Accounts (visit : Visit) (outcome : Except Fault String) (world : World) : Prop where
  visited : visit ∈ world.past.visits
  sent : world.past.sentBy visit.task = visit.asked
  heard : world.past.heardBy visit.task = visit.heard
  told : visit.asked = [] → world.past.toldBy visit.task = []
  served : visit.asked = [] → ∃ credential, visit.found = some credential ∧
    outcome = .ok credential.token
  renewed : visit.asked ≠ [] → History.lastGranted? visit.heard = some outcome

theorem Accounts.meanwhile {world later : World} (accounts : Accounts visit outcome world)
    (vacant : world.holder .session = none) (meanwhile : world.Meanwhile visit.task later) :
    Accounts visit outcome later := by
  have calmly := meanwhile.calmly
  exact ⟨meanwhile.mem_visits vacant rfl accounts.visited, calmly.sentBy.trans accounts.sent,
    calmly.heardBy.trans accounts.heard, fun unasked => calmly.toldBy.trans (accounts.told unasked),
    accounts.served, accounts.renewed⟩

/-- A login of a task that did nothing before is accounted for by one visit. -/
theorem fulfils_fenced {timeout : Binary64} {number : Nat} {world : World}
    (usable : session.settings.timeout = .ok timeout) (wrapped : endpoint.WrapsRevocations)
    (unknown : ∀ moment ∈ world.past, moment.task ≠ number) :
    (session.login (old.map Text.ofString)).Fulfils (session.fenceRegime old endpoint) number
      (fun outcome after => after.holder .session = none ∧
        ∃ visit, visit.task = number ∧ Accounts visit outcome after) world := by
  refine Routine.ensures_withLock (does_loginLocked _) (fun _ _ _ visit => visit.grips)
    (World.idle_of_past unknown) ?_ fun _ _ _ broken => broken.elim
  intro before outcome after meanwhile vacant free login _
  obtain ⟨tame, distinct, own, served, visits, fence⟩ := free
  obtain ⟨visit, held, rfl, found, visiting, yields⟩ :=
    Visiting.visited tame usable (fun _ => id) wrapped login
  have strange := meanwhile.unknown unknown
  obtain ⟨unsent, unheard, untold⟩ := History.readings_of_unknown strange
  have new : visit.task ∉ before.past.visits.map (·.task) := by
    rw [History.task_visits]
    intro member
    obtain ⟨moment, known, same⟩ := History.exists_of_mem_takers member
    exact strange moment known same
  have visited : (after.releases visit.task .session).past.visits = visit :: before.past.visits :=
    visiting.visits
  have current : (after.releases visit.task .session).shared.held = held := visiting.held
  refine ⟨⟨visiting.tame.enrolment (.inl rfl) rfl, ?_, ?_⟩, fun relieved =>
    ⟨⟨World.holder_releases, visit, rfl, ?_⟩, relieved⟩⟩
  · rw [visited, List.map_cons]
    exact List.nodup_cons.mpr ⟨new, distinct⟩
  · rw [current, visited]
    cases yields with
    | served credential present fresh unasked _ =>
      refine ⟨own, visit :: served, by rw [visits]; rfl, ?_⟩
      rw [← found, present] at fence
      exact fence.serve present fresh unasked
    | renewed spent held outcome renews shown =>
      rw [found] at spent
      obtain ⟨rfl, renewed⟩ := fence.renew spent renews shown
      exact ⟨visit :: own, [], by rw [visits]; rfl, renewed⟩
  · refine ⟨?_, ?_, ?_, fun unasked => ?_, fun unasked => ?_, fun asked => ?_⟩
    · rw [visited]
      exact List.mem_cons_self
    · exact visiting.sent.trans (by rw [unsent, List.nil_append])
    · exact visiting.heard.trans (by rw [unheard, List.nil_append])
    · exact (visiting.told unasked).trans untold
    · cases yields with
      | served credential present fresh nothing _ => exact ⟨credential, present, rfl⟩
      | renewed spent held outcome renews shown => exact absurd unasked renews.asked.ne_nil
    · cases yields with
      | served credential present fresh nothing _ => exact absurd nothing asked
      | renewed spent held outcome renews shown => exact lastGranted?_of_renews renews

/-! ## Courses -/

/-- The tasks of a course had the lock of the session once each, those of `own` first. These renewed
the session, each for itself; if there are others, then the last renewal brought a fresh token, and
they were served with it. -/
structure Fenced (session : Session) (old : Option String) (course : Course String)
    (own later : List Nat) : Prop where
  order : course.past.takers.reverse = own ++ later
  everybody : (own ++ later).Perm (List.range course.crew.tasks.length)
  /-- A task of the first ones revoked the old token, if there is one, asked for a login, and got
  what its own exchange came to. -/
  renewed : ∀ number ∈ own, ∃ url outcome, session.Asks old url (course.past.sentBy number) ∧
    (course.past.heardBy number).map (·.1) = course.past.sentBy number ∧
    History.lastGranted? (course.past.heardBy number) = some outcome ∧
    course.Returns number outcome
  /-- Before the last of them nobody got a fresh token. -/
  stale : ∀ number ∈ own.dropLast, ∀ token, course.Returns number (.ok token) → old = some token
  /-- The others neither sent a request nor told a listener, and got the fresh token. -/
  served : later ≠ [] → ∃ winner token, own.getLast? = some winner ∧
    course.Returns winner (.ok token) ∧ old ≠ some token ∧
    ∀ number ∈ later, course.past.sentBy number = [] ∧ course.past.toldBy number = [] ∧
      course.Returns number (.ok token)

/-- What the visits of a finished course come to. -/
theorem fenced_of_accounts {course : Course String} {own served : List Visit}
    {held : Option Credential} (visits : course.past.visits = served ++ own)
    (distinct : (course.past.visits.map (·.task)).Nodup)
    (fence : session.Fence endpoint old own served held)
    (known : ∀ moment ∈ course.past, moment.task < course.crew.tasks.length)
    (accounts : ∀ number < course.crew.tasks.length, ∃ visit outcome, visit.task = number ∧
      course.Returns number outcome ∧ Accounts visit outcome course.world) :
    session.Fenced old course (own.map (·.task)).reverse (served.map (·.task)).reverse := by
  have order : course.past.takers.reverse =
      (own.map (·.task)).reverse ++ (served.map (·.task)).reverse := by
    rw [← History.task_visits, visits, List.map_append, List.reverse_append]
  have account : ∀ visit ∈ course.past.visits, ∃ outcome,
      course.Returns visit.task outcome ∧ Accounts visit outcome course.world := by
    intro visit member
    have taker : visit.task ∈ course.past.takers := by
      rw [← History.task_visits]
      exact List.mem_map_of_mem member
    obtain ⟨moment, before, same⟩ := History.exists_of_mem_takers taker
    obtain ⟨other, outcome, task, returns, accounted⟩ := accounts _ (known moment before)
    obtain rfl : other = visit :=
      List.inj_on_of_nodup_map distinct accounted.visited member (task.trans same)
    exact ⟨outcome, task ▸ returns, accounted⟩
  have renewal : ∀ visit ∈ own, ∃ outcome, visit.Renews session endpoint old outcome ∧
      course.Returns visit.task outcome ∧ course.past.sentBy visit.task = visit.asked ∧
      course.past.heardBy visit.task = visit.heard := by
    intro visit member
    obtain ⟨outcome, renews⟩ := fence.renewed visit member
    obtain ⟨other, returns, accounted⟩ :=
      account visit (visits ▸ List.mem_append_right served member)
    obtain rfl : outcome = other := Option.some.inj
      ((lastGranted?_of_renews renews).symm.trans (accounted.renewed renews.asked.ne_nil))
    exact ⟨outcome, renews, returns, accounted.sent, accounted.heard⟩
  refine ⟨order, ?_, ?_, ?_, ?_⟩
  · rw [← order]
    apply (List.reverse_perm _).trans
    rw [History.task_visits] at distinct
    refine (List.perm_ext_iff_of_nodup distinct List.nodup_range).mpr fun number => ?_
    rw [List.mem_range]
    constructor
    · intro member
      obtain ⟨moment, before, rfl⟩ := History.exists_of_mem_takers member
      exact known moment before
    · intro bound
      obtain ⟨visit, _, rfl, _, accounted⟩ := accounts number bound
      rw [← History.task_visits]
      exact List.mem_map_of_mem accounted.visited
  · intro number member
    obtain ⟨visit, renewing, rfl⟩ := List.mem_map.mp (List.mem_reverse.mp member)
    obtain ⟨outcome, renews, returns, sent, heard⟩ := renewal visit renewing
    refine ⟨visit.found.map fun credential => ↑credential.instanceUrl, outcome, ?_⟩
    rw [sent, heard]
    exact ⟨renews.asked, renews.answered, lastGranted?_of_renews renews, returns⟩
  · intro number member token returns
    rw [List.dropLast_reverse, List.mem_reverse, ← List.map_tail] at member
    obtain ⟨visit, earlier, rfl⟩ := List.mem_map.mp member
    obtain ⟨outcome, renews, came, _⟩ := renewal visit (List.mem_of_mem_tail earlier)
    obtain rfl := came.unique returns
    exact fence.stale visit earlier token (lastGranted?_of_renews renews)
  · intro several
    have occupied : served ≠ [] := by
      rintro rfl
      exact several rfl
    obtain ⟨last, rest, credential, rfl, rfl, fresh, granted⟩ := fence.winner occupied
    obtain ⟨outcome, renews, returns, _⟩ := renewal last List.mem_cons_self
    obtain rfl : outcome = .ok credential.token :=
      Option.some.inj ((lastGranted?_of_renews renews).symm.trans granted)
    refine ⟨last.task, credential.token, by simp, returns, fresh, fun number member => ?_⟩
    obtain ⟨visit, serving, rfl⟩ := List.mem_map.mp (List.mem_reverse.mp member)
    obtain ⟨unasked, _, _, found, _⟩ := fence.served visit serving
    obtain ⟨outcome, served, accounted⟩ :=
      account visit (visits ▸ List.mem_append_left _ serving)
    obtain ⟨other, same, rfl⟩ := accounted.served unasked
    obtain rfl : credential = other := Option.some.inj (found.symm.trans same)
    exact ⟨accounted.sent.trans unasked, accounted.told unasked, served⟩

/-- **One login for many.** Any number of tasks log in with the same old token, in whatever order
they go on, into a session that is empty or holds just that token, and whatever the endpoint
answers, short of failures that exchanges do not wrap. However the turns are given, the tasks come
to their end, and then the first ones that had the lock of the session, up to the first that got a
fresh token, made each an exchange of its own, whose outcome it returned, and all the others were
served with the fresh token. -/
theorem fenced_follow (session : Session) (endpoint : Endpoint) {timeout : Binary64}
    (usable : session.settings.timeout = .ok timeout) (wrapped : ∀ request, endpoint.Wraps request)
    (old : Option String) {shared : Shared} (spent : Spent old shared.held)
    (unlocked : shared.locked = []) (tame : shared.Tame) {events : List (Event Unit)}
    (unbroken : Event.Breaks (fun _ => False) events) :
    Course.Inevitably endpoint
      (fun final => final.crew.tasks.length = (Event.begun events).length ∧
        ∃ own later, session.Fenced old final own later)
      ((Course.initial shared).follow endpoint
        (fun _ => session.login (old.map Text.ofString)) events) := by
  have sound : ((Course.initial shared).follow endpoint
      (fun _ : Unit => session.login (old.map Text.ofString)) events).Sound
      (session.fenceRegime old endpoint)
      (fun number outcome after => after.holder .session = none ∧
        ∃ visit, visit.task = number ∧ Accounts visit outcome after) shared := by
    refine Course.sound_follow (Event.begun events) stable_fenceRegime ?_ unlocked ?_
      List.prefix_rfl unbroken
    · intro number _ _ world _ unknown
      exact fulfils_fenced usable (fun request _ _ => wrapped request) unknown
    · rintro (_ | _)
      · exact ⟨tame, .nil, [], [], rfl, nofun, nofun, nofun, fun _ => spent, nofun⟩
      · trivial
  refine sound.inevitably stable_fenceRegime fun final still complete length => ?_
  refine ⟨length.trans (Course.length_follow.trans (Nat.zero_add _)), ?_⟩
  obtain ⟨_, distinct, own, served, visits, fence⟩ :=
    still.vacant .session (still.unheld complete .session)
  refine ⟨_, _, fenced_of_accounts visits distinct fence still.known fun number bound => ?_⟩
  obtain ⟨outcome, finished, ending, ⟨vacant, visit, rfl, accounts⟩, _, since⟩ :=
    still.ended complete bound
  exact ⟨visit, outcome, rfl, finished, accounts.meanwhile vacant since⟩

theorem fenced_follow_refused :
    let session : Session := ⟨⟨"https://login.test", "id", "secret", "user", "password", 5000⟩⟩
    let endpoint : Endpoint := fun earlier _ => .later (.ok
      (if earlier.length < 2 then ⟨500, none, .bytes []⟩ else ⟨200, none,
        .text "\x7b\"access_token\": \"t2\", \"instance_url\": \"https://a.test\"\x7d"⟩))
    let shared : Shared := { held := some ⟨"t1", "https://a.test"⟩ }
    let events : List (Event Unit) := [.begins (), .begins (), .begins ()]
    Spent (some "t1") shared.held ∧ Course.Inevitably endpoint
      (fun final => final.crew.tasks.length = 3 ∧
        ∃ own later, session.Fenced (some "t1") final own later)
      ((Course.initial shared).follow endpoint (fun _ => session.login (some "t1")) events) := by
  intro session endpoint shared events
  have spent : Spent (some "t1") shared.held := by
    rintro credential ⟨rfl⟩
    rfl
  have wrapped (request : Request) : endpoint.Wraps request := fun _ _ failed => nomatch failed
  have tame : shared.Tame := ⟨nofun, nofun⟩
  obtain ⟨timeout, usable⟩ := session.settings.exists_timeout (by decide +kernel)
  have unbroken : Event.Breaks (fun _ => False) events := by simp [Event.Breaks, events]
  exact ⟨spent, fenced_follow session endpoint usable wrapped (some "t1") spent rfl tame unbroken⟩

end Session

end SessionKeeper
