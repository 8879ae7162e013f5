import SessionKeeper.Proofs.Session.Pairing
import SessionKeeper.Proofs.Session.Visit

/-! # How a held token is given up

A token that is held is not lost silently. It goes on being held until a task gives it up that was
asked to log out or to log in in its place, and that has asked the instance of the token to revoke
it in the same visit to the session; or until a task was asked to take over another response
(`Relinquished`). Whoever finds a token that it has no business with leaves the session as it is and
sends nothing (`Rightful`).

Both are properties of the moments of a history (`Warranted`). They hold whatever is answered to the
revocation, and even if it is broken off (`Session.warranted_follow`).
-/

namespace SessionKeeper

/-- The deed is one that others can tell was done: something was sent or told, or put in the place
of what was held. -/
def Deed.IsFelt : Deed → Prop
  | assigned _ | told _ | sent _ => True
  | _ => False

theorem Deed.IsQuiet.not_isFelt {deed : Deed} (quiet : deed.IsQuiet) : ¬ deed.IsFelt := by
  cases deed <;> first | exact id | exact fun _ => quiet

/-- The calls that may give a token up with no response at hand to put in its place: to log out, and
to log in in the place of that very token. -/
def Call.MayGiveUp (call : Call) (token : String) : Prop :=
  call = .logout ∨ call = .stop ∨ call.Names (some ↑token)

/-- The last visit is one of a task that gives up what it found: its call may do so, and the visit
has asked for the token to be revoked. -/
def History.GivingUp (past : History) (number : Nat) (call : Call) (found : Option Credential) :
    Prop :=
  ∃ visit rest, past.visits = visit :: rest ∧ visit.task = number ∧ visit.found = found ∧
    ∀ credential, found = some credential →
      call.MayGiveUp credential.token ∧ ∃ request ∈ visit.asked, request.Revokes credential

/-- How a credential that was held came to be held no more at a moment of a task with a call. -/
inductive Relinquished (call : Call) (moment : Moment) (earlier : History)
    (credential : Credential) : Prop
  /-- The visit that found the credential gave it up. -/
  | givenUp (giving : earlier.GivingUp moment.task call (some credential))
  /-- Another grant was put in its place. -/
  | replaced (response : Response) (grant : Grant) (asked : call = .applyLogin response)
      (granted : response.classifyLogin = .ok grant)
      (installed : moment.deed = .assigned (some grant.credential))

/-- By what right a task with a call did what others could tell. -/
inductive Rightful (call : Call) (moment : Moment) (earlier : History) : Prop
  /-- It found nothing, or gives up what it found. -/
  | visit (found : Option Credential)
      (giving : History.GivingUp (moment :: earlier) moment.task call found)
  | takeover (response : Response) (asked : call = .applyLogin response)
  /-- It sent a request to the API. -/
  | api (request : ApiCall) (attempts : Int) (asked : call = .api request attempts)
      (sent : Request) (deed : moment.deed = .sent sent) (headed : sent.headers.isSome)

/-- At a moment, nothing was lost silently and nothing done without a right to. -/
def Warranted (calls : List Call) (moment : Moment) (earlier : History) : Prop :=
  ∃ call, calls[moment.task]? = some call ∧
    (∀ credential, moment.before.held = some credential → moment.after.held ≠ some credential →
      Relinquished call moment earlier credential) ∧
    (moment.deed.IsFelt → Rightful call moment earlier)

/-- If something is held, then with the address of an instance. -/
def World.Filled (world : World) : Prop :=
  ∀ credential, world.shared.held = some credential → credential.instanceUrl ≠ ""

variable {calls : List Call} {call : Call} {regime : Regime} {number : Nat}
  {found held : Option Credential} {world after : World}

/-- A visit that goes on gives up what it did. -/
theorem History.GivingUp.cons {past : History} (giving : past.GivingUp number call found)
    {moment : Moment} (untaken : moment.deed ≠ .took .session) :
    History.GivingUp (moment :: past) number call found := by
  obtain ⟨visit, rest, visits, own, finding, gives⟩ := giving
  rcases History.visits_cons moment past with same | ⟨took, _⟩ | ⟨_, change, continues, changed⟩
  · exact ⟨visit, rest, same.trans visits, own, finding, gives⟩
  · exact absurd took untaken
  · obtain ⟨task, found, asked⟩ := continues visit
    refine ⟨change visit, rest, ?_, task.trans own, found.trans finding, fun credential known => ?_⟩
    · rw [changed, visits]
      rfl
    · obtain ⟨may, revocation, member, revokes⟩ := gives credential known
      exact ⟨may, revocation, asked.subset member, revokes⟩

theorem keptApart_filled : World.KeptApart World.Filled := by
  intro world moment filled allowed apart credential held
  rw [World.shared_add, allowed.held_eq fun other deed => apart.1 (by rw [deed]; rfl)] at held
  exact filled credential held

/-- A deed that nobody can tell, and that leaves alone what is held, is warranted. -/
theorem Warranted.of_not_isFelt {moment : Moment} {earlier : History}
    (asked : calls[moment.task]? = some call) (unfelt : ¬ moment.deed.IsFelt)
    (same : moment.after.held = moment.before.held) : Warranted calls moment earlier :=
  ⟨call, asked, fun _ before lost => absurd (same.trans before) lost,
    fun felt => absurd felt unfelt⟩

/-- A login that did something others can tell found nothing, or the very token that it was to
replace. -/
theorem Warranted.login {moment : Moment} {earlier : History} {old : Option Text}
    (warranted : Warranted calls moment earlier)
    (asked : calls[moment.task]? = some (.login old)) (felt : moment.deed.IsFelt) :
    ∃ visit rest, History.visits (moment :: earlier) = visit :: rest ∧ visit.task = moment.task ∧
      ∀ credential, visit.found = some credential → old = some ↑credential.token := by
  obtain ⟨call, same, _, rightful⟩ := warranted
  obtain rfl : Call.login old = call := Option.some.inj (asked.symm.trans same)
  cases rightful felt with
  | takeover response takeover => cases takeover
  | api request attempts api sent deed headed => cases api
  | visit found giving =>
    obtain ⟨visit, rest, visits, own, finding, gives⟩ := giving
    refine ⟨visit, rest, visits, own, fun credential known => ?_⟩
    rcases (gives credential (finding ▸ known)).1 with leaving | leaving | named
    · cases leaving
    · cases leaving
    · exact named.symm

theorem keptAside_warranted (asked : calls[number]? = some call) :
    World.KeptAside number (World.Own number (Warranted calls)) := by
  intro world moment own allowed quiet
  refine own.add fun task => ?_
  have still := quiet task
  refine .of_not_isFelt (task ▸ asked) still.not_isFelt ?_
  rw [allowed.before, allowed.held_eq]
  intro held deed
  rw [deed] at still
  exact still

/-- A task is in a visit that gives up what it found, it is known what is held now, and all that the
task did was warranted. -/
structure Relinquishing (calls : List Call) (call : Call) (number : Nat)
    (found held : Option Credential) (world : World) : Prop where
  visit : world.past.GivingUp number call found
  held : world.shared.held = held
  own : world.Own number (Warranted calls)

namespace Relinquishing

theorem keptCalm (asked : calls[number]? = some call) :
    World.KeptCalm number (Relinquishing calls call number found held) := by
  intro world moment holding giving allowed quiet
  have apart := allowed.isApart_of_quiet holding quiet
  exact ⟨giving.visit.cons apart.2,
    Session.keptApart_held held world moment giving.held allowed apart,
    keptAside_warranted asked world moment giving.own allowed quiet⟩

variable (giving : Relinquishing calls call number found held world)
  (asked : calls[number]? = some call)

include giving asked

/-- The visit goes on with a deed that leaves alone what is held. -/
theorem did {deed : Deed} {shared : Shared} (untaken : deed ≠ .took .session)
    (same : shared.held = world.shared.held) :
    Relinquishing calls call number found held (world.did number deed shared) := by
  have visit : (world.did number deed shared).past.GivingUp number call found :=
    giving.visit.cons untaken
  refine ⟨visit, same.trans giving.held, giving.own.add fun _ => ⟨call, asked, ?_, fun _ => ?_⟩⟩
  · exact fun credential before lost => absurd (same.trans before) lost
  · exact .visit found visit

/-- The visit puts something in the place of what it found, or of nothing. -/
theorem assigns (known : held = found ∨ held = none) (next : Option Credential) :
    Relinquishing calls call number found next (world.assigns number next) := by
  have visit : (world.assigns number next).past.GivingUp number call found :=
    giving.visit.cons (by simp)
  refine ⟨visit, rfl, giving.own.add fun _ => ⟨call, asked, fun credential before _ => ?_,
    fun _ => .visit found visit⟩⟩
  rw [giving.held] at before
  rcases known with rfl | rfl
  · exact .givenUp (before ▸ giving.visit)
  · cases before

variable (holding : world.holder .session = some number)

include holding

theorem exchanged {request : Request} {outcome : Except Fault Response}
    (exchanged : request.Exchanged regime number world outcome after) :
    Relinquishing calls call number found held after :=
  exchanged.keeps (keptCalm asked) (fun _ _ giving => giving.did asked (by simp) rfl) holding
    (giving.did asked (by simp) rfl)

theorem told {occasion : Occasion} {listeners : List Listener} {result : Except Fault Unit}
    (told : Listener.Told regime number occasion listeners world result after) :
    Relinquishing calls call number found held after :=
  told.keeps (keptCalm asked) (fun _ _ giving => giving.did asked (by simp) rfl) holding giving

theorem cleared {result : Except Fault Unit} (known : held = found)
    (cleared : Session.Cleared regime number world result after) :
    Relinquishing calls call number found none after :=
  (giving.assigns asked (.inl known) none).told asked (Session.holder_assigns.trans holding) cleared

end Relinquishing

/-- What is left when a visit is over: all that the task did was warranted, and whatever is held has
an address. -/
structure Warranting (calls : List Call) (number : Nat) (world : World) : Prop where
  own : world.Own number (Warranted calls)
  filled : world.Filled

namespace Relinquishing

variable {session : Session} (giving : Relinquishing calls call number found none world)

include giving

/-- A visit that ends while nothing is held leaves nothing without an address. -/
theorem empty : Warranting calls number world := by
  refine ⟨giving.own, fun credential held => ?_⟩
  rw [giving.held] at held
  cases held

variable (asked : calls[number]? = some call) (holding : world.holder .session = some number)

include asked holding

theorem installed {response : Response} {outcome : Except Fault String}
    (installed : Session.Installed regime number response world outcome after) :
    Warranting calls number after := by
  cases installed with
  | rejected fault refusal => exact giving.empty
  | accepted grant granted between calmly told after telling =>
    have holding := (calmly.grips .session).mpr holding
    have installing := calmly.keeps (keptCalm asked) ‹_› giving
    have ended := (installing.assigns asked (.inr rfl) (some grant.credential)).told asked
      (Session.holder_assigns.trans holding) telling
    refine ⟨ended.own, fun credential held => ?_⟩
    rw [ended.held] at held
    obtain rfl := Option.some.inj held
    exact (Grant.ne_empty (Response.of_classifyLogin granted).2).2

theorem loggedIn {url : Option Text} {outcome : Except Fault String}
    (login : session.LoggedIn regime number url world outcome after) :
    Warranting calls number after := by
  cases login with
  | undrafted fault draft after calmly => exact (calmly.keeps (keptCalm asked) holding giving).empty
  | unanswered request draft between calmly fault after exchanged =>
    exact ((calmly.keeps (keptCalm asked) holding giving).exchanged asked
      ((calmly.grips .session).mpr holding) exchanged).empty
  | answered request draft between calmly response middle exchanged outcome after installed =>
    have still := (calmly.grips .session).mpr holding
    exact ((calmly.keeps (keptCalm asked) holding giving).exchanged asked still exchanged).installed
      asked ((exchanged.grips .session).mpr still) installed

end Relinquishing

namespace Warranting

variable {session : Session} {timeout : Binary64}
  (warranting : Warranting calls number world) (asked : calls[number]? = some call)

include warranting asked

/-- A deed that nobody can tell, and that leaves alone what is held, changes nothing. -/
theorem did {deed : Deed} {shared : Shared} (unfelt : ¬ deed.IsFelt)
    (same : shared.held = world.shared.held) :
    Warranting calls number (world.did number deed shared) :=
  ⟨warranting.own.add fun _ => .of_not_isFelt asked unfelt same,
    fun credential held => warranting.filled credential (same ▸ held)⟩

theorem takes : Warranting calls number (world.takes number .session) :=
  warranting.did asked id rfl

theorem releases : Warranting calls number (world.releases number .session) :=
  warranting.did asked id rfl

theorem calmly (holding : world.holder .session = some number)
    (calmly : world.Calmly number after) : Warranting calls number after :=
  ⟨(keptAside_warranted asked).calmly calmly warranting.own,
    calmly.keeps keptApart_filled.calm holding warranting.filled⟩

/-- A visit begins with a revocation of what it found, and goes on until nothing is held. -/
theorem revoked {token : Text} {url : Option Text} {result : Except Fault Unit}
    (usable : session.settings.timeout = .ok timeout)
    (may : ∀ credential, world.shared.held = some credential → token = ↑credential.token ∧
      url = some ↑credential.instanceUrl ∧ call.MayGiveUp credential.token)
    (revoked : session.RevokedAndCleared regime number token url (world.takes number .session)
      result after) :
    Relinquishing calls call number world.shared.held none after := by
  obtain ⟨_, _, between, _, revoking, clearing⟩ := revoked
  have taking := (warranting.takes asked).own
  have asking : Relinquishing calls call number world.shared.held world.shared.held between := by
    cases revoking with
    | undrafted fault draft =>
      refine ⟨⟨_, _, rfl, rfl, rfl, fun credential held => ?_⟩, rfl, taking⟩
      obtain ⟨rfl, rfl, _⟩ := may credential held
      obtain ⟨request, drafted⟩ := Settings.exists_draftLogout usable credential.token
        (some ↑credential.instanceUrl)
      rw [drafted] at draft
      cases draft
    | exchanged request draft outcome middle between exchanged calmly =>
      have sent : History.GivingUp
          ((world.takes number .session).sends number request).past number call
            world.shared.held := by
        refine ⟨{ task := number, found := world.shared.held, asked := [request] },
          world.past.visits, ?_, rfl, rfl, fun credential held => ?_⟩
        · simp [World.sends, World.takes, History.visits, (Settings.of_draftLogout draft).2,
            Visit.ask, Shared.lock]
        · obtain ⟨rfl, rfl, named⟩ := may credential held
          exact ⟨named, request, List.mem_singleton_self _,
            Settings.revokes_draftLogout (warranting.filled credential held) draft⟩
      have sending : Relinquishing calls call number world.shared.held world.shared.held
          ((world.takes number .session).sends number request) :=
        ⟨sent, rfl, World.Own.add taking fun _ =>
          ⟨call, asked, fun _ same lost => absurd same lost, fun _ => .visit _ sent⟩⟩
      refine calmly.keeps (Relinquishing.keptCalm asked)
        ((exchanged.grips .session).mpr World.holder_takes) ?_
      exact exchanged.keeps (Relinquishing.keptCalm asked)
        (fun _ _ giving => giving.did asked (by simp) rfl) World.holder_takes sending
  exact asking.cleared asked ((revoking.grips .session).mpr World.holder_takes) rfl clearing

theorem visited {old : Option Text} {outcome : Except Fault String}
    (usable : session.settings.timeout = .ok timeout) (named : call.Names old)
    (visit : session.LoginVisit regime number old (world.takes number .session) outcome after) :
    Warranting calls number after := by
  have taking := warranting.takes asked
  have replaced {token : Text} {result : Except Fault Unit} {next : World}
      (stale : ∀ credential, world.shared.held = some credential → old = some ↑credential.token)
      (present : old = some token)
      (revoked : session.RevokedStale regime number token
        (world.takes number .session).shared.instanceUrl? (world.takes number .session) result
        next) :
      Relinquishing calls call number world.shared.held none next := by
    obtain ⟨_, between, _, revoking, calmly⟩ := revoked
    refine calmly.keeps (Relinquishing.keptCalm asked)
      ((revoking.grips .session).mpr World.holder_takes) ?_
    refine warranting.revoked asked usable (fun credential held => ⟨?_, ?_, ?_⟩) revoking
    · exact Option.some.inj (present.symm.trans (stale credential held))
    · simp [World.takes, World.did, Shared.lock, Shared.instanceUrl?, held]
    · exact .inr (.inr (stale credential held ▸ named))
  cases visit with
  | current credential held fresh after calmly =>
    exact taking.calmly asked World.holder_takes calmly
  | renewed stale outcome after renewing =>
    cases renewing with
    | anew absent outcome after login =>
      have unheld : world.shared.held = none := by
        by_contra present
        obtain ⟨credential, held⟩ := Option.ne_none_iff_exists'.mp present
        rw [absent] at stale
        cases stale credential held
      have giving : Relinquishing calls call number none none (world.takes number .session) :=
        ⟨⟨_, _, rfl, rfl, unheld, fun _ known => absurd known (by simp)⟩, unheld, taking.own⟩
      exact giving.loggedIn asked World.holder_takes login
    | prevented token present fault after revoking => exact (replaced stale present revoking).empty
    | replaced token present between revoking outcome after login =>
      exact (replaced stale present revoking).loggedIn asked
        ((revoking.grips .session).mpr World.holder_takes) login

theorem loggedOut {result : Except Fault Unit} (usable : session.settings.timeout = .ok timeout)
    (leaving : call = .logout ∨ call = .stop)
    (visit : session.LogoutVisit regime number (world.takes number .session) result after) :
    Warranting calls number after := by
  cases visit with
  | absent unheld => exact warranting.takes asked
  | present credential held outcome after revoking =>
    refine (warranting.revoked asked usable (fun other same => ?_) revoking).empty
    obtain rfl : credential = other := Option.some.inj (held.symm.trans same)
    exact ⟨rfl, rfl, leaving.imp_right .inl⟩

/-- A response is taken over for a call that says so. -/
theorem tookOver {response : Response} {outcome : Except Fault String}
    (holding : world.holder .session = some number) (takeover : call = .applyLogin response)
    (installed : Session.Installed regime number response world outcome after) :
    Warranting calls number after := by
  cases installed with
  | rejected fault refusal => exact warranting
  | accepted grant granted between calmly told after telling =>
    have still := (calmly.grips .session).mpr holding
    have before := warranting.calmly asked holding calmly
    have rightful (moment : Moment) (earlier : History) : Rightful call moment earlier :=
      .takeover response takeover
    have assigned : (between.assigns number (some grant.credential)).Own number
        (Warranted calls) :=
      before.own.add fun _ =>
        ⟨call, asked, fun _ _ _ => .replaced response grant takeover granted rfl,
          fun _ => rightful _ _⟩
    have gripped :
        (between.assigns number (some grant.credential)).holder .session = some number :=
      Session.holder_assigns.trans still
    refine ⟨telling.keeps ?_ ?_ gripped assigned, fun credential held => ?_⟩
    · exact fun world moment _ own allowed quiet =>
        keptAside_warranted asked world moment own allowed quiet
    · exact fun world notice own => own.add fun _ =>
        ⟨call, asked, fun _ same lost => absurd same lost, fun _ => rightful _ _⟩
    · rw [Session.told_held telling gripped] at held
      obtain rfl := Option.some.inj held
      exact (Grant.ne_empty (Response.of_classifyLogin granted).2).2

end Warranting

namespace Session

variable {session : Session} {timeout : Binary64}

/-- Whatever is held has an address, whenever nobody has the lock of the session. -/
def filledRegime (endpoint : Endpoint) : Regime :=
  Regime.ofFree endpoint (fun _ => True) World.Filled

theorem keeps_warranted {endpoint : Endpoint} (usable : session.settings.timeout = .ok timeout)
    (asked : calls[number]? = some call) :
    session.Keeps (filledRegime endpoint) (World.Own number (Warranted calls)) number call := by
  have left {after : World} (warranting : Warranting calls number after) :
      (after.releases number .session).Filled ∧
        (after.releases number .session).Own number (Warranted calls) :=
    ⟨(warranting.releases asked).filled, (warranting.releases asked).own⟩
  refine ⟨keptAside_warranted asked, ?_, ?_, ?_, ?_, ?_⟩
  · exact fun old named before outcome after own _ filled visit _ =>
      left (Warranting.visited ⟨own, filled⟩ asked usable named visit)
  · exact fun leaving before outcome after own _ filled visit _ =>
      left (Warranting.loggedOut ⟨own, filled⟩ asked usable leaving visit)
  · exact fun response takeover before outcome after own _ filled installed _ =>
      left (Warranting.tookOver (Warranting.takes ⟨own, filled⟩ asked) asked World.holder_takes
        takeover installed)
  · exact fun request attempts credential timeout world same held usable own =>
      own.add fun _ => ⟨call, asked, fun _ before lost => absurd before lost,
        fun _ => .api request attempts same _ rfl rfl⟩
  · exact fun request answer world headed own =>
      own.add fun _ => .of_not_isFelt asked id rfl

/-- **A held token is never lost silently.** Whatever calls tasks make of a session whose timeout is
defined, in whatever order they go on, whatever the endpoint answers, the listeners do and breaks
off waits: what is held at a moment goes on being held, unless the task of the moment gives it up
after it has asked the instance of the token to revoke it, or takes over another response. Whatever
a task does that others can tell, it does in a visit that gives up what it found, or to take over a
response, or as a request to the API. So a login in the place of another token than the one it finds
sends nothing, tells nobody and leaves what is held. The token and the instance of what is held were
granted together, unless they were held from the start. -/
theorem warranted_follow (session : Session) (endpoint : Endpoint)
    (usable : session.settings.timeout = .ok timeout) {shared : Shared}
    (filled : World.Filled ⟨shared, []⟩) (unlocked : shared.locked = [])
    (events : List (Event Call)) :
    let calls := Event.begun events
    let course := (Course.initial shared).follow endpoint session.answer events
    ∀ moment earlier, moment :: earlier <:+ course.past →
      Warranted calls moment earlier ∧
        (∀ old, calls[moment.task]? = some (.login old) → moment.deed.IsFelt →
          ∃ visit rest, History.visits (moment :: earlier) = visit :: rest ∧
            visit.task = moment.task ∧
              ∀ credential, visit.found = some credential → old = some ↑credential.token) ∧
        ∀ credential, moment.before.held = some credential → shared.held = some credential ∨
          ∃ grant, session.InForce calls earlier grant ∧ credential = grant.credential := by
  intro calls course moment earlier suffix
  have stable : (filledRegime endpoint).Stable := Regime.stable_ofFree keptApart_filled
  have sound : course.Sound (filledRegime endpoint) _ shared :=
    session.sound_answer stable (fun number call asked => keeps_warranted usable asked)
      (fun number world => World.own_of_unknown) unlocked (Regime.free_ofFree filled)
      fun _ _ _ => trivial
  have warranted : Warranted calls moment earlier :=
    sound.each stable (Warranted calls) (fun number outcome after ended => ended.1) suffix
  refine ⟨warranted, fun old asked felt => warranted.login asked felt, fun credential held => ?_⟩
  obtain ⟨before, leads, rfl, allowed⟩ := (sound.leads.of_suffix suffix).last rfl
  rw [allowed.before] at held
  exact inForce_of_attributed leads ((session.attributed_follow endpoint unlocked events).suffix
    ((List.suffix_cons _ _).trans suffix)) held

theorem warranted_follow_logout :
    let session : Session := ⟨⟨"https://login.test", "id", "secret", "user", "password", 5000⟩⟩
    let endpoint : Endpoint := fun _ _ => .later (.ok ⟨200, none,
      .text "\x7b\"access_token\": \"t\", \"instance_url\": \"https://a.test\"\x7d"⟩)
    let course := (Course.initial {}).follow endpoint session.answer
      [.begins (.login none), .turn 0, .begins .logout, .turn 1]
    ∃ moment earlier, moment :: earlier <:+ course.past ∧ moment.after.held = none ∧
      Relinquished .logout moment earlier ⟨"t", "https://a.test"⟩ := by
  intro session endpoint course
  have lost : ∃ moment ∈ course.past, moment.task = 1 ∧
      moment.before.held = some ⟨"t", "https://a.test"⟩ ∧ moment.after.held = none := by
    decide +kernel
  obtain ⟨moment, member, own, before, after⟩ := lost
  obtain ⟨recent, earlier, split⟩ := List.append_of_mem member
  have suffix : moment :: earlier <:+ course.past := ⟨recent, split.symm⟩
  obtain ⟨timeout, usable⟩ : ∃ timeout, session.settings.timeout = .ok timeout :=
    Settings.exists_timeout (by decide +kernel)
  obtain ⟨⟨call, asked, relinquished, _⟩, _, _⟩ :=
    warranted_follow session endpoint usable (by simp [World.Filled]) rfl _ moment earlier suffix
  rw [own] at asked
  cases asked
  exact ⟨moment, earlier, suffix, after, relinquished _ before (by simp [after])⟩

end Session

end SessionKeeper
