import SessionKeeper.Proofs.Session.Attempt
import SessionKeeper.Proofs.Session.Keeping
import SessionKeeper.Proofs.Task.Soundness
import SessionKeeper.Session.Call

/-! # Whatever tasks ask of a session

A property that is kept apart from the lock of the session, and by everything that is done under it,
holds whenever nobody has the lock, whichever calls the tasks make (`Session.fulfils_answer`). The
rest of this module goes through the calls: each is made of visits to the session, of requests of
its own, and of deeds that nobody notices. At the end stands what this means for a course of calls
(`Session.sound_answer`).
-/

namespace SessionKeeper

deriving instance DecidableEq for CallReply

variable {α β : Type} {regime : Regime} {track : World → Prop} {number : Nat} {world : World}

/-- What a task does under the lock of the session keeps what holds whenever nobody has it, and what
holds of the task itself. -/
def Regime.KeptBy (regime : Regime) (track : World → Prop) (number : Nat)
    (relation : World → Except Fault α → World → Prop) : Prop :=
  ∀ before outcome after, track before → before.holder .session = none →
    regime.free .session before → relation (before.takes number .session) outcome after →
    (before.takes number .session).Leads after →
      regime.free .session (after.releases number .session) ∧
        track (after.releases number .session)

/-- What others do, and what a task does while it is quiet, keeps what holds of the task. -/
def World.KeptAside (number : Nat) (track : World → Prop) : Prop :=
  ∀ world moment, track world → world.Allows moment →
    (moment.task = number → moment.deed.IsQuiet) → track (world.add moment)

theorem World.KeptAside.calmly {next : World} (kept : World.KeptAside number track)
    (calmly : world.Calmly number next) (holds : track world) : track next := by
  induction calmly with
  | refl => exact holds
  | tail _ step ih =>
    obtain ⟨moment, quiet, allowed, rfl⟩ := step
    exact kept _ moment ih allowed quiet

theorem World.KeptAside.calm (kept : World.KeptAside number track) :
    World.KeptCalm number track :=
  fun world moment _ => kept world moment

namespace Routine

/-- A routine that keeps to the rules, begun and ended without a lock in hand. -/
def Roams (regime : Regime) (track : World → Prop) (number : Nat) (routine : Routine α) : Prop :=
  ∀ world, track world → world.Idle number →
    routine.Fulfils regime number (fun _ after => track after) world

variable {routine : Routine α} {next : α → Routine β}

theorem Roams.bind (first : routine.Roams regime track number)
    (rest : ∀ value, (next value).Roams regime track number) :
    (routine >>= next).Roams regime track number := by
  intro world tracked idle
  unfold Fulfils
  rw [ensures_bind]
  apply (first world tracked idle).mono
  rintro (fault | value) after ⟨onwards, still⟩
  · exact ⟨onwards, still⟩
  · exact rest value after onwards still

theorem roams_ofExcept (outcome : Except Fault α) : (ofExcept outcome).Roams regime track number :=
  fun _ tracked idle => ⟨tracked, idle⟩

theorem Roams.map (roams : routine.Roams regime track number) (change : α → β) :
    (change <$> routine).Roams regime track number :=
  roams.bind fun value => roams_ofExcept (.ok (change value))

theorem roams_get : Routine.get.Roams regime track number := fun _ tracked idle => ⟨tracked, idle⟩

/-- A quiet routine keeps to the rules. -/
theorem roams_of_calmly (kept : World.KeptAside number track)
    (ensured : ∀ world,
      routine.Ensures regime number (fun _ after => world.Calmly number after) world) :
    routine.Roams regime track number := by
  intro world tracked idle
  refine (ensured world).mono fun _ after calmly => ?_
  exact ⟨kept.calmly calmly tracked, calmly.grips.idle idle⟩

theorem roams_ofReported (kept : World.KeptAside number track) (reported : Reported α) :
    (ofReported reported).Roams regime track number :=
  roams_of_calmly kept fun _ => (ensures_ofReported reported).mono fun _ _ ended => ended.2

theorem roams_yieldTurn (kept : World.KeptAside number track) :
    yieldTurn.Roams regime track number :=
  roams_of_calmly kept fun _ => ensures_yieldTurn.mono fun _ _ ended => ended.1

/-- What a task does under the lock of the session keeps to the rules; besides, its outcome is what
the relation says about the world that it leaves. -/
theorem fulfils_withLock {body : Routine α} {relation : World → Except Fault α → World → Prop}
    {post : Except Fault α → World → Prop} (kept : World.KeptAside number track)
    (does : body.Does regime number relation)
    (grips : ∀ before outcome after, relation before outcome after → before.Grips number after)
    (keeps : regime.KeptBy track number relation)
    (ended : ∀ before outcome after, before.holder .session = some number →
      relation before outcome after → post outcome (after.releases number .session))
    (refused : ∀ fault after, post (.error fault) after)
    (tracked : track world) (idle : world.Idle number) :
    (withLock .session body).Fulfils regime number
      (fun outcome after => track after ∧ post outcome after) world := by
  refine ensures_withLock does grips idle ?_ ?_
  · intro before outcome after meanwhile vacant free related onwards
    have before' := kept.calmly meanwhile.calmly tracked
    obtain ⟨still, tracking⟩ := keeps before outcome after before' vacant free related onwards
    refine ⟨still, fun relieved => ⟨⟨tracking, ?_⟩, relieved⟩⟩
    exact ended _ outcome after World.holder_takes related
  · intro before fault meanwhile breaks relieved
    refine ⟨⟨kept before _ (kept.calmly meanwhile.calmly tracked)
      (World.allows_of_quiet trivial rfl) fun _ => trivial, refused fault _⟩, relieved⟩

theorem roams_withLock {body : Routine α} {relation : World → Except Fault α → World → Prop}
    (kept : World.KeptAside number track) (does : body.Does regime number relation)
    (grips : ∀ before outcome after, relation before outcome after → before.Grips number after)
    (keeps : regime.KeptBy track number relation) :
    (withLock .session body).Roams regime track number := by
  intro world tracked idle
  have fulfils : (withLock .session body).Fulfils regime number (fun _ after => track after ∧ True)
      world :=
    fulfils_withLock kept does grips keeps (fun _ _ _ _ _ => trivial) (fun _ _ => trivial)
      tracked idle
  exact fulfils.mono fun _ _ ended => ⟨ended.1.1, ended.2⟩

end Routine

/-- The logins that are made for a call, by the token that they name: that of the call, or any. -/
def Call.Names : Call → Option Text → Prop
  | .login named, old => old = named
  | .start, _ | .api .., _ => True
  | _, _ => False

/-- A task has just given the lock of the session back while a token was held. -/
def World.Leaves (number : Nat) (token : String) (world : World) : Prop :=
  ∃ before : World, world = before.releases number .session ∧ before.shared.token? = some token

theorem World.Leaves.token? {token : String} (leaves : world.Leaves number token) :
    world.shared.token? = some token := by
  obtain ⟨before, rfl, held⟩ := leaves
  exact held

/-- Who gets the reply to a login has just left the session, and the token that was held then is the
one of the reply. -/
def Call.Shows (call : Call) (number : Nat) (outcome : Except Fault CallReply) (after : World) :
    Prop :=
  match call with
  | .login _ | .applyLogin _ => ∀ token, outcome = .ok (.token token) → after.Leaves number token
  | .start => ∀ reply, outcome = .ok reply → ∃ token, after.Leaves number token
  | _ => True

namespace Session

/-- What a task does for a call keeps what holds whenever nobody has the lock of the session, and
what holds of the task itself. -/
structure Keeps (session : Session) (regime : Regime) (track : World → Prop) (number : Nat)
    (call : Call) : Prop where
  aside : World.KeptAside number track
  login : ∀ old, call.Names old → regime.KeptBy track number (session.LoginVisit regime number old)
  logout : call = .logout ∨ call = .stop →
    regime.KeptBy track number (session.LogoutVisit regime number)
  install : ∀ response, call = .applyLogin response →
    regime.KeptBy track number (Installed regime number response)
  /-- A request of its own carries what is held at the moment. -/
  sends : ∀ (request : ApiCall) attempts credential timeout world,
    call = .api request attempts → world.shared.held = some credential →
    session.settings.timeout = .ok timeout → track world →
      track (world.sends number (request.request
        (session.settings.baseUrl (some ↑credential.instanceUrl)) credential.token timeout))
  hears : ∀ (request : Request) answer world, request.headers.isSome → track world →
    track (world.hears number request answer)

variable {session : Session} {call : Call}

namespace Keeps

/-- A login keeps to the rules, and returns the token that is held when it leaves the session. -/
theorem fulfils_login (keeps : session.Keeps regime track number call) (old : Option Text)
    (named : call.Names old) (tracked : track world) (idle : world.Idle number) :
    (session.login old).Fulfils regime number
      (fun outcome after => track after ∧
        ∀ token, outcome = .ok token → after.Leaves number token) world :=
  Routine.fulfils_withLock keeps.aside (does_loginLocked old) (fun _ _ _ visit => visit.grips)
    (keeps.login old named)
    (fun _ _ after holding visit _ success => ⟨after, rfl, visit.shows holding success⟩)
    (fun _ _ _ success => nomatch success) tracked idle

theorem roams_logout (keeps : session.Keeps regime track number call)
    (asked : call = .logout ∨ call = .stop) : session.logout.Roams regime track number :=
  Routine.roams_withLock keeps.aside does_logoutLocked (fun _ _ _ visit => visit.grips)
    (keeps.logout asked)

/-- Installing a response keeps to the rules, and returns the token that is held when it leaves the
session. -/
theorem fulfils_applyLogin (keeps : session.Keeps regime track number call) {response : Response}
    (asked : call = .applyLogin response) (tracked : track world) (idle : world.Idle number) :
    (applyLogin response).Fulfils regime number
      (fun outcome after => track after ∧
        ∀ token, outcome = .ok token → after.Leaves number token) world :=
  Routine.fulfils_withLock keeps.aside (does_install response)
    (fun _ _ _ installed => installed.grips) (keeps.install response asked)
    (fun _ _ after holding installed _ success => ⟨after, rfl, installed.shows holding success⟩)
    (fun _ _ _ success => nomatch success) tracked idle

/-- The token for an attempt is the one that is held when the request is shaped. -/
theorem fulfils_tokenFor (keeps : session.Keeps regime track number call)
    (named : ∀ old, call.Names old) (stale : Option String) (tracked : track world)
    (idle : world.Idle number) :
    (session.tokenFor stale).Fulfils regime number
      (fun outcome after => track after ∧
        ∀ token, outcome = .ok token → after.shared.token? = some token) world := by
  have login (old : Option Text) {world : World} (tracked : track world)
      (idle : world.Idle number) :
      (session.login old).Fulfils regime number
        (fun outcome after => track after ∧
          ∀ token, outcome = .ok token → after.shared.token? = some token) world :=
    (keeps.fulfils_login old (named old) tracked idle).mono fun _ _ ended =>
      ⟨⟨ended.1.1, fun token success => (ended.1.2 token success).token?⟩, ended.2⟩
  refine ensures_tokenFor (fun token between _ calmly => ?_) (fun _ _ => ?_)
    fun token _ held => ⟨⟨tracked, ?_⟩, idle⟩
  · exact login _ (keeps.aside.calmly calmly tracked) (calmly.grips.idle idle)
  · exact login none tracked idle
  · rintro _ ⟨rfl⟩
    exact held

theorem roams_tryCall (keeps : session.Keeps regime track number call) {request : ApiCall}
    {attempts : Int} (asked : call = .api request attempts) (stale : Option String) :
    (session.tryCall request stale).Roams regime track number := by
  intro world tracked idle
  have named (old : Option Text) : call.Names old := by
    subst asked
    trivial
  refine ensures_tryCall (keeps.fulfils_tokenFor named stale tracked idle)
    (fun _ _ ended => ⟨ended.1.1, ended.2⟩) (fun _ _ _ _ ended => ⟨ended.1.1, ended.2⟩) ?_
  rintro timeout token between outcome after usable ⟨⟨tracking, shown⟩, still⟩ exchanged
  refine ⟨?_, exchanged.grips.idle still⟩
  obtain ⟨credential, held, rfl⟩ := Option.map_eq_some_iff.mp (shown token rfl)
  have url : between.shared.instanceUrl? = some ↑credential.instanceUrl := by
    rw [Shared.instanceUrl?, held]
    rfl
  rw [url] at exchanged
  have sending :=
    keeps.sends request attempts credential timeout between asked held usable tracking
  cases exchanged with
  | answered answer delivered later meanwhile =>
    exact keeps.hears _ answer later rfl (keeps.aside.calmly meanwhile.calmly sending)
  | brokenOff fault breaks later meanwhile =>
    exact keeps.aside later _ (keeps.aside.calmly meanwhile.calmly sending)
      (World.allows_of_quiet trivial rfl) fun _ => trivial

theorem roams_callFrom (keeps : session.Keeps regime track number call) {request : ApiCall}
    {attempts : Int} (asked : call = .api request attempts) (retries : Nat)
    (stale : Option String) :
    (session.callFrom request retries stale).Roams regime track number := by
  have attempt (stale : Option String) :
      (session.tryCall request stale).attempt.Roams regime track number := by
    intro world tracked idle
    unfold Routine.Fulfils
    rw [Routine.ensures_attempt]
    exact keeps.roams_tryCall asked stale world tracked idle
  induction retries generalizing stale with
  | zero =>
    unfold callFrom
    refine (attempt stale).bind fun outcome => ?_
    rcases outcome with fault | ⟨response⟩ | ⟨token, status⟩
    · exact Routine.roams_ofExcept (.error _)
    · exact Routine.roams_ofExcept (.ok response)
    · exact Routine.roams_ofExcept (.error _)
  | succ retries ih =>
    unfold callFrom
    refine (attempt stale).bind fun outcome => ?_
    rcases outcome with fault | ⟨response⟩ | ⟨token, status⟩
    · simp only
      split
      · exact (Routine.roams_yieldTurn keeps.aside).bind fun _ => ih stale
      · exact Routine.roams_ofExcept (.error _)
    · exact Routine.roams_ofExcept (.ok response)
    · exact (Routine.roams_yieldTurn keeps.aside).bind fun _ => ih (some token)

/-- Changing the registered listeners is nothing that another task would notice. -/
theorem roams_changeListeners (keeps : session.Keeps regime track number call) (name : Text)
    {change : Shared → Listener → Bool × Shared}
    (harmless : ∀ listener (before : Shared), listener ∈ before.roster →
      Shared.Harmless (fun shared => (change shared listener).2) before) :
    (changeListeners name change).Roams regime track number := by
  refine Routine.roams_of_calmly keeps.aside fun world => ?_
  unfold changeListeners
  rw [Routine.ensures_bind]
  refine Listener.ensures_named (fun listener known => ?_) .refl
  exact Routine.ensures_update (harmless listener world.shared known) fun _ calmly _ => calmly

end Keeps

/-- The reply to a call is made of what its part returned. -/
private theorem fulfils_map {α : Type} {routine : Routine α} {reply : α → CallReply}
    {post : Except Fault α → World → Prop}
    (fulfils : routine.Fulfils regime number (fun outcome after => track after ∧ post outcome after)
      world)
    (shows : ∀ outcome after, post outcome after → call.Shows number (outcome.map reply) after) :
    (reply <$> routine).Fulfils regime number
      (fun outcome after => track after ∧ call.Shows number outcome after) world := by
  unfold Routine.Fulfils
  rw [Routine.ensures_map]
  apply Routine.Ensures.mono fulfils
  rintro outcome after ⟨⟨tracked, ended⟩, idle⟩
  exact ⟨⟨tracked, shows outcome after ended⟩, idle⟩

/-- **Every call keeps to the rules.** What holds whenever nobody has the lock of the session, kept
by what a task does for a call under the lock, is kept by the whole call; and so is what holds of
the task. -/
theorem fulfils_answer (keeps : session.Keeps regime track number call) (tracked : track world)
    (idle : world.Idle number) :
    (session.answer call).Fulfils regime number
      (fun outcome after => track after ∧ call.Shows number outcome after) world := by
  have roaming {α : Type} {routine : Routine α} {reply : α → CallReply}
      (roams : routine.Roams regime track number)
      (shows : ∀ outcome after, call.Shows number outcome after) :
      (reply <$> routine).Fulfils regime number
        (fun outcome after => track after ∧ call.Shows number outcome after) world :=
    fulfils_map ((roams world tracked idle).mono fun _ _ ended => ⟨⟨ended.1, trivial⟩, ended.2⟩)
      fun outcome after _ => shows (outcome.map reply) after
  have shown {outcome : Except Fault String} {after : World}
      (left : ∀ token, outcome = .ok token → after.Leaves number token) :
      ∀ token, outcome.map CallReply.token = .ok (.token token) → after.Leaves number token := by
    intro token same
    cases outcome with
    | error fault => cases same
    | ok granted =>
      cases same
      exact left token rfl
  cases call with
  | login old =>
    exact fulfils_map (keeps.fulfils_login old rfl tracked idle) fun _ _ left => shown left
  | applyLogin response =>
    exact fulfils_map (keeps.fulfils_applyLogin rfl tracked idle) fun _ _ left => shown left
  | start =>
    have started : session.start.Fulfils regime number
        (fun outcome after => track after ∧
          (outcome = .ok () → ∃ token, after.Leaves number token)) world := by
      unfold Session.start Routine.Fulfils
      rw [Routine.ensures_bind, Routine.ensures_get]
      simp only
      rw [Routine.ensures_bind]
      apply (keeps.fulfils_login _ trivial tracked idle).mono
      rintro (fault | token) after ⟨⟨onwards, left⟩, still⟩
      · exact ⟨⟨onwards, nofun⟩, still⟩
      · exact ⟨⟨onwards, fun _ => ⟨token, left token rfl⟩⟩, still⟩
    refine fulfils_map started ?_
    rintro (fault | ⟨⟨⟩⟩) after left reply same
    · cases same
    · exact left rfl
  | logout => exact roaming (keeps.roams_logout (.inl rfl)) fun _ _ => trivial
  | stop => exact roaming (keeps.roams_logout (.inr rfl)) fun _ _ => trivial
  | api request attempts =>
    exact roaming (keeps.roams_callFrom rfl _ none) fun _ _ => trivial
  | enlist name =>
    exact roaming (keeps.roams_changeListeners name fun _ _ known => Shared.harmless_enlist known)
      fun _ _ => trivial
  | dismiss name =>
    exact roaming (keeps.roams_changeListeners name fun _ _ known => Shared.harmless_dismiss known)
      fun _ _ => trivial
  | draftLogin =>
    exact roaming (Routine.roams_get.bind fun shared => Routine.roams_ofReported keeps.aside _)
      fun _ _ => trivial
  | describe => exact ⟨⟨tracked, trivial⟩, idle⟩

theorem roams_answer (keeps : session.Keeps regime track number call) :
    (session.answer call).Roams regime track number :=
  fun _ tracked idle => (fulfils_answer keeps tracked idle).mono
    fun _ _ ended => ⟨ended.1.1, ended.2⟩

/-- A course of calls that keep to the rules is sound. -/
theorem sound_answer {track : Nat → World → Prop} {shared : Shared} {events : List (Event Call)}
    (stable : regime.Stable)
    (keeps : ∀ number call, (Event.begun events)[number]? = some call →
      session.Keeps regime (track number) number call)
    (begins : ∀ number (world : World), (∀ moment ∈ world.past, moment.task ≠ number) →
      track number world)
    (unlocked : shared.locked = []) (free : ∀ lock, regime.free lock ⟨shared, []⟩)
    (breaks : Event.Breaks regime.breaks events) :
    ((Course.initial shared).follow regime.endpoint session.answer events).Sound regime
      (fun number outcome after => track number after ∧
        ∀ call, (Event.begun events)[number]? = some call → call.Shows number outcome after)
      shared := by
  refine Course.sound_follow _ stable ?_ unlocked free List.prefix_rfl breaks
  intro number call asked world _ unknown
  refine (fulfils_answer (keeps number call asked) (begins number world unknown)
    (World.idle_of_past unknown)).mono fun outcome after ended => ⟨⟨ended.1.1, ?_⟩, ended.2⟩
  intro other same
  obtain rfl := Option.some.inj (asked.symm.trans same)
  exact ended.1.2

end Session

end SessionKeeper
