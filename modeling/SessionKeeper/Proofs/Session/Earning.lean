import SessionKeeper.Proofs.Session.Calls
import SessionKeeper.Proofs.Session.Draft

/-! # What is installed was granted in the same visit

A task that installs a credential in a login has asked for it, and has been granted it, since the
lock of the session was given back last (`Session.Earning`, `Session.keeps_earning`). So nothing
that is installed after somebody has given the lock back was asked for before
(`History.recent_append`).
-/

namespace SessionKeeper

/-- What was done since the lock of the session was given back last. -/
def History.recent : History → History
  | [] => []
  | moment :: earlier =>
    match moment.deed with
    | .released .session => []
    | _ => moment :: recent earlier

namespace History

variable {moment : Moment} {past : History}

theorem recent_cons (kept : moment.deed ≠ .released .session) :
    recent (moment :: past) = moment :: past.recent := by
  simp only [recent]

/-- What was done recently was done since any time that the lock was given back. -/
theorem recent_append (later : History) (released : moment.deed = .released .session) :
    (later ++ moment :: past).recent <+: later := by
  induction later with
  | nil => simp [recent, released]
  | cons last rest ih =>
    by_cases kept : last.deed = .released .session
    · simp [recent, kept]
    · rw [List.cons_append, recent_cons kept]
      exact (List.prefix_cons_inj last).mpr ih

end History

namespace Session

/-- In a stretch of history, a task has asked for a login and has been granted a credential. -/
inductive Earned (session : Session) (number : Nat) (credential : Credential) (stretch : History) :
    Prop
  | intro (url : Option Text) (request : Request) (answer : Answer) (response : Response)
      (grant : Grant) (sent answered : Moment) (order : [answered, sent].Sublist stretch)
      (draft : (session.settings.draftLogin url).outcome = .ok request)
      (asks : sent.task = number ∧ sent.deed = .sent request)
      (hears : answered.task = number ∧ answered.deed = .answered request answer)
      (settled : request.settle answer = .ok response)
      (granted : response.classifyLogin = .ok grant) (same : grant.credential = credential) :
    Earned session number credential stretch

/-- A task has sent a request since the lock of the session was given back last. -/
def Asked (number : Nat) (request : Request) (world : World) : Prop :=
  ∃ sent ∈ world.past.recent, sent.task = number ∧ sent.deed = .sent request

/-- What is put in the place of what was held has been earned since the lock of the session was
given back last. -/
def Earning (session : Session) (moment : Moment) (earlier : History) : Prop :=
  ∀ credential, moment.deed = .assigned (some credential) →
    session.Earned moment.task credential earlier.recent

variable {session : Session} {regime : Regime} {number : Nat} {world after : World}
  {credential : Credential}

theorem Earned.mono {stretch longer : History}
    (earned : session.Earned number credential stretch) (within : stretch.Sublist longer) :
    session.Earned number credential longer := by
  obtain ⟨url, request, answer, response, grant, sent, answered, order, draft, asks, hears,
    settled, granted, same⟩ := earned
  exact ⟨url, request, answer, response, grant, sent, answered, order.trans within, draft, asks,
    hears, settled, granted, same⟩

/-- What a task has earned it has not earned while only others did something. -/
theorem Earned.of_append {credential : Credential} {later recent : History}
    (earned : session.Earned number credential (later ++ recent))
    (others : ∀ moment ∈ recent, moment.task ≠ number) :
    session.Earned number credential later := by
  obtain ⟨url, request, answer, response, grant, sent, answered, order, draft, asks, hears,
    settled, granted, same⟩ := earned
  obtain ⟨front, back, split, within, beyond⟩ := List.sublist_append_iff.mp order
  have own : ∀ moment ∈ [answered, sent], moment.task = number := by
    simpa using ⟨hears.1, asks.1⟩
  have nothing : back = [] := List.eq_nil_iff_forall_not_mem.mpr fun moment member =>
    others moment (beyond.subset member)
      (own moment (split ▸ List.mem_append_right front member))
  rw [nothing, List.append_nil] at split
  exact ⟨url, request, answer, response, grant, sent, answered, split ▸ within, draft, asks, hears,
    settled, granted, same⟩

/-- While a task with the lock of the session is quiet, nobody gives the lock back. -/
theorem recent_of_quiet {moment : Moment} (holding : world.holder .session = some number)
    (allowed : world.Allows moment) (quiet : moment.task = number → moment.deed.IsQuiet) :
    (world.add moment).past.recent = moment :: world.past.recent := by
  have apart := allowed.isApart_of_quiet holding quiet
  exact History.recent_cons fun released => apart.1 (by rw [released]; rfl)

theorem keptCalm_asked {request : Request} : World.KeptCalm number (Asked number request) := by
  rintro world moment holding ⟨sent, member, sends⟩ allowed quiet
  refine ⟨sent, ?_, sends⟩
  rw [recent_of_quiet holding allowed quiet]
  exact List.mem_cons_of_mem _ member

theorem keptCalm_earned : World.KeptCalm number fun world =>
    session.Earned number credential world.past.recent := by
  intro world moment holding earned allowed quiet
  rw [recent_of_quiet holding allowed quiet]
  exact earned.mono (List.sublist_cons_self _ _)

theorem keptAside_earning : World.KeptAside number (World.Own number session.Earning) := by
  intro world moment own allowed quiet
  refine own.add fun task credential assigned => ?_
  have still := quiet task
  rw [assigned] at still
  exact still.elim

/-- A deed that installs nothing keeps to the rule. -/
theorem Earning.did {deed : Deed} {shared : Shared} (own : world.Own number session.Earning)
    (unassigned : ∀ credential, deed ≠ .assigned (some credential)) :
    (world.did number deed shared).Own number session.Earning :=
  own.add fun _ credential assigned => absurd assigned (unassigned credential)

/-! ## Transitions -/

namespace Earning

variable (own : world.Own number session.Earning) (holding : world.holder .session = some number)

include own holding

theorem exchanged {request : Request} {outcome : Except Fault Response}
    (exchanged : request.Exchanged regime number world outcome after) :
    after.Own number session.Earning :=
  exchanged.keeps keptAside_earning.calm (fun _ _ own => did own (by simp)) holding
    (did own (by simp))

theorem revokedAndCleared {token : Text} {url : Option Text} {result : Except Fault Unit}
    (revoked : session.RevokedAndCleared regime number token url world result after) :
    after.Own number session.Earning := by
  obtain ⟨_, _, between, _, revoking, clearing⟩ := revoked
  have asked : between.Own number session.Earning := by
    cases revoking with
    | undrafted fault draft => exact own
    | exchanged request draft outcome middle between exchanging calmly =>
      exact keptAside_earning.calmly calmly (exchanged own holding exchanging)
  exact Cleared.keeps clearing keptAside_earning.calm (fun _ own => did own (by simp))
    (fun _ _ own => did own (by simp)) ((revoking.grips .session).mpr holding) asked

/-- What is installed has been earned. -/
theorem installed {response : Response} {outcome : Except Fault String}
    (earned : ∀ grant, response.classifyLogin = .ok grant →
      session.Earned number grant.credential world.past.recent)
    (installed : Installed regime number response world outcome after) :
    after.Own number session.Earning := by
  cases installed with
  | rejected fault refusal => exact own
  | accepted grant granted between calmly told after telling =>
    have still := (calmly.grips .session).mpr holding
    have before : session.Earned number grant.credential between.past.recent :=
      calmly.keeps keptCalm_earned holding (earned grant granted)
    have assigned : (between.assigns number (some grant.credential)).Own number session.Earning :=
      (keptAside_earning.calmly calmly own).add fun _ credential assigned => by
        obtain rfl := Option.some.inj (Deed.assigned.inj assigned)
        exact before
    exact telling.keeps keptAside_earning.calm (fun _ _ own => did own (by simp))
      (holder_assigns.trans still) assigned

theorem loggedIn {url : Option Text} {outcome : Except Fault String}
    (login : session.LoggedIn regime number url world outcome after) :
    after.Own number session.Earning := by
  cases login with
  | undrafted fault draft after calmly => exact keptAside_earning.calmly calmly own
  | unanswered request draft between calmly fault after exchanging =>
    exact exchanged (keptAside_earning.calmly calmly own) ((calmly.grips .session).mpr holding)
      exchanging
  | answered request draft between calmly response middle exchanging outcome after installing =>
    have waiting := (calmly.grips .session).mpr holding
    have heard := exchanged (keptAside_earning.calmly calmly own) waiting exchanging
    refine installed heard ((exchanging.grips .session).mpr waiting) (fun grant granted => ?_)
      installing
    obtain ⟨answer, later, _, settled, meanwhile, rfl⟩ := exchanging.of_ok rfl
    have sending : Asked number request (between.sends number request) :=
      ⟨_, List.mem_cons_self, rfl, rfl⟩
    obtain ⟨sent, member, asks⟩ := meanwhile.calmly.keeps keptCalm_asked
      ((World.grips_did (by simp) (by simp) .session).mpr waiting) sending
    have order : [⟨number, .answered request answer, later.shared, later.shared⟩, sent].Sublist
        (later.hears number request answer).past.recent :=
      (List.singleton_sublist.mpr member).cons_cons _
    exact ⟨url, request, answer, response, grant, sent, _, order, draft, asks, ⟨rfl, rfl⟩, settled,
      granted, rfl⟩

end Earning

/-- Whatever is asked of a session, but to take over a response, whoever installs something has
earned it. -/
theorem keeps_earning (free : ∀ world, regime.free .session world) {call : Call}
    (own : ∀ response, call ≠ .applyLogin response) :
    session.Keeps regime (World.Own number session.Earning) number call := by
  have taken {before : World} (own : before.Own number session.Earning) :
      (before.takes number .session).Own number session.Earning := Earning.did own (by simp)
  have left {after : World} (own : after.Own number session.Earning) :
      regime.free .session (after.releases number .session) ∧
        (after.releases number .session).Own number session.Earning :=
    ⟨free _, Earning.did own (by simp)⟩
  refine ⟨keptAside_earning, ?_, ?_, ?_, ?_, ?_⟩
  · intro old _ before outcome after own _ _ visit _
    exact left (visit.keeps_of World.holder_takes keptAside_earning.calm
      (fun revoking => Earning.revokedAndCleared (taken own) World.holder_takes revoking)
      (fun still begins login => Earning.loggedIn begins still login) (taken own))
  · intro _ before outcome after own _ _ visit _
    cases visit with
    | absent unheld => exact left (taken own)
    | present credential held outcome after revoking =>
      exact left (Earning.revokedAndCleared (taken own) World.holder_takes revoking)
  · exact fun response asked => absurd asked (own response)
  · exact fun _ _ _ _ _ _ _ _ own => Earning.did own (by simp)
  · exact fun _ _ _ _ own => Earning.did own (by simp)

end Session

end SessionKeeper
