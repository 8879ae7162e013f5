import SessionKeeper.Proofs.Session.Transition

/-! # Properties that a transition keeps

A property of worlds goes through a part of a transition if it goes through the deeds of that part
and through what happens while the task is quiet. What happens apart from the lock of the session is
all that can happen then, so a property of what the lock protects need only be checked for the deeds
themselves (`World.KeptApart.calm`).
-/

namespace SessionKeeper

variable {regime : Regime} {number : Nat} {world after : World} {property : World → Prop}

namespace World

/-- What happens apart from the lock of the session keeps a property. -/
def KeptApart (property : World → Prop) : Prop :=
  ∀ world moment, property world → world.Allows moment → moment.IsApart →
    property (world.add moment)

/-- What happens while a task with the lock of the session is quiet keeps a property. -/
def KeptCalm (number : Nat) (property : World → Prop) : Prop :=
  ∀ world moment, world.holder .session = some number → property world → world.Allows moment →
    (moment.task = number → moment.deed.IsQuiet) → property (world.add moment)

theorem KeptApart.calm (kept : KeptApart property) : KeptCalm number property := by
  intro world moment held holds allowed quiet
  exact kept world moment holds allowed (allowed.isApart_of_quiet held quiet)

theorem Calmly.keeps (calmly : world.Calmly number after) (kept : KeptCalm number property)
    (held : world.holder .session = some number) (holds : property world) : property after := by
  induction calmly with
  | refl => exact holds
  | tail before step ih =>
    obtain ⟨moment, quiet, allowed, rfl⟩ := step
    exact kept _ moment ((Calmly.grips before .session).mpr held) ih allowed quiet

end World

/-- The regime under which a property holds whenever nobody has the lock of the session. -/
def Regime.ofFree (endpoint : Endpoint) (breaks : Fault → Prop) (free : World → Prop) : Regime where
  endpoint := endpoint
  breaks := breaks
  free
    | .session => free
    | .lifecycle => fun _ => True

theorem Regime.stable_ofFree {endpoint : Endpoint} {breaks : Fault → Prop} {free : World → Prop}
    (kept : World.KeptApart free) : (Regime.ofFree endpoint breaks free).Stable := by
  intro lock world moment vacant holds allowed still
  cases lock with
  | session => exact kept world moment holds allowed (allowed.isApart_of_vacant vacant still)
  | lifecycle => trivial

theorem Regime.free_ofFree {endpoint : Endpoint} {breaks : Fault → Prop} {free : World → Prop}
    (holds : free world) (lock : Lock) : (Regime.ofFree endpoint breaks free).free lock world := by
  cases lock with
  | session => exact holds
  | lifecycle => trivial

theorem Request.Exchanged.keeps {request : Request} {outcome : Except Fault Response}
    (exchanged : request.Exchanged regime number world outcome after)
    (kept : World.KeptCalm number property)
    (hears : ∀ (world : World) answer, property world →
      property (world.hears number request answer))
    (held : world.holder .session = some number) (holds : property (world.sends number request)) :
    property after := by
  have sending : (world.sends number request).holder .session = some number :=
    (World.grips_did (by simp) (by simp) .session).mpr held
  cases exchanged with
  | answered answer delivered later meanwhile =>
    exact hears later answer (meanwhile.calmly.keeps kept sending holds)
  | brokenOff fault breaks later meanwhile =>
    refine kept later _ ((meanwhile.calmly.grips .session).mpr sending) ?_
      (World.allows_of_quiet trivial rfl) fun _ => trivial
    exact meanwhile.calmly.keeps kept sending holds

theorem Listener.Told.keeps {occasion : Occasion} {listeners : List Listener}
    {outcome : Except Fault Unit} (told : Told regime number occasion listeners world outcome after)
    (kept : World.KeptCalm number property)
    (tells : ∀ (world : World) notice, property world → property (world.tells number notice))
    (held : world.holder .session = some number) (holds : property world) : property after := by
  have telling {world : World} {notice : Notice} (held : world.holder .session = some number) :
      (world.tells number notice).holder .session = some number :=
    (World.grips_did (by simp) (by simp) .session).mpr held
  induction told with
  | nobody world => exact holds
  | next calmly others ih =>
    exact ih ((calmly.grips .session).mpr (telling held))
      (calmly.keeps kept (telling held) (tells _ _ holds))
  | stopped calmly halts => exact calmly.keeps kept (telling held) (tells _ _ holds)

/-- Everything that a task does in a visit to the session keeps a property. -/
structure World.KeptVisiting (number : Nat) (property : World → Prop) : Prop where
  calm : World.KeptCalm number property
  sends : ∀ world request, property world → property (world.sends number request)
  hears : ∀ world request answer, property world → property (world.hears number request answer)
  assigns : ∀ world held, property world → property (world.assigns number held)
  tells : ∀ world notice, property world → property (world.tells number notice)

namespace Session

variable {session : Session} {token : Text} {url : Option Text} {result : Except Fault Unit}

theorem Cleared.keeps (cleared : Cleared regime number world result after)
    (kept : World.KeptCalm number property)
    (clears : ∀ world : World, property world → property (world.assigns number none))
    (tells : ∀ (world : World) notice, property world → property (world.tells number notice))
    (held : world.holder .session = some number) (holds : property world) : property after := by
  refine Listener.Told.keeps cleared kept tells ?_ (clears world holds)
  exact holder_assigns.trans held

/-! ## What is held afterwards -/

/-- What is held is what is held. -/
theorem keptApart_held (held : Option Credential) :
    World.KeptApart fun world => world.shared.held = held := by
  intro world moment holds allowed apart
  rw [World.shared_add, allowed.held_eq fun other deed => apart.1 (by rw [deed]; rfl), holds]

theorem told_held {occasion : Occasion} {listeners : List Listener}
    (told : Listener.Told regime number occasion listeners world result after)
    (holding : world.holder .session = some number) : after.shared.held = world.shared.held :=
  told.keeps (keptApart_held world.shared.held).calm (fun _ _ holds => holds) holding rfl

theorem Cleared.held (cleared : Cleared regime number world result after)
    (holding : world.holder .session = some number) : after.shared.held = none :=
  told_held cleared (holder_assigns.trans holding)

theorem RevokedAndCleared.held
    (revoked : session.RevokedAndCleared regime number token url world result after)
    (holding : world.holder .session = some number) : after.shared.held = none := by
  obtain ⟨_, _, between, _, revoking, clearing⟩ := revoked
  exact clearing.held ((revoking.grips .session).mpr holding)

theorem LogoutVisit.held (visit : session.LogoutVisit regime number world result after)
    (holding : world.holder .session = some number) : after.shared.held = none := by
  cases visit with
  | absent unheld => exact unheld
  | present credential held outcome after revoking => exact revoking.held holding

variable {login : Except Fault String} {granted : String}

theorem Installed.shows {response : Response}
    (installed : Installed regime number response world login after)
    (holding : world.holder .session = some number) (success : login = .ok granted) :
    after.shared.token? = some granted := by
  cases installed with
  | rejected fault refusal => cases success
  | accepted grant accepted between calmly told after telling =>
    have holding' := (calmly.grips .session).mpr holding
    have held := told_held telling (holder_assigns.trans holding')
    cases told with
    | error fault => cases success
    | ok value =>
      obtain rfl : grant.accessToken = granted := Except.ok.inj success
      rw [Shared.token?, held]
      rfl

theorem LoggedIn.shows (loggedIn : session.LoggedIn regime number url world login after)
    (holding : world.holder .session = some number) (success : login = .ok granted) :
    after.shared.token? = some granted := by
  cases loggedIn with
  | undrafted fault draft after calmly => cases success
  | unanswered request draft between calmly fault after exchanged => cases success
  | answered request draft between calmly response middle exchanged outcome after installed =>
    exact installed.shows (((calmly.grips.trans exchanged.grips) .session).mpr holding) success

/-- The token that a task gets of a visit is the one that is held then. -/
theorem LoginVisit.shows {old : Option Text}
    (visit : session.LoginVisit regime number old world login after)
    (holding : world.holder .session = some number) (success : login = .ok granted) :
    after.shared.token? = some granted := by
  cases visit with
  | current credential held fresh after calmly =>
    obtain rfl : credential.token = granted := Except.ok.inj success
    rw [Shared.token?, calmly.keeps (keptApart_held (some credential)).calm holding held]
    rfl
  | renewed stale outcome after renewing =>
    cases renewing with
    | anew absent outcome after login => exact login.shows holding success
    | prevented token present fault after revoking => cases success
    | replaced token present between revoking outcome after login =>
      exact login.shows ((revoking.grips .session).mpr holding) success

/-! ## Whole visits -/

/-- A property goes through a visit for a login if it goes through a revocation of what was found
and through a login. -/
theorem LoginVisit.keeps_of {old : Option Text}
    (visit : session.LoginVisit regime number old world login after)
    (holding : world.holder .session = some number) (kept : World.KeptCalm number property)
    (revoked : ∀ {token url result next},
      session.RevokedAndCleared regime number token url world result next → property next)
    (loggedIn : ∀ {start url outcome next}, start.holder .session = some number → property start →
      session.LoggedIn regime number url start outcome next → property next)
    (holds : property world) : property after := by
  have replaced {token : Text} {url : Option Text} {result : Except Fault Unit} {next : World}
      (stale : session.RevokedStale regime number token url world result next) :
      property next := by
    obtain ⟨_, between, _, revoking, calmly⟩ := stale
    exact calmly.keeps kept ((revoking.grips .session).mpr holding) (revoked revoking)
  cases visit with
  | current credential held fresh after calmly => exact calmly.keeps kept holding holds
  | renewed stale outcome after renewing =>
    cases renewing with
    | anew absent outcome after login => exact loggedIn holding holds login
    | prevented token present fault after revoking => exact replaced revoking
    | replaced token present between revoking outcome after login =>
      exact loggedIn ((revoking.grips .session).mpr holding) (replaced revoking) login

section Visits

variable (kept : World.KeptVisiting number property)
  (holding : world.holder .session = some number) (holds : property world)

include kept holding holds

theorem RevokedAndCleared.keeps
    (revoked : session.RevokedAndCleared regime number token url world result after) :
    property after := by
  obtain ⟨_, _, between, _, revoking, clearing⟩ := revoked
  have before : property between := by
    cases revoking with
    | undrafted fault draft => exact holds
    | exchanged request draft outcome middle between exchanged calmly =>
      apply calmly.keeps kept.calm ((exchanged.grips .session).mpr holding)
      exact exchanged.keeps kept.calm (fun world answer => kept.hears world request answer) holding
        (kept.sends world request holds)
  exact Cleared.keeps clearing kept.calm (fun world => kept.assigns world none) kept.tells
    ((revoking.grips .session).mpr holding) before

theorem Installed.keeps {response : Response}
    (installed : Installed regime number response world login after) : property after := by
  cases installed with
  | rejected fault refusal => exact holds
  | accepted grant granted between calmly told after telling =>
    exact telling.keeps kept.calm kept.tells
      (holder_assigns.trans ((calmly.grips .session).mpr holding))
      (kept.assigns between _ (calmly.keeps kept.calm holding holds))

theorem LoggedIn.keeps (loggedIn : session.LoggedIn regime number url world login after) :
    property after := by
  have asked {request : Request} {outcome : Except Fault Response} {between next : World}
      (calmly : world.Calmly number between)
      (exchanged : request.Exchanged regime number between outcome next) : property next :=
    exchanged.keeps kept.calm (fun world answer => kept.hears world request answer)
      ((calmly.grips .session).mpr holding)
      (kept.sends between request (calmly.keeps kept.calm holding holds))
  cases loggedIn with
  | undrafted fault draft after calmly => exact calmly.keeps kept.calm holding holds
  | unanswered request draft between calmly fault after exchanged => exact asked calmly exchanged
  | answered request draft between calmly response middle exchanged outcome after installed =>
    exact installed.keeps kept (((calmly.grips.trans exchanged.grips) .session).mpr holding)
      (asked calmly exchanged)

theorem LoginVisit.keeps {old : Option Text}
    (visit : session.LoginVisit regime number old world login after) : property after :=
  visit.keeps_of holding kept.calm (fun revoking => revoking.keeps kept holding holds)
    (fun still begins login => login.keeps kept still begins) holds

end Visits

end Session

end SessionKeeper
