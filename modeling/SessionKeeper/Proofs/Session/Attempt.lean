import SessionKeeper.Proofs.Session.Telling
import SessionKeeper.Session.Client

/-! # Attempts of a request, among other tasks

The rules by which the attempts of a request are gone through, whatever is to be shown of them. The
token for an attempt is that of a login or the one that is held (`Session.ensures_tokenFor`). The
request is sent with it, and the status of the response decides about the verdict
(`Session.ensures_tryCall`).
-/

namespace SessionKeeper

/-- What the response says of an attempt with a token. -/
def Response.verdict (response : Response) (token : String) : Verdict :=
  if response.status = unauthorizedStatus then .rejected token response.status
  else .accepted response

namespace Session

variable {session : Session} {regime : Regime} {number : Nat} {world : World}
  {stale : Option String}

/-- In the place of a stale token comes that of a login; else the one that is held, if there is
one. -/
theorem ensures_tokenFor {post : Except Fault String → World → Prop}
    (again : ∀ token between, stale = some token → world.Calmly number between →
      (session.login (some ↑token)).Ensures regime number post between)
    (first : stale = none → world.shared.token? = none →
      (session.login none).Ensures regime number post world)
    (held : ∀ token, stale = none → world.shared.token? = some token → post (.ok token) world) :
    (session.tokenFor stale).Ensures regime number post world := by
  unfold tokenFor
  cases stale with
  | some token =>
    simp only
    rw [Routine.ensures_bind]
    apply (Routine.ensures_say _ _).mono
    rintro _ between ⟨rfl, calmly⟩
    exact again token between rfl calmly
  | none =>
    simp only
    rw [Routine.ensures_bind, Routine.ensures_get]
    cases present : world.shared.token? with
    | none =>
      simp only [present]
      exact first rfl present
    | some token =>
      simp only [present]
      rw [Routine.ensures_pure]
      exact held token rfl present

/-- An attempt that got a token sends its request with it, if the timeout is defined. -/
theorem ensures_tryCall {call : ApiCall} {ready : Except Fault String → World → Prop}
    {post : Except Fault Verdict → World → Prop}
    (token : (session.tokenFor stale).Ensures regime number ready world)
    (failed : ∀ fault between, ready (.error fault) between → post (.error fault) between)
    (unusable : ∀ fault token between, session.settings.timeout = .error fault →
      ready (.ok token) between → post (.error fault) between)
    (sent : ∀ timeout token between outcome after, session.settings.timeout = .ok timeout →
      ready (.ok token) between →
      (call.request (session.settings.baseUrl between.shared.instanceUrl?) token timeout).Exchanged
        regime number between outcome after →
      post (outcome.map (·.verdict token)) after) :
    (session.tryCall call stale).Ensures regime number post world := by
  unfold tryCall
  rw [Routine.ensures_bind]
  apply token.mono
  rintro (fault | token) between got
  · exact failed fault between got
  simp only
  rw [Routine.ensures_bind, Routine.ensures_get]
  simp only
  rw [Routine.ensures_bind, Routine.ensures_ofExcept]
  cases usable : session.settings.timeout with
  | error fault => exact unusable fault token between usable got
  | ok timeout =>
    simp only
    rw [Routine.ensures_bind]
    have entitles : between.Entitles number (.sent (call.request
        (session.settings.baseUrl between.shared.instanceUrl?) token timeout)) := by
      simp [World.Entitles, Deed.needs, ApiCall.request]
    apply (Request.ensures_send entitles).mono
    intro outcome after exchanged
    have ended := sent timeout token between outcome after usable got exchanged
    cases outcome with
    | error fault => exact ended
    | ok response =>
      simp only [Except.map, Response.verdict] at ended ⊢
      by_cases rejected : response.status = Response.unauthorizedStatus
      · rw [if_pos rejected] at ended ⊢
        exact ended
      · rw [if_neg rejected] at ended ⊢
        exact ended

end Session

end SessionKeeper
