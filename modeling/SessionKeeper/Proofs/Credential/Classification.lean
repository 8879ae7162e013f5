import SessionKeeper.Proofs.Credential.Grant

/-! # Classified responses

A response to a login grants something, makes no sense or is a refusal, and which of these it is
hangs on its status and on what its body is read as (`Response.classifies`). Only for two statuses
the body is read at all. A refusal that its body explains does not look at the reason of the
response, and one that is told by the status does not look at the body.
-/

namespace SessionKeeper.Response

/-- What becomes of a response to a login. -/
structure Classifies (status : Int) (reason : Option Text) (body : Body) : Prop where
  /-- A success grants what its body is read as. -/
  grants (grant : Grant) : classifyLogin ⟨status, reason, body⟩ = .ok grant ↔
    status = 200 ∧ Grant.ofBody body = .ok grant
  /-- A body that is to be read and cannot be makes no sense. -/
  undecodable (problem : DecodeProblem) :
    classifyLogin ⟨status, reason, body⟩ = .error (.undecodable problem) ↔
      status = 200 ∧ Grant.ofBody body = .error problem ∨
        status = 400 ∧ LoginRefusal.ofBody body = .error problem
  /-- Everything else is a refusal with the status of the response. -/
  refuses : (∃ refusal : Refusal,
      classifyLogin ⟨status, reason, body⟩ = .error (.refused refusal) ∧
        refusal.status = status) ↔
    status ≠ 200 ∧ (status = 400 → ∃ named, LoginRefusal.ofBody body = .ok named)
  /-- A refusal that the body explains, whatever the reason of the response is. -/
  explained (named : LoginRefusal) (bad : status = 400)
    (read : LoginRefusal.ofBody body = .ok named) : ∃ refusal : Refusal,
    refusal.status = 400 ∧ refusal.description = some ↑named.description ∧
      refusal.errors = [⟨(Fault.refused refusal).message, some ↑named.code⟩] ∧
      ∀ other, classifyLogin ⟨status, other, body⟩ = .error (.refused refusal)
  /-- A refusal by the status, whatever the body is. -/
  unexplained (failed : status ≠ 200) (other : status ≠ 400) : ∃ refusal : Refusal,
    refusal.status = status ∧ refusal.description = reason ∧ refusal.errors = [] ∧
      ∀ other, classifyLogin ⟨status, reason, other⟩ = .error (.refused refusal)

variable {status : Int} {reason : Option Text} {body : Body}

theorem classifyLogin_ok : classifyLogin ⟨200, reason, body⟩ =
    match Grant.ofBody body with
    | .ok grant => .ok grant
    | .error problem => .error (.undecodable problem) := by
  unfold classifyLogin
  rw [if_pos (show (200 : Int) = okStatus from rfl)]
  cases Grant.ofBody body <;> rfl

theorem classifyLogin_badRequest : classifyLogin ⟨400, reason, body⟩ =
    match LoginRefusal.ofBody body with
    | .ok named => .error (.refused (namedRefusal named))
    | .error problem => .error (.undecodable problem) := by
  unfold classifyLogin
  rw [if_neg (show (400 : Int) ≠ okStatus by decide)]
  exact if_pos rfl

theorem classifyLogin_other (failed : status ≠ 200) (other : status ≠ 400) :
    classifyLogin ⟨status, reason, body⟩ = .error (.refused (bareRefusal status reason)) := by
  unfold classifyLogin
  rw [if_neg (show status ≠ okStatus from failed)]
  exact if_neg other

theorem classifies_ok : Classifies 200 reason body where
  grants grant := by
    rw [classifyLogin_ok]
    cases Grant.ofBody body <;> simp
  undecodable problem := by
    rw [classifyLogin_ok]
    cases Grant.ofBody body <;> simp
  refuses := by
    rw [classifyLogin_ok]
    cases Grant.ofBody body <;> simp
  explained named bad := absurd bad (by decide)
  unexplained failed := absurd rfl failed

theorem classifies_badRequest : Classifies 400 reason body where
  grants grant := by
    rw [classifyLogin_badRequest]
    cases LoginRefusal.ofBody body <;> simp
  undecodable problem := by
    rw [classifyLogin_badRequest]
    cases LoginRefusal.ofBody body <;> simp
  refuses := by
    rw [classifyLogin_badRequest]
    cases LoginRefusal.ofBody body <;> simp [namedRefusal, badRequestStatus]
  explained named _ read := by
    refine ⟨namedRefusal named, rfl, rfl, rfl, fun other => ?_⟩
    rw [classifyLogin_badRequest, read]
  unexplained _ other := absurd rfl other

/-- **Classification.** The status of a response and what its body is read as decide what becomes
of it. -/
theorem classifies (status : Int) (reason : Option Text) (body : Body) :
    Classifies status reason body := by
  by_cases success : status = 200
  · exact success ▸ classifies_ok
  by_cases bad : status = 400
  · exact bad ▸ classifies_badRequest
  have told (body : Body) : classifyLogin ⟨status, reason, body⟩ =
      .error (.refused (bareRefusal status reason)) := classifyLogin_other success bad
  exact {
    grants := fun grant => by simp [told, success]
    undecodable := fun problem => by simp [told, success, bad]
    refuses := ⟨fun _ => ⟨success, fun asked => absurd asked bad⟩, fun _ => ⟨_, told body, rfl⟩⟩
    explained := fun _ asked => absurd asked bad
    unexplained := fun _ _ => ⟨bareRefusal status reason, rfl, rfl, rfl, told⟩ }

theorem classifies_explained :
    let body : Body := .bytes (Utf8.encode "\x7b\"error\": \"invalid_grant\"\x7d")
    LoginRefusal.ofBody body = .ok ⟨"invalid_grant", ""⟩ ∧
      ∃ refusal : Refusal, refusal.status = 400 ∧ refusal.description = some ↑"" ∧
        refusal.errors = [⟨(Fault.refused refusal).message, some ↑"invalid_grant"⟩] ∧
        ∀ other, classifyLogin ⟨400, other, body⟩ = .error (.refused refusal) := by
  intro body
  have read : LoginRefusal.ofBody body = .ok ⟨"invalid_grant", ""⟩ :=
    Except.ok_of_toOption (by decide +kernel)
  exact ⟨read, (classifies 400 none body).explained _ rfl read⟩

end SessionKeeper.Response
