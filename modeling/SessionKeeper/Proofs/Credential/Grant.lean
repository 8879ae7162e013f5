import SessionKeeper.Credential.Basic
import SessionKeeper.Proofs.Settings.Offences

/-! # Grants

Both parts of a grant are there: a reply without a token, without an address, or with an empty text
for one of the two grants nothing.
-/

namespace SessionKeeper

/-- A computation that succeeds goes on from the value of its first part. -/
theorem Except.ok_of_bind {ε α β : Type} {first : Except ε α} {next : α → Except ε β} {result : β}
    (success : first >>= next = .ok result) :
    ∃ value, first = .ok value ∧ next value = .ok result := by
  cases first with
  | error fault => cases success
  | ok value => exact ⟨value, rfl, success⟩

/-- A computation succeeds whatever its failures are turned into. -/
theorem Except.ok_of_mapError {ε δ α : Type} {spoken : ε → δ} {first : Except ε α} {result : α}
    (success : first.mapError spoken = .ok result) : first = .ok result := by
  cases first with
  | error fault => cases success
  | ok value => exact congrArg Except.ok (Except.ok.inj success)

theorem Except.ok_of_toOption {ε α : Type} {outcome : Except ε α} {value : α}
    (present : outcome.toOption = some value) : outcome = .ok value := by
  cases outcome with
  | error fault => cases present
  | ok other => exact congrArg Except.ok (Option.some.inj present)

theorem Reply.required_text_ne_empty {body : Json} {name text : String}
    (read : Reply.required body name Settings.readText = .ok text) : text ≠ "" := by
  unfold required at read
  split at read
  · cases read
  · exact (Settings.readText_eq_ok_iff.mp (Except.ok_of_mapError read)).2

/-- Neither part of the credential that a body grants is empty. -/
theorem Grant.ne_empty {body : Body} {grant : Grant} (read : Grant.ofBody body = .ok grant) :
    grant.accessToken ≠ "" ∧ grant.instanceUrl ≠ "" := by
  unfold ofBody at read
  obtain ⟨object, _, read⟩ := Except.ok_of_bind read
  obtain ⟨accessToken, token, read⟩ := Except.ok_of_bind read
  obtain ⟨instanceUrl, url, read⟩ := Except.ok_of_bind read
  obtain ⟨identity, _, read⟩ := Except.ok_of_bind read
  obtain ⟨tokenType, _, read⟩ := Except.ok_of_bind read
  obtain ⟨issuedAt, _, read⟩ := Except.ok_of_bind read
  obtain ⟨signature, _, read⟩ := Except.ok_of_bind read
  obtain rfl := Except.ok.inj read
  exact ⟨Reply.required_text_ne_empty token, Reply.required_text_ne_empty url⟩

/-- A response that grants something is a success whose body spells the grant. -/
theorem Response.of_classifyLogin {response : Response} {grant : Grant}
    (granted : response.classifyLogin = .ok grant) :
    response.status = Response.okStatus ∧ Grant.ofBody response.body = .ok grant := by
  unfold classifyLogin at granted
  split at granted
  · rename_i success
    exact ⟨success, Except.ok_of_mapError granted⟩
  · split at granted
    · split at granted <;> cases granted
    · cases granted

/-- A success whose body spells a grant grants it. -/
theorem Response.classifyLogin_of_grant {response : Response} {grant : Grant}
    (success : response.status = Response.okStatus)
    (spelled : Grant.ofBody response.body = .ok grant) : response.classifyLogin = .ok grant := by
  unfold classifyLogin
  rw [if_pos success, spelled]
  rfl

end SessionKeeper
