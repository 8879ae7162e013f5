import SessionKeeper.Credential.Reply

/-! # Credentials

What a session holds while it is logged in: a token, and the address of the instance it is for. The
two come from one reply and are kept as one value, so neither can be held without the other.
-/

namespace SessionKeeper

/-- A token and the instance it is for. -/
structure Credential where
  token : String
  instanceUrl : String
deriving DecidableEq, Repr

def Grant.credential (grant : Grant) : Credential := ⟨grant.accessToken, grant.instanceUrl⟩

namespace Credential

/-- The printable form of what is held, which leaves the token out. -/
def describe (held : Option Credential) : String :=
  let shown := match held with
    | some credential => Text.quote credential.instanceUrl
    | none => "None"
  let authenticated := if held.isSome then "True" else "False"
  s!"SessionState(authenticated={authenticated}, instance_url={shown})"

end Credential

end SessionKeeper
