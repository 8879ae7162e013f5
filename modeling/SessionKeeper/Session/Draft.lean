import SessionKeeper.Credential.Reply
import SessionKeeper.Fault.Reported
import SessionKeeper.Text.FormUrl

/-! # Drafts of login and logout requests

Both requests go to the instance that is logged in to, or else to the login address. A login carries
its credentials as form fields; a logout carries the token that it revokes in its address.
-/

namespace SessionKeeper.Settings

/-- Where tokens are granted. -/
def tokenPath : String := "/services/oauth2/token"

/-- Where tokens are revoked. -/
def revokePath : String := "/services/oauth2/revoke"

/-- The address that paths are appended to. -/
def baseUrl (settings : Settings) (instanceUrl : Option Text) : Text :=
  (instanceUrl.filter (!·.isEmpty)).getD settings.loginUrl

def loginAddress (settings : Settings) (instanceUrl : Option Text) : Text :=
  settings.baseUrl instanceUrl ++ tokenPath

def loginForm (settings : Settings) : List (Text × Text) :=
  [("grant_type", "password"), ("client_id", settings.clientId),
    ("client_secret", settings.clientSecret), ("username", settings.username),
    ("password", settings.password), ("format", "json")]

/-- The request of a login. Its line is written even if the timeout is of no use. -/
def draftLogin (settings : Settings) (instanceUrl : Option Text) : Reported Request := do
  let url := settings.loginAddress instanceUrl
  Reported.say .info (s!"🔑 Login user {settings.username} at loginUrl: " ++ url)
  let timeout ← Reported.ofExcept settings.timeout
  pure ⟨"POST", url, timeout, some settings.loginForm, none, "Login"⟩

/-- The address that revokes the token with a form-encoded spelling. -/
def logoutAddress (settings : Settings) (encoded : String) (instanceUrl : Option Text) : Text :=
  settings.baseUrl instanceUrl ++ revokePath ++ "?token=" ++ encoded

/-- The request of a logout. A token with a surrogate has no place in an address. -/
def draftLogout (settings : Settings) (token : Text) (instanceUrl : Option Text) :
    Except Fault Request :=
  match FormUrl.encodeText token with
  | .error fault => .error (.foreign (.unencodable fault))
  | .ok encoded =>
    settings.timeout.map fun timeout =>
      ⟨"GET", settings.logoutAddress encoded instanceUrl, timeout, none, none, "Logout"⟩

end SessionKeeper.Settings
