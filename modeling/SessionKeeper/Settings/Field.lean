/-! # The fields of the settings

The six fields in the order in which they are declared, checked and reported.
-/

namespace SessionKeeper.Settings

inductive Field where
  | loginUrl
  | clientId
  | clientSecret
  | username
  | password
  | timeout
deriving DecidableEq, Repr

namespace Field

def all : List Field := [loginUrl, clientId, clientSecret, username, password, timeout]

def name : Field → String
  | loginUrl => "login_url"
  | clientId => "client_id"
  | clientSecret => "client_secret"
  | username => "username"
  | password => "password"
  | timeout => "timeout_ms"

def variableName : Field → String
  | loginUrl => "SFAUTH_LOGIN_URL"
  | clientId => "SFAUTH_CLIENT_ID"
  | clientSecret => "SFAUTH_CLIENT_SECRET"
  | username => "SFAUTH_USERNAME"
  | password => "SFAUTH_PASSWORD"
  | timeout => "SFAUTH_REQUEST_TIMEOUT_MS"

end Field

end SessionKeeper.Settings
