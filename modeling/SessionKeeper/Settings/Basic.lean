import SessionKeeper.Fault.Basic
import SessionKeeper.Settings.Environment
import SessionKeeper.Settings.Timeout
import SessionKeeper.Text.Blank

/-! # Settings

What is needed to log in: an address, four credentials and a timeout. `Settings.ofValues` checks
named values and reports every field that is wanting, in declaration order. Credentials are kept as
they are given; the address is trimmed and loses its trailing slashes, so that paths can be appended
to it.
-/

namespace SessionKeeper

structure Settings where
  loginUrl : String
  clientId : String
  clientSecret : String
  username : String
  password : String
  /-- Milliseconds after which a request has failed. -/
  timeoutMs : Int
deriving DecidableEq, Repr, Inhabited

/-- Named values that settings are built from. -/
abbrev Values := List (Text × Json)

namespace Settings

def defaultLoginUrl : String := "https://login.salesforce.com"

/-- A text that is not empty. -/
def readText : Json → Except ValueProblem String
  | .text value =>
    match value.toString? with
    | none => .error .loneSurrogate
    | some text => if text.isEmpty then .error .empty else .ok text
  | _ => .error .notText

def normalizeUrl (url : String) : String :=
  Text.dropTrailingChar '/' (Text.strip url)

def readUrl (value : Json) : Except ValueProblem String :=
  match readText value with
  | .ok text =>
    let url := normalizeUrl text
    if url.isEmpty then .error .emptyUrl else .ok url
  | .error problem => .error problem

def readCredential (value : Json) : Except ValueProblem String :=
  match readText value with
  | .ok text => if Text.isBlank text then .error .blank else .ok text
  | .error problem => .error problem

def readField {α : Type} (values : Values) (field : Field) (default : Option α)
    (reader : Json → Except ValueProblem α) : Except ValueProblem α :=
  match Json.memberOf? values field.name, default with
  | some value, _ => reader value
  | none, some default => .ok default
  | none, none => .error .missing

def offence? {α : Type} (field : Field) : Except ValueProblem α → List (Field × ValueProblem)
  | .ok _ => []
  | .error problem => [(field, problem)]

/-- Build settings from named values. Names that are no fields have no influence, apart from the one
that stands for the settings themselves. -/
def ofValues (defaults : Defaults) (values : Values) : Except Fault Settings :=
  if (Json.memberOf? values "self").isSome then .error (.foreign .reservedName)
  else
    let loginUrl := readField values .loginUrl (some defaultLoginUrl) readUrl
    let clientId := readField values .clientId none readCredential
    let clientSecret := readField values .clientSecret none readCredential
    let username := readField values .username none readCredential
    let password := readField values .password none readCredential
    let timeout := readField values .timeout (some defaults.timeout) readTimeout
    match loginUrl, clientId, clientSecret, username, password, timeout with
    | .ok loginUrl, .ok clientId, .ok clientSecret, .ok username, .ok password, .ok timeout =>
      .ok ⟨loginUrl, clientId, clientSecret, username, password, timeout⟩
    | _, _, _, _, _, _ =>
      .error (.configuration (.offences
        (offence? .loginUrl loginUrl ++ offence? .clientId clientId ++
          offence? .clientSecret clientSecret ++ offence? .username username ++
          offence? .password password ++ offence? .timeout timeout)))

def isGiven : Json → Bool
  | .null => false
  | _ => true

/-- Build settings from named values of which a null counts as absent. -/
def ofGivenValues (defaults : Defaults) (values : Values) : Except Fault Settings :=
  ofValues defaults (values.filter fun (_, value) => isGiven value)

/-- What settings are called. -/
def kindName : String := "SessionConfig"

def timeout (settings : Settings) : Except Fault Binary64 :=
  match Binary64.ofRatio (settings.timeoutMs < 0) settings.timeoutMs.natAbs 1000 with
  | .infinite _ => .error (.foreign .timeoutOverflow)
  | seconds => .ok seconds

def describe (settings : Settings) : String :=
  s!"{kindName}(login_url={Text.quote settings.loginUrl}, " ++
    s!"client_id={Text.quote settings.clientId}, username={Text.quote settings.username}, " ++
    s!"timeout_ms={settings.timeoutMs})"

end Settings

end SessionKeeper
