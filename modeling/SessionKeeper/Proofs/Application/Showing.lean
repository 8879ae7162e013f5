import SessionKeeper.Proofs.Application.Secrecy
import SessionKeeper.Proofs.Text.Quoting

/-! # What printable forms show

The printable form of a request tells its method, its address, its operation and its whole form, and
nothing of its headers (`Request.describe_eq_iff`). The token of an API request stands in a header,
but the client secret and the password of a login request stand in its form. So of two runs with
different secrets and tokens neither settings nor sessions nor API requests tell which is which, but
every login request does (`Disguise.Printed`, `Disguise.printed_eq`).
-/

namespace SessionKeeper

namespace Request

/-! ## Requests -/

/-- A field of a form, as the printable form of a request shows it. -/
def showField (field : Text × Text) : String := s!"{Text.quote field.1}: {Text.quote field.2}"

theorem toList_showField (field : Text × Text) :
    (showField field).toList =
      (Text.quote field.1).toList ++ (':' :: ' ' :: (Text.quote field.2).toList) := by
  have shown : showField field = Text.quote field.1 ++ (": " ++ Text.quote field.2) :=
    String.append_assoc
  rw [shown, String.toList_append, String.toList_append]
  rfl

theorem showField_append_inj {first second : Text × Text} {rest other : List Char}
    (same : (showField first).toList ++ rest = (showField second).toList ++ other) :
    first = second ∧ rest = other := by
  simp only [toList_showField, List.append_assoc, List.cons_append] at same
  obtain ⟨name, behind⟩ := Text.quote_append_inj same
  obtain ⟨value, ended⟩ := Text.quote_append_inj (List.cons.inj (List.cons.inj behind).2).2
  exact ⟨Prod.ext name value, ended⟩

/-- What follows a field: a comma and the next field, or nothing. -/
def showRest : List (Text × Text) → List Char
  | [] => []
  | field :: rest => ',' :: ' ' :: ((showField field).toList ++ showRest rest)

theorem toList_intercalate_showField (field : Text × Text) (rest : List (Text × Text)) :
    (", ".intercalate ((field :: rest).map showField)).toList =
      (showField field).toList ++ showRest rest := by
  induction rest generalizing field with
  | nil => simp [showRest]
  | cons next rest ih =>
    have others := ih next
    simp only [List.map_cons] at others ⊢
    rw [String.intercalate_cons_cons, String.toList_append, String.toList_append, others,
      showRest, List.append_assoc]
    rfl

theorem showRest_append_inj {first second : List (Text × Text)} {rest other : List Char}
    (same : showRest first ++ '\x7d' :: rest = showRest second ++ '\x7d' :: other) :
    first = second ∧ rest = other := by
  induction first generalizing second with
  | nil =>
    cases second with
    | nil => exact ⟨rfl, (List.cons.inj same).2⟩
    | cons field fields => exact absurd (List.cons.inj same).1 (by decide)
  | cons field fields ih =>
    cases second with
    | nil => exact absurd (List.cons.inj same).1 (by decide)
    | cons again others =>
      simp only [showRest, List.cons_append, List.append_assoc] at same
      obtain ⟨rfl, behind⟩ := showField_append_inj (List.cons.inj (List.cons.inj same).2).2
      obtain ⟨rfl, ended⟩ := ih behind
      exact ⟨rfl, ended⟩

/-- The fields of a form as they are shown between braces. -/
def showFields : List (Text × Text) → List Char
  | [] => []
  | field :: rest => (showField field).toList ++ showRest rest

theorem toList_showForm (fields : List (Text × Text)) :
    (showForm (some fields)).toList = '\x7b' :: (showFields fields ++ ['\x7d']) := by
  have shown : showForm (some fields) =
      "\x7b" ++ ", ".intercalate (fields.map showField) ++ "\x7d" := rfl
  rw [shown, String.toList_append, String.toList_append]
  cases fields with
  | nil => rfl
  | cons field rest =>
    rw [toList_intercalate_showField]
    rfl

/-- A field is not shown as the end of a form. -/
theorem showField_append_ne (field : Text × Text) (rest other : List Char) :
    (showField field).toList ++ rest ≠ '\x7d' :: other := by
  rw [toList_showField, Text.toList_quote]
  intro same
  have mark : Text.quoteMarkFor field.1 = '\x7d' := (List.cons.inj same).1
  rcases Text.isQuoteMark_quoteMarkFor field.1 with single | double
  · rw [single] at mark
    exact absurd mark (by decide)
  · rw [double] at mark
    exact absurd mark (by decide)

theorem showFields_append_inj {first second : List (Text × Text)} {rest other : List Char}
    (same : showFields first ++ '\x7d' :: rest = showFields second ++ '\x7d' :: other) :
    first = second ∧ rest = other := by
  cases first with
  | nil =>
    cases second with
    | nil => exact ⟨rfl, (List.cons.inj same).2⟩
    | cons field fields =>
      rw [showFields, showFields, List.append_assoc] at same
      exact absurd same.symm (showField_append_ne field _ _)
  | cons field fields =>
    cases second with
    | nil =>
      rw [showFields, showFields, List.append_assoc] at same
      exact absurd same (showField_append_ne field _ _)
    | cons again others =>
      simp only [showFields, List.append_assoc] at same
      obtain ⟨rfl, behind⟩ := showField_append_inj same
      obtain ⟨rfl, ended⟩ := showRest_append_inj behind
      exact ⟨rfl, ended⟩

/-- A form that is shown tells the form, and where it ends. -/
theorem showForm_append_inj {first second : Option (List (Text × Text))} {rest other : List Char}
    (same : (showForm first).toList ++ rest = (showForm second).toList ++ other) :
    first = second ∧ rest = other := by
  cases first with
  | none =>
    cases second with
    | none => exact ⟨rfl, List.append_cancel_left same⟩
    | some fields =>
      rw [toList_showForm] at same
      exact absurd (List.cons.inj same).1 (by decide)
  | some fields =>
    cases second with
    | none =>
      rw [toList_showForm] at same
      exact absurd (List.cons.inj same).1 (by decide)
    | some others =>
      simp only [toList_showForm, List.cons_append, List.append_assoc] at same
      obtain ⟨rfl, ended⟩ := showFields_append_inj (List.cons.inj same).2
      exact ⟨rfl, ended⟩

/-- What stands in the printable form of a request before, between and behind its parts. -/
theorem exists_describe (shown : String) :
    ∃ opening address form operation closing : List Char, ∀ request : Request,
      (request.describe shown).toList = opening ++ ((Text.quote request.method).toList ++
        (address ++ ((Text.quote request.url).toList ++ (form ++ ((showForm request.form).toList ++
          (operation ++ ((Text.quote request.operation).toList ++ closing))))))) := by
  refine ⟨"HttpRequest(method=".toList, ", url=".toList,
    ", ".toList ++ ("timeout=".toList ++ (shown.toList ++ ", data=".toList)),
    ", ".toList ++ "operation=".toList, ")".toList, fun request => ?_⟩
  delta describe
  simp only [String.toList_append, List.append_assoc]
  rfl

/-- The printable form of a request tells everything but the headers and the timeout. -/
theorem describe_eq_iff {first second : Request} {shown : String} :
    first.describe shown = second.describe shown ↔
      first.method = second.method ∧ first.url = second.url ∧ first.form = second.form ∧
        first.operation = second.operation := by
  obtain ⟨opening, address, form, operation, closing, spelled⟩ := exists_describe shown
  constructor
  · intro same
    have chars := congrArg String.toList same
    rw [spelled, spelled] at chars
    obtain ⟨methods, chars⟩ := Text.quote_append_inj (List.append_cancel_left chars)
    obtain ⟨urls, chars⟩ := Text.quote_append_inj (List.append_cancel_left chars)
    obtain ⟨forms, chars⟩ := showForm_append_inj (List.append_cancel_left chars)
    obtain ⟨operations, _⟩ := Text.quote_append_inj (List.append_cancel_left chars)
    exact ⟨methods, urls, forms, operations⟩
  · rintro ⟨methods, urls, forms, operations⟩
    delta describe
    rw [methods, urls, forms, operations]

/-- The printable form of a request, for a way to show timeouts. -/
def printed (shown : Binary64 → String) (request : Request) : String :=
  request.describe (shown request.timeout)

theorem printed_eq_iff {first second : Request} {shown : Binary64 → String}
    (timeout : first.timeout = second.timeout) :
    first.printed shown = second.printed shown ↔
      first.method = second.method ∧ first.url = second.url ∧ first.form = second.form ∧
        first.operation = second.operation := by
  unfold printed
  rw [timeout]
  exact describe_eq_iff

end Request

/-- A run in disguise sends the requests of the run without, drafted for the same. -/
theorem Application.sent_of_disguise {disguise : Disguise} {settings : Settings}
    (closing : Except Fault Unit) {endpoint again : Endpoint}
    (endpoints : endpoint.Alike (disguise.likeness settings) again) {first second : Shared}
    (states : disguise.States settings first second) {events happenings : List (Event Errand)}
    (same : List.Forall₂ (Event.Alike disguise.Errands) events happenings) :
    List.Forall₂ (disguise.Requests settings)
      (course settings closing endpoint first events).crew.shared.sent
      (course (disguise.settings settings) closing again second happenings).crew.shared.sent :=
  have initial : (Course.initial first : Course CallReply).crew.Alike
      (disguise.likeness settings) (fun _ _ => True) (Course.initial second).crew :=
    ⟨states, .nil, rfl, rfl⟩
  (Course.alike_follow endpoints (Disguise.alike_errand closing) same initial).shared.sent

/-- What is held shows its address only. -/
theorem Credential.describe_eq {held other : Option Credential}
    (same : other.map (·.instanceUrl) = held.map (·.instanceUrl)) :
    describe other = describe held := by
  cases held with
  | none =>
    cases other with
    | none => rfl
    | some credential => cases same
  | some credential =>
    cases other with
    | none => cases same
    | some again =>
      obtain ⟨token, address⟩ := again
      obtain rfl : address = credential.instanceUrl := Option.some.inj same
      rfl

namespace Disguise

variable {disguise : Disguise} {settings : Settings}

/-- What printable forms tell of a run with other secrets and other tokens, however timeouts are
shown. -/
structure Printed (disguise : Disguise) (settings : Settings) (shown : Binary64 → String) :
    Prop where
  /-- Settings do not show their secrets. -/
  ofSettings : (disguise.settings settings).describe = settings.describe
  /-- A session shows the address of what it holds, if it holds anything. -/
  ofSession : ∀ held other : Option Credential,
    other.map (·.instanceUrl) = held.map (·.instanceUrl) →
      Session.describe ⟨disguise.settings settings⟩ other = Session.describe ⟨settings⟩ held
  /-- A request to the API does not show the token that it carries. -/
  ofCall : ∀ (call : ApiCall) url token other timeout,
    (call.request ((disguise.settings settings).baseUrl url) other timeout).printed shown =
      (call.request (settings.baseUrl url) token timeout).printed shown
  /-- So the requests to the API that an application sends show the same in both runs, in whatever
  order tasks go on and wherever waits are broken off. -/
  sent : ∀ closing endpoint again, endpoint.Alike (disguise.likeness settings) again →
    ∀ first second, disguise.States settings first second →
      ∀ events happenings, List.Forall₂ (Event.Alike disguise.Errands) events happenings →
        List.Forall₂
          (fun asked other =>
            asked.operation = Text.ofString "API" → other.printed shown = asked.printed shown)
          (Application.course settings closing endpoint first events).crew.shared.sent
          (Application.course (disguise.settings settings) closing again second
            happenings).crew.shared.sent
  /-- A login request is drafted in both runs or in none, and shows both secrets. -/
  ofLogin : ∀ url,
    (∃ fault, (settings.draftLogin url).outcome = .error fault ∧
      ((disguise.settings settings).draftLogin url).outcome = .error fault) ∨
    ∃ request other, (settings.draftLogin url).outcome = .ok request ∧
      ((disguise.settings settings).draftLogin url).outcome = .ok other ∧
      (other.printed shown = request.printed shown ↔
        disguise.clientSecret = settings.clientSecret ∧ disguise.password = settings.password)

theorem logout_ne_api : Text.ofString "Logout" ≠ "API" := by decide +kernel

theorem Requests.printed {asked other : Request}
    (requests : disguise.Requests settings asked other)
    (api : asked.operation = Text.ofString "API") (shown : Binary64 → String) :
    other.printed shown = asked.printed shown := by
  cases requests with
  | login url _ _ draft again =>
    obtain ⟨_, _, rfl⟩ := Settings.eq_of_draftLogin draft
    exact absurd api.symm api_ne_login
  | logout token url _ _ draft again =>
    obtain ⟨_, _, _, _, rfl⟩ := Settings.eq_of_draftLogout draft
    exact absurd api logout_ne_api
  | api call base token timeout =>
    exact (Request.printed_eq_iff rfl).mpr ⟨rfl, rfl, rfl, rfl⟩

theorem loginForm_eq_iff :
    (disguise.settings settings).loginForm = settings.loginForm ↔
      disguise.clientSecret = settings.clientSecret ∧ disguise.password = settings.password := by
  simp [Settings.loginForm, Disguise.settings, Text.ofString_inj]

theorem printed_draftLogin_iff {url : Option Text} {request other : Request}
    {shown : Binary64 → String} (draft : (settings.draftLogin url).outcome = .ok request)
    (again : ((disguise.settings settings).draftLogin url).outcome = .ok other) :
    other.printed shown = request.printed shown ↔
      disguise.clientSecret = settings.clientSecret ∧ disguise.password = settings.password := by
  obtain ⟨timeout, usable, rfl⟩ := Settings.eq_of_draftLogin draft
  obtain ⟨_, same, rfl⟩ := Settings.eq_of_draftLogin again
  obtain rfl := Except.ok.inj (usable.symm.trans same)
  rw [Request.printed_eq_iff (by rfl), ← loginForm_eq_iff]
  constructor
  · rintro ⟨_, _, forms, _⟩
    exact Option.some.inj forms
  · intro forms
    exact ⟨rfl, rfl, congrArg some forms, rfl⟩

/-- **A login request shows its secrets; settings, sessions and API requests do not.** Settings with
another client secret and another password, sessions for them that hold another token, and requests
to the API with another token have the same printable forms. A login request for such settings has
the same printable form if and only if they have the same client secret and the same password. -/
theorem printed_eq (disguise : Disguise) (settings : Settings) (shown : Binary64 → String) :
    disguise.Printed settings shown where
  ofSettings := rfl
  ofSession _ _ same := congrArg
    (fun state : String => s!"SessionCoordinator(user={Text.quote settings.username}, " ++
      s!"state={state})") (Credential.describe_eq same)
  ofCall _ _ _ _ _ := (Request.printed_eq_iff rfl).mpr ⟨rfl, rfl, rfl, rfl⟩
  sent closing endpoint again endpoints first second states events happenings same :=
    (Application.sent_of_disguise closing endpoints states same).imp
      fun _ _ requests api => requests.printed api shown
  ofLogin url := by
    have draft := settings.outcome_draftLogin url
    have other := (disguise.settings settings).outcome_draftLogin url
    rw [show (disguise.settings settings).timeout = settings.timeout from rfl] at other
    cases usable : settings.timeout with
    | error fault =>
      rw [usable] at draft other
      exact .inl ⟨fault, draft, other⟩
    | ok timeout =>
      rw [usable] at draft other
      exact .inr ⟨_, _, draft, other, printed_draftLogin_iff draft other⟩

/-- Settings that look the same draft logins that look different. -/
theorem printed_eq_drafted :
    let settings : Settings := ⟨"https://login.test", "id", "secret", "user", "password", 5000⟩
    let disguise : Disguise := ⟨id, Function.injective_id, "other secret", "other password"⟩
    ∀ shown, (disguise.settings settings).describe = settings.describe ∧
      ∃ request other, (settings.draftLogin none).outcome = .ok request ∧
        ((disguise.settings settings).draftLogin none).outcome = .ok other ∧
        other.printed shown ≠ request.printed shown := by
  intro settings disguise shown
  obtain ⟨ofSettings, _, _, _, ofLogin⟩ := printed_eq disguise settings shown
  refine ⟨ofSettings, ?_⟩
  obtain ⟨fault, failed, _⟩ | ⟨request, other, draft, again, tells⟩ := ofLogin none
  · have drafted : (settings.draftLogin none).outcome.isOk := by decide +kernel
    rw [failed] at drafted
    cases drafted
  · refine ⟨request, other, draft, again, fun same => ?_⟩
    obtain ⟨secret, _⟩ := tells.mp same
    exact absurd secret (by decide)

end Disguise

end SessionKeeper
