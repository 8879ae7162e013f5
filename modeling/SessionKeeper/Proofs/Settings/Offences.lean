import Mathlib.Data.List.Basic
import SessionKeeper.Proofs.Settings.Members
import SessionKeeper.Settings.Basic

/-! # Checked values

Which named values make settings (`Settings.Stores`), and which fields are wanting in the values
that do not (`Settings.Offends`). Both are said of the values alone. Settings are built just from
values in which no field is wanting, and whatever else is turned down with a report that names the
wanting fields, each one once and in the order of their declaration (`Settings.validates`).
-/

namespace SessionKeeper.Settings

variable {defaults : Defaults} {values other : Values} {settings : Settings} {field : Field}

/-- What is given for a field does not do. A credential has to be given, and to hold more than
blanks; the other fields may be left out. -/
def Field.Refuses : Field → Option Json → Prop
  | .loginUrl, given => ∃ value, given = some value ∧
      ¬ ∃ url : String, value = .text ↑url ∧ normalizeUrl url ≠ ""
  | .timeout, given => ∃ value, given = some value ∧
      ¬ ∃ milliseconds, integerOf value = .ok milliseconds ∧ 0 < milliseconds
  | _, given => ¬ ∃ text : String, given = some (.text ↑text) ∧
      ∃ c ∈ text.toList, Text.isBlankChar c = false

/-- The values are wanting in a field. -/
def Offends (values : Values) (field : Field) : Prop :=
  field.Refuses (Json.memberOf? values field.name)

/-- The credentials with the fields that they are given by. -/
def credentials (settings : Settings) : List (Field × String) :=
  [(.clientId, settings.clientId), (.clientSecret, settings.clientSecret),
    (.username, settings.username), (.password, settings.password)]

/-- Credentials are not given by the fields that may be left out. -/
theorem required_of_mem_credentials {entry : Field × String}
    (member : entry ∈ settings.credentials) : entry.1 ≠ .loginUrl ∧ entry.1 ≠ .timeout := by
  simp only [credentials, List.mem_cons, List.not_mem_nil, or_false] at member
  rcases member with rfl | rfl | rfl | rfl <;> exact ⟨nofun, nofun⟩

/-- The settings are what the values say: the credentials verbatim, the address without what
surrounds it, and defaults for the two fields that may be left out. -/
structure Stores (defaults : Defaults) (values : Values) (settings : Settings) : Prop where
  loginUrl : Json.memberOf? values Field.loginUrl.name = none ∧
      settings.loginUrl = defaultLoginUrl ∨
    ∃ url : String, Json.memberOf? values Field.loginUrl.name = some (.text ↑url) ∧
      settings.loginUrl = normalizeUrl url ∧ settings.loginUrl ≠ ""
  credentials : ∀ entry ∈ settings.credentials,
    Json.memberOf? values entry.1.name = some (.text ↑entry.2) ∧
      ∃ c ∈ entry.2.toList, Text.isBlankChar c = false
  timeout : Json.memberOf? values Field.timeout.name = none ∧
      settings.timeoutMs = defaults.timeout ∨
    ∃ value, Json.memberOf? values Field.timeout.name = some value ∧
      integerOf value = .ok settings.timeoutMs ∧ 0 < settings.timeoutMs

/-! ## Single values -/

theorem readText_eq_ok_iff {value : Json} {text : String} :
    readText value = .ok text ↔ value = .text ↑text ∧ text ≠ "" := by
  cases value with
  | text given =>
    cases spelled : given.toString? with
    | none =>
      have other : given ≠ ↑text := by
        rintro rfl
        cases (Text.toString?_ofString text).symm.trans spelled
      simp [readText, spelled, other]
    | some string =>
      obtain rfl := Text.ofString_of_toString? spelled
      simp only [readText, spelled, Json.text.injEq, Text.ofString_inj]
      by_cases empty : string = ""
      · simp only [String.isEmpty_iff, empty, if_true, reduceCtorEq, false_iff]
        rintro ⟨rfl, filled⟩
        exact filled rfl
      · simp only [String.isEmpty_iff, empty, if_false, Except.ok.injEq, iff_self_and]
        rintro rfl
        exact empty
  | _ => simp [readText]

/-- An address is what is left of a text without what surrounds it. -/
theorem readUrl_eq_ok_iff {value : Json} {stored : String} :
    readUrl value = .ok stored ↔
      ∃ url : String, value = .text ↑url ∧ stored = normalizeUrl url ∧ stored ≠ "" := by
  unfold readUrl
  cases read : readText value with
  | error problem =>
    simp only [reduceCtorEq, false_iff]
    rintro ⟨url, rfl, rfl, filled⟩
    by_cases present : url = ""
    · rw [present] at filled
      exact filled rfl
    · cases (readText_eq_ok_iff.mpr ⟨rfl, present⟩).symm.trans read
  | ok text =>
    obtain ⟨rfl, _⟩ := readText_eq_ok_iff.mp read
    simp only [Json.text.injEq, Text.ofString_inj, String.isEmpty_iff]
    constructor
    · intro done
      split at done
      · cases done
      · rename_i filled
        obtain rfl := Except.ok.inj done
        exact ⟨text, rfl, rfl, filled⟩
    · rintro ⟨url, rfl, rfl, filled⟩
      rw [if_neg filled]

/-- A credential is a text that holds more than blanks. -/
theorem readCredential_eq_ok_iff {value : Json} {text : String} :
    readCredential value = .ok text ↔
      value = .text ↑text ∧ ∃ c ∈ text.toList, Text.isBlankChar c = false := by
  have blank (string : String) : ¬ Text.isBlank string = true ↔
      ∃ c ∈ string.toList, Text.isBlankChar c = false := by
    simp [Text.isBlank]
  unfold readCredential
  cases read : readText value with
  | error problem =>
    simp only [reduceCtorEq, false_iff]
    rintro ⟨rfl, c, member, _⟩
    have present : text ≠ "" := by
      rintro rfl
      cases member
    cases (readText_eq_ok_iff.mpr ⟨rfl, present⟩).symm.trans read
  | ok string =>
    obtain ⟨rfl, _⟩ := readText_eq_ok_iff.mp read
    simp only [Json.text.injEq, Text.ofString_inj]
    constructor
    · intro done
      split at done
      · cases done
      · rename_i filled
        obtain rfl := Except.ok.inj done
        exact ⟨rfl, (blank string).mp filled⟩
    · rintro ⟨rfl, filled⟩
      rw [if_neg ((blank string).mpr filled)]

theorem readTimeout_eq_ok_iff {value : Json} {milliseconds : Int} :
    readTimeout value = .ok milliseconds ↔
      integerOf value = .ok milliseconds ∧ 0 < milliseconds := by
  unfold readTimeout
  cases integerOf value with
  | error problem => simp
  | ok number =>
    simp only [gt_iff_lt, Except.ok.injEq]
    constructor
    · intro done
      split at done
      · rename_i positive
        obtain rfl := Except.ok.inj done
        exact ⟨rfl, positive⟩
      · cases done
    · rintro ⟨rfl, positive⟩
      rw [if_pos positive]

/-! ## Single fields -/

/-- What is wrong with a value that was read. -/
def problemOf {α : Type} : Except ValueProblem α → Option ValueProblem
  | .ok _ => none
  | .error problem => some problem

theorem problemOf_eq_none_iff {α : Type} {read : Except ValueProblem α} :
    problemOf read = none ↔ ∃ value, read = .ok value := by
  cases read <;> simp [problemOf]

theorem offence?_eq {α : Type} (field : Field) (read : Except ValueProblem α) :
    offence? field read = ((problemOf read).map fun problem => (field, problem)).toList := by
  cases read <;> rfl

theorem readField_eq_ok_iff {α : Type} {default : Option α} {reader : Json → Except ValueProblem α}
    {value : α} : readField values field default reader = .ok value ↔
      Json.memberOf? values field.name = none ∧ default = some value ∨
        ∃ given, Json.memberOf? values field.name = some given ∧ reader given = .ok value := by
  unfold readField
  cases Json.memberOf? values field.name with
  | some given => simp
  | none => cases default <;> simp

/-- What is wrong with what is given for a field. -/
def Field.problem? : Field → Option Json → Option ValueProblem
  | .loginUrl, given => given.bind fun value => problemOf (readUrl value)
  | .timeout, given => given.bind fun value => problemOf (readTimeout value)
  | _, none => some .missing
  | _, some value => problemOf (readCredential value)

/-- What does not do is what something is wrong with. -/
theorem Field.refuses_iff {given : Option Json} :
    field.Refuses given ↔ field.problem? given ≠ none := by
  cases field with
  | loginUrl =>
    cases given with
    | none => simp [Refuses, problem?]
    | some value =>
      have read : (∃ stored, readUrl value = .ok stored) ↔
          ∃ url : String, value = .text ↑url ∧ normalizeUrl url ≠ "" := by
        simp only [readUrl_eq_ok_iff]
        constructor
        · rintro ⟨_, url, rfl, rfl, filled⟩
          exact ⟨url, rfl, filled⟩
        · rintro ⟨url, rfl, filled⟩
          exact ⟨_, url, rfl, rfl, filled⟩
      simp [Refuses, problem?, problemOf_eq_none_iff, read]
  | timeout =>
    cases given with
    | none => simp [Refuses, problem?]
    | some value => simp [Refuses, problem?, problemOf_eq_none_iff, readTimeout_eq_ok_iff]
  | clientId | clientSecret | username | password =>
    cases given with
    | none => simp [Refuses, problem?]
    | some value => simp [Refuses, problem?, problemOf_eq_none_iff, readCredential_eq_ok_iff]

/-- What is wrong with what the values say of a field. -/
def problem? (values : Values) (field : Field) : Option ValueProblem :=
  field.problem? (Json.memberOf? values field.name)

/-- The wanting fields in declaration order, with what is wrong with them. -/
def offences (values : Values) : List (Field × ValueProblem) :=
  Field.all.filterMap fun field => (problem? values field).map fun problem => (field, problem)

theorem offences_sublist (values : Values) :
    List.Sublist ((offences values).map (·.1)) Field.all := by
  have kept : (offences values).map (·.1) =
      Field.all.filter fun field => (problem? values field).isSome := by
    rw [offences, List.map_filterMap, ← List.filterMap_eq_filter]
    refine List.filterMap_congr fun field _ => ?_
    cases found : problem? values field <;> simp [Option.guard, found]
  rw [kept]
  exact List.filter_sublist

/-- What is wrong with a field that was read is what is wrong with what is given for it. -/
theorem offence?_readUrl (values : Values) (default : String) :
    offence? .loginUrl (readField values .loginUrl (some default) readUrl) =
      ((problem? values .loginUrl).map fun problem => (Field.loginUrl, problem)).toList := by
  rw [offence?_eq]
  unfold readField problem?
  cases Json.memberOf? values Field.loginUrl.name <;> rfl

theorem offence?_readTimeout (values : Values) (default : Int) :
    offence? .timeout (readField values .timeout (some default) readTimeout) =
      ((problem? values .timeout).map fun problem => (Field.timeout, problem)).toList := by
  rw [offence?_eq]
  unfold readField problem?
  cases Json.memberOf? values Field.timeout.name <;> rfl

theorem offence?_readCredential (values : Values) {field : Field}
    (required : field ≠ .loginUrl ∧ field ≠ .timeout) :
    offence? field (readField values field none readCredential) =
      ((problem? values field).map fun problem => (field, problem)).toList := by
  rw [offence?_eq]
  unfold readField problem?
  generalize Json.memberOf? values field.name = given
  cases field with
  | loginUrl => exact absurd rfl required.1
  | timeout => exact absurd rfl required.2
  | clientId | clientSecret | username | password => cases given <;> rfl

theorem offence?_eq_nil_iff {α : Type} {read : Except ValueProblem α} :
    offence? field read = [] ↔ ∃ value, read = .ok value := by
  cases read <;> simp [offence?]

/-- Settings are what the values say if all fields are read. -/
theorem stores_iff : Stores defaults values settings ↔
    readField values .loginUrl (some defaultLoginUrl) readUrl = .ok settings.loginUrl ∧
      (∀ entry ∈ settings.credentials,
        readField values entry.1 none readCredential = .ok entry.2) ∧
      readField values .timeout (some defaults.timeout) readTimeout = .ok settings.timeoutMs := by
  have url : (∃ given, Json.memberOf? values Field.loginUrl.name = some given ∧
      ∃ url : String, given = .text ↑url ∧ settings.loginUrl = normalizeUrl url ∧
        settings.loginUrl ≠ "") ↔
      ∃ url : String, Json.memberOf? values Field.loginUrl.name = some (.text ↑url) ∧
        settings.loginUrl = normalizeUrl url ∧ settings.loginUrl ≠ "" := by
    constructor
    · rintro ⟨_, given, url, rfl, rest⟩
      exact ⟨url, given, rest⟩
    · rintro ⟨url, given, rest⟩
      exact ⟨_, given, url, rfl, rest⟩
  have credential (name text : String) : (∃ given, Json.memberOf? values name = some given ∧
      given = .text ↑text ∧ ∃ c ∈ text.toList, Text.isBlankChar c = false) ↔
      Json.memberOf? values name = some (.text ↑text) ∧
        ∃ c ∈ text.toList, Text.isBlankChar c = false := by
    constructor
    · rintro ⟨_, given, rfl, filled⟩
      exact ⟨given, filled⟩
    · rintro ⟨given, filled⟩
      exact ⟨_, given, rfl, filled⟩
  simp only [readField_eq_ok_iff, readUrl_eq_ok_iff, readCredential_eq_ok_iff,
    readTimeout_eq_ok_iff, url, credential, Option.some.injEq, reduceCtorEq, and_false, false_or]
  rw [eq_comm (a := defaultLoginUrl), eq_comm (a := defaults.timeout)]
  exact ⟨fun stores => ⟨stores.loginUrl, stores.credentials, stores.timeout⟩,
    fun ⟨url, credentials, timeout⟩ => ⟨url, credentials, timeout⟩⟩

/-! ## All fields -/

/-- The offences as they are put together when all fields have been read. -/
theorem offences_eq (defaults : Defaults) (values : Values) : offences values =
    offence? .loginUrl (readField values .loginUrl (some defaultLoginUrl) readUrl) ++
      offence? .clientId (readField values .clientId none readCredential) ++
      offence? .clientSecret (readField values .clientSecret none readCredential) ++
      offence? .username (readField values .username none readCredential) ++
      offence? .password (readField values .password none readCredential) ++
      offence? .timeout (readField values .timeout (some defaults.timeout) readTimeout) := by
  rw [offence?_readUrl, offence?_readTimeout]
  repeat rw [offence?_readCredential values (by decide)]
  simp [offences, Field.all, List.filterMap_eq_flatMap_toList]

/-- Values without the name that stands for the settings make settings, or are turned down with the
offences. -/
theorem ofValues_of_unreserved (defaults : Defaults)
    (free : Json.memberOf? values "self" = none) :
    (∃ settings, ofValues defaults values = .ok settings ∧ Stores defaults values settings ∧
        offences values = []) ∨
      (ofValues defaults values = .error (.configuration (.offences (offences values))) ∧
        offences values ≠ []) := by
  rw [offences_eq defaults]
  unfold ofValues
  rw [free]
  simp only [Option.isSome_none, Bool.false_eq_true, if_false]
  split
  · rename_i url id secret user password timeout readsUrl readsId readsSecret readsUser
      readsPassword readsTimeout
    refine .inl ⟨_, rfl, stores_iff.mpr ⟨readsUrl, ?_, readsTimeout⟩, ?_⟩
    · simpa [credentials] using ⟨readsId, readsSecret, readsUser, readsPassword⟩
    · rw [readsUrl, readsId, readsSecret, readsUser, readsPassword, readsTimeout]
      rfl
  · rename_i unread
    refine .inr ⟨rfl, fun none => ?_⟩
    simp only [List.append_eq_nil_iff, offence?_eq_nil_iff] at none
    obtain ⟨⟨⟨⟨⟨⟨_, readsUrl⟩, _, readsId⟩, _, readsSecret⟩, _, readsUser⟩, _, readsPassword⟩, _,
      readsTimeout⟩ := none
    exact unread _ _ _ _ _ _ readsUrl readsId readsSecret readsUser readsPassword readsTimeout

/-- Settings are built from values just if they are what the values say. -/
theorem ofValues_eq_ok_iff (free : Json.memberOf? values "self" = none) :
    ofValues defaults values = .ok settings ↔ Stores defaults values settings := by
  constructor
  · intro built
    rcases ofValues_of_unreserved defaults free with ⟨_, same, stores, _⟩ | ⟨failed, _⟩
    · obtain rfl := Except.ok.inj (same.symm.trans built)
      exact stores
    · cases failed.symm.trans built
  · intro stores
    obtain ⟨url, credentials, timeout⟩ := stores_iff.mp stores
    have read (field : Field) (text : String) (member : (field, text) ∈ settings.credentials) :
        readField values field none readCredential = .ok text := credentials (field, text) member
    unfold ofValues
    rw [free, url, timeout, read .clientId settings.clientId (by simp [Settings.credentials]),
      read .clientSecret settings.clientSecret (by simp [Settings.credentials]),
      read .username settings.username (by simp [Settings.credentials]),
      read .password settings.password (by simp [Settings.credentials])]
    rfl

/-- What settings are built from does not have the name that stands for them. -/
theorem unreserved_of_built (built : ofValues defaults values = .ok settings) :
    Json.memberOf? values "self" = none := by
  unfold ofValues at built
  split at built
  · cases built
  · rename_i free
    simpa using free

theorem ofValues_eq_error_iff (free : Json.memberOf? values "self" = none) {fault : Fault} :
    ofValues defaults values = .error fault ↔
      offences values ≠ [] ∧ fault = .configuration (.offences (offences values)) := by
  rcases ofValues_of_unreserved defaults free with ⟨_, built, _, none⟩ | ⟨failed, some⟩
  · simp [built, none]
  · rw [failed]
    exact ⟨fun same => ⟨some, (Except.error.inj same).symm⟩, fun same => by rw [same.2]⟩

/-- Nothing but the values of the fields is stored. -/
theorem Stores.of_same (stores : Stores defaults values settings)
    (same : ∀ field : Field, Json.memberOf? other field.name = Json.memberOf? values field.name) :
    Stores defaults other settings where
  loginUrl := by
    rw [same]
    exact stores.loginUrl
  credentials entry member := by
    rw [same]
    exact stores.credentials entry member
  timeout := by
    rw [same]
    exact stores.timeout

theorem problem?_eq_none_iff : problem? values field = none ↔ ¬ Offends values field := by
  rw [Offends, Field.refuses_iff, ← problem?, Classical.not_not]

theorem mem_map_offences_iff : field ∈ (offences values).map (·.1) ↔ Offends values field := by
  rw [Offends, Field.refuses_iff, ← problem?, Option.ne_none_iff_exists']
  simp [offences, field.mem_all]

theorem offences_eq_nil_iff : offences values = [] ↔ ∀ field, ¬ Offends values field := by
  simp only [← mem_map_offences_iff]
  rw [← List.eq_nil_iff_forall_not_mem, List.map_eq_nil_iff]

/-- How values are judged. -/
structure Validates (defaults : Defaults) (values : Values) : Prop where
  /-- Values in which no field is wanting, and no others, make settings. -/
  accepts : (∃ settings, ofValues defaults values = .ok settings) ↔
    ∀ field, ¬ Offends values field
  stores settings (built : ofValues defaults values = .ok settings) :
    Stores defaults values settings
  /-- A refusal is a fault of the configuration that names the wanting fields in the order of their
  declaration, each one once. -/
  refuses fault (failed : ofValues defaults values = .error fault) :
    ∃ offences : List (Field × ValueProblem), fault = .configuration (.offences offences) ∧
      (offences.map (·.1)).Sublist Field.all ∧
      (∀ field, field ∈ offences.map (·.1) ↔ Offends values field) ∧
      fault.details = ([("fields", .fields (offences.map (·.1)))] : Details) ∧
      fault.message = Text.ofString ("Invalid session configuration: " ++
        ", ".intercalate (offences.map fun (field, problem) =>
          field.name ++ " (" ++ problem.message ++ ")"))
  /-- Nothing but the values of the fields counts, in whatever order they are given. -/
  heeds other (free : Json.memberOf? other "self" = none)
    (same : ∀ field : Field, Json.memberOf? other field.name = Json.memberOf? values field.name) :
    ofValues defaults other = ofValues defaults values

/-- **Checking values.** Values among which none has the name that stands for the settings make
settings just if no field is wanting. The settings keep the credentials verbatim; a refusal reports
all wanting fields and no other; and neither the order of the values nor those of other names
matter. -/
theorem validates (defaults : Defaults) (free : Json.memberOf? values "self" = none) :
    Validates defaults values where
  accepts := by
    rw [← offences_eq_nil_iff]
    rcases ofValues_of_unreserved defaults free with ⟨settings, built, _, none⟩ | ⟨failed, some⟩
    · simp [built, none]
    · simp [failed, some]
  stores settings built := (ofValues_eq_ok_iff free).mp built
  refuses fault failed := by
    obtain ⟨_, rfl⟩ := (ofValues_eq_error_iff free).mp failed
    exact ⟨offences values, rfl, offences_sublist values, fun field => mem_map_offences_iff, rfl,
      rfl⟩
  heeds other free' same := by
    rcases ofValues_of_unreserved defaults free with ⟨settings, built, stores, _⟩ | ⟨failed, some⟩
    · rw [built, ofValues_eq_ok_iff free']
      exact stores.of_same same
    · have alike : offences other = offences values := by
        simp only [offences, problem?, same]
      rw [failed, ofValues_eq_error_iff free', alike]
      exact ⟨some, rfl⟩

/-- Four fields are wanting, for four reasons. -/
theorem validates_four :
    let values : Values := [("timeout_ms", .text "0.0"), ("password", .text "\t\x1c"),
      ("scope", .null), ("client_id", .text " id "), ("username", .text "user"),
      ("login_url", .text " / ")]
    Json.memberOf? values "self" = none ∧
      ∃ fault, ofValues {} values = .error fault ∧
        fault.details = ([("fields", .fields [.loginUrl, .clientSecret, .password, .timeout])] :
          Details) ∧
        fault.message = Text.ofString ("Invalid session configuration: " ++
          "login_url (Value error, login_url must not be empty), " ++
          "client_secret (Field required), password (Value error, must not be blank), " ++
          "timeout_ms (Input should be greater than 0)") := by
  intro values
  have free : Json.memberOf? values "self" = none := rfl
  have judged := validates {} free
  have wanting : offences values = [(.loginUrl, .emptyUrl), (.clientSecret, .missing),
      (.password, .blank), (.timeout, .notPositive)] := by decide +kernel
  have failed : ofValues {} values = .error (.configuration (.offences (offences values))) :=
    (ofValues_eq_error_iff free).mpr ⟨by simp [wanting], rfl⟩
  obtain ⟨named, same, _, _, details, message⟩ := judged.refuses _ failed
  obtain rfl : offences values = named := by simpa using same
  refine ⟨free, _, failed, ?_, ?_⟩
  · rw [details, wanting]
    rfl
  · rw [message, wanting]
    rfl

end SessionKeeper.Settings
