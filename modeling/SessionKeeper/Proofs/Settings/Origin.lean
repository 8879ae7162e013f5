import SessionKeeper.Proofs.Settings.Loading

/-! # Where the timeout comes from

A timeout that is given for settings is checked: it is above zero. One that is not given is what the
environment of the process says, and that is not checked (`Settings.Origin`). So the timeout of
settings can be zero or below, but only by the environment (`Settings.origin_of_environment`).
Settings that are loaded with the same environment have a positive one: whatever stands in the
variable was given to them.
-/

namespace SessionKeeper

variable {environment : Environment} {name : Text} {number : Int}

/-- The variable is set to a text that spells the number. -/
def Environment.Sets (environment : Environment) (name : Text) (number : Int) : Prop :=
  ∃ text : String, environment.value? name = some ↑text ∧ Text.readInt? text = some number

theorem Environment.readInt_of_sets (sets : environment.Sets name number) (default : Int) :
    environment.readInt name default = (number, []) := by
  obtain ⟨text, present, spelled⟩ := sets
  simp [readInt, present, Text.toString?_ofString, spelled]

theorem Environment.readInt_of_unset (unset : ∀ number, ¬ environment.Sets name number)
    (default : Int) : (environment.readInt name default).1 = default := by
  unfold readInt
  split
  · rfl
  · rename_i value present
    split
    · rename_i number spelled
      obtain ⟨text, same, reads⟩ := Option.bind_eq_some_iff.mp spelled
      obtain rfl := Text.ofString_of_toString? same
      exact absurd ⟨text, present, reads⟩ (unset number)
    · rfl

/-- A variable that spells a number is not empty. -/
theorem Environment.filled?_of_sets (sets : environment.Sets name number) :
    ∃ text, environment.filled? name = some text := by
  obtain ⟨text, present, spelled⟩ := sets
  have filled : (Text.ofString text).isEmpty = false := by
    by_cases empty : text = ""
    · have unspelled : Text.readInt? "" = none := by decide +kernel
      rw [empty] at spelled
      cases unspelled.symm.trans spelled
    · simpa [Text.isEmpty, Text.ofString] using empty
  exact ⟨↑text, by simp [filled?, present, filled]⟩

namespace Settings

variable {values : Values} {settings : Settings} {given : Option Json} {milliseconds : Int}

/-- What a timeout is, by the environment of the process and by what is given for it. -/
structure Origin (environment : Environment) (given : Option Json) (milliseconds : Int) : Prop where
  /-- What is given is checked. -/
  checked : ∀ value, given = some value → integerOf value = .ok milliseconds ∧ 0 < milliseconds
  /-- What the environment says is not. -/
  unchecked : given = none → ∀ number, environment.Sets Field.timeout.variableName number →
    milliseconds = number
  plain : given = none → (∀ number, ¬ environment.Sets Field.timeout.variableName number) →
    milliseconds = 60000
  nonpositive_iff : milliseconds ≤ 0 ↔
    given = none ∧ ∃ number ≤ 0, environment.Sets Field.timeout.variableName number

theorem origin_of_given {value : Json} (read : integerOf value = .ok milliseconds)
    (positive : 0 < milliseconds) : Origin environment (some value) milliseconds where
  checked _ same := Option.some.inj same ▸ ⟨read, positive⟩
  unchecked absent := nomatch absent
  plain absent := nomatch absent
  nonpositive_iff := iff_of_false (by omega) nofun

theorem origin_of_absent (environment : Environment) :
    Origin environment none (Defaults.ofEnvironment environment).1.timeout := by
  have source : (Defaults.ofEnvironment environment).1.timeout =
      (environment.readInt Field.timeout.variableName 60000).1 := rfl
  have unchecked (number : Int) (sets : environment.Sets Field.timeout.variableName number) :
      (Defaults.ofEnvironment environment).1.timeout = number := by
    rw [source, Environment.readInt_of_sets sets]
  have plain (unset : ∀ number, ¬ environment.Sets Field.timeout.variableName number) :
      (Defaults.ofEnvironment environment).1.timeout = 60000 := by
    rw [source, Environment.readInt_of_unset unset]
  refine ⟨nofun, fun _ => unchecked, fun _ => plain, ?_⟩
  by_cases set : ∃ number, environment.Sets Field.timeout.variableName number
  · obtain ⟨number, sets⟩ := set
    rw [unchecked number sets]
    refine ⟨fun nonpositive => ⟨rfl, number, nonpositive, sets⟩, ?_⟩
    rintro ⟨_, other, nonpositive, also⟩
    rwa [← unchecked number sets, unchecked other also]
  · have unset := not_exists.mp set
    rw [plain unset]
    exact iff_of_false (by decide) fun ⟨_, number, _, sets⟩ => unset number sets

theorem origin_of_ofValues
    (built : ofValues (Defaults.ofEnvironment environment).1 values = .ok settings) :
    Origin environment (Json.memberOf? values Field.timeout.name) settings.timeoutMs := by
  have stores := (ofValues_eq_ok_iff (unreserved_of_built built)).mp built
  rcases stores.timeout with ⟨absent, same⟩ | ⟨value, present, read, positive⟩
  · rw [absent, same]
    exact origin_of_absent environment
  · rw [present]
    exact origin_of_given read positive

/-- A variable that is set and not empty gives its field a value, whatever stands in the file. -/
theorem exists_given_of_filled? {field : Field} {text : Text}
    (filled : environment.filled? field.variableName = some text) (values : Values) :
    ∃ value, Json.memberOf? (overriddenValues values (overrides environment)) field.name =
      some value ∧ isGiven value = true := by
  have overriding : (field, text) ∈ overrides environment :=
    List.mem_filterMap.mpr ⟨field, field.mem_all, by rw [filled]; rfl⟩
  refine Json.exists_memberOf?_overlay (List.mem_map_of_mem overriding) fun entry known => ?_
  obtain ⟨_, _, rfl⟩ := List.mem_map.mp known
  rfl

/-- A number that the environment sets is given to settings that are loaded with it, as a text. -/
theorem pos_of_load {files : FileReader} {path : Option Text}
    (loaded : (load files (Defaults.ofEnvironment environment).1 path environment).outcome =
      .ok settings) : 0 < settings.timeoutMs := by
  rw [outcome_load] at loaded
  obtain ⟨values, _, built⟩ := Except.ok_of_bind loaded
  have origin := origin_of_ofValues built
  by_cases positive : 0 < settings.timeoutMs
  · exact positive
  · obtain ⟨absent, number, _, sets⟩ := origin.nonpositive_iff.mp (by omega)
    obtain ⟨text, filled⟩ := Environment.filled?_of_sets sets
    obtain ⟨value, present, given⟩ := exists_given_of_filled? filled values
    have missing := Json.memberOf?_eq_none_iff.mp absent
    exact absurd rfl (missing _ (List.mem_filter.mpr ⟨Json.mem_of_memberOf? present, given⟩))

/-- **The timeout of settings and the environment.** A timeout that is given is read and checked.
Without one, settings have the number that the environment of the process sets, whatever that is, or
else a minute. So their timeout is zero or below just if none is given and the environment sets such
a number. The same holds where a null counts as absent; but settings that are loaded with that
environment always have a positive timeout. -/
theorem origin_of_environment (environment : Environment) (values : Values) :
    let defaults := (Defaults.ofEnvironment environment).1
    let given := Json.memberOf? values Field.timeout.name
    (∀ settings, ofValues defaults values = .ok settings →
      Origin environment given settings.timeoutMs) ∧
    ((values.map (·.1)).Nodup → ∀ settings, ofGivenValues defaults values = .ok settings →
      Origin environment (given.filter isGiven) settings.timeoutMs) ∧
    ∀ files path settings, (load files defaults path environment).outcome = .ok settings →
      0 < settings.timeoutMs := by
  intro defaults given
  refine ⟨fun settings built => origin_of_ofValues built, fun distinct settings built => ?_,
    fun files path settings loaded => pos_of_load loaded⟩
  have origin := origin_of_ofValues built
  rwa [Json.memberOf?_filter distinct isGiven] at origin

/-- A number below zero is set. -/
theorem origin_of_environment_negative :
    let environment : Environment := [("SFAUTH_REQUEST_TIMEOUT_MS", "-5")]
    let defaults := (Defaults.ofEnvironment environment).1
    let values : Values := [("client_id", .text "id"), ("client_secret", .text "secret"),
      ("username", .text "user"), ("password", .text "password")]
    let settings : Settings :=
      ⟨"https://login.salesforce.com", "id", "secret", "user", "password", -5⟩
    ofValues defaults values = .ok settings ∧
      Origin environment (Json.memberOf? values Field.timeout.name) settings.timeoutMs ∧
      ofGivenValues defaults (("timeout_ms", .null) :: values) = .ok settings ∧
      Origin environment none settings.timeoutMs ∧
      ∀ files path loaded, (load files defaults path environment).outcome = .ok loaded →
        0 < loaded.timeoutMs := by
  intro environment defaults values settings
  have built : ofValues defaults values = .ok settings := Except.ok_of_toOption (by decide +kernel)
  have given : ofGivenValues defaults (("timeout_ms", .null) :: values) = .ok settings :=
    Except.ok_of_toOption (by decide +kernel)
  obtain ⟨constructed, _, loads⟩ := origin_of_environment environment values
  obtain ⟨_, ofGiven, _⟩ := origin_of_environment environment (("timeout_ms", .null) :: values)
  have taken := ofGiven (by decide +kernel) settings given
  exact ⟨built, constructed settings built, given, taken, loads⟩

end Settings

end SessionKeeper
