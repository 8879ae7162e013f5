import SessionKeeper.Proofs.Settings.Loading

/-! # What the environment puts over a file

Settings are built from one value for each field: that of the field's variable, if it is set and not
empty, else that of the file (`Settings.given?`). So nothing of the file matters in a field that is
overridden, and a null in the file is no value at all (`Settings.Shadows`). Of the environment only
the variables count that are set and not empty (`Settings.load_of_filled?`), and not even the one
that names a file, where a file is given (`Settings.shadows_load`).
-/

namespace SessionKeeper

variable {environment other : Environment} {name : Text}

/-- Environments in which the same is set, except for one variable that is empty in one of them and
not set in the other, differ in no variable that is filled. -/
theorem Environment.filled?_of_empty (empty : environment.value? name = some "")
    (unset : other.value? name = none)
    (same : ∀ key : Text, key ≠ name → other.value? key = environment.value? key) (key : Text) :
    other.filled? key = environment.filled? key := by
  unfold filled?
  by_cases own : key = name
  · rw [own, unset, empty]
    rfl
  · rw [same key own]

namespace Settings

variable {files : FileReader} {defaults : Defaults} {path : Option Text} {values : Values}
  {field : Field}

/-- What is given for a field: the value of its variable, if that is set and not empty, else that of
the file. -/
def given? (environment : Environment) (values : Values) (field : Field) : Option Json :=
  match environment.filled? field.variableName with
  | some text => some (.text text)
  | none => Json.memberOf? values field.name

/-- What is given for the fields, under their names. -/
def givenValues (environment : Environment) (values : Values) : Values :=
  Field.all.filterMap fun field =>
    (given? environment values field).map fun value => ((field.name : Text), value)

/-- Nothing but a null has the name that stands for the settings themselves. -/
def Unreserved (values : Values) : Prop :=
  ∀ value, Json.memberOf? values "self" = some value → value = .null

theorem Unreserved.of_absent (absent : Json.memberOf? values "self" = none) :
    Unreserved values := by
  intro value named
  rw [absent] at named
  cases named

/-- Without its nulls, an unreserved object has no value under the name of the settings. -/
theorem Unreserved.memberOf?_filter (distinct : (values.map (·.1)).Nodup)
    (free : Unreserved values) :
    Json.memberOf? (values.filter fun (_, value) => isGiven value) "self" = none := by
  refine (Json.memberOf?_filter distinct isGiven).trans (Option.filter_eq_none_iff.mpr ?_)
  intro value named given
  exact isGiven_iff.mp given (free value named)

theorem Unreserved.overridden (free : Unreserved values) (overridden : List (Field × Text)) :
    Unreserved (overriddenValues values overridden) := by
  intro value named
  rw [memberOf?_overriddenValues Field.name_ne_self] at named
  exact free value named

/-! ## One value for each field -/

/-- Of values under the names of fields, each has its own. -/
theorem memberOf?_filterMap {fields : List Field} (distinct : fields.Nodup)
    (value? : Field → Option Json) :
    Json.memberOf? (fields.filterMap fun field =>
        (value? field).map fun value => ((field.name : Text), value)) field.name =
      if field ∈ fields then value? field else none := by
  induction fields with
  | nil => rfl
  | cons first rest ih =>
    obtain ⟨strange, others⟩ := List.nodup_cons.mp distinct
    rw [List.filterMap_cons]
    by_cases own : field = first
    · subst own
      rw [if_neg strange] at ih
      cases present : value? field with
      | none => simp [ih others]
      | some value => simp [Json.memberOf?_cons, ih others]
    · have named : (field.name : Text) ≠ first.name := fun same => own (Field.name_inj.mp same)
      cases value? first with
      | none => simp [ih others, own]
      | some value => simp [Json.memberOf?_cons, ih others, own, named]

theorem Field.nodup_all : Field.all.Nodup := by decide

theorem memberOf?_fields (value? : Field → Option Json) :
    Json.memberOf? (Field.all.filterMap fun field =>
        (value? field).map fun value => ((field.name : Text), value)) field.name =
      value? field := by
  rw [memberOf?_filterMap Field.nodup_all, if_pos field.mem_all]

/-- The fields are given what is given for them, and nothing else is given. -/
theorem memberOf?_givenValues :
    Json.memberOf? (givenValues environment values) field.name =
      given? environment values field :=
  memberOf?_fields (given? environment values)

theorem nodup_givenValues : ((givenValues environment values).map (·.1)).Nodup := by
  have names : (givenValues environment values).map (·.1) = (Field.all.filter fun field =>
      (given? environment values field).isSome).map fun field => (field.name : Text) := by
    rw [givenValues, List.map_filterMap, ← List.filterMap_eq_filter, List.map_filterMap]
    refine List.filterMap_congr fun field _ => ?_
    cases found : given? environment values field <;> simp [Option.guard, found]
  rw [names, List.Nodup, List.pairwise_map]
  exact (Field.nodup_all.filter _).imp fun different same => different (Field.name_inj.mp same)

theorem unreserved_givenValues : Unreserved (givenValues environment values) := by
  apply Unreserved.of_absent
  rw [Json.memberOf?_eq_none_iff]
  intro member known
  obtain ⟨field, _, given⟩ := List.mem_filterMap.mp known
  obtain ⟨value, _, rfl⟩ := Option.map_eq_some_iff.mp given
  exact field.name_ne_self

theorem map_overrides :
    (overrides environment).map (fun (field, value) => ((field.name : Text), Json.text value)) =
      Field.all.filterMap fun field =>
        ((environment.filled? field.variableName).map Json.text).map fun value =>
          ((field.name : Text), value) := by
  rw [overrides, List.map_filterMap]
  refine List.filterMap_congr fun field _ => ?_
  cases environment.filled? field.variableName <;> rfl

/-- What is laid over the values of a file gives each field what is given for it. -/
theorem memberOf?_overrides :
    Json.memberOf? (overriddenValues values (overrides environment)) field.name =
      given? environment values field := by
  rw [overriddenValues, Json.memberOf?_overlay, map_overrides, memberOf?_fields]
  unfold given?
  cases environment.filled? field.variableName <;> rfl

/-! ## Loading -/

theorem nodup_fileValues (supplied : (fileValues files path environment).outcome = .ok values) :
    (values.map (·.1)).Nodup := by
  rw [outcome_fileValues] at supplied
  split at supplied
  · obtain rfl := Except.ok.inj supplied
    exact List.nodup_nil
  · rename_i file _
    rcases valuesOfFile_cases files file with
      ⟨_, members, _, _, read⟩ | ⟨_, _, failed⟩ | ⟨_, failed⟩
    · obtain rfl := Except.ok.inj (read.symm.trans supplied)
      exact Dictionary.nodup_overlay List.nodup_nil
    · cases failed.symm.trans supplied
    · cases failed.symm.trans supplied

/-- Values that give the fields the same, a null counting as absent, make the same settings. -/
theorem ofGivenValues_congr {first second : Values} (distinct : (first.map (·.1)).Nodup)
    (again : (second.map (·.1)).Nodup) (free : Unreserved first) (alsoFree : Unreserved second)
    (same : ∀ field : Field, (Json.memberOf? second field.name).filter isGiven =
      (Json.memberOf? first field.name).filter isGiven) :
    ofGivenValues defaults second = ofGivenValues defaults first := by
  refine (validates defaults (free.memberOf?_filter distinct)).heeds _
    (alsoFree.memberOf?_filter again) fun field => ?_
  exact (Json.memberOf?_filter again isGiven).trans
    ((same field).trans (Json.memberOf?_filter distinct isGiven).symm)

/-- Of the environment only the file that it chooses and the values of the fields count. -/
theorem load_congr (chosen : chosenFile? path other = chosenFile? path environment)
    (same : ∀ field : Field,
      other.filled? field.variableName = environment.filled? field.variableName) :
    load files defaults path other = load files defaults path environment := by
  have supplied : fileValues files path other = fileValues files path environment := by
    unfold fileValues
    rw [chosen]
  have overridden : overrides other = overrides environment := by
    simp only [overrides, same]
  unfold load
  rw [supplied, overridden]

theorem load_of_filled? (same : ∀ key : Text, other.filled? key = environment.filled? key) :
    load files defaults path other = load files defaults path environment := by
  refine load_congr ?_ fun field => same field.variableName
  unfold chosenFile?
  rw [same]

/-- Where a file is given, what the environment says of files has no influence. -/
theorem load_of_given {file : Text} (filled : file.isEmpty = false)
    (same : ∀ field : Field,
      other.filled? field.variableName = environment.filled? field.variableName) :
    load files defaults (some file) other = load files defaults (some file) environment := by
  have chosen (environment : Environment) : chosenFile? (some file) environment = some file := by
    simp [chosenFile?, Option.filter, filled]
  exact load_congr ((chosen other).trans (chosen environment).symm) same

/-- How the environment shadows the values of a file. -/
structure Shadows (files : FileReader) (defaults : Defaults) (path : Option Text)
    (environment : Environment) (values : Values) : Prop where
  outcome : (load files defaults path environment).outcome =
    ofGivenValues defaults (givenValues environment values)
  /-- There are settings, or a fault of the configuration that names the wanting fields. -/
  settled : (∃ settings, (load files defaults path environment).outcome = .ok settings) ∨
    ∃ offences, (load files defaults path environment).outcome =
      .error (.configuration (.offences offences))
  /-- Another file counts for the same if it gives the same values, other than null, for the fields
  that are not overridden, whatever else it gives. -/
  agree : ∀ (again : FileReader) (elsewhere : Option Text) (others : Values),
    (fileValues again elsewhere environment).outcome = .ok others → Unreserved others →
    (∀ field : Field, environment.filled? field.variableName = none →
      (Json.memberOf? others field.name).filter isGiven =
        (Json.memberOf? values field.name).filter isGiven) →
    (load again defaults elsewhere environment).outcome =
      (load files defaults path environment).outcome
  /-- A null counts as absent. -/
  nulls : ∀ (again : FileReader) (elsewhere : Option Text),
    (fileValues again elsewhere environment).outcome =
      .ok (values.filter fun (_, value) => isGiven value) →
    (load again defaults elsewhere environment).outcome =
      (load files defaults path environment).outcome
  /-- A variable that is set to nothing counts as not set. -/
  empty : ∀ (name : Text) (other : Environment), environment.value? name = some "" →
    other.value? name = none →
    (∀ key : Text, key ≠ name → other.value? key = environment.value? key) →
    load files defaults path other = load files defaults path environment
  /-- Where a file is given, the variable that names one has no influence. -/
  named : ∀ file, path = some file → file.isEmpty = false → ∀ other : Environment,
    (∀ key : Text, key ≠ fileVariable → other.value? key = environment.value? key) →
    load files defaults path other = load files defaults path environment

theorem Field.variableName_ne_fileVariable (field : Field) :
    (field.variableName : Text) ≠ fileVariable := by
  intro same
  have spelled := Text.ofString_inj.mp same
  cases field <;> simp [Field.variableName, fileVariable] at spelled

section Supplied

variable (supplied : (fileValues files path environment).outcome = .ok values)

include supplied

theorem outcome_load_of_supplied : (load files defaults path environment).outcome =
    ofGivenValues defaults (overriddenValues values (overrides environment)) := by
  rw [outcome_load, supplied]
  rfl

theorem nodup_overridden :
    ((overriddenValues values (overrides environment)).map (·.1)).Nodup :=
  nodup_overriddenValues (nodup_fileValues supplied) _

end Supplied

/-- Loading comes to what checking one value for each field comes to. -/
theorem outcome_load_eq (supplied : (fileValues files path environment).outcome = .ok values)
    (free : Unreserved values) : (load files defaults path environment).outcome =
      ofGivenValues defaults (givenValues environment values) := by
  rw [outcome_load_of_supplied supplied]
  refine ofGivenValues_congr nodup_givenValues (nodup_overridden supplied)
    unreserved_givenValues (free.overridden _) fun field => ?_
  rw [memberOf?_overrides, memberOf?_givenValues]

/-- Files that give the same, other than null, for the fields that are not overridden make the same
settings. -/
theorem outcome_load_congr {again : FileReader} {elsewhere : Option Text} {others : Values}
    (supplied : (fileValues files path environment).outcome = .ok values)
    (given : (fileValues again elsewhere environment).outcome = .ok others)
    (free : Unreserved values) (alsoFree : Unreserved others)
    (same : ∀ field : Field, environment.filled? field.variableName = none →
      (Json.memberOf? others field.name).filter isGiven =
        (Json.memberOf? values field.name).filter isGiven) :
    (load again defaults elsewhere environment).outcome =
      (load files defaults path environment).outcome := by
  rw [outcome_load_of_supplied supplied, outcome_load_of_supplied given]
  refine ofGivenValues_congr (nodup_overridden supplied) (nodup_overridden given)
    (free.overridden _) (alsoFree.overridden _) fun field => ?_
  rw [memberOf?_overrides, memberOf?_overrides]
  unfold given?
  cases overridden : environment.filled? field.variableName with
  | some text => rfl
  | none => exact same field overridden

/-- **The environment shadows the file.** Whatever the path, the environment and the file, as long
as the file holds an object without a value under the name that stands for the settings: loading
comes to what checking one value for each field comes to, that of its variable if this is set and
not empty, and that of the file otherwise. So files that agree on the fields that are not overridden
come to the same. -/
theorem shadows_load (defaults : Defaults)
    (supplied : (fileValues files path environment).outcome = .ok values)
    (free : Unreserved values) : Shadows files defaults path environment values where
  outcome := outcome_load_eq supplied free
  settled := by
    have unreserved : Unreserved (givenValues environment values) := unreserved_givenValues
    have unnamed := unreserved.memberOf?_filter nodup_givenValues
    rw [outcome_load_eq supplied free]
    exact (ofValues_of_unreserved defaults unnamed).imp
      (fun ⟨settings, built, _⟩ => ⟨settings, built⟩) fun ⟨failed, _⟩ => ⟨_, failed⟩
  agree _ _ _ given alsoFree same := outcome_load_congr supplied given free alsoFree same
  nulls again elsewhere given := by
    have kept (name : Text) : Json.memberOf? (values.filter fun (_, value) => isGiven value) name =
        (Json.memberOf? values name).filter isGiven :=
      Json.memberOf?_filter (nodup_fileValues supplied) isGiven
    refine outcome_load_congr supplied given free (fun value named => ?_) fun field _ => ?_
    · rw [kept] at named
      exact free value (Option.eq_some_of_filter_eq_some named)
    · rw [kept, Option.filter_filter]
      simp
  empty name other isEmpty unset same :=
    load_of_filled? (Environment.filled?_of_empty isEmpty unset same)
  named := by
    rintro file rfl filled other same
    refine load_of_given filled fun field => ?_
    unfold Environment.filled?
    rw [same _ field.variableName_ne_fileVariable]

/-- Two files whose user names do not do, a number and a null, while the environment sets one. -/
theorem shadows_load_overridden :
    let files (content : String) : FileReader := fun _ =>
      .ok (content.toList.map fun c => UInt8.ofNat c.toNat)
    let environment : Environment := [("SFAUTH_CONFIG_FILE", "b.json"), ("SFAUTH_LOGIN_URL", ""),
      ("SFAUTH_CLIENT_ID", "id"), ("SFAUTH_CLIENT_SECRET", "secret"), ("SFAUTH_USERNAME", "user"),
      ("SFAUTH_PASSWORD", "password")]
    let first := files "\x7b\"username\": 1, \"login_url\": \"h\"\x7d"
    let second := files "\x7b\"login_url\": \"h\", \"username\": null\x7d"
    (fileValues first (some "a.json") environment).outcome =
        .ok [("username", .int 1), ("login_url", .text "h")] ∧
      (fileValues second none environment).outcome =
        .ok [("login_url", .text "h"), ("username", .null)] ∧
      (load first {} (some "a.json") environment).outcome =
        .ok ⟨"h", "id", "secret", "user", "password", 60000⟩ ∧
      (load second {} none environment).outcome =
        (load first {} (some "a.json") environment).outcome := by
  intro files environment first second
  have supplied : (fileValues first (some "a.json") environment).outcome =
      .ok [("username", .int 1), ("login_url", .text "h")] := by with_unfolding_all rfl
  have given : (fileValues second none environment).outcome =
      .ok [("login_url", .text "h"), ("username", .null)] := by with_unfolding_all rfl
  have shadows := shadows_load {} supplied (.of_absent rfl)
  refine ⟨supplied, given, ?_,
    shadows.agree second none _ given (.of_absent rfl) fun field unset => ?_⟩
  · rw [shadows.outcome]
    exact Except.ok_of_toOption (by decide +kernel)
  · cases field with
    | username => cases unset
    | _ => rfl

end Settings

end SessionKeeper
