import SessionKeeper.Application.Check
import SessionKeeper.Proofs.Credential.Grant
import SessionKeeper.Proofs.Settings.Offences
import SessionKeeper.Proofs.Task.Assertion
import SessionKeeper.Proofs.Task.Run

/-! # What loading settings lets out

Loading settings fails with a fault of the configuration, which the check of a configuration turns
into the exit code 1; or it lets out what is raised on the way and is none of these faults
(`Settings.Escapes`): by the host, which cannot open every path, by the readers of UTF-8 and of
JSON, and by the name that stands for the settings themselves. Both happen only where a file is
read; the environment alone never causes the second (`Settings.escapes_load_iff`).
-/

namespace SessionKeeper

theorem Reported.outcome_bind {α β : Type} (first : Reported α) (next : α → Reported β) :
    (first >>= next).outcome = first.outcome >>= fun value => (next value).outcome := by
  obtain ⟨lines, outcome⟩ := first
  cases outcome <;> rfl

namespace Settings

variable {files : FileReader} {file : Text} {values : Values} {incident : Incident} {fault : Fault}
  {defaults : Defaults} {path : Option Text} {environment : Environment}

/-- The document that a file holds, with its line ends as the reader of documents gets them. -/
def Reads (files : FileReader) (file : Text) (document : List Char) : Prop :=
  ∃ known bytes content, hostPath (plainPath file) = .ok known ∧ files known = .ok bytes ∧
    Utf8.decode bytes = .ok content ∧ document = unifyLineEnds content.toList

/-- What is raised where a file is read, besides faults of the configuration. -/
inductive Unread (files : FileReader) (file : Text) : Incident → Prop
  | unencodable {surrogates : Utf8.Unencodable}
      (encoded : Utf8.encodeHost (plainPath file) = .error surrogates) :
    Unread files file (.unencodable surrogates)
  | nullInPath {known : List UInt8} (encoded : Utf8.encodeHost (plainPath file) = .ok known)
      (null : 0 ∈ known) : Unread files file .nullInPath
  | notUtf8 {known bytes : List UInt8} {undecodable : Utf8.Fault}
      (located : hostPath (plainPath file) = .ok known) (read : files known = .ok bytes)
      (decoded : Utf8.decode bytes = .error undecodable) : Unread files file (.notUtf8 undecodable)
  | integerTooLong {document : List Char} {digits : Nat} (reads : Reads files file document)
      (spelled : Json.read document = .error (.integerTooLong digits)) :
    Unread files file (.integerTooLong digits)
  | nestedTooDeep {document : List Char} {kind : Json.ContainerKind}
      (reads : Reads files file document)
      (spelled : Json.read document = .error (.nestedTooDeep kind)) :
    Unread files file (.nestedTooDeep kind)

/-- What loading settings from a file lets out, besides faults of the configuration. -/
inductive Escapes (files : FileReader) (file : Text) : Incident → Prop
  | unread {incident : Incident} (unread : Unread files file incident) :
    Escapes files file incident
  /-- A member that is not null has the name that stands for the settings themselves. -/
  | reservedName {document : List Char} {members : List (Text × Json)} {value : Json}
      (reads : Reads files file document) (spelled : Json.read document = .ok (.object members))
      (named : Json.memberOf? members "self" = some value) (given : value ≠ .null) :
    Escapes files file .reservedName

/-! ## Reading the file -/

theorem hostPath_of_error (failed : hostPath file = .error fault) :
    (∃ surrogates, Utf8.encodeHost file = .error surrogates ∧
        fault = .foreign (.unencodable surrogates)) ∨
      ∃ known, Utf8.encodeHost file = .ok known ∧ 0 ∈ known ∧ fault = .foreign .nullInPath := by
  unfold hostPath at failed
  split at failed
  · rename_i surrogates encoded
    exact .inl ⟨surrogates, encoded, (Except.error.inj failed).symm⟩
  · rename_i known encoded
    split at failed
    · rename_i null
      exact .inr ⟨known, encoded, by simpa using null, (Except.error.inj failed).symm⟩
    · cases failed

theorem valuesOfFile_of_reads {document : List Char} (reads : Reads files file document) :
    valuesOfFile files file = valuesOfDocument file document := by
  obtain ⟨known, bytes, content, located, read, decoded, rfl⟩ := reads
  simp only [valuesOfFile, located, bind, Except.bind, read, decoded]

theorem valuesOfFile_of_unread (unread : Unread files file incident) :
    valuesOfFile files file = .error (.foreign incident) := by
  cases unread with
  | unencodable encoded => simp only [valuesOfFile, hostPath, encoded, bind, Except.bind]
  | nullInPath encoded null => simp [valuesOfFile, hostPath, encoded, bind, Except.bind, null]
  | notUtf8 located read decoded =>
    simp only [valuesOfFile, located, bind, Except.bind, read, decoded]
  | integerTooLong reads spelled =>
    rw [valuesOfFile_of_reads reads, valuesOfDocument, spelled]
  | nestedTooDeep reads spelled =>
    rw [valuesOfFile_of_reads reads, valuesOfDocument, spelled]

/-- A text gives the members of the object that it spells, or cannot be read, or is a fault of the
configuration. -/
theorem valuesOfFile_cases_of_reads {document : List Char} (reads : Reads files file document) :
    (∃ members, Json.read document = .ok (.object members) ∧
        valuesOfFile files file = .ok (Dictionary.overlay [] members)) ∨
      (∃ incident, Unread files file incident) ∨
      ∃ problem, valuesOfFile files file = .error (.configuration problem) := by
  rw [valuesOfFile_of_reads reads, valuesOfDocument]
  cases spelled : Json.read document with
  | ok value =>
    cases value with
    | object members => exact .inl ⟨members, rfl, rfl⟩
    | _ => exact .inr (.inr ⟨.notAnObject file, rfl⟩)
  | error misspelling =>
    cases misspelling with
    | misspelled problem position =>
      exact .inr (.inr ⟨.malformed file document problem position, rfl⟩)
    | integerTooLong digits => exact .inr (.inl ⟨_, .integerTooLong reads spelled⟩)
    | nestedTooDeep kind => exact .inr (.inl ⟨_, .nestedTooDeep reads spelled⟩)

/-- Reading a file gives the members of the object that it spells, or lets out what is raised, or
fails with a fault of the configuration. -/
theorem valuesOfFile_cases (files : FileReader) (file : Text) :
    (∃ document members, Reads files file document ∧ Json.read document = .ok (.object members) ∧
        valuesOfFile files file = .ok (Dictionary.overlay [] members)) ∨
      (∃ incident, Unread files file incident ∧
        valuesOfFile files file = .error (.foreign incident)) ∨
      ∃ problem, valuesOfFile files file = .error (.configuration problem) := by
  have raised {incident : Incident} (unread : Unread files file incident) :
      ∃ incident, Unread files file incident ∧
        valuesOfFile files file = .error (.foreign incident) :=
    ⟨incident, unread, valuesOfFile_of_unread unread⟩
  cases located : hostPath (plainPath file) with
  | error fault =>
    rcases hostPath_of_error located with ⟨surrogates, encoded, rfl⟩ | ⟨known, encoded, null, rfl⟩
    · exact .inr (.inl (raised (.unencodable encoded)))
    · exact .inr (.inl (raised (.nullInPath encoded null)))
  | ok known =>
    cases read : files known with
    | error problem =>
      refine .inr (.inr ⟨.unreadable file (plainPath file) problem, ?_⟩)
      simp only [valuesOfFile, located, bind, Except.bind, read]
    | ok bytes =>
      cases decoded : Utf8.decode bytes with
      | error undecodable => exact .inr (.inl (raised (.notUtf8 located read decoded)))
      | ok content =>
        have reads : Reads files file (unifyLineEnds content.toList) :=
          ⟨known, bytes, content, located, read, decoded, rfl⟩
        rcases valuesOfFile_cases_of_reads reads with
          ⟨members, spelled, values⟩ | ⟨incident, unread⟩ | faulty
        · exact .inl ⟨_, members, reads, spelled, values⟩
        · exact .inr (.inl (raised unread))
        · exact .inr (.inr faulty)

/-! ## Checking the values -/

/-- Checking values lets nothing out but the name that stands for the settings themselves. -/
theorem ofValues_cases (defaults : Defaults) (values : Values) :
    ((Json.memberOf? values "self").isSome = true ∧
        ofValues defaults values = .error (.foreign .reservedName)) ∨
      ((Json.memberOf? values "self").isSome = false ∧
        ((∃ settings, ofValues defaults values = .ok settings) ∨
          ∃ problem, ofValues defaults values = .error (.configuration problem))) := by
  cases named : Json.memberOf? values "self" with
  | some value =>
    refine .inl ⟨rfl, ?_⟩
    unfold ofValues
    rw [named]
    rfl
  | none =>
    refine .inr ⟨rfl, ?_⟩
    rcases ofValues_of_unreserved defaults named with ⟨settings, built, _⟩ | ⟨failed, _⟩
    · exact .inl ⟨settings, built⟩
    · exact .inr ⟨_, failed⟩

theorem nodup_overriddenValues (distinct : (values.map (·.1)).Nodup)
    (overridden : List (Field × Text)) :
    ((overriddenValues values overridden).map (·.1)).Nodup :=
  Dictionary.nodup_overlay distinct

/-- A name that is no field's has the value that it has in the file. -/
theorem memberOf?_overriddenValues {name : Text}
    (strange : ∀ field : Field, (field.name : Text) ≠ name) (overridden : List (Field × Text)) :
    Json.memberOf? (overriddenValues values overridden) name = Json.memberOf? values name := by
  rw [overriddenValues, Json.memberOf?_overlay, Json.memberOf?_eq_none_iff.mpr, Option.none_or]
  intro member known
  obtain ⟨⟨field, value⟩, _, rfl⟩ := List.mem_map.mp known
  exact strange field

/-- The value under the name that stands for the settings, as it is given to them. -/
theorem memberOf?_self (distinct : (values.map (·.1)).Nodup) (overridden : List (Field × Text)) :
    Json.memberOf? ((overriddenValues values overridden).filter fun (_, value) => isGiven value)
        "self" = (Json.memberOf? values "self").filter isGiven := by
  have kept : Json.memberOf? (overriddenValues values overridden) "self" =
      Json.memberOf? values "self" := memberOf?_overriddenValues Field.name_ne_self overridden
  rw [← kept]
  exact Json.memberOf?_filter (nodup_overriddenValues distinct overridden) isGiven

/-! ## Loading -/

theorem outcome_fileValues (files : FileReader) (path : Option Text) (environment : Environment) :
    (fileValues files path environment).outcome =
      match chosenFile? path environment with
      | none => .ok []
      | some file => valuesOfFile files file := by
  unfold fileValues
  cases chosenFile? path environment with
  | none => rfl
  | some file =>
    simp only
    rw [Reported.outcome_bind, Reported.ofExcept]
    cases valuesOfFile files file <;> rfl

theorem outcome_load (files : FileReader) (defaults : Defaults) (path : Option Text)
    (environment : Environment) :
    (load files defaults path environment).outcome =
      (fileValues files path environment).outcome >>= fun values =>
        ofGivenValues defaults (overriddenValues values (overrides environment)) := by
  unfold load
  rw [Reported.outcome_bind]
  congr 1
  funext values
  simp only
  split <;> rfl

theorem isGiven_iff {value : Json} : isGiven value = true ↔ value ≠ .null := by
  cases value <;> simp [isGiven]

/-- Values of which a null counts as absent are refused for the name that stands for the settings
if the file gives it a value. -/
theorem ofGivenValues_cases (defaults : Defaults) (members : List (Text × Json))
    (overridden : List (Field × Text)) :
    let values := overriddenValues (Dictionary.overlay [] members) overridden
    ((∃ value, Json.memberOf? members "self" = some value ∧ value ≠ .null) ∧
        ofGivenValues defaults values = .error (.foreign .reservedName)) ∨
      ((∀ value, Json.memberOf? members "self" = some value → value = .null) ∧
        ((∃ settings, ofGivenValues defaults values = .ok settings) ∨
          ∃ problem, ofGivenValues defaults values = .error (.configuration problem))) := by
  intro values
  have distinct : ((Dictionary.overlay [] members).map (·.1)).Nodup :=
    Dictionary.nodup_overlay List.nodup_nil
  have named : Json.memberOf? (values.filter fun (_, value) => isGiven value) "self" =
      (Json.memberOf? members "self").filter isGiven := by
    rw [memberOf?_self distinct, Json.memberOf?_overlay]
    exact congrArg (Option.filter isGiven) Option.or_none
  have cases := ofValues_cases defaults (values.filter fun (_, value) => isGiven value)
  rw [named] at cases
  refine cases.imp (fun reserved => ⟨?_, reserved.2⟩) fun free => ⟨?_, free.2⟩
  · obtain ⟨value, same⟩ := Option.isSome_iff_exists.mp reserved.1
    obtain ⟨present, given⟩ := Option.filter_eq_some_iff.mp same
    exact ⟨value, present, isGiven_iff.mp given⟩
  · intro value present
    have absent := free.1
    rw [present, Option.filter_some] at absent
    by_cases given : isGiven value = true
    · rw [if_pos given] at absent
      cases absent
    · exact Classical.not_not.mp fun other => given (isGiven_iff.mpr other)

/-- Loading gives settings, or lets out what is raised on the way, or fails with a fault of the
configuration. -/
theorem load_cases (files : FileReader) (defaults : Defaults) (path : Option Text)
    (environment : Environment) :
    let outcome := (load files defaults path environment).outcome
    (∃ file incident, chosenFile? path environment = some file ∧ Escapes files file incident ∧
        outcome = .error (.foreign incident)) ∨
      (∃ settings, outcome = .ok settings) ∨
        ∃ problem, outcome = .error (.configuration problem) := by
  intro outcome
  have loaded := outcome_load files defaults path environment
  rw [outcome_fileValues] at loaded
  cases chosen : chosenFile? path environment with
  | none =>
    rw [chosen] at loaded
    rcases ofGivenValues_cases defaults [] (overrides environment) with
      ⟨⟨_, named, _⟩, _⟩ | ⟨_, free⟩
    · cases named
    · exact .inr (free.imp (fun ⟨settings, done⟩ => ⟨settings, loaded.trans done⟩)
        fun ⟨problem, failed⟩ => ⟨problem, loaded.trans failed⟩)
  | some file =>
    rw [chosen] at loaded
    simp only at loaded
    rcases valuesOfFile_cases files file with
      ⟨document, members, reads, spelled, read⟩ | ⟨incident, unread, read⟩ | ⟨problem, read⟩
    · rw [read] at loaded
      rcases ofGivenValues_cases defaults members (overrides environment) with
        ⟨⟨value, named, given⟩, reserved⟩ | ⟨_, free⟩
      · exact .inl ⟨file, _, rfl, .reservedName reads spelled named given, loaded.trans reserved⟩
      · exact .inr (free.imp (fun ⟨settings, done⟩ => ⟨settings, loaded.trans done⟩)
          fun ⟨problem, failed⟩ => ⟨problem, loaded.trans failed⟩)
    · rw [read] at loaded
      exact .inl ⟨file, incident, rfl, .unread unread, loaded⟩
    · rw [read] at loaded
      exact .inr (.inr ⟨problem, loaded⟩)

/-- What is raised where the file is read, or for the reserved name, ends the loading. -/
theorem outcome_load_of_escapes (chosen : chosenFile? path environment = some file)
    (escapes : Escapes files file incident) :
    (load files defaults path environment).outcome = .error (.foreign incident) := by
  rw [outcome_load, outcome_fileValues, chosen]
  simp only
  cases escapes with
  | unread unread =>
    rw [valuesOfFile_of_unread unread]
    rfl
  | @reservedName document members value reads spelled named given =>
    rw [valuesOfFile_of_reads reads, valuesOfDocument, spelled]
    rcases ofGivenValues_cases defaults members (overrides environment) with
      ⟨_, reserved⟩ | ⟨free, _⟩
    · exact reserved
    · exact absurd (free value named) given

/-- What escapes is no demand to stop with an exit code. -/
theorem Escapes.exitCode (escapes : Escapes files file incident) : incident.exitCode = none := by
  cases escapes with
  | unread unread => cases unread <;> rfl
  | reservedName => rfl

end Settings

/-! ## The check of a configuration -/

namespace Check

variable {endpoint : Endpoint} {reported : Reported Settings} {closing : Except Fault Unit}
  {fault : Fault}

/-- Settings that cannot be loaded end the check at once: nothing is sent, and a fault of this
library is the exit code 1. -/
theorem run_of_failed (failed : reported.outcome = .error fault) :
    (run endpoint reported closing).1.sent = [] ∧
      (run endpoint reported closing).2 =
        if fault.isInternal then .ok (.int 1) else settle (.error fault) := by
  have loaded : (Routine.ofReported reported).run endpoint {} =
      (reported.lines.foldl (fun shared line => shared.say line.1 line.2) {}, .error fault) :=
    congrArg (Prod.mk _) failed
  have silent : (reported.lines.foldl (fun shared line => shared.say line.1 line.2)
      ({} : Shared)).sent = [] := (Shared.harmless_report reported.lines {}).sent
  generalize reported.lines.foldl (fun shared line => shared.say line.1 line.2)
    ({} : Shared) = written at loaded silent
  have verified : (verify reported closing).run endpoint {} = (written, .error fault) :=
    Routine.run_bind_of_error endpoint loaded _
  rw [run, routine, Routine.run_bind, Routine.run_tryCatch_of_error endpoint
    (Routine.run_bind_of_error endpoint verified _)]
  cases internal : fault.isInternal with
  | true => exact ⟨silent, rfl⟩
  | false => exact ⟨silent, rfl⟩

end Check

/-- **What loading settings lets out.** Whatever the path, the environment and the files, loading
settings either succeeds, or fails with a fault of the configuration, or lets out an incident; the
incidents are those of reading the chosen file, and the one of a member with the reserved name. The
check of a configuration turns the first kind of failure into the exit code 1 and lets the second
one out; in both cases it sends nothing. -/
theorem Settings.escapes_load_iff (files : FileReader) (defaults : Defaults) (path : Option Text)
    (environment : Environment) (endpoint : Endpoint) (closing : Except Fault Unit) :
    let loading := load files defaults path environment
    (∀ incident, loading.outcome = .error (.foreign incident) ↔
        ∃ file, chosenFile? path environment = some file ∧ Escapes files file incident) ∧
      ∀ fault, loading.outcome = .error fault →
        (Check.run endpoint loading closing).1.sent = [] ∧
          ((∃ problem, fault = .configuration problem ∧
              (Check.run endpoint loading closing).2 = .ok (.int 1)) ∨
            ∃ incident, fault = .foreign incident ∧
              (Check.run endpoint loading closing).2 = .error (.foreign incident)) := by
  intro loading
  have cases := load_cases files defaults path environment
  constructor
  · intro incident
    constructor
    · intro failed
      rcases cases with ⟨file, other, chosen, escapes, same⟩ | ⟨_, done⟩ | ⟨_, refused⟩
      · obtain rfl : other = incident := by simpa [loading, same] using failed
        exact ⟨file, chosen, escapes⟩
      · cases failed.symm.trans done
      · cases failed.symm.trans refused
    · rintro ⟨file, chosen, escapes⟩
      exact outcome_load_of_escapes chosen escapes
  · intro fault failed
    obtain ⟨silent, ended⟩ := Check.run_of_failed failed
    refine ⟨silent, ?_⟩
    rcases cases with ⟨file, incident, chosen, escapes, same⟩ | ⟨_, done⟩ | ⟨problem, refused⟩
    · obtain rfl := Except.error.inj (failed.symm.trans same)
      refine .inr ⟨incident, rfl, ended.trans ?_⟩
      simp [Fault.isInternal, Check.settle, Check.exitCode?, escapes.exitCode]
    · cases failed.symm.trans done
    · obtain rfl := Except.error.inj (failed.symm.trans refused)
      exact .inl ⟨problem, rfl, ended⟩

theorem Settings.escapes_load_iff_bytes :
    let loading := load (fun _ => .ok [0xFF]) {} (some "c.json") []
    loading.outcome = .error (.foreign (.notUtf8 ⟨0, 1, 0xFF, .invalidStart⟩)) ∧
      ∀ endpoint closing, (Check.run endpoint loading closing).2 =
        .error (.foreign (.notUtf8 ⟨0, 1, 0xFF, .invalidStart⟩)) := by
  intro loading
  have decoded : Utf8.decode [0xFF] = .error ⟨0, 1, 0xFF, .invalidStart⟩ := by
    simp [Utf8.decode, Utf8.decodeFrom, Utf8.Lead.ofByte?, Except.map]
  have located : hostPath (plainPath "c.json") = .ok [99, 46, 106, 115, 111, 110] := by
    rfl
  have escapes : Escapes (fun _ => .ok [0xFF]) "c.json"
      (.notUtf8 ⟨0, 1, 0xFF, .invalidStart⟩) := .unread (.notUtf8 located rfl decoded)
  have failed : loading.outcome = .error (.foreign (.notUtf8 ⟨0, 1, 0xFF, .invalidStart⟩)) :=
    ((escapes_load_iff (fun _ => .ok [0xFF]) {} (some "c.json") [] (Endpoint.ofRoutes [])
      (.ok ())).1 _).mpr ⟨"c.json", by decide +kernel, escapes⟩
  refine ⟨failed, fun endpoint closing => ?_⟩
  rcases ((escapes_load_iff (fun _ => .ok [0xFF]) {} (some "c.json") [] endpoint closing).2 _
    failed).2 with ⟨_, other, _⟩ | ⟨incident, same, ended⟩
  · cases other
  · rw [same]
    exact ended

end SessionKeeper
