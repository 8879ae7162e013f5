import SessionKeeper.Proofs.Credential.Grant
import SessionKeeper.Proofs.Json.Parsing
import SessionKeeper.Proofs.Settings.Members
import SessionKeeper.Proofs.Text.Encoding

/-! # Which bodies are replies

A grant and a refusal are each read from the bodies that hold an object with what is demanded of its
members, and from no other body (`Reply.Decodes`). A body holds an object if its characters are a
document of the object; whether they come as a text or in UTF-8 makes no difference, nor do members
of which nothing is demanded. What is demanded of the members is a table for each kind of reply; the
first entry that is not met is the one that a failure names.
-/

namespace SessionKeeper

/-! ## Bodies -/

/-- The body is a string or its encoding in UTF-8. -/
def Body.Spells (body : Body) (document : String) : Prop :=
  body = .text document ∨ body = .bytes (Utf8.encode document)

/-- The body is a document of an object with these members. -/
def Body.Holds (body : Body) (members : List (Text × Json)) : Prop :=
  ∃ document, body.Spells document ∧ Json.StrictDocument (.object members) document

namespace Reply

variable {body : Body} {members : List (Text × Json)}

theorem content_of_spells {document : String} (spells : body.Spells document) :
    content body = .ok document := by
  unfold content
  rcases spells with rfl | rfl
  · dsimp only
    rw [Text.toString?_ofString]
  · dsimp only
    rw [Utf8.decode_eq_ok_iff.mpr rfl]
    rfl

theorem spells_of_content {document : String} (success : content body = .ok document) :
    body.Spells document := by
  unfold content at success
  split at success
  · split at success
    · rename_i known
      cases success
      exact .inl (congrArg Body.text (Text.ofString_of_toString? known))
    · cases success
  · exact .inr (congrArg Body.bytes (Utf8.decode_eq_ok_iff.mp (Except.ok_of_mapError success)))

/-- The object that a body holds is read from it. -/
theorem readObject_of_holds (holds : body.Holds members) :
    readObject body = .ok (.object members) := by
  obtain ⟨document, spells, written⟩ := holds
  have read := Json.readStrict?_eq_some_iff.mpr written
  unfold readObject
  rw [content_of_spells spells]
  dsimp only [bind, Except.bind]
  rw [read]
  rfl

theorem holds_of_readObject {object : Json} (success : readObject body = .ok object) :
    ∃ members, object = .object members ∧ body.Holds members := by
  obtain ⟨document, content, success⟩ := Except.ok_of_bind success
  split at success
  · cases success
  · rename_i members read
    cases success
    exact ⟨members, rfl, document, spells_of_content content,
      Json.readStrict?_eq_some_iff.mp read⟩
  · cases success

theorem membersAreScalar_of_holds (holds : body.Holds members) :
    Json.membersAreScalar members = true := by
  obtain ⟨_, _, _, _, scalar⟩ := holds
  rwa [Json.isScalar] at scalar

/-! ## Members -/

/-- What a reply demands of one of its members. -/
inductive Demand where
  /-- A text that is not empty. -/
  | filledText
  | anyText
  /-- A text, null, or nothing at all. -/
  | textOrNothing
  /-- A text; nothing at all stands for the empty one. -/
  | textOrEmpty
deriving DecidableEq, Repr

/-- A member meets a demand, and this is its value by it. -/
inductive Demand.Meets : Demand → Option Json → Option String → Prop
  | filled {text : String} (there : text ≠ "") :
    Meets .filledText (some (.text text)) (some text)
  | any {text : String} : Meets .anyText (some (.text text)) (some text)
  | given {text : String} : Meets .textOrNothing (some (.text text)) (some text)
  | null : Meets .textOrNothing (some .null) none
  | nothing : Meets .textOrNothing none none
  | stated {text : String} : Meets .textOrEmpty (some (.text text)) (some text)
  | empty : Meets .textOrEmpty none (some "")

/-- Why a member does not meet a demand. -/
def Demand.fault? (demand : Demand) (found : Option Json) : Option ValueProblem :=
  match demand, found with
  | .textOrNothing, none => none
  | .textOrNothing, some .null => none
  | .textOrEmpty, none => none
  | _, none => some .missing
  | .filledText, some (.text text) => if text = "" then some .empty else none
  | _, some (.text _) => none
  | _, some _ => some .notText

theorem Demand.Meets.fault?_eq_none {demand : Demand} {found : Option Json}
    {value : Option String} (meets : demand.Meets found value) : demand.fault? found = none := by
  cases meets with
  | filled there => exact if_neg fun same => there (Text.ofString_inj.mp same)
  | _ => rfl

theorem Demand.Meets.eq_some {demand : Demand} {text : String} {value : Option String}
    (meets : demand.Meets (some (.text text)) value) : value = some text := by
  generalize known : some (Json.text text) = found at meets
  cases meets with
  | null | nothing | empty => cases known
  | filled | any | given | stated =>
    exact congrArg some (Text.ofString_inj.mp (Json.text.inj (Option.some.inj known.symm)))

/-- A member has one value by a demand. -/
theorem Demand.Meets.unique {demand : Demand} {found : Option Json} {value other : Option String}
    (meets : demand.Meets found value) (again : demand.Meets found other) : value = other := by
  cases meets with
  | filled | any | given | stated => exact again.eq_some.symm
  | null | nothing | empty =>
    cases again
    rfl

/-- The members meet the demands, each with its value. -/
def MeetAll (demands : List (String × Demand)) (members : List (Text × Json))
    (values : List (Option String)) : Prop :=
  List.Forall₂ (fun demand value => demand.2.Meets (Json.memberOf? members demand.1) value)
    demands values

/-- The first demand that is not met, and why. -/
def firstOffence? (demands : List (String × Demand)) (members : List (Text × Json)) :
    Option (String × ValueProblem) :=
  demands.findSome? fun (name, demand) =>
    (demand.fault? (Json.memberOf? members name)).map (name, ·)

section

variable {demands : List (String × Demand)} {values others : List (Option String)}

theorem firstOffence?_cons {name : String} {demand : Demand} :
    firstOffence? ((name, demand) :: demands) members =
      match demand.fault? (Json.memberOf? members name) with
      | some cause => some (name, cause)
      | none => firstOffence? demands members := by
  unfold firstOffence?
  rw [List.findSome?_cons]
  dsimp only
  cases demand.fault? (Json.memberOf? members name) <;> rfl

theorem MeetAll.firstOffence?_eq_none (meet : MeetAll demands members values) :
    firstOffence? demands members = none := by
  induction meet with
  | nil => rfl
  | cons meets rest ih => rw [firstOffence?_cons, meets.fault?_eq_none, ih]

theorem MeetAll.unique (meet : MeetAll demands members values)
    (again : MeetAll demands members others) : values = others := by
  induction meet generalizing others with
  | nil =>
    cases again
    rfl
  | cons meets rest ih =>
    cases again with
    | cons meetsAgain restAgain => rw [meets.unique meetsAgain, ih restAgain]

/-- The demands ask for nothing but the members that they name. -/
theorem MeetAll.congr {later : List (Text × Json)} (meet : MeetAll demands members values)
    (same : ∀ demand ∈ demands,
      Json.memberOf? later demand.1 = Json.memberOf? members demand.1) :
    MeetAll demands later values := by
  induction meet with
  | nil => exact .nil
  | cons meets rest ih =>
    rw [List.forall_mem_cons] at same
    exact .cons (same.1 ▸ meets) (ih same.2)

theorem firstOffence?_congr {later : List (Text × Json)} (same : ∀ demand ∈ demands,
      Json.memberOf? later demand.1 = Json.memberOf? members demand.1) :
    firstOffence? demands later = firstOffence? demands members := by
  induction demands with
  | nil => rfl
  | cons demand demands ih =>
    rw [List.forall_mem_cons] at same
    rw [firstOffence?_cons, firstOffence?_cons, same.1, ih same.2]

end

/-! ## Reading one member after the other -/

section

variable {α β : Type}

/-- What comes of reading one member. -/
def Answers (members : List (Text × Json)) (name : String) (demand : Demand)
    (value : α → Option String) (outcome : Except DecodeProblem α) : Prop :=
  (∃ read, outcome = .ok read ∧ demand.Meets (Json.memberOf? members name) (value read)) ∨
    ∃ cause, outcome = .error (.member name cause) ∧
      demand.fault? (Json.memberOf? members name) = some cause

/-- What comes of reading the members that are asked for by `demands`, when `given` are the values
that have been read before. -/
def Settles (members : List (Text × Json)) (demands : List (String × Demand))
    (given : List (Option String)) (values : α → List (Option String))
    (outcome : Except DecodeProblem α) : Prop :=
  (∃ reply found, outcome = .ok reply ∧ MeetAll demands members found ∧
      values reply = given ++ found) ∨
    ∃ name cause, outcome = .error (.member name cause) ∧
      firstOffence? demands members = some (name, cause)

variable {given : List (Option String)} {values : α → List (Option String)}

theorem Settles.done {reply : α} (complete : values reply = given) :
    Settles members [] given values (.ok reply) :=
  .inl ⟨reply, [], rfl, .nil, by rw [complete, List.append_nil]⟩

theorem Answers.bind {name : String} {demand : Demand} {value : β → Option String}
    {field : Except DecodeProblem β} {next : β → Except DecodeProblem α}
    {demands : List (String × Demand)} (first : Answers members name demand value field)
    (others : ∀ read, Settles members demands (given ++ [value read]) values (next read)) :
    Settles members ((name, demand) :: demands) given values (field >>= next) := by
  rcases first with ⟨read, rfl, meets⟩ | ⟨cause, rfl, fault⟩
  · rcases others read with ⟨reply, found, success, meet, same⟩ | ⟨name, cause, failure, offence⟩
    · exact .inl ⟨reply, value read :: found, success, .cons meets meet, by simpa using same⟩
    · refine .inr ⟨name, cause, failure, ?_⟩
      rw [firstOffence?_cons, meets.fault?_eq_none, offence]
  · refine .inr ⟨name, cause, rfl, ?_⟩
    rw [firstOffence?_cons, fault]

end

/-- A member of an object without lone surrogates holds none. -/
theorem isScalar_of_memberOf? {name : Text} {value : Json}
    (scalar : Json.membersAreScalar members = true)
    (found : Json.memberOf? members name = some value) : value.isScalar = true := by
  induction members with
  | nil => cases found
  | cons member members ih =>
    obtain ⟨other, present⟩ := member
    simp only [Json.membersAreScalar, Bool.and_eq_true] at scalar
    rw [Json.memberOf?_cons, Option.or_eq_some_iff] at found
    rcases found with later | ⟨_, own⟩
    · exact ih scalar.2 later
    · split at own
      · obtain rfl := Option.some.inj own
        exact scalar.1.2
      · cases own

theorem exists_string {name text : Text} (scalar : Json.membersAreScalar members = true)
    (found : Json.memberOf? members name = some (.text text)) :
    ∃ string : String, text = string := by
  have whole := isScalar_of_memberOf? scalar found
  rw [Json.isScalar, Option.isSome_iff_exists] at whole
  obtain ⟨string, known⟩ := whole
  exact ⟨string, Text.ofString_of_toString? known⟩

theorem readAnyText_ofString (string : String) : readAnyText (.text string) = .ok string := by
  unfold readAnyText
  dsimp only
  rw [Text.toString?_ofString]

theorem readText_ofString (string : String) :
    Settings.readText (.text string) = if string = "" then .error .empty else .ok string := by
  unfold Settings.readText
  dsimp only
  rw [Text.toString?_ofString]
  simp

theorem answers_required_filledText (scalar : Json.membersAreScalar members = true)
    (name : String) : Answers members name .filledText some
      (required (.object members) name Settings.readText) := by
  unfold required Json.member? Answers
  dsimp only
  cases found : Json.memberOf? members name with
  | none => exact .inr ⟨.missing, rfl, rfl⟩
  | some value =>
    cases value with
    | text text =>
      obtain ⟨string, rfl⟩ := exists_string scalar found
      dsimp only
      rw [readText_ofString]
      by_cases empty : string = ""
      · rw [if_pos empty, empty]
        exact .inr ⟨.empty, rfl, rfl⟩
      · rw [if_neg empty]
        exact .inl ⟨string, rfl, .filled empty⟩
    | _ => exact .inr ⟨.notText, rfl, rfl⟩

theorem answers_required_anyText (scalar : Json.membersAreScalar members = true)
    (name : String) : Answers members name .anyText some
      (required (.object members) name readAnyText) := by
  unfold required Json.member? Answers
  dsimp only
  cases found : Json.memberOf? members name with
  | none => exact .inr ⟨.missing, rfl, rfl⟩
  | some value =>
    cases value with
    | text text =>
      obtain ⟨string, rfl⟩ := exists_string scalar found
      dsimp only
      rw [readAnyText_ofString]
      exact .inl ⟨string, rfl, .any⟩
    | _ => exact .inr ⟨.notText, rfl, rfl⟩

theorem answers_optionalText (scalar : Json.membersAreScalar members = true) (name : String) :
    Answers members name .textOrNothing id (optionalText (.object members) name) := by
  unfold optionalText Json.member? Answers
  dsimp only
  cases found : Json.memberOf? members name with
  | none => exact .inl ⟨none, rfl, .nothing⟩
  | some value =>
    cases value with
    | null => exact .inl ⟨none, rfl, .null⟩
    | text text =>
      obtain ⟨string, rfl⟩ := exists_string scalar found
      dsimp only
      rw [readAnyText_ofString]
      exact .inl ⟨some string, rfl, .given⟩
    | _ => exact .inr ⟨.notText, rfl, rfl⟩

/-- A text that need not be there is read like one that must be there, unless it is absent. -/
theorem answers_textOrEmpty (scalar : Json.membersAreScalar members = true) (name : String) :
    Answers members name .textOrEmpty some
      (match (Json.object members).member? name with
        | none => pure ""
        | some _ => required (.object members) name readAnyText) := by
  have whole := answers_required_anyText scalar name
  unfold Answers at whole ⊢
  unfold Json.member?
  dsimp only
  cases found : Json.memberOf? members name with
  | none => exact .inl ⟨"", rfl, .empty⟩
  | some value =>
    dsimp only
    rw [found] at whole
    rcases whole with ⟨read, success, meets⟩ | ⟨cause, failure, fault⟩
    · cases meets
      exact .inl ⟨read, success, .stated⟩
    · refine .inr ⟨cause, failure, ?_⟩
      cases value with
      | text => cases fault
      | _ => exact fault

/-! ## Decoders -/

/-- What a decoder does whose replies have the values `values`, in the order of its demands. -/
structure Decodes {α : Type} (decode : Body → Except DecodeProblem α)
    (demands : List (String × Demand)) (values : α → List (Option String)) : Prop where
  /-- A reply is read from the bodies that hold an object with its values. -/
  reads (body : Body) (reply : α) : decode body = .ok reply ↔
    ∃ members, body.Holds members ∧ MeetAll demands members (values reply)
  /-- Every other body is refused. -/
  refuses (body : Body) : (∃ problem, decode body = .error problem) ↔
    ¬ ∃ members reply, body.Holds members ∧ MeetAll demands members (values reply)
  /-- An object is refused for the first demand that it does not meet, by name. -/
  names (body : Body) (members : List (Text × Json)) (holds : body.Holds members)
    (problem : DecodeProblem) : decode body = .error problem ↔
    ∃ name cause, firstOffence? demands members = some (name, cause) ∧
      problem = .member name cause ∧ problem.message =
        s!"Login error: response parse exception: {name} {cause.message}"
  /-- A string and its encoding are the same to the decoder. -/
  encoded (document : String) :
    decode (.bytes (Utf8.encode document)) = decode (.text document)
  /-- Members of which nothing is demanded have no influence. -/
  ignores (body other : Body) (members others : List (Text × Json)) (holds : body.Holds members)
    (otherHolds : other.Holds others) (same : ∀ demand ∈ demands,
      Json.memberOf? others demand.1 = Json.memberOf? members demand.1) :
    decode other = decode body

theorem readObject_encode (document : String) :
    readObject (.bytes (Utf8.encode document)) = readObject (.text document) := by
  unfold readObject
  rw [content_of_spells (.inr rfl), content_of_spells (.inl rfl)]

section

variable {α : Type} {decode : Body → Except DecodeProblem α} {demands : List (String × Demand)}
  {values : α → List (Option String)}

/-- A decoder that reads one member after the other follows its table. -/
theorem decodes_of_settles
    (settles : ∀ body members, body.Holds members → Settles members demands [] values (decode body))
    (held : ∀ body reply, decode body = .ok reply → ∃ members, body.Holds members)
    (injective : values.Injective)
    (encoded : ∀ document,
      decode (.bytes (Utf8.encode document)) = decode (.text document)) :
    Decodes decode demands values := by
  have reads (body : Body) (reply : α) : decode body = .ok reply ↔
      ∃ members, body.Holds members ∧ MeetAll demands members (values reply) := by
    constructor
    · intro success
      obtain ⟨members, holds⟩ := held body reply success
      rcases settles body members holds with ⟨other, found, again, meet, same⟩ | ⟨_, _, failure, _⟩
      · obtain rfl := Except.ok.inj (success.symm.trans again)
        exact ⟨members, holds, same ▸ meet⟩
      · cases success.symm.trans failure
    · rintro ⟨members, holds, meet⟩
      rcases settles body members holds with
        ⟨other, found, success, again, same⟩ | ⟨_, _, _, offence⟩
      · rw [success, injective (same.trans (again.unique meet))]
      · cases offence.symm.trans meet.firstOffence?_eq_none
  refine { reads, encoded, refuses := ?refuses, names := ?names, ignores := ?ignores }
  case refuses =>
    intro body
    constructor
    · rintro ⟨problem, failure⟩ ⟨members, reply, found⟩
      cases failure.symm.trans ((reads body reply).mpr ⟨members, found⟩)
    · intro nothing
      cases outcome : decode body with
      | error problem => exact ⟨problem, rfl⟩
      | ok reply =>
        obtain ⟨members, found⟩ := (reads body reply).mp outcome
        exact absurd ⟨members, reply, found⟩ nothing
  case names =>
    intro body members holds problem
    constructor
    · intro failure
      rcases settles body members holds with ⟨_, _, success, _⟩ | ⟨name, cause, again, offence⟩
      · cases failure.symm.trans success
      · obtain rfl := Except.error.inj (failure.symm.trans again)
        exact ⟨name, cause, offence, rfl, rfl⟩
    · rintro ⟨name, cause, offence, rfl, _⟩
      rcases settles body members holds with ⟨_, _, _, meet, _⟩ | ⟨_, _, failure, again⟩
      · cases offence.symm.trans meet.firstOffence?_eq_none
      · obtain ⟨rfl, rfl⟩ := Prod.mk.inj (Option.some.inj (offence.symm.trans again))
        exact failure
  case ignores =>
    intro body other members others holds otherHolds same
    rcases settles body members holds with
      ⟨reply, found, success, meet, known⟩ | ⟨name, cause, failure, offence⟩
    · rw [success, reads]
      exact ⟨others, otherHolds, known ▸ meet.congr same⟩
    · rw [failure]
      rcases settles other others otherHolds with ⟨_, _, _, meet, _⟩ | ⟨_, _, again, later⟩
      · rw [← firstOffence?_congr same, meet.firstOffence?_eq_none] at offence
        cases offence
      · rw [firstOffence?_congr same, offence] at later
        obtain ⟨rfl, rfl⟩ := Prod.mk.inj (Option.some.inj later)
        exact again

end

end Reply

namespace Grant

def demands : List (String × Reply.Demand) :=
  [("access_token", .filledText), ("instance_url", .filledText), ("id", .textOrNothing),
    ("token_type", .textOrNothing), ("issued_at", .textOrNothing), ("signature", .textOrNothing)]

/-- The values of a grant in the order of the demands on its members. -/
def values (grant : Grant) : List (Option String) :=
  [some grant.accessToken, some grant.instanceUrl, grant.identity, grant.tokenType,
    grant.issuedAt, grant.signature]

theorem settles_ofBody {body : Body} {members : List (Text × Json)} (holds : body.Holds members) :
    Reply.Settles members demands [] values (ofBody body) := by
  have scalar := Reply.membersAreScalar_of_holds holds
  unfold ofBody
  rw [Reply.readObject_of_holds holds]
  refine (Reply.answers_required_filledText scalar _).bind fun accessToken => ?_
  refine (Reply.answers_required_filledText scalar _).bind fun instanceUrl => ?_
  refine (Reply.answers_optionalText scalar _).bind fun identity => ?_
  refine (Reply.answers_optionalText scalar _).bind fun tokenType => ?_
  refine (Reply.answers_optionalText scalar _).bind fun issuedAt => ?_
  refine (Reply.answers_optionalText scalar _).bind fun signature => ?_
  exact .done rfl

end Grant

namespace LoginRefusal

def demands : List (String × Reply.Demand) :=
  [("error", .anyText), ("error_description", .textOrEmpty)]

def values (refusal : LoginRefusal) : List (Option String) :=
  [some refusal.code, some refusal.description]

theorem settles_ofBody {body : Body} {members : List (Text × Json)} (holds : body.Holds members) :
    Reply.Settles members demands [] values (ofBody body) := by
  have scalar := Reply.membersAreScalar_of_holds holds
  unfold ofBody
  rw [Reply.readObject_of_holds holds]
  refine (Reply.answers_required_anyText scalar _).bind fun code => ?_
  have last : Reply.Settles members [("error_description", .textOrEmpty)] [some code] values
      ((match (Json.object members).member? "error_description" with
        | none => pure ""
        | some _ => Reply.required (.object members) "error_description" Reply.readAnyText) >>=
        fun description => .ok ⟨code, description⟩) :=
    (Reply.answers_textOrEmpty scalar _).bind fun description => .done rfl
  cases found : (Json.object members).member? "error_description" with
  | none =>
    rw [found] at last
    exact last
  | some value =>
    rw [found] at last
    exact last

end LoginRefusal

/-- Bodies that are no object are read as nothing, whatever is demanded of members. -/
theorem Reply.exists_holds {α : Type} {body : Body} {reply : α}
    {next : Json → Except DecodeProblem α} (success : readObject body >>= next = .ok reply) :
    ∃ members, body.Holds members := by
  obtain ⟨object, read, _⟩ := Except.ok_of_bind success
  obtain ⟨members, _, holds⟩ := holds_of_readObject read
  exact ⟨members, holds⟩

theorem Grant.values_injective : Grant.values.Injective := by
  rintro ⟨⟩ ⟨⟩ same
  simpa [values] using same

theorem Grant.decodes : Reply.Decodes Grant.ofBody Grant.demands Grant.values :=
  Reply.decodes_of_settles (fun _ _ => settles_ofBody) (fun _ _ => Reply.exists_holds)
    values_injective fun document => by rw [ofBody, Reply.readObject_encode, ofBody]

theorem LoginRefusal.values_injective : LoginRefusal.values.Injective := by
  rintro ⟨⟩ ⟨⟩ same
  simpa [values] using same

theorem LoginRefusal.decodes :
    Reply.Decodes LoginRefusal.ofBody LoginRefusal.demands LoginRefusal.values :=
  Reply.decodes_of_settles (fun _ _ => settles_ofBody) (fun _ _ => Reply.exists_holds)
    values_injective fun document => by rw [ofBody, Reply.readObject_encode, ofBody]

/-- **Decoding.** Grants and refusals are read from the bodies that hold an object as their tables
demand it, and from no other ones. -/
theorem Reply.decodes_login : Decodes Grant.ofBody Grant.demands Grant.values ∧
    Decodes LoginRefusal.ofBody LoginRefusal.demands LoginRefusal.values :=
  ⟨Grant.decodes, LoginRefusal.decodes⟩

/-- The last of two tokens counts, null is no identity, and the scope is not looked at. -/
theorem Reply.decodes_login_repeated : ∃ members : List (Text × Json),
    (Body.text ("\x7b\"access_token\":\"\",\"scope\":[1e2],\"access_token\":\"t\"," ++
      "\"id\":null,\"instance_url\":\"u\"\x7d" : String)).Holds members ∧
      MeetAll Grant.demands members [some "t", some "u", none, none, none, none] :=
  (decodes_login.1.reads _ ⟨"t", "u", none, none, none, none⟩).mp
    (Except.ok_of_toOption (by decide +kernel))

end SessionKeeper
