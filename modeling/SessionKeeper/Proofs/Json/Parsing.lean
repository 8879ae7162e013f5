import SessionKeeper.Proofs.Json.Lexing

/-! # Reading a document

The strict reader reads the strict documents of the grammar and no others, each as its value
(`Json.readStrict?_eq_some_iff`). What the reader has taken so far is a beginning of a derivation
(`Json.Reached`), which every lexeme keeps (`Json.Reached.take`). Conversely the tokens of a phrase
lead the reader to the end of the phrase (`Json.Leads`), by induction on how the phrase is derived.
-/

namespace SessionKeeper.Json

/-! ## What has been read is a beginning of a document -/

/-- The tokens read until the innermost of the open containers goes on with a value. -/
inductive Opened : List OpenContainer → List Token → Prop
  | nil : Opened [] []
  | firstItem {outer : List OpenContainer} {before : List Token} (opened : Opened outer before) :
    Opened (.list [] :: outer) (before ++ [.openBracket])
  | nextItem {outer : List OpenContainer} {before tokens : List Token} {items : List Json}
      (opened : Opened outer before) (inside : Derives (.items items.reverse) tokens) :
    Opened (.list items :: outer) (before ++ .openBracket :: tokens ++ [.comma])
  | firstMember {outer : List OpenContainer} {before : List Token} {name : Text}
      (opened : Opened outer before) :
    Opened (.object [] name :: outer) (before ++ [.openBrace] ++ [.text name] ++ [.colon])
  | nextMember {outer : List OpenContainer} {before tokens : List Token}
      {members : List (Text × Json)} {name : Text} (opened : Opened outer before)
      (inside : Derives (.members members.reverse) tokens) :
    Opened (.object members name :: outer)
      (before ++ .openBrace :: tokens ++ [.comma] ++ [.text name] ++ [.colon])

/-- The tokens with which the reader gets to expect something. -/
inductive Reached : Expectation → List Token → Prop
  | value {outer : List OpenContainer} {before : List Token} (opened : Opened outer before) :
    Reached (.value outer) before
  | valueOrClose {outer : List OpenContainer} {before : List Token}
      (opened : Opened outer before) : Reached (.valueOrClose outer) (before ++ [.openBracket])
  | name {outer : List OpenContainer} {before tokens : List Token} {members : List (Text × Json)}
      (opened : Opened outer before) (inside : Derives (.members members.reverse) tokens) :
    Reached (.name members outer) (before ++ .openBrace :: tokens ++ [.comma])
  | nameOrClose {outer : List OpenContainer} {before : List Token}
      (opened : Opened outer before) : Reached (.nameOrClose outer) (before ++ [.openBrace])
  | colon {outer : List OpenContainer} {before : List Token} {members : List (Text × Json)}
      {name : Text} (opened : Opened (.object members name :: outer) (before ++ [.colon])) :
    Reached (.colon members name outer) before
  | delimiter {outer : List OpenContainer} {before tokens : List Token} {read : Json}
      (opened : Opened outer before) (derives : Derives (.value read) tokens) :
    Reached (.delimiter read outer) (before ++ tokens)
  | nothing {tokens : List Token} {read : Json} (derives : Derives (.value read) tokens) :
    Reached (.nothing read) (tokens ++ [.finish])

section

variable {lexeme : Lexeme} {next : Expectation} {outer : List OpenContainer}
  {before : List Token}

theorem Opened.openContainer {kind : ContainerKind} (opened : Opened outer before)
    (success : openContainer kind outer = .ok next) :
    Reached next (before ++ [match kind with | .list => .openBracket | .object => .openBrace]) := by
  unfold Json.openContainer at success
  split at success
  · cases success
  · cases kind with
    | list =>
      cases success
      exact .valueOrClose opened
    | object =>
      cases success
      exact .nameOrClose opened

theorem Opened.takeValue (opened : Opened outer before)
    (success : takeValue outer lexeme = .ok next) :
    ∃ token, lexeme.token = .ok token ∧ Reached next (before ++ [token]) := by
  unfold Json.takeValue at success
  split at success
  · rename_i value known
    cases success
    exact ⟨_, known, .delimiter opened (.plain value)⟩
  · rename_i text known
    cases success
    exact ⟨_, known, .delimiter opened (.text text)⟩
  · rename_i known
    exact ⟨_, known, opened.openContainer success⟩
  · rename_i known
    exact ⟨_, known, opened.openContainer success⟩
  · cases success
  · cases success

theorem takeName_eq_ok {members : List (Text × Json)}
    (success : takeName members outer lexeme = .ok next) :
    ∃ name, lexeme.token = .ok (.text name) ∧ next = .colon members name outer := by
  unfold takeName at success
  split at success
  · rename_i name known
    exact ⟨name, known, (Except.ok.inj success).symm⟩
  · cases success
  · split at success <;> cases success

/-- With one item more, the items of an open list derive from what stands behind its bracket. -/
theorem Opened.item {items : List Json} {read : Json} {tokens : List Token}
    (opened : Opened (.list items :: outer) before) (derives : Derives (.value read) tokens) :
    ∃ start inside, Opened outer start ∧ Derives (.items (read :: items).reverse) inside ∧
      before ++ tokens = start ++ .openBracket :: inside := by
  rw [List.reverse_cons]
  cases opened with
  | firstItem opened => exact ⟨_, _, opened, .item derives, by simp⟩
  | nextItem opened inside => exact ⟨_, _, opened, .nextItem inside derives, by simp⟩

theorem Opened.member {members : List (Text × Json)} {name : Text} {read : Json}
    {tokens : List Token} (opened : Opened (.object members name :: outer) before)
    (derives : Derives (.value read) tokens) :
    ∃ start inside, Opened outer start ∧
      Derives (.members ((name, read) :: members).reverse) inside ∧
      before ++ tokens = start ++ .openBrace :: inside := by
  rw [List.reverse_cons]
  cases opened with
  | firstMember opened => exact ⟨_, _, opened, .member derives, by simp⟩
  | nextMember opened inside => exact ⟨_, _, opened, .nextMember inside derives, by simp⟩

/-- A comma or the end of its container follows a value. -/
theorem Opened.takeDelimiter {read : Json} {tokens : List Token} (opened : Opened outer before)
    (derives : Derives (.value read) tokens)
    (success : takeDelimiter read outer lexeme = .ok next) :
    ∃ token, lexeme.token = .ok token ∧ Reached next (before ++ tokens ++ [token]) := by
  unfold Json.takeDelimiter at success
  split at success
  · rename_i known
    cases success
    cases opened
    exact ⟨_, known, .nothing derives⟩
  · cases success
  · rename_i known
    cases success
    obtain ⟨start, inside, opened, items, same⟩ := opened.item derives
    exact ⟨_, known, same ▸ .value (opened.nextItem items)⟩
  · rename_i known
    cases success
    obtain ⟨start, inside, opened, items, same⟩ := opened.item derives
    refine ⟨_, known, ?_⟩
    rw [same, List.append_assoc]
    exact .delimiter opened (.list items)
  · rename_i known
    cases success
    obtain ⟨start, inside, opened, members, same⟩ := opened.member derives
    exact ⟨_, known, same ▸ .name opened members⟩
  · rename_i known
    cases success
    obtain ⟨start, inside, opened, members, same⟩ := opened.member derives
    refine ⟨_, known, ?_⟩
    rw [same, List.append_assoc]
    exact .delimiter opened (.object members)
  · cases success

/-- A lexeme that the reader takes is a token, and goes on with a document. -/
theorem Reached.take {expected : Expectation} (reached : Reached expected before)
    (success : take expected lexeme = .ok next) :
    ∃ token, lexeme.token = .ok token ∧ Reached next (before ++ [token]) := by
  cases reached with
  | value opened => exact opened.takeValue success
  | valueOrClose opened =>
    unfold Json.take at success
    dsimp only at success
    split at success
    · rename_i known
      cases success
      refine ⟨_, known, ?_⟩
      rw [List.append_assoc]
      exact .delimiter opened .emptyList
    · exact opened.firstItem.takeValue success
  | name opened inside =>
    obtain ⟨name, known, rfl⟩ := takeName_eq_ok success
    exact ⟨_, known, .colon (opened.nextMember inside)⟩
  | nameOrClose opened =>
    unfold Json.take at success
    dsimp only at success
    split at success
    · rename_i known
      cases success
      refine ⟨_, known, ?_⟩
      rw [List.append_assoc]
      exact .delimiter opened .emptyObject
    · obtain ⟨name, known, rfl⟩ := takeName_eq_ok success
      exact ⟨_, known, .colon opened.firstMember⟩
  | colon opened =>
    unfold Json.take at success
    dsimp only at success
    split at success
    · rename_i known
      cases success
      exact ⟨_, known, .value opened⟩
    · cases success
  | delimiter opened derives => exact opened.takeDelimiter derives success
  | nothing derives => cases success

/-- A whole run keeps what has been reached. -/
theorem Reached.foldlM_take {lexemes : List Lexeme} {expected : Expectation}
    (reached : Reached expected before) (success : lexemes.foldlM Json.take expected = .ok next) :
    ∃ tokens, Yields lexemes tokens ∧ Reached next (before ++ tokens) := by
  induction lexemes generalizing expected before with
  | nil =>
    cases success
    exact ⟨[], rfl, by rwa [List.append_nil]⟩
  | cons lexeme lexemes ih =>
    rw [List.foldlM_cons] at success
    cases first : Json.take expected lexeme with
    | error fault =>
      rw [first] at success
      cases success
    | ok middle =>
      rw [first] at success
      obtain ⟨token, known, reached⟩ := reached.take first
      obtain ⟨tokens, yields, reached⟩ := ih reached success
      refine ⟨token :: tokens, ?_, by simpa using reached⟩
      rw [Yields, List.map_cons, List.map_cons, known, yields]

end

theorem document_of_readAs {document : List Char} {value : Json}
    (success : readAs .strict document = .ok value) : Document value document := by
  unfold readAs at success
  split at success
  · cases success
  split at success
  · rename_i run
    cases success
    obtain ⟨tokens, yields, reached⟩ := (Reached.value .nil).foldlM_take run
    rw [List.nil_append] at reached
    cases reached with
    | nothing derives => exact ⟨_, derives, lexes_of_yields yields⟩
  · cases success
  · cases success

/-! ## Every document is read -/

/-- The tokens take the reader from one expectation to another one. -/
def Leads (expected : Expectation) (tokens : List Token) (next : Expectation) : Prop :=
  ∀ lexemes, Yields lexemes tokens → lexemes.foldlM take expected = .ok next

theorem Leads.single {expected next : Expectation} {token : Token}
    (taken : ∀ position, take expected ⟨position, .ok token⟩ = .ok next) :
    Leads expected [token] next := by
  intro lexemes yields
  obtain ⟨⟨position, found⟩, rfl, known⟩ := List.map_eq_singleton_iff.mp yields
  obtain rfl : found = .ok token := known
  rw [List.foldlM_cons, taken]
  rfl

theorem Leads.append {expected middle next : Expectation} {first second : List Token}
    (start : Leads expected first middle) (finish : Leads middle second next) :
    Leads expected (first ++ second) next := by
  intro lexemes yields
  rw [Yields, List.map_append] at yields
  obtain ⟨former, latter, rfl, yieldsFormer, yieldsLatter⟩ := List.map_eq_append_iff.mp yields
  rw [List.foldlM_append, start former yieldsFormer]
  exact finish latter yieldsLatter

theorem Leads.cons {expected middle next : Expectation} {token : Token} {tokens : List Token}
    (taken : ∀ position, take expected ⟨position, .ok token⟩ = .ok middle)
    (finish : Leads middle tokens next) : Leads expected (token :: tokens) next :=
  (Leads.single taken).append finish

/-! ### Phrases -/

/-- A value does not begin with the end of a list. -/
theorem Derives.begins {value : Json} {tokens : List Token}
    (derives : Derives (.value value) tokens) :
    ∃ token more, tokens = token :: more ∧ token ≠ .closeBracket := by
  cases derives <;> exact ⟨_, _, rfl, Token.noConfusion⟩

theorem take_valueOrClose {token : Token} (other : token ≠ .closeBracket)
    (outer : List OpenContainer) (position : Nat) :
    take (.valueOrClose outer) ⟨position, .ok token⟩ =
      take (.value (.list [] :: outer)) ⟨position, .ok token⟩ := by
  cases token <;> first | rfl | exact absurd rfl other

theorem Leads.valueOrClose {value : Json} {tokens : List Token} {outer : List OpenContainer}
    {next : Expectation} (leads : Leads (.value (.list [] :: outer)) tokens next)
    (derives : Derives (.value value) tokens) : Leads (.valueOrClose outer) tokens next := by
  obtain ⟨token, more, rfl, other⟩ := derives.begins
  intro lexemes yields
  have taken := leads lexemes yields
  obtain ⟨⟨position, found⟩, rest, rfl, known, _⟩ := List.map_eq_cons_iff.mp yields
  obtain rfl : found = .ok token := known
  rw [List.foldlM_cons, take_valueOrClose other, ← List.foldlM_cons]
  exact taken

theorem openContainer_of_lt {outer : List OpenContainer} (room : outer.length < nestingLimit)
    (kind : ContainerKind) : openContainer kind outer =
      .ok (match kind with | .list => .valueOrClose outer | .object => .nameOrClose outer) := by
  unfold openContainer
  rw [if_neg (Nat.not_le.mpr room)]
  cases kind <;> rfl

/-- How the reader gets through a phrase inside of the containers `outer`, if these and the
containers of the phrase are not too many. -/
def Phrase.IsRead (outer : List OpenContainer) (tokens : List Token) : Phrase → Prop
  | .value read =>
    outer.length + read.depth < nestingLimit → Leads (.value outer) tokens (.delimiter read outer)
  | .items read =>
    outer.length + 1 + depthOfItems read < nestingLimit →
      ∃ before last, read = before ++ [last] ∧
        Leads (.valueOrClose outer) tokens (.delimiter last (.list before.reverse :: outer))
  | .members read =>
    outer.length + 1 + depthOfMembers read < nestingLimit →
      ∃ before name last, read = before ++ [(name, last)] ∧
        Leads (.nameOrClose outer) tokens (.delimiter last (.object before.reverse name :: outer))

theorem Derives.items_ne_nil {items : List Json} {tokens : List Token}
    (derives : Derives (.items items) tokens) : items ≠ [] := by
  cases derives <;> simp

theorem Derives.members_ne_nil {members : List (Text × Json)} {tokens : List Token}
    (derives : Derives (.members members) tokens) : members ≠ [] := by
  cases derives <;> simp

theorem Derives.isRead {phrase : Phrase} {tokens : List Token} (derives : Derives phrase tokens)
    (outer : List OpenContainer) : phrase.IsRead outer tokens := by
  induction derives generalizing outer with
  | plain value => exact fun _ => Leads.single fun _ => rfl
  | text text => exact fun _ => Leads.single fun _ => rfl
  | emptyList =>
    exact fun room => .cons (fun _ => openContainer_of_lt room .list) (.single fun _ => rfl)
  | emptyObject =>
    exact fun room => .cons (fun _ => openContainer_of_lt room .object) (.single fun _ => rfl)
  | list inside ih =>
    intro room
    rw [depth_list inside.items_ne_nil] at room
    obtain ⟨before, last, rfl, leads⟩ := ih outer (by omega)
    have opens := openContainer_of_lt (show outer.length < nestingLimit by omega) .list
    have closes (position : Nat) :
        take (.delimiter last (.list before.reverse :: outer)) ⟨position, .ok .closeBracket⟩ =
          .ok (.delimiter (.list (before ++ [last])) outer) := by
      rw [← List.reverse_reverse before, ← List.reverse_cons, List.reverse_reverse]
      rfl
    exact .append (.cons (fun _ => opens) leads) (.single closes)
  | object inside ih =>
    intro room
    rw [depth_object inside.members_ne_nil] at room
    obtain ⟨before, name, last, rfl, leads⟩ := ih outer (by omega)
    have opens := openContainer_of_lt (show outer.length < nestingLimit by omega) .object
    have closes (position : Nat) :
        take (.delimiter last (.object before.reverse name :: outer))
          ⟨position, .ok .closeBrace⟩ =
          .ok (.delimiter (.object (before ++ [(name, last)])) outer) := by
      rw [← List.reverse_reverse before, ← List.reverse_cons, List.reverse_reverse]
      rfl
    exact .append (.cons (fun _ => opens) leads) (.single closes)
  | @item item tokens only ih =>
    intro room
    rw [depthOfItems, depthOfItems] at room
    refine ⟨[], item, rfl, .valueOrClose (ih _ ?_) only⟩
    simpa using room
  | @nextItem items item tokens more before last ihBefore ihLast =>
    intro room
    rw [depthOfItems_append, depthOfItems, depthOfItems] at room
    obtain ⟨earlier, previous, rfl, leads⟩ := ihBefore outer (by omega)
    refine ⟨_, item, rfl, leads.append (.cons (fun _ => rfl) ?_)⟩
    rw [List.reverse_concat]
    refine ihLast _ ?_
    rw [List.length_cons]
    omega
  | @member name value tokens only ih =>
    intro room
    rw [depthOfMembers, depthOfMembers] at room
    refine ⟨[], name, value, rfl, .cons (fun _ => rfl) (.cons (fun _ => rfl) (ih _ ?_))⟩
    simpa using room
  | @nextMember members name value tokens more before last ihBefore ihLast =>
    intro room
    rw [depthOfMembers_append, depthOfMembers, depthOfMembers] at room
    obtain ⟨earlier, given, previous, rfl, leads⟩ := ihBefore outer (by omega)
    refine ⟨_, name, value, rfl, leads.append (.cons (fun _ => rfl)
      (.cons (fun _ => rfl) (.cons (fun _ => rfl) ?_)))⟩
    rw [List.reverse_concat]
    refine ihLast _ ?_
    rw [List.length_cons]
    omega

/-! ## Documents -/

/-- A document does not begin with a byte order mark. -/
theorem Document.head?_ne {value : Json} {document : List Char}
    (written : Document value document) : document.head? ≠ some (Char.ofNat 0xFEFF) := by
  obtain ⟨tokens, derives, lexes⟩ := written
  intro marked
  obtain ⟨rest, rfl⟩ := List.head?_eq_some_iff.mp marked
  have apart : AreApart (tokens ++ [.finish]) :=
    derives.areApart.join rfl areApart_nil
  have yields := yields_of_lexes lexes apart _ 0 (Nat.lt_succ_self _)
  have faulty : (lexemesFrom .strict ((Char.ofNat 0xFEFF :: rest).length + 1) 0
      (Char.ofNat 0xFEFF :: rest)) = [⟨0, .error (.misspelled .expectingValue 0)⟩] := rfl
  rw [faulty] at yields
  cases tokens <;> cases yields

theorem readAs_of_document {value : Json} {document : List Char}
    (written : Document value document) (shallow : value.depth < nestingLimit) :
    readAs .strict document = .ok value := by
  have unmarked := written.head?_ne
  obtain ⟨tokens, derives, lexes⟩ := written
  have apart : AreApart (tokens ++ [.finish]) := derives.areApart.join rfl areApart_nil
  have yields := yields_of_lexes lexes apart _ 0 (Nat.lt_succ_self _)
  have whole : Leads (.value []) tokens (.delimiter value []) :=
    derives.isRead [] (by simpa using shallow)
  have run := whole.append (.single fun _ => rfl) _ yields
  rw [readAs, if_neg (by simpa using unmarked), lexemes, run]

/-- The strict reader reads the strict documents, each as its value, and no other ones. -/
theorem readStrict?_eq_some_iff {document : String} {value : Json} :
    readStrict? document = some value ↔ StrictDocument value document := by
  constructor
  · intro success
    unfold readStrict? at success
    split at success
    · rename_i found read
      split at success
      · rename_i bounded
        cases success
        rw [Bool.and_eq_true, decide_eq_true_iff] at bounded
        exact ⟨document_of_readAs read, bounded⟩
      · cases success
    · cases success
  · rintro ⟨written, shallow, scalar⟩
    have read := readAs_of_document written (Nat.lt_of_le_of_lt shallow (by decide))
    rw [readStrict?, read]
    simp [shallow, scalar]

end SessionKeeper.Json
