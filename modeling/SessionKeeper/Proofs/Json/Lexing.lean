import SessionKeeper.Proofs.Json.Scanning

/-! # Lexemes and tokens

The lexemes of a document without a fault are the tokens that the document spells
(`Json.lexes_of_yields`). Conversely a document is split into the tokens that it spells, provided no
two plain values follow one another (`Json.yields_of_lexes`): `12` may be spelled by two numerals,
and is scanned as one.
-/

namespace SessionKeeper.Json

/-- The lexemes are free of faults and have these tokens. -/
def Yields (lexemes : List Lexeme) (tokens : List Token) : Prop :=
  lexemes.map (·.token) = tokens.map .ok

theorem IsSpelled.ne_finish {token : Token} {written : List Char}
    (spelled : IsSpelled token written) : token ≠ .finish := by
  cases spelled with
  | punctuation known => exact (of_punctuation? known).2.2.1
  | literal | number | negative | text => exact Token.noConfusion

theorem eq_nil_of_scanToken {position next : Nat} {source rest : List Char}
    (scanned : scanToken .strict position source = .ok (.finish, next, rest)) : source = [] := by
  rcases isSpelled_of_scanToken scanned with ⟨rfl, _⟩ | ⟨written, _, spelled⟩
  · rfl
  · exact absurd rfl spelled.ne_finish

theorem blank_takeWhile (source : List Char) :
    ∀ c ∈ source.takeWhile isSpace, isSpace c = true :=
  fun _ member => List.mem_takeWhile_imp member

theorem lexes_of_yields {budget position : Nat} {source : List Char} {tokens : List Token}
    (yields : Yields (lexemesFrom .strict budget position source) (tokens ++ [.finish])) :
    Lexes (tokens ++ [.finish]) source := by
  have whole : source = source.takeWhile isSpace ++ source.dropWhile isSpace :=
    List.takeWhile_append_dropWhile.symm
  induction budget generalizing position source tokens with
  | zero => simp [Yields, lexemesFrom] at yields
  | succ budget ih =>
    unfold Yields lexemesFrom at yields
    dsimp only at yields
    split at yields
    · cases tokens <;> simp at yields
    · rename_i scanned
      rw [eq_nil_of_scanToken scanned, List.append_nil] at whole
      cases tokens with
      | nil =>
        rw [whole]
        exact .finish (blank_takeWhile source)
      | cons token tokens => simp at yields
    · rename_i token next rest unfinished scanned
      cases tokens with
      | nil =>
        rw [List.map_cons, List.nil_append, List.map_singleton, List.cons.injEq] at yields
        exact absurd (Except.ok.inj yields.1) unfinished
      | cons token' tokens =>
        rw [List.map_cons, List.cons_append, List.map_cons, List.cons.injEq] at yields
        obtain ⟨same, yields⟩ := yields
        obtain rfl := Except.ok.inj same
        rcases isSpelled_of_scanToken scanned with ⟨_, rfl⟩ | ⟨written, source', spelled⟩
        · exact absurd rfl unfinished
        · rw [whole, source', ← List.append_assoc]
          exact .token (blank_takeWhile source) spelled
            (ih yields List.takeWhile_append_dropWhile.symm)

theorem stopsNumber_of_isSpace {c : Char} (space : isSpace c = true) (rest : List Char) :
    StopsNumber (c :: rest) := by
  simp only [isSpace, Bool.or_eq_true, beq_iff_eq] at space
  rcases space with ((rfl | rfl) | rfl) | rfl <;> exact stopsNumber_cons (by decide)

theorem IsSpelled.stopsNumber {token : Token} {written : List Char}
    (spelled : IsSpelled token written) (other : token.isPlain = false) (rest : List Char) :
    StopsNumber (written ++ rest) := by
  cases spelled with
  | punctuation known => exact (of_punctuation? known).2.2.2 rest
  | literal | number | negative => cases other
  | text => exact stopsNumber_cons (by decide)

/-- Nothing but a plain value goes on with a number at once. -/
theorem Lexes.stopsNumber {tokens : List Token} {source : List Char} (lexes : Lexes tokens source)
    (other : ∀ token ∈ tokens.head?, token.isPlain = false) : StopsNumber source := by
  have blankFirst {spaces rest : List Char} (blank : ∀ c ∈ spaces, isSpace c = true)
      (behind : StopsNumber rest) : StopsNumber (spaces ++ rest) := by
    cases spaces with
    | nil => exact behind
    | cons c others => exact stopsNumber_of_isSpace (blank c List.mem_cons_self) _
  cases lexes with
  | finish blank =>
    rw [← List.append_nil source]
    exact blankFirst blank fun c member => by cases member
  | token blank spelled more =>
    rw [List.append_assoc]
    exact blankFirst blank (spelled.stopsNumber (other _ rfl) _)

theorem lexemesFrom_finish {spaces : List Char} (blank : ∀ c ∈ spaces, isSpace c = true)
    (budget position : Nat) : lexemesFrom .strict (budget + 1) position spaces =
      [⟨position + spaces.length, .ok .finish⟩] := by
  have all : spaces.takeWhile isSpace = spaces := List.takeWhile_eq_self_iff.mpr blank
  have none : spaces.dropWhile isSpace = [] := List.dropWhile_eq_nil_iff.mpr blank
  rw [lexemesFrom, all, none]
  rfl

theorem lexemesFrom_token {spaces source rest : List Char} {token : Token} {position next : Nat}
    (blank : ∀ c ∈ spaces, isSpace c = true) (stop : ∀ c ∈ source.head?, isSpace c = false)
    (scanned : scanToken .strict (position + spaces.length) source = .ok (token, next, rest))
    (unfinished : token ≠ .finish) (budget : Nat) :
    lexemesFrom .strict (budget + 1) position (spaces ++ source) =
      ⟨position + spaces.length, .ok token⟩ :: lexemesFrom .strict budget next rest := by
  rw [lexemesFrom, takeWhile_append_of_stop blank stop, dropWhile_append_of_stop blank stop,
    scanned]
  cases token with
  | finish => exact absurd rfl unfinished
  | _ => rfl

/-- A document is read as the tokens that it spells, if no two plain values run together. -/
theorem yields_of_lexes {tokens : List Token} {source : List Char} (lexes : Lexes tokens source)
    (apart : AreApart tokens) (budget position : Nat) (enough : source.length < budget) :
    Yields (lexemesFrom .strict budget position source) tokens := by
  induction lexes generalizing budget position with
  | @finish spaces blank =>
    obtain ⟨budget, rfl⟩ := Nat.exists_eq_succ_of_ne_zero (Nat.ne_zero_of_lt enough)
    rw [lexemesFrom_finish blank]
    rfl
  | @token spaces written rest token tokens blank spelled more ih =>
    obtain ⟨c, tail, rfl, space, scans⟩ := spelled.scans
    obtain ⟨behind, later⟩ := List.isChain_cons.mp apart
    have stop : token.isPlain = true → StopsNumber rest := by
      intro plain
      refine more.stopsNumber fun next member => ?_
      exact (behind next member).resolve_left (by simp [plain])
    have visible : ∀ d ∈ (c :: tail ++ rest).head?, isSpace d = false := by
      rintro d ⟨rfl⟩
      exact space
    obtain ⟨next, scanned⟩ := scans rest stop (position + spaces.length)
    obtain ⟨budget, rfl⟩ := Nat.exists_eq_succ_of_ne_zero (Nat.ne_zero_of_lt enough)
    have less : rest.length < budget := by
      simp only [List.length_append, List.length_cons] at enough
      omega
    rw [List.append_assoc, lexemesFrom_token blank visible scanned spelled.ne_finish, Yields,
      List.map_cons, List.map_cons]
    exact congrArg (.ok token :: ·) (ih later budget next less)

end SessionKeeper.Json
