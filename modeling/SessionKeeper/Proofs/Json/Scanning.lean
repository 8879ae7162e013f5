import SessionKeeper.Proofs.Json.Grammar
import Mathlib.Data.List.TakeDrop
import Mathlib.Data.List.TakeWhile

/-! # Scanning what is spelled

The scanner and the spelling of a token say the same. What is scanned at the front of a source is
spelled there (`Json.isSpelled_of_scanToken`), and what is spelled is scanned wherever nothing goes
on with it (`Json.IsSpelled.scans`): a numeral would take further digits, a point or an exponent
with it, no other token takes anything. The theorems follow the scanner from the inside out: texts,
numerals, plain values, tokens.
-/

namespace SessionKeeper

theorem Except.ok_of_map {ε α β : Type} {f : α → β} {first : Except ε α} {result : β}
    (success : first.map f = .ok result) : ∃ value, first = .ok value ∧ f value = result := by
  cases first with
  | error fault => cases success
  | ok value => exact ⟨value, rfl, Except.ok.inj success⟩

namespace Json

/-! ## Texts -/

/-- What is scanned as the inside of a text is written there, and a quote closes it. -/
theorem inscribes_of_scanText {start position : Nat} {source : List Char}
    {pieces : List Piece} {next : Nat} {rest : List Char}
    (scanned : scanText start position source = .ok (pieces, next, rest)) :
    ∃ written, source = written ++ '\x22' :: rest ∧ Inscribes pieces written := by
  fun_induction scanText start position source generalizing pieces next rest with
  | case1 | case3 | case4 | case5 | case7 | case9 => cases scanned
  | case2 position a b c d n head tail known ih =>
    obtain ⟨⟨others, behind⟩, inside, same⟩ := Except.ok_of_map scanned
    cases same
    obtain ⟨written, whole, inscribed⟩ := ih inside
    exact ⟨_, by rw [whole]; rfl, .unit known inscribed⟩
  | case6 position mark source _ _ c known ih =>
    obtain ⟨⟨others, behind⟩, inside, same⟩ := Except.ok_of_map scanned
    cases same
    obtain ⟨written, whole, inscribed⟩ := ih inside
    exact ⟨_, by rw [whole]; rfl, .escaped known inscribed⟩
  | case8 position c source _ _ _ quote =>
    cases scanned
    exact ⟨[], by rw [beq_iff_eq.mp quote]; rfl, .nil⟩
  | case10 position c source short lone long quote visible ih =>
    obtain ⟨⟨others, behind⟩, inside, same⟩ := Except.ok_of_map scanned
    cases same
    obtain ⟨written, whole, inscribed⟩ := ih inside
    have backslash : c ≠ '\\' := by
      intro escape
      cases source with
      | nil => exact lone escape rfl
      | cons next tail => exact long next tail escape rfl
    exact ⟨_, by rw [whole]; rfl, .plain (by omega) (by simpa using quote) backslash inscribed⟩

theorem scanText_of_ne_backslash {start position : Nat} {c : Char} {rest : List Char}
    (backslash : c ≠ '\\') : scanText start position (c :: rest) =
      if c == '\x22' then .ok ([], position + 1, rest)
      else if c.toNat < 0x20 then .error (.misspelled .controlCharacter position)
      else
        (scanText start (position + 1) rest).map fun (pieces, tail) =>
          (.plain c :: pieces, tail) := by
  rw [scanText.eq_def]
  split
  · rename_i none
    cases none
  · rename_i same
    exact absurd (List.cons.inj same).1 backslash
  · rename_i same
    exact absurd (List.cons.inj same).1 backslash
  · rename_i same
    exact absurd (List.cons.inj same).1 backslash
  · rename_i same
    obtain ⟨rfl, rfl⟩ := List.cons.inj same
    rfl

theorem scanText_of_inscribes {pieces : List Piece} {written : List Char}
    (inscribed : Inscribes pieces written) (start position : Nat) (rest : List Char) :
    ∃ next, scanText start position (written ++ '\x22' :: rest) = .ok (pieces, next, rest) := by
  induction inscribed generalizing position with
  | nil =>
    exact ⟨position + 1, by rw [List.nil_append, scanText_of_ne_backslash (by decide)]; rfl⟩
  | @plain c pieces written visible quote backslash inside ih =>
    obtain ⟨next, scanned⟩ := ih (position + 1)
    refine ⟨next, ?_⟩
    rw [List.cons_append, scanText_of_ne_backslash backslash, if_neg (by simpa using quote),
      if_neg (by omega), scanned]
    rfl
  | @escaped mark c pieces written known inside ih =>
    obtain ⟨next, scanned⟩ := ih (position + 2)
    have other : mark ≠ 'u' := by
      rintro rfl
      cases known
    refine ⟨next, ?_⟩
    rw [List.cons_append, List.cons_append, scanText, if_neg (by simpa using other), known]
    · dsimp only
      rw [scanned]
      rfl
    · exact fun _ _ _ _ _ same => absurd same other
  | @unit a b c d n pieces written known inside ih =>
    obtain ⟨next, scanned⟩ := ih (position + 6)
    refine ⟨next, ?_⟩
    -- The character that the scanner wants behind an escape is the closing quote at the latest.
    cases whole : written ++ '\x22' :: rest with
    | nil => simp at whole
    | cons first tail =>
      rw [whole] at scanned
      simp only [List.cons_append, whole]
      rw [scanText]
      · rw [scanned]
        rfl
      · exact known

/-! ## Numbers -/

section Spans

variable {p : Char → Bool} {digits rest : List Char}

theorem takeWhile_append_of_stop (all : ∀ c ∈ digits, p c = true)
    (stop : ∀ c ∈ rest.head?, p c = false) : (digits ++ rest).takeWhile p = digits := by
  rw [List.takeWhile_append_of_pos all]
  cases rest with
  | nil => simp
  | cons c tail => simp [stop c rfl]

theorem dropWhile_append_of_stop (all : ∀ c ∈ digits, p c = true)
    (stop : ∀ c ∈ rest.head?, p c = false) : (digits ++ rest).dropWhile p = rest := by
  rw [List.dropWhile_append_of_pos all]
  cases rest with
  | nil => rfl
  | cons c tail => simp [stop c rfl]

theorem span_append_of_stop (all : ∀ c ∈ digits, p c = true)
    (stop : ∀ c ∈ rest.head?, p c = false) : (digits ++ rest).span p = (digits, rest) := by
  rw [List.span_eq_takeWhile_dropWhile, takeWhile_append_of_stop all stop,
    dropWhile_append_of_stop all stop]

theorem of_span_eq {source : List Char} (split : source.span p = (digits, rest)) :
    source = digits ++ rest ∧ ∀ c ∈ digits, p c = true := by
  rw [List.span_eq_takeWhile_dropWhile, Prod.mk.injEq] at split
  obtain ⟨rfl, rfl⟩ := split
  exact ⟨List.takeWhile_append_dropWhile.symm, fun c member => List.mem_takeWhile_imp member⟩

end Spans

theorem isWhole_of_scanWhole? {source whole rest : List Char}
    (scanned : scanWhole? source = some (whole, rest)) :
    source = whole ++ rest ∧ IsWhole whole := by
  unfold scanWhole? at scanned
  split at scanned
  · cases scanned
    exact ⟨rfl, .inl rfl⟩
  · rename_i c tail zero
    split at scanned
    · rename_i digit
      obtain ⟨same, digits⟩ := of_span_eq (Option.some.inj scanned)
      refine ⟨same, .inr ?_⟩
      cases whole with
      | nil =>
        rw [List.span_eq_takeWhile_dropWhile] at scanned
        simp [digit] at scanned
      | cons first others =>
        obtain ⟨rfl, _⟩ := List.cons.inj same
        refine ⟨⟨List.cons_ne_nil _ _, digits⟩, ?_⟩
        exact fun begins => zero (Option.some.inj begins)
    · cases scanned
  · cases scanned

theorem isFraction_of_scanFraction {source fraction rest : List Char}
    (scanned : scanFraction source = (fraction, rest)) :
    ∃ point, source = point ++ rest ∧ IsFraction fraction point := by
  unfold scanFraction at scanned
  split at scanned
  · rename_i tail
    split at scanned
    · cases scanned
      exact ⟨[], rfl, .none⟩
    · rename_i empty
      obtain ⟨rfl, digits⟩ := of_span_eq scanned
      refine ⟨'.' :: fraction, rfl, .point ⟨?_, digits⟩⟩
      rintro rfl
      exact empty rest scanned
  · cases scanned
    exact ⟨[], rfl, .none⟩

theorem of_splitSign (source : List Char) : ∃ sign,
    ((Text.splitSign source).1, sign) ∈ [(false, []), (false, ['+']), (true, ['-'])] ∧
      source = sign ++ (Text.splitSign source).2 := by
  unfold Text.splitSign
  split
  · exact ⟨['+'], by simp, rfl⟩
  · exact ⟨['-'], by simp, rfl⟩
  · exact ⟨[], by simp, rfl⟩

theorem isExponent_of_scanExponent? {source rest : List Char} {power : Int}
    (scanned : scanExponent? source = some (power, rest)) :
    ∃ exponent, source = exponent ++ rest ∧ IsExponent power exponent ∧ exponent ≠ [] := by
  unfold scanExponent? at scanned
  split at scanned
  · rename_i mark tail
    split at scanned
    · rename_i marked
      obtain ⟨sign, signed, whole⟩ := of_splitSign tail
      dsimp only at scanned
      split at scanned
      · cases scanned
      · rename_i digits _ empty parted
        obtain ⟨same, all⟩ := of_span_eq parted
        cases scanned
        refine ⟨mark :: sign ++ digits, ?_, .power (by simpa using marked) signed ⟨?_, all⟩,
          List.cons_ne_nil _ _⟩
        · rw [whole, same]
          simp
        · rintro rfl
          exact empty rfl
    · cases scanned
  · cases scanned

/-- A number, once its whole part and its fraction are known. -/
theorem scanNumber?_eq {source whole behind fraction tail : List Char} (negative : Bool)
    (first : scanWhole? source = some (whole, behind))
    (second : scanFraction behind = (fraction, tail)) :
    scanNumber? .strict negative source =
      if Text.digitLimit < whole.length then some (.error (.integerTooLong whole.length), tail)
      else
        match scanExponent? tail with
        | none =>
          if fraction = [] then
            some (.ok (.int (Text.signed negative (Text.valueOfDigits (Text.digitValues whole)))),
              tail)
          else
            some (.ok (.real (.ofDecimal negative
              (Text.valueOfDigits (Text.digitValues (whole ++ fraction)))
                (0 - fraction.length))), tail)
        | some (power, rest) =>
          some (.ok (.real (.ofDecimal negative
            (Text.valueOfDigits (Text.digitValues (whole ++ fraction)))
              (power - fraction.length))), rest) := by
  simp only [scanNumber?, first, Option.bind_eq_bind, Option.bind_some, second]
  by_cases long : Text.digitLimit < whole.length
  · simp [long]
  · rw [if_neg (by simpa using long), if_neg long]
    cases scanExponent? tail with
    | none =>
      by_cases none : fraction = []
      · simp [none]
      · simp [none]
    | some scaled =>
      obtain ⟨power, rest⟩ := scaled
      simp

theorem isNumeral_of_scanNumber? {negative : Bool} {source rest : List Char} {value : Json}
    (scanned : scanNumber? .strict negative source = some (.ok value, rest)) :
    ∃ written, source = written ++ rest ∧ IsNumeral negative value written := by
  cases first : scanWhole? source with
  | none => simp [scanNumber?, first] at scanned
  | some parts =>
    obtain ⟨whole, behind⟩ := parts
    rcases second : scanFraction behind with ⟨fraction, tail⟩
    rw [scanNumber?_eq negative first second] at scanned
    obtain ⟨rfl, proper⟩ := isWhole_of_scanWhole? first
    obtain ⟨point, rfl, isFraction⟩ := isFraction_of_scanFraction second
    split at scanned
    · cases scanned
    rename_i long
    have bounded : whole.length ≤ Text.digitLimit := Nat.le_of_not_lt long
    split at scanned
    · split at scanned
      · rename_i none
        subst none
        obtain ⟨value, rfl⟩ := Prod.mk.inj (Option.some.inj scanned)
        obtain rfl := Except.ok.inj value
        cases isFraction with
        | none => exact ⟨whole, rfl, .integer proper bounded⟩
        | point digital => exact absurd rfl digital.1
      · rename_i broken
        obtain ⟨value, rfl⟩ := Prod.mk.inj (Option.some.inj scanned)
        obtain rfl := Except.ok.inj value
        exact ⟨whole ++ point ++ [], by simp,
          .real proper bounded isFraction .none (.inl broken)⟩
    · rename_i power _ third
      obtain ⟨value, rfl⟩ := Prod.mk.inj (Option.some.inj scanned)
      obtain rfl := Except.ok.inj value
      obtain ⟨exponent, rfl, isExponent, there⟩ := isExponent_of_scanExponent? third
      exact ⟨whole ++ point ++ exponent, by simp,
        .real proper bounded isFraction isExponent (.inr there)⟩

/-- What cannot go on with a number. -/
def StopsNumber (rest : List Char) : Prop :=
  ∀ c ∈ rest.head?, Text.isDigit c = false ∧ c ≠ '.' ∧ c ≠ 'e' ∧ c ≠ 'E'

theorem stopsNumber_cons {c : Char} {rest : List Char}
    (stop : Text.isDigit c = false ∧ c ≠ '.' ∧ c ≠ 'e' ∧ c ≠ 'E') : StopsNumber (c :: rest) := by
  intro first member
  obtain rfl := Option.some.inj member
  exact stop

theorem scanWhole?_of_isWhole {whole rest : List Char} (proper : IsWhole whole)
    (stop : ∀ c ∈ rest.head?, Text.isDigit c = false) :
    scanWhole? (whole ++ rest) = some (whole, rest) := by
  rcases proper with rfl | ⟨⟨some, digits⟩, zero⟩
  · rfl
  · have parted := span_append_of_stop digits stop
    cases whole with
    | nil => exact absurd rfl some
    | cons c others =>
      have first : Text.isDigit c = true := digits c List.mem_cons_self
      have other : c ≠ '0' := by simpa using zero
      rw [List.cons_append] at parted ⊢
      rw [scanWhole?, if_pos first, parted]
      exact other

theorem scanFraction_of_isFraction {fraction point rest : List Char}
    (isFraction : IsFraction fraction point)
    (stop : ∀ c ∈ rest.head?, Text.isDigit c = false ∧ c ≠ '.') :
    scanFraction (point ++ rest) = (fraction, rest) := by
  cases isFraction with
  | none =>
    cases rest with
    | nil => rfl
    | cons c tail =>
      have other := (stop c rfl).2
      rw [List.nil_append, scanFraction]
      rintro _ ⟨rfl, _⟩
      exact other rfl
  | point digital =>
    have parted := span_append_of_stop digital.2 fun c member => (stop c member).1
    rw [List.cons_append, scanFraction, parted]
    split
    · rename_i same
      exact absurd (Prod.mk.inj same).1 digital.1
    · rfl

theorem splitSign_append {negative : Bool} {sign digits : List Char} (rest : List Char)
    (signed : (negative, sign) ∈ [(false, []), (false, ['+']), (true, ['-'])])
    (digital : AreDigits digits) :
    Text.splitSign (sign ++ digits ++ rest) = (negative, digits ++ rest) := by
  simp only [List.mem_cons, Prod.mk.injEq, List.not_mem_nil, or_false] at signed
  rcases signed with ⟨rfl, rfl⟩ | ⟨rfl, rfl⟩ | ⟨rfl, rfl⟩
  · cases digits with
    | nil => exact absurd rfl digital.1
    | cons c others =>
      have digit := digital.2 c List.mem_cons_self
      rw [List.nil_append, List.cons_append, Text.splitSign]
      · rintro _ ⟨rfl, _⟩
        cases digit
      · rintro _ ⟨rfl, _⟩
        cases digit
  · rfl
  · rfl

theorem scanExponent?_of_isExponent {power : Int} {exponent rest : List Char}
    (scaled : IsExponent power exponent) (there : exponent ≠ [])
    (stop : ∀ c ∈ rest.head?, Text.isDigit c = false) :
    scanExponent? (exponent ++ rest) = some (power, rest) := by
  cases scaled with
  | none => exact absurd rfl there
  | @power mark negative sign digits marked signed digital =>
    have parted := span_append_of_stop digital.2 stop
    rw [List.cons_append, List.cons_append, scanExponent?, if_pos (by simpa using marked),
      splitSign_append rest signed digital]
    dsimp only
    rw [parted]
    split
    · rename_i same
      exact absurd (Prod.mk.inj same).1 digital.1
    · rename_i same
      obtain ⟨rfl, rfl⟩ := Prod.mk.inj same
      rfl

theorem scanExponent?_eq_none {rest : List Char} (stop : ∀ c ∈ rest.head?, c ≠ 'e' ∧ c ≠ 'E') :
    scanExponent? rest = none := by
  cases rest with
  | nil => rfl
  | cons c tail =>
    obtain ⟨lower, upper⟩ := stop c rfl
    rw [scanExponent?, if_neg (by simp [lower, upper])]

theorem IsExponent.stop {power : Int} {exponent rest : List Char}
    (scaled : IsExponent power exponent) (stop : StopsNumber rest) :
    ∀ c ∈ (exponent ++ rest).head?, Text.isDigit c = false ∧ c ≠ '.' := by
  intro c member
  cases scaled with
  | none => exact ⟨(stop c member).1, (stop c member).2.1⟩
  | power marked signed digital =>
    obtain rfl := Option.some.inj member
    rcases marked with rfl | rfl <;> decide

theorem IsFraction.stop {fraction point rest : List Char} (isFraction : IsFraction fraction point)
    (stop : ∀ c ∈ rest.head?, Text.isDigit c = false ∧ c ≠ '.') :
    ∀ c ∈ (point ++ rest).head?, Text.isDigit c = false := by
  intro c member
  cases isFraction with
  | none => exact (stop c member).1
  | point digital =>
    obtain rfl := Option.some.inj member
    decide

theorem scanNumber?_of_isNumeral {negative : Bool} {value : Json} {written rest : List Char}
    (numeral : IsNumeral negative value written) (stop : StopsNumber rest) :
    scanNumber? .strict negative (written ++ rest) = some (.ok value, rest) := by
  cases numeral with
  | integer proper bounded =>
    have first := scanWhole?_of_isWhole proper fun c member => (stop c member).1
    have second : scanFraction ([] ++ rest) = ([], rest) :=
      scanFraction_of_isFraction .none fun c member => ⟨(stop c member).1, (stop c member).2.1⟩
    have third := scanExponent?_eq_none fun c member => (stop c member).2.2
    rw [scanNumber?_eq negative first second, if_neg (by omega), third, if_pos rfl]
  | @real whole fraction point exponent power proper bounded behind scaled broken =>
    have afterFraction := scaled.stop stop
    have first := scanWhole?_of_isWhole proper (behind.stop afterFraction)
    have second := scanFraction_of_isFraction behind afterFraction
    rw [List.append_assoc, List.append_assoc, scanNumber?_eq negative first second,
      if_neg (by omega)]
    by_cases there : exponent = []
    · subst there
      cases scaled with
      | none =>
        rw [List.nil_append, scanExponent?_eq_none fun c member => (stop c member).2.2]
        dsimp only
        rw [if_neg (by simpa using broken)]
    · rw [scanExponent?_of_isExponent scaled there fun c member => (stop c member).1]

/-! ## Tokens -/

theorem eq_append_of_after? {start source rest : List Char}
    (found : after? start source = some rest) : source = start ++ rest := by
  induction start generalizing source with
  | nil => exact Option.some.inj found
  | cons c start ih =>
    cases source with
    | nil => cases found
    | cons d source =>
      rw [after?] at found
      split at found
      · rename_i same
        rw [← beq_iff_eq.mp same, ih found]
        rfl
      · cases found

theorem isSpelled_of_scanPlain? {source rest : List Char} {value : Json}
    (scanned : scanPlain? .strict source = some (.ok value, rest)) :
    ∃ written, source = written ++ rest ∧ IsSpelled (.plain value) written := by
  unfold scanPlain? at scanned
  dsimp only at scanned
  split at scanned
  · rename_i literal
    obtain ⟨⟨name, other⟩, known, found⟩ := List.exists_of_findSome?_eq_some literal
    obtain ⟨behind, begins, same⟩ := Option.map_eq_some_iff.mp (found.trans scanned)
    obtain ⟨value, rfl⟩ := Prod.mk.inj same
    obtain rfl := Except.ok.inj value
    exact ⟨name.toList, eq_append_of_after? begins, .literal known⟩
  · split at scanned
    · obtain ⟨written, rfl, numeral⟩ := isNumeral_of_scanNumber? scanned
      exact ⟨'-' :: written, rfl, .negative numeral⟩
    · obtain ⟨written, rfl, numeral⟩ := isNumeral_of_scanNumber? scanned
      exact ⟨written, rfl, .number numeral⟩

/-- Every token but the end is spelled in front of what is left. -/
theorem isSpelled_of_scanToken {position next : Nat} {source rest : List Char} {token : Token}
    (scanned : scanToken .strict position source = .ok (token, next, rest)) :
    (source = [] ∧ token = .finish) ∨
      ∃ written, source = written ++ rest ∧ IsSpelled token written := by
  unfold scanToken at scanned
  split at scanned
  · obtain ⟨rfl, _⟩ := Prod.mk.inj (Except.ok.inj scanned)
    exact .inl ⟨rfl, rfl⟩
  rename_i c tail
  refine .inr ?_
  split at scanned
  · rename_i known
    obtain ⟨rfl, same⟩ := Prod.mk.inj (Except.ok.inj scanned)
    obtain ⟨_, rfl⟩ := Prod.mk.inj same
    exact ⟨[c], rfl, .punctuation known⟩
  split at scanned
  · rename_i quote
    obtain rfl := beq_iff_eq.mp quote
    obtain ⟨⟨pieces, after⟩, inside, same⟩ := Except.ok_of_map scanned
    obtain ⟨rfl, rfl⟩ := Prod.mk.inj same
    obtain ⟨written, rfl, inscribed⟩ := inscribes_of_scanText inside
    exact ⟨'\x22' :: written ++ ['\x22'], by simp, .text inscribed⟩
  split at scanned
  · rename_i value after plain
    obtain ⟨rfl, same⟩ := Prod.mk.inj (Except.ok.inj scanned)
    obtain ⟨_, rfl⟩ := Prod.mk.inj same
    exact isSpelled_of_scanPlain? plain
  · cases scanned
  · cases scanned

theorem IsNumeral.begins {negative : Bool} {value : Json} {written : List Char}
    (numeral : IsNumeral negative value written) :
    ∃ c tail, written = c :: tail ∧ Text.isDigit c = true := by
  have whole {digits : List Char} (proper : IsWhole digits) (behind : List Char) :
      ∃ c tail, digits ++ behind = c :: tail ∧ Text.isDigit c = true := by
    rcases proper with rfl | ⟨digital, _⟩
    · exact ⟨'0', behind, rfl, rfl⟩
    · cases digits with
      | nil => exact absurd rfl digital.1
      | cons c tail => exact ⟨c, tail ++ behind, rfl, digital.2 c List.mem_cons_self⟩
  cases numeral with
  | integer proper bounded =>
    have first := whole proper []
    rwa [List.append_nil] at first
  | real proper bounded behind scaled broken =>
    rw [List.append_assoc]
    exact whole proper _

theorem findSome?_literals {source : List Char}
    (strange : ∀ entry ∈ literals, after? entry.1.toList source = none) :
    (literals.findSome? fun (name, value) =>
      (after? name.toList source).map fun rest =>
        ((.ok value, rest) : Except ReadFault Json × List Char)) = none := by
  refine List.findSome?_eq_none_iff.mpr fun entry known => ?_
  rw [Option.map_eq_none_iff]
  exact strange entry known

theorem after?_cons_of_ne {c d : Char} (other : c ≠ d) (start source : List Char) :
    after? (c :: start) (d :: source) = none := by
  rw [after?, if_neg (by simpa using other)]

theorem ne_of_isDigit {c d : Char} (digit : Text.isDigit d = true)
    (letter : Text.isDigit c = false) : c ≠ d := by
  rintro rfl
  rw [digit] at letter
  cases letter

theorem scanPlain?_of_isNumeral {value : Json} {written rest : List Char}
    (numeral : IsNumeral false value written) (stop : StopsNumber rest) :
    scanPlain? .strict (written ++ rest) = some (.ok value, rest) := by
  have scanned := scanNumber?_of_isNumeral numeral stop
  obtain ⟨c, tail, rfl, digit⟩ := numeral.begins
  have strange : ∀ entry ∈ literals, after? entry.1.toList (c :: (tail ++ rest)) = none := by
    simp only [literals, List.forall_mem_cons]
    refine ⟨?_, ?_, ?_, ?_, ?_, ?_, by simp⟩ <;>
      exact after?_cons_of_ne (ne_of_isDigit digit (by decide)) _ _
  rw [List.cons_append] at scanned ⊢
  rw [scanPlain?, findSome?_literals strange]
  · exact scanned
  · exact fun _ same => absurd (List.cons.inj same).1.symm (ne_of_isDigit digit (by decide))

theorem scanPlain?_of_isNumeral_negative {value : Json} {written rest : List Char}
    (numeral : IsNumeral true value written) (stop : StopsNumber rest) :
    scanPlain? .strict ('-' :: (written ++ rest)) = some (.ok value, rest) := by
  have scanned := scanNumber?_of_isNumeral numeral stop
  obtain ⟨c, tail, rfl, digit⟩ := numeral.begins
  have strange : ∀ entry ∈ literals, after? entry.1.toList ('-' :: (c :: tail ++ rest)) = none := by
    simp only [literals, List.forall_mem_cons]
    refine ⟨?_, ?_, ?_, ?_, ?_, ?infinity, by simp⟩
    -- A minus begins one of the names, which goes on with a letter.
    case infinity => exact after?_cons_of_ne (ne_of_isDigit digit (by decide)) _ _
    all_goals exact after?_cons_of_ne (by decide) _ _
  rw [scanPlain?, findSome?_literals strange]
  exact scanned

theorem scanPlain?_of_literal (dialect : Dialect) (rest : List Char) : ∀ entry ∈ literals,
    scanPlain? dialect (entry.1.toList ++ rest) = some (.ok entry.2, rest) := by
  simp only [literals, List.forall_mem_cons]
  refine ⟨?_, ?_, ?_, ?_, ?_, ?_, by simp⟩ <;> rfl

/-- A plain value may begin with the character. -/
def BeginsPlain (c : Char) : Prop :=
  punctuation? c = none ∧ c ≠ '\x22' ∧ isSpace c = false

theorem beginsPlain_of_isDigit {c : Char} (digit : Text.isDigit c = true) : BeginsPlain c := by
  refine ⟨?_, (ne_of_isDigit digit (by decide)).symm, ?_⟩
  · unfold punctuation?
    split <;> first | rfl | cases digit
  · have other (d : Char) (letter : Text.isDigit d = false) : (c == d) = false :=
      beq_eq_false_iff_ne.mpr (ne_of_isDigit digit letter).symm
    simp only [isSpace, Bool.or_eq_false_iff]
    exact ⟨⟨⟨other _ (by decide), other _ (by decide)⟩, other _ (by decide)⟩, other _ (by decide)⟩

theorem literals_begin : ∀ entry ∈ literals,
    ∃ c tail, entry.1.toList = c :: tail ∧ BeginsPlain c := by
  simp only [literals, List.forall_mem_cons]
  refine ⟨⟨'n', _, rfl, ?_⟩, ⟨'t', _, rfl, ?_⟩, ⟨'f', _, rfl, ?_⟩, ⟨'N', _, rfl, ?_⟩,
    ⟨'I', _, rfl, ?_⟩, ⟨'-', _, rfl, ?_⟩, by simp⟩ <;>
    exact ⟨rfl, by decide, by decide⟩

/-- Punctuation is neither a space nor the beginning of a value, and no number goes on with it. -/
theorem of_punctuation? {c : Char} {token : Token} (known : punctuation? c = some token) :
    isSpace c = false ∧ token.isPlain = false ∧ token ≠ .finish ∧
      ∀ rest, StopsNumber (c :: rest) := by
  unfold punctuation? at known
  split at known <;> cases known <;>
    exact ⟨rfl, rfl, Token.noConfusion, fun _ => stopsNumber_cons (by decide)⟩

/-- A plain value begins like one, and is scanned where nothing goes on with it. -/
theorem IsSpelled.plain {value : Json} {written : List Char}
    (spelled : IsSpelled (.plain value) written) :
    ∃ c tail, written = c :: tail ∧ BeginsPlain c ∧ ∀ rest, StopsNumber rest →
      scanPlain? .strict (written ++ rest) = some (.ok value, rest) := by
  generalize token : Token.plain value = plain at spelled
  cases spelled with
  | punctuation known =>
    subst token
    cases (of_punctuation? known).2.1
  | @literal name value known =>
    cases token
    obtain ⟨c, tail, spelling, begins⟩ := literals_begin (name, value) known
    exact ⟨c, tail, spelling, begins, fun rest _ =>
      scanPlain?_of_literal .strict rest (name, value) known⟩
  | number numeral =>
    cases token
    obtain ⟨c, tail, rfl, digit⟩ := numeral.begins
    exact ⟨c, tail, rfl, beginsPlain_of_isDigit digit, fun rest =>
      scanPlain?_of_isNumeral numeral⟩
  | negative numeral =>
    cases token
    exact ⟨'-', _, rfl, ⟨rfl, by decide, by decide⟩, fun rest =>
      scanPlain?_of_isNumeral_negative numeral⟩
  | text inside => cases token

/-- What begins like a token and is scanned as that token wherever nothing goes on with it. -/
def Scans (token : Token) (written : List Char) : Prop :=
  ∃ c tail, written = c :: tail ∧ isSpace c = false ∧
    ∀ rest, (token.isPlain = true → StopsNumber rest) → ∀ position,
      ∃ next, scanToken .strict position (written ++ rest) = .ok (token, next, rest)

theorem scans_plain {value : Json} {written : List Char}
    (spelled : IsSpelled (.plain value) written) : Scans (.plain value) written := by
  obtain ⟨c, tail, rfl, ⟨punctuation, quote, space⟩, scanned⟩ := spelled.plain
  refine ⟨c, tail, rfl, space, fun rest stop position =>
    ⟨position + ((c :: tail ++ rest).length - rest.length), ?_⟩⟩
  rw [List.cons_append, scanToken, punctuation]
  dsimp only
  rw [if_neg (by simpa using quote), ← List.cons_append, scanned rest (stop rfl)]

theorem IsSpelled.scans {token : Token} {written : List Char} (spelled : IsSpelled token written) :
    Scans token written := by
  cases spelled with
  | @punctuation c token known =>
    refine ⟨c, [], rfl, (of_punctuation? known).1, fun rest _ position => ⟨position + 1, ?_⟩⟩
    rw [List.singleton_append, scanToken, known]
  | literal known => exact scans_plain (.literal known)
  | number numeral => exact scans_plain (.number numeral)
  | negative numeral => exact scans_plain (.negative numeral)
  | @text pieces written inscribed =>
    refine ⟨'\x22', _, rfl, rfl, fun rest _ position => ?_⟩
    obtain ⟨next, scanned⟩ := scanText_of_inscribes inscribed position (position + 1) rest
    refine ⟨next, ?_⟩
    have whole : '\x22' :: written ++ ['\x22'] ++ rest = '\x22' :: (written ++ '\x22' :: rest) := by
      simp
    have inside : scanToken .strict position ('\x22' :: (written ++ '\x22' :: rest)) =
        (scanText position (position + 1) (written ++ '\x22' :: rest)).map fun (pieces, tail) =>
          (.text ⟨assemble pieces⟩, tail) := rfl
    rw [whole, inside, scanned]
    rfl

end Json

end SessionKeeper
