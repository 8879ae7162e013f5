import Mathlib.Data.List.DropRight
import SessionKeeper.Proofs.Credential.Grant
import SessionKeeper.Proofs.Settings.Offences

/-! # Trimmed addresses

What is stored of an address that is given (`Settings.Trims`). Blanks are dropped at both ends
first, and slashes at the end only then, so that a blank in front of these slashes comes to stand at
the end and stays there. Settings that are built from the stored address once more store the same
just if no blank is left at its end; otherwise they store a shorter one, or nothing is left and they
are refused (`Settings.restores_ofValues`).
-/

namespace SessionKeeper

/-! ## Dropping at the ends of a list -/

namespace Text

variable {α : Type} {dropped : α → Bool} {items more : List α}

theorem dropWhile_of_head? (starts : ∀ first, items.head? = some first → dropped first = false) :
    items.dropWhile dropped = items := by
  cases items with
  | nil => rfl
  | cons first rest => rw [List.dropWhile_cons_of_neg (by simp [starts first rfl])]

theorem rdropWhile_of_getLast?
    (ends : ∀ last, items.getLast? = some last → dropped last = false) :
    items.rdropWhile dropped = items := by
  unfold List.rdropWhile
  rw [dropWhile_of_head? fun last same => ends last (List.head?_reverse.symm.trans same),
    List.reverse_reverse]

theorem rdropWhile_append (all : ∀ item ∈ more, dropped item = true) :
    (items ++ more).rdropWhile dropped = items.rdropWhile dropped := by
  unfold List.rdropWhile
  rw [List.reverse_append, List.dropWhile_append_of_pos (by simpa using all)]

/-- The text ends with a blank. -/
def EndsBlank (text : String) : Prop :=
  ∃ last, text.toList.getLast? = some last ∧ isBlankChar last = true

end Text

namespace Settings

variable {defaults : Defaults} {values : Values} {settings : Settings}

/-- What an address stands between in the text that it is given by: blanks in front of it, slashes
behind it, and blanks behind these. -/
structure Encloses (given stored front slashes back : List Char) : Prop where
  whole : given = front ++ (stored ++ slashes ++ back)
  blankFront : ∀ c ∈ front, Text.isBlankChar c = true
  slashed : ∀ c ∈ slashes, c = '/'
  blankBack : ∀ c ∈ back, Text.isBlankChar c = true
  starts : ∀ first, stored.head? = some first → Text.isBlankChar first = false
  ends : stored.getLast? ≠ some '/'
  /-- Without slashes there are no blanks in front of them. -/
  bare : slashes = [] → ∀ last, stored.getLast? = some last → Text.isBlankChar last = false

theorem toList_normalizeUrl (url : String) : (normalizeUrl url).toList =
    ((url.toList.dropWhile Text.isBlankChar).rdropWhile Text.isBlankChar).rdropWhile
      (· == '/') := by
  simp [normalizeUrl, Text.dropTrailingChar, Text.strip, Text.trimBy, Text.dropTrailing,
    List.rdropWhile]

/-- What is left of a text is enclosed in it. -/
theorem exists_encloses (url : String) :
    ∃ front slashes back, Encloses url.toList (normalizeUrl url).toList front slashes back := by
  rw [toList_normalizeUrl]
  set behind := url.toList.dropWhile Text.isBlankChar with dropped
  set stripped := behind.rdropWhile Text.isBlankChar with trimmed
  refine ⟨url.toList.takeWhile Text.isBlankChar, stripped.rtakeWhile (· == '/'),
    behind.rtakeWhile Text.isBlankChar, ?_, fun c member => List.mem_takeWhile_imp member,
    fun c member => by simpa using List.mem_rtakeWhile_imp member,
    fun c member => List.mem_rtakeWhile_imp member, fun first starts => ?_, fun ends => ?_,
    fun bare last ends => ?_⟩
  · rw [List.rdropWhile_append_rtakeWhile, List.rdropWhile_append_rtakeWhile,
      List.takeWhile_append_dropWhile]
  · have initial : stripped.head? = some first := by
      obtain ⟨rest, whole⟩ := List.rdropWhile_prefix (· == '/') stripped
      rw [← whole, List.head?_append, starts]
      rfl
    exact Text.head?_trimBy initial
  · have trailing : (Text.dropTrailing (· == '/') stripped).getLast? = some '/' := ends
    cases Text.getLast?_dropTrailing trailing
  · have unslashed : stripped.rdropWhile (· == '/') = stripped := by
      have whole := List.rdropWhile_append_rtakeWhile (p := (· == '/')) (l := stripped)
      rwa [bare, List.append_nil] at whole
    rw [unslashed] at ends
    exact Text.getLast?_dropTrailing ends

namespace Encloses

variable {given stored front slashes back : List Char}

/-- Without the blanks at both ends, the slashes are the end. -/
theorem stripped (encloses : Encloses given stored front slashes back) :
    (given.dropWhile Text.isBlankChar).rdropWhile Text.isBlankChar = stored ++ slashes := by
  rw [encloses.whole, List.dropWhile_append_of_pos encloses.blankFront]
  have slash (c : Char) (member : c ∈ slashes) : Text.isBlankChar c = false := by
    rw [encloses.slashed c member]
    rfl
  cases kept : stored ++ slashes with
  | nil =>
    rw [List.nil_append, List.dropWhile_eq_nil_iff.mpr encloses.blankBack]
    rfl
  | cons first rest =>
    have started : (stored ++ slashes).head? = some first := by rw [kept, List.head?_cons]
    have ended : (stored ++ slashes).rdropWhile Text.isBlankChar = stored ++ slashes := by
      refine Text.rdropWhile_of_getLast? fun last ends => ?_
      rw [List.getLast?_append] at ends
      cases final : slashes.getLast? with
      | none =>
        rw [final] at ends
        exact encloses.bare (List.getLast?_eq_none_iff.mp final) last ends
      | some c =>
        obtain rfl : c = last := by simpa [final] using ends
        exact slash c (List.mem_of_getLast? final)
    rw [← kept, Text.dropWhile_of_head?, Text.rdropWhile_append encloses.blankBack, ended]
    intro first' same
    obtain rfl : first = first' := by simpa [kept] using same
    rw [List.head?_append] at started
    cases initial : stored.head? with
    | none =>
      rw [initial] at started
      exact slash first (List.mem_of_head? started)
    | some c =>
      obtain rfl : c = first := by simpa [initial] using started
      exact encloses.starts c initial

/-- A text is left with what it encloses. -/
theorem toList_normalizeUrl {url : String}
    (encloses : Encloses url.toList stored front slashes back) :
    (normalizeUrl url).toList = stored := by
  have slash : ∀ c ∈ slashes, (c == '/') = true := fun c member => by
    simp [encloses.slashed c member]
  rw [Settings.toList_normalizeUrl, encloses.stripped, Text.rdropWhile_append slash]
  refine Text.rdropWhile_of_getLast? fun last ends => ?_
  have other : last ≠ '/' := by
    rintro rfl
    exact encloses.ends ends
  simpa using other

end Encloses

variable {given stored : String}

/-- What is stored of an address. -/
structure Trims (given stored : String) : Prop where
  filled : stored ≠ ""
  starts : ∀ first, stored.toList.head? = some first → Text.isBlankChar first = false
  ends : stored.toList.getLast? ≠ some '/'
  /-- Besides blanks and slashes at the ends nothing is dropped. -/
  encloses : ∃ front slashes back, Encloses given.toList stored.toList front slashes back
  /-- A blank is left at the end just if one was given in front of slashes at the end. -/
  endsBlank_iff : Text.EndsBlank stored ↔ ∃ front blank slashes back,
    given.toList = front ++ [blank] ++ slashes ++ back ∧ Text.isBlankChar blank = true ∧
      slashes ≠ [] ∧ (∀ c ∈ slashes, c = '/') ∧ ∀ c ∈ back, Text.isBlankChar c = true

theorem trims_normalizeUrl {url : String} (filled : normalizeUrl url ≠ "") :
    Trims url (normalizeUrl url) := by
  obtain ⟨front, slashes, back, encloses⟩ := exists_encloses url
  refine ⟨filled, encloses.starts, encloses.ends, ⟨front, slashes, back, encloses⟩, ?_, ?_⟩
  · rintro ⟨blank, ends, isBlank⟩
    obtain ⟨core, whole⟩ := List.getLast?_eq_some_iff.mp ends
    refine ⟨front ++ core, blank, slashes, back, ?_, isBlank, ?_, encloses.slashed,
      encloses.blankBack⟩
    · rw [encloses.whole, whole]
      simp
    · rintro rfl
      cases (encloses.bare rfl blank ends).symm.trans isBlank
  · rintro ⟨front, blank, slashes, back, whole, isBlank, present, slashed, blankBack⟩
    have unslashed : blank ≠ '/' := by
      rintro rfl
      cases isBlank
    cases kept : front.dropWhile Text.isBlankChar with
    | nil =>
      have encloses : Encloses url.toList [] (front ++ [blank]) slashes back := by
        refine ⟨by simp [whole], ?_, slashed, blankBack, nofun, nofun, nofun⟩
        simpa [isBlank, or_imp, forall_and] using List.dropWhile_eq_nil_iff.mp kept
      exact absurd (String.toList_eq_nil_iff.mp encloses.toList_normalizeUrl) filled
    | cons first rest =>
      have encloses : Encloses url.toList (first :: rest ++ [blank])
          (front.takeWhile Text.isBlankChar) slashes back := by
        refine ⟨?_, fun c member => List.mem_takeWhile_imp member, slashed, blankBack, ?_, ?_,
          fun none => absurd none present⟩
        · rw [whole, ← kept]
          simp [← List.append_assoc]
        · rintro _ ⟨rfl⟩
          have nonblank := List.head?_dropWhile_not Text.isBlankChar front
          simpa [kept] using nonblank
        · rw [List.getLast?_concat]
          simpa using unslashed
      exact ⟨blank, by rw [encloses.toList_normalizeUrl, List.getLast?_concat], isBlank⟩

/-- Trimming a trimmed address once more leaves it as it is just if no blank is left at its end. -/
theorem Trims.normalizeUrl_eq (trims : Trims given stored) (unblank : ¬ Text.EndsBlank stored) :
    normalizeUrl stored = stored := by
  have encloses : Encloses stored.toList stored.toList [] [] [] := by
    refine ⟨by simp, nofun, nofun, nofun, trims.starts, trims.ends, fun _ last ends => ?_⟩
    by_cases blank : Text.isBlankChar last = true
    · exact absurd ⟨last, ends, blank⟩ unblank
    · simpa using blank
  exact String.toList_inj.mp encloses.toList_normalizeUrl

/-- A blank at the end does not stay when the address is trimmed once more. -/
theorem length_normalizeUrl_lt (blank : Text.EndsBlank stored) :
    (normalizeUrl stored).length < stored.length := by
  obtain ⟨last, ends, isBlank⟩ := blank
  obtain ⟨front, slashes, back, encloses⟩ := exists_encloses stored
  have lengths := congrArg List.length encloses.whole
  simp only [List.length_append, String.length_toList] at lengths
  by_cases same : (normalizeUrl stored).length = stored.length
  · have bare : slashes = [] := List.eq_nil_of_length_eq_zero (by omega)
    have whole := encloses.whole
    rw [List.eq_nil_of_length_eq_zero (l := front) (by omega), bare,
      List.eq_nil_of_length_eq_zero (l := back) (by omega)] at whole
    simp only [List.nil_append, List.append_nil] at whole
    cases (encloses.bare bare last (whole ▸ ends)).symm.trans isBlank
  · omega

/-! ## Settings built once more -/

/-- Values with another address make settings with what is left of it. -/
theorem Stores.set_loginUrl (stores : Stores defaults values settings) {url stored : String}
    (left : stored = normalizeUrl url) (filled : stored ≠ "") :
    Stores defaults (Dictionary.set values Field.loginUrl.name (.text ↑url))
      { settings with loginUrl := stored } := by
  refine ⟨.inr ⟨url, ?_, left, filled⟩, fun entry member => ?_, ?_⟩
  · rw [memberOf?_set_name, if_pos rfl]
  · have kept : entry ∈ settings.credentials := member
    rw [memberOf?_set_name, if_neg (required_of_mem_credentials kept).1]
    exact stores.credentials entry kept
  · rw [memberOf?_set_name, if_neg nofun]
    exact stores.timeout

/-- An address of which nothing is left is the only offence, if there was none. -/
theorem offences_set_loginUrl (accepted : offences values = []) {url : String} (given : url ≠ "")
    (nothing : normalizeUrl url = "") :
    offences (Dictionary.set values Field.loginUrl.name (.text ↑url)) =
      [(.loginUrl, .emptyUrl)] := by
  have refused : readUrl (.text ↑url) = .error .emptyUrl := by
    unfold readUrl
    rw [readText_eq_ok_iff.mpr ⟨rfl, given⟩]
    simp [nothing]
  have problems (field : Field) :
      problem? (Dictionary.set values Field.loginUrl.name (.text ↑url)) field =
        if field = .loginUrl then some .emptyUrl else none := by
    rw [problem?, memberOf?_set_name]
    split
    · rename_i same
      rw [same, Field.problem?, Option.bind_some, refused]
      rfl
    · exact problem?_eq_none_iff.mpr (offences_eq_nil_iff.mp accepted field)
  simp [offences, problems, Field.all]

/-- **What is stored of an address.** Of an address with which settings are built, blanks are
dropped at both ends, then slashes at the end. Something is left that neither begins with a blank
nor ends with a slash, but it ends with a blank if one was given in front of the slashes. Settings
that are built with what is stored are the same if it does not end with a blank. If it does, they
store less, or are refused for an address of which nothing is left. -/
theorem restores_ofValues {given : Text} (built : ofValues defaults values = .ok settings)
    (named : Json.memberOf? values Field.loginUrl.name = some (.text given)) :
    let again := ofValues defaults
      (Dictionary.set values Field.loginUrl.name (.text ↑settings.loginUrl))
    ∃ url : String, given = ↑url ∧ Trims url settings.loginUrl ∧
      (again = .ok settings ↔ ¬ Text.EndsBlank settings.loginUrl) ∧
      (Text.EndsBlank settings.loginUrl →
        (∃ less, again = .ok { settings with loginUrl := less } ∧
          less.length < settings.loginUrl.length) ∨
        again = .error (.configuration (.offences [(.loginUrl, .emptyUrl)]))) := by
  intro again
  have free := unreserved_of_built built
  have stores := (ofValues_eq_ok_iff free).mp built
  rcases stores.loginUrl with ⟨absent, _⟩ | ⟨url, present, stored, filled⟩
  · cases absent.symm.trans named
  obtain rfl : given = ↑url := by simpa using named.symm.trans present
  have trims : Trims url settings.loginUrl := stored ▸ trims_normalizeUrl (stored ▸ filled)
  have free' : Json.memberOf? (Dictionary.set values Field.loginUrl.name
      (.text ↑settings.loginUrl)) "self" = none := memberOf?_set_self.trans free
  have shrinks (blank : Text.EndsBlank settings.loginUrl) :
      (∃ less, again = .ok { settings with loginUrl := less } ∧
        less.length < settings.loginUrl.length) ∨
      again = .error (.configuration (.offences [(.loginUrl, .emptyUrl)])) := by
    by_cases nothing : normalizeUrl settings.loginUrl = ""
    · have accepted : offences values = [] := by
        rcases ofValues_of_unreserved defaults free with ⟨_, _, _, none⟩ | ⟨failed, _⟩
        · exact none
        · cases failed.symm.trans built
      have offending := offences_set_loginUrl accepted filled nothing
      exact .inr ((ofValues_eq_error_iff free').mpr (by simp [offending]))
    · exact .inl ⟨_, (ofValues_eq_ok_iff free').mpr (stores.set_loginUrl rfl nothing),
        length_normalizeUrl_lt blank⟩
  refine ⟨url, rfl, trims, ⟨fun same blank => ?_, fun unblank => ?_⟩, shrinks⟩
  · rcases shrinks blank with ⟨less, other, shorter⟩ | failed
    · rw [← (Settings.mk.inj (Except.ok.inj (same.symm.trans other))).1] at shorter
      exact absurd shorter (Nat.lt_irrefl _)
    · cases failed.symm.trans same
  · have same := trims.normalizeUrl_eq unblank
    exact (ofValues_eq_ok_iff free').mpr (stores.set_loginUrl same.symm filled)

/-- A blank in front of the last slash stays at the end, and goes when the settings are built once
more. -/
theorem restores_ofValues_blank :
    let values : Values := [("client_id", .text "id"), ("client_secret", .text "secret"),
      ("username", .text "user"), ("password", .text "password"),
      ("login_url", .text "https://login.test/ /")]
    let settings : Settings := ⟨"https://login.test/ ", "id", "secret", "user", "password", 60000⟩
    ofValues {} values = .ok settings ∧ Text.EndsBlank settings.loginUrl ∧
      ofValues {} (Dictionary.set values Field.loginUrl.name (.text ↑settings.loginUrl)) ≠
        .ok settings := by
  intro values settings
  have built : ofValues {} values = .ok settings := Except.ok_of_toOption (by decide +kernel)
  have blank : Text.EndsBlank settings.loginUrl := ⟨' ', by decide +kernel, by decide +kernel⟩
  obtain ⟨_, _, _, same_iff, _⟩ := restores_ofValues built rfl
  exact ⟨built, blank, fun same => same_iff.mp same blank⟩

end Settings

end SessionKeeper
