import SessionKeeper.Proofs.Credential.Decoding
import SessionKeeper.Proofs.Json.Printing

/-! # Printed grants are read back

An object with a token and an address is printed as a document from which the grant of the two is
read, whatever characters they are made of and whatever other texts the object holds
(`Grant.ofBody_printed`). So bodies that grant the same were printed from the same token and the
same address. The other texts need characters, too: a lone surrogate can be printed, but a document
that spells one is refused.
-/

namespace SessionKeeper

namespace Grant

/-- The names of which a grant demands something. -/
def names : List String := demands.map Prod.fst

/-- A body for a grant with further texts as members. -/
def printed (token url : String) (further : List (String × String)) : String :=
  Json.print (.object
    (Json.ofStrings (("access_token", token) :: ("instance_url", url) :: further)))

section

variable {token url : String} {further : List (String × String)}

theorem memberOf?_ofStrings (token url : String) {name : String} (known : name ∈ names)
    (others : ∀ member ∈ further, member.1 ∉ names) :
    Json.memberOf? (Json.ofStrings (("access_token", token) :: ("instance_url", url) :: further))
      name =
      if name = "access_token" then some (.text token)
      else if name = "instance_url" then some (.text url) else none := by
  have absent : Json.memberOf? (Json.ofStrings further) name = none := by
    refine Json.memberOf?_eq_none_iff.mpr fun member listed same => ?_
    obtain ⟨given, there, rfl⟩ := List.mem_map.mp listed
    exact others given there (Text.ofString_inj.mp same ▸ known)
  unfold Json.ofStrings at absent ⊢
  rw [List.map_cons, List.map_cons, Json.memberOf?_cons, Json.memberOf?_cons, absent]
  simp only [Text.ofString_inj, Option.none_or]
  by_cases first : name = "access_token"
  · subst first
    simp
  · simp [first]

theorem meetAll_ofStrings (filledToken : token ≠ "") (filledUrl : url ≠ "")
    (others : ∀ member ∈ further, member.1 ∉ names) :
    Reply.MeetAll demands
      (Json.ofStrings (("access_token", token) :: ("instance_url", url) :: further))
      [some token, some url, none, none, none, none] := by
  have found {name : String} (known : name ∈ names) := memberOf?_ofStrings token url known others
  refine .cons ?token (.cons ?url (.cons ?_ (.cons ?_ (.cons ?_ (.cons ?_ .nil)))))
  case token =>
    rw [found (by decide)]
    exact .filled filledToken
  case url =>
    rw [found (by decide)]
    exact .filled filledUrl
  all_goals
    rw [found (by decide)]
    exact .nothing

theorem ofBody_of_spells {body : Body} (filledToken : token ≠ "") (filledUrl : url ≠ "")
    (others : ∀ member ∈ further, member.1 ∉ names)
    (spells : body.Spells (printed token url further)) :
    ofBody body = .ok ⟨token, url, none, none, none, none⟩ :=
  (decodes.reads body _).mpr ⟨_, ⟨_, spells, Json.strictDocument_print _⟩,
    meetAll_ofStrings filledToken filledUrl others⟩

/-- **Round trip.** From a printed object, as a text or in UTF-8, the token and the address are read
that it was printed for; so other tokens or addresses give other grants. -/
theorem ofBody_printed (filledToken : token ≠ "") (filledUrl : url ≠ "")
    (others : ∀ member ∈ further, member.1 ∉ names) :
    (∀ body : Body, body.Spells (printed token url further) →
      ofBody body = .ok ⟨token, url, none, none, none, none⟩) ∧
    ∀ (otherToken otherUrl : String) (otherFurther : List (String × String)),
      otherToken ≠ "" → otherUrl ≠ "" → (∀ member ∈ otherFurther, member.1 ∉ names) →
      ∀ body other : Body, body.Spells (printed token url further) →
        other.Spells (printed otherToken otherUrl otherFurther) → ofBody other = ofBody body →
        otherToken = token ∧ otherUrl = url := by
  refine ⟨fun body => ofBody_of_spells filledToken filledUrl others, ?_⟩
  intro otherToken otherUrl otherFurther filledOther filledOtherUrl further body other spells
    otherSpells same
  rw [ofBody_of_spells filledToken filledUrl others spells,
    ofBody_of_spells filledOther filledOtherUrl further otherSpells] at same
  obtain ⟨rfl, rfl, _⟩ := Grant.mk.inj (Except.ok.inj same)
  exact ⟨rfl, rfl⟩

end

/-- Quotes, escapes, controls and characters beyond U+FFFF survive. -/
theorem ofBody_printed_escapes :
    ofBody (.bytes (Utf8.encode (printed "\x22\\/\n\x00\x7f" "é\u2028😀" [("scope", "\x22")]))) =
      .ok ⟨"\x22\\/\n\x00\x7f", "é\u2028😀", none, none, none, none⟩ :=
  (ofBody_printed (by decide) (by decide) (by decide)).1 _ (.inr rfl)

/-- A further text that holds a lone surrogate can be printed, but its document is refused. -/
theorem ofBody_printed_surrogate :
    ¬ ∀ (token url : String) (further : List (Text × Text)), token ≠ "" → url ≠ "" →
      (∀ member ∈ further, ∀ name ∈ names, member.1 ≠ Text.ofString name) →
      ofBody (.text (Json.print (.object (("access_token", .text token) ::
        ("instance_url", .text url) :: further.map fun member => (member.1, .text member.2))))) =
        .ok ⟨token, url, none, none, none, none⟩ := by
  intro all
  have read := all "t" "u" [("x", ⟨[.surrogate 0]⟩)] (by decide) (by decide) (by decide)
  have refused : (ofBody (.text (Json.print (.object [("access_token", .text "t"),
      ("instance_url", .text "u"), ("x", .text ⟨[.surrogate 0]⟩)])))).toOption = none := by
    decide +kernel
  cases refused.symm.trans (congrArg Except.toOption read)

end Grant

end SessionKeeper
