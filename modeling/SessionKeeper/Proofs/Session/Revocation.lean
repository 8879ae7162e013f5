import SessionKeeper.Proofs.Session.Login
import SessionKeeper.Proofs.Text.Encoding

/-! # Addresses of revocations

The address of a revocation carries its token as the only parameter, in a spelling that holds no
character with a meaning of its own in an address and that can be read back. So two tokens never
share an address, and none of them can pass for something else (`Settings.draftLogout_carries`).
-/

namespace SessionKeeper.Settings

theorem logoutAddress_eq (settings : Settings) (encoded : String) (instanceUrl : Option Text) :
    settings.logoutAddress encoded instanceUrl =
      settings.baseUrl instanceUrl ++ "/services/oauth2/revoke?token=" ++ encoded := by
  unfold logoutAddress
  rw [Text.append_assoc (settings.baseUrl instanceUrl)]
  rfl

/-- Behind one base, one spelling makes one address. -/
theorem logoutAddress_inj {settings other : Settings} {encoded encoded' : String}
    {instanceUrl instanceUrl' : Option Text}
    (base : settings.baseUrl instanceUrl = other.baseUrl instanceUrl')
    (same : settings.logoutAddress encoded instanceUrl =
      other.logoutAddress encoded' instanceUrl') : encoded = encoded' := by
  rw [logoutAddress_eq, logoutAddress_eq, base] at same
  have points := List.append_cancel_left (congrArg Text.points same)
  exact Text.ofString_inj.mp (congrArg Text.mk points)

variable {settings : Settings} {timeout : Binary64}

/-- **A revocation names its token exactly.** Whatever the base is and whatever characters the token
holds, its request goes to the base, the path of revocations and a query, which is made of letters,
digits, `_.-~`, pluses and escaped bytes and is read back as the token. So no other token is revoked
by the same address. -/
theorem draftLogout_carries (usable : settings.timeout = .ok timeout) (instanceUrl : Option Text)
    (token : String) :
    ∃ request query, settings.draftLogout ↑token instanceUrl = .ok request ∧
      request.url = settings.baseUrl instanceUrl ++ "/services/oauth2/revoke?token=" ++
        Text.ofString query ∧
      FormUrl.IsForm query.toList ∧ FormUrl.decode? query = some token ∧
      ∀ (other : Settings) (instanceUrl' : Option Text) (token' : String) (request' : Request),
        other.baseUrl instanceUrl' = settings.baseUrl instanceUrl →
        other.draftLogout ↑token' instanceUrl' = .ok request' → request'.url = request.url →
          token' = token := by
  refine ⟨_, FormUrl.encode token, draftLogout_of_usable instanceUrl usable token,
    logoutAddress_eq settings _ instanceUrl, FormUrl.isForm_encode token,
    FormUrl.decode?_encode token, fun other instanceUrl' token' request' base draft same => ?_⟩
  obtain ⟨encoded, _, spelled, _, rfl⟩ := eq_of_draftLogout draft
  rw [FormUrl.encodeText_ofString] at spelled
  obtain rfl := Except.ok.inj spelled
  have query : FormUrl.encode token' = FormUrl.encode token := logoutAddress_inj base same
  have reread : FormUrl.decode? (FormUrl.encode token') = some token := by
    rw [query, FormUrl.decode?_encode]
  exact Option.some.inj ((FormUrl.decode?_encode token').symm.trans reread)

theorem draftLogout_carries_reserved :
    let settings : Settings := ⟨"https://login.test", "id", "secret", "user", "password", 5000⟩
    let token := "a b+c&d=e#f%2Bgé𝄞"
    ∃ request query, settings.draftLogout ↑token (some "https://a.test") = .ok request ∧
      request.url = "https://a.test/services/oauth2/revoke?token=" ++ Text.ofString query ∧
      FormUrl.decode? query = some token ∧
      request.url = Text.ofString
        ("https://a.test/services/oauth2/revoke?token=" ++
          "a+b%2Bc%26d%3De%23f%252Bg%C3%A9%F0%9D%84%9E") := by
  intro settings token
  obtain ⟨timeout, usable⟩ := settings.exists_timeout (by decide +kernel)
  obtain ⟨request, query, draft, address, _, reread, _⟩ :=
    draftLogout_carries usable (some "https://a.test") token
  have written : (settings.draftLogout ↑token (some "https://a.test")).toOption.map (·.url) =
      some (Text.ofString ("https://a.test/services/oauth2/revoke?token=" ++
        "a+b%2Bc%26d%3De%23f%252Bg%C3%A9%F0%9D%84%9E")) := by decide +kernel
  rw [draft] at written
  exact ⟨request, query, draft, address, reread, Option.some.inj written⟩

end SessionKeeper.Settings
