import SessionKeeper.Proofs.Session.Retry
import SessionKeeper.Proofs.Session.Target
import SessionKeeper.Text.Case

/-! # What authenticates a request to the API

A request to the API carries the headers of its caller and one more, that of the token. Whatever the
caller put under that very name is overridden, at each attempt anew, and nothing else is touched
(`ApiCall.authenticates_headersWith`). So it goes for every request of every call, whatever other
tasks do and however often a call is sent again (`Session.authenticated_follow`).

Names of headers are the same in whatever letters they are written, but only the one spelling is
overridden. What a caller sends under another spelling stands beside the token. The token is the
only header that authenticates the request just if the caller used no other spelling.
-/

namespace SessionKeeper

namespace ApiCall

/-- The headers of the caller, in which no name occurs twice. -/
def NamesOnce (call : ApiCall) : Prop := ((call.headers.getD []).map (·.1)).Nodup

instance (call : ApiCall) : Decidable call.NamesOnce := inferInstanceAs (Decidable (List.Nodup _))

/-- The name that a token is sent under. -/
def tokenName : Text := "Authorization"

/-- The entry that a token is sent in. -/
def bearer (token : String) : Text × Text := (tokenName, (s!"Bearer {token}" : String))

theorem bearer_inj {first second : String} (same : bearer first = bearer second) :
    first = second :=
  (String.append_right_inj _).mp (Text.ofString_inj.mp (congrArg Prod.snd same))

/-- The entry has the name that a token is sent under, in whatever letters it is written. -/
def isAuthorization (entry : Text × Text) : Bool := Text.lower entry.1 == Text.lower tokenName

/-- The headers of a request are those of its caller, and a token authenticates it. -/
structure Authenticates (call : ApiCall) (token : String) (entries : List (Text × Text)) :
    Prop where
  /-- Under the name that the token is sent by there is the token and nothing else. -/
  own : entries.filter (·.1 == tokenName) = [bearer token]
  /-- All other entries are those of the caller, unchanged and in their order. -/
  others : entries.filter (·.1 != tokenName) =
    (call.headers.getD []).filter (·.1 != tokenName)
  /-- The token alone authenticates the request just if the caller wrote the name as it is written
  here, or not at all. -/
  sole : entries.filter isAuthorization = [bearer token] ↔
    ∀ entry ∈ call.headers.getD [], isAuthorization entry = true → entry.1 = tokenName

variable {call : ApiCall} {token : String} {entries : List (Text × Text)}

/-- Besides the entry of the token, just the entries of the caller can authenticate a request. -/
theorem filter_isAuthorization_iff
    (own : entries.filter (·.1 == tokenName) = [bearer token])
    (others : entries.filter (·.1 != tokenName) =
      (call.headers.getD []).filter (·.1 != tokenName)) :
    entries.filter isAuthorization = [bearer token] ↔
      ∀ entry ∈ call.headers.getD [], isAuthorization entry = true →
        entry.1 = tokenName := by
  have foreign (entry : Text × Text) (different : entry.1 ≠ tokenName) :
      entry ∈ entries ↔ entry ∈ call.headers.getD [] := by
    have same : entry ∈ entries.filter (·.1 != tokenName) ↔
        entry ∈ (call.headers.getD []).filter (·.1 != tokenName) := by rw [others]
    simpa [List.mem_filter, different] using same
  constructor
  · intro alone entry given named
    by_contra different
    have sent : entry ∈ entries.filter isAuthorization :=
      List.mem_filter.mpr ⟨(foreign entry different).mpr given, named⟩
    rw [alone, List.mem_singleton] at sent
    exact different (congrArg Prod.fst sent)
  · intro spelled
    rw [← own]
    refine List.filter_congr fun entry sent => ?_
    by_cases same : entry.1 = tokenName
    · simp [isAuthorization, same]
    · have unnamed : isAuthorization entry = false := by
        by_contra named
        exact same (spelled entry ((foreign entry same).mp sent) (by simpa using named))
      simp [unnamed, same]

/-- A call is sent with its own headers, and with that of the token. -/
theorem authenticates_headersWith (once : call.NamesOnce) (token : String) :
    call.Authenticates token (call.headersWith token) := by
  have own : (call.headersWith token).filter (·.1 == tokenName) = [bearer token] :=
    Dictionary.filter_eq_set once
  have others := Dictionary.filter_ne_set (call.headers.getD []) tokenName (bearer token).2
  exact ⟨own, others, filter_isAuthorization_iff own others⟩

end ApiCall

namespace Session

/-- Whatever calls tasks make, a request to the API carries the token that is held when it is
sent. -/
theorem matches_follow (session : Session) (endpoint : Endpoint) {shared : Shared}
    (unlocked : shared.locked = []) (events : List (Event Call)) {moment : Moment}
    {earlier : History}
    (suffix : moment :: earlier <:+
      ((Course.initial shared).follow endpoint session.answer events).past) :
    session.Matches (Event.begun events) moment := by
  have sound := session.sound_traced endpoint unlocked events
  refine sound.each (Regime.stable_ofFree keptApart_attributed)
    (fun moment _ => session.Matches (Event.begun events) moment) ?_ suffix
  intro number outcome after ended moment earlier suffix own
  exact ended.1 moment (suffix.subset List.mem_cons_self) own

/-- The request of an attempt has the headers of the call, and the token of the attempt
authenticates it. -/
theorem Attempt.Exchanged.authenticates {session : Session} {endpoint : Endpoint} {call : ApiCall}
    {attempt : Attempt} (exchanged : attempt.Exchanged session endpoint call)
    (once : call.NamesOnce) {request : Request} (asked : attempt.request? = some request) :
    ∃ token entries, attempt.token = .ok token ∧ request.headers = some entries ∧
      call.Authenticates token entries := by
  cases exchanged with
  | unsent fault why nothing failed ended =>
    rw [nothing] at asked
    cases asked
  | sent token timeout other got usable shape sent answered ended =>
    obtain rfl : other = request := Option.some.inj (sent.symm.trans asked)
    exact ⟨token, call.headersWith token, got, by rw [shape]; rfl,
      ApiCall.authenticates_headersWith once token⟩

/-- **Every request to the API is authenticated by the session.** Whatever tasks ask of a session,
in whatever state it is and in whatever order they go on: a request with headers is sent for a call
to the API, with the headers of the caller and with the token that is held at that moment, under its
one spelling. And so it is at each attempt of a call, with the token that was got for the
attempt. -/
theorem authenticated_follow (session : Session) (endpoint : Endpoint) (shared : Shared) :
    (∀ events : List (Event Call), shared.locked = [] →
      (∀ call attempts, .api call attempts ∈ Event.begun events → call.NamesOnce) →
      let course := (Course.initial shared).follow endpoint session.answer events
      ∀ moment earlier request, moment :: earlier <:+ course.past → moment.deed = .sent request →
        request.headers.isSome →
          ∃ call attempts token entries,
            (Event.begun events)[moment.task]? = some (.api call attempts) ∧
            moment.before.token? = some token ∧ request.headers = some entries ∧
            call.Authenticates token entries) ∧
    (∀ (call : ApiCall) (attempts : Int), call.NamesOnce →
      let ended := (session.call call attempts).run endpoint shared
      ∃ tries, session.Attempted endpoint call (max 1 attempts).toNat none shared tries ended.2
          ended.1 ∧
        ∀ attempt ∈ tries, ∀ request, attempt.request? = some request →
          ∃ token entries, attempt.token = .ok token ∧ request.headers = some entries ∧
            call.Authenticates token entries) := by
  constructor
  · intro events unlocked once course moment earlier request suffix deed headed
    obtain ⟨call, attempts, credential, timeout, asked, held, _, rfl⟩ :=
      session.matches_follow endpoint unlocked events suffix request deed headed
    refine ⟨call, attempts, credential.token, _, asked, by rw [Shared.token?, held]; rfl, rfl, ?_⟩
    exact ApiCall.authenticates_headersWith (once call attempts (List.mem_of_getElem? asked))
      credential.token
  · intro call attempts once ended
    obtain ⟨tries, attempted⟩ :=
      attempted_callFrom session endpoint call (attempts - 1).toNat none shared
    have bound : (attempts - 1).toNat + 1 = (max 1 attempts).toNat := by omega
    rw [bound] at attempted
    exact ⟨tries, attempted, fun attempt member request asked =>
      (attempted.made attempt member).2.authenticates once asked⟩

/-- A caller that writes the name in small letters gets it sent beside that of the token, at the
second attempt too. -/
theorem authenticated_follow_respelled :
    let session : Session := ⟨⟨"https://login.test", "id", "secret", "user", "password", 5000⟩⟩
    let endpoint : Endpoint := fun _ request =>
      .later (.ok (if request.method = "POST" then ⟨200, none,
          .text "\x7b\"access_token\": \"t2\", \"instance_url\": \"https://a.test\"\x7d"⟩
        else if request.Carries "t2" then ⟨200, none, .text ""⟩ else ⟨401, none, .text ""⟩))
    let shared : Shared := { held := some ⟨"t1", "https://a.test"⟩ }
    let given : List (Text × Text) := [("authorization", "Basic YTpi"), ("Accept", "text/plain")]
    let call : ApiCall := { method := "GET", path := "/x", headers := some given }
    let events : List (Event Call) := .begins (.api call 2) :: List.replicate 4 (.turn 0)
    let course := (Course.initial shared).follow endpoint session.answer events
    let ended := (session.call call 2).run endpoint shared
    (∃ moment earlier request entries, moment :: earlier <:+ course.past ∧
      moment.deed = .sent request ∧ moment.before.token? = some "t2" ∧
      request.headers = some entries ∧ call.Authenticates "t2" entries ∧
      entries.filter ApiCall.isAuthorization ≠ [ApiCall.bearer "t2"]) ∧
    (∃ tries, session.Attempted endpoint call 2 none shared tries ended.2 ended.1 ∧
      ∀ attempt ∈ tries, ∀ request, attempt.request? = some request →
        ∃ token entries, attempt.token = .ok token ∧ request.headers = some entries ∧
          call.Authenticates token entries) ∧
    ended.1.apiRequests.map (·.headers) =
      [some (given ++ [ApiCall.bearer "t1"]), some (given ++ [ApiCall.bearer "t2"])] := by
  intro session endpoint shared given call events course ended
  have once : call.NamesOnce := by decide +kernel
  have known : ∀ other attempts, .api other attempts ∈ Event.begun events → other.NamesOnce := by
    intro other attempts asked
    obtain ⟨rfl, _⟩ : other = call ∧ attempts = 2 := by simpa [events, Event.begun] using asked
    exact once
  have sent : ∃ request ∈ course.past.sentBy 0,
      request.headers = some (given ++ [ApiCall.bearer "t2"]) := by decide +kernel
  obtain ⟨among, tried⟩ := authenticated_follow session endpoint shared
  obtain ⟨request, member, headers⟩ := sent
  obtain ⟨moment, earlier, suffix, own, deed⟩ := History.exists_of_mem_sentBy member
  obtain ⟨other, attempts, token, entries, asked, held, same, authenticates⟩ :=
    among events rfl known moment earlier request suffix deed (by rw [headers]; rfl)
  obtain rfl : other = call := by
    rw [own] at asked
    cases asked
    rfl
  obtain rfl : given ++ [ApiCall.bearer "t2"] = entries := Option.some.inj (headers.symm.trans same)
  have carried : token = "t2" := by
    have only : (given ++ [ApiCall.bearer "t2"]).filter (·.1 == ApiCall.tokenName) =
        [ApiCall.bearer "t2"] := by decide +kernel
    exact ApiCall.bearer_inj (List.singleton_inj.mp (authenticates.own.symm.trans only))
  refine ⟨⟨moment, earlier, request, _, suffix, deed, carried ▸ held, headers,
    carried ▸ authenticates, by decide +kernel⟩, tried call 2 once, by decide +kernel⟩

end Session

end SessionKeeper
