import SessionKeeper.Proofs.Session.Pairing

/-! # Where a token goes

A request to the API is shaped from two looks at the session, one for the token and one for the
address, without a lock. Still a token goes to the instance that it was granted for and nowhere else
(`Session.targeted_follow`): whenever a request is sent, its token and its address are the two parts
of the grant in force at that moment. The login address is no part of it, and neither is anything
that the path of a call could add in front.
-/

namespace SessionKeeper

/-- A request that a task is on record for was sent at one of its moments. -/
theorem History.exists_of_mem_sentBy {number : Nat} {past : History} {request : Request}
    (member : request ∈ past.sentBy number) :
    ∃ moment earlier, moment :: earlier <:+ past ∧ moment.task = number ∧
      moment.deed = .sent request := by
  induction past with
  | nil => cases member
  | cons moment earlier ih =>
    have further (before : request ∈ sentBy number earlier) :
        ∃ other past, other :: past <:+ moment :: earlier ∧ other.task = number ∧
          other.deed = .sent request := by
      obtain ⟨other, past, suffix, found⟩ := ih before
      exact ⟨other, past, suffix.trans (List.suffix_cons _ _), found⟩
    simp only [sentBy] at member
    split at member
    · rename_i sent deed
      split at member
      · rename_i own
        rcases List.mem_append.mp member with before | last
        · exact further before
        · rw [List.mem_singleton.mp last]
          exact ⟨moment, earlier, List.suffix_rfl, own, deed⟩
      · exact further member
    · exact further member

namespace Session

variable (session : Session) (calls : List Call)

/-- A request that carries a token goes where the token belongs: one grant in force has the token,
and the address of its instance is the base of the call. -/
def Targets (past : History) (request : Request) (token : String) (call : ApiCall) : Prop :=
  ∃ grant, session.InForce calls past grant ∧ grant.accessToken = token ∧
    request.url = call.address ↑grant.instanceUrl ∧
    (call.isAbsolute = false →
      request.url.startsWith (Text.ofString grant.instanceUrl ++ "/") = true)

variable {session calls}

/-- A request that is shaped from the grant in force goes where its token belongs. -/
theorem InForce.targets {past : History} {grant : Grant} (force : session.InForce calls past grant)
    (call : ApiCall) (timeout : Binary64) :
    session.Targets calls past (call.request
      (session.settings.baseUrl (some ↑grant.instanceUrl)) grant.accessToken timeout)
      grant.accessToken call := by
  obtain ⟨response, _, _, _, _, _, _, _, granted⟩ := id force
  have filled := (Grant.ne_empty (Response.of_classifyLogin granted).2).2
  rw [session.settings.baseUrl_of_ne_empty filled]
  exact ⟨grant, force, rfl, rfl, fun relative => ApiCall.startsWith_address relative _⟩

/-- **A token goes where it belongs.** Whatever calls tasks make of a session that starts empty, in
whatever order they go on, whatever the endpoint answers, the listeners do and breaks off waits: a
request with headers is sent for a call to the API, carries one token, and goes to the instance for
which that token was granted, by the grant in force. Unless the path of the call is an absolute
address, the address of the request continues that of the instance behind a slash. -/
theorem targeted_follow (session : Session) (endpoint : Endpoint) {shared : Shared}
    (empty : shared.held = none) (unlocked : shared.locked = []) (events : List (Event Call)) :
    let calls := Event.begun events
    let course := (Course.initial shared).follow endpoint session.answer events
    ∀ moment earlier request, moment :: earlier <:+ course.past → moment.deed = .sent request →
      request.headers.isSome →
        ∃ call attempts token, calls[moment.task]? = some (.api call attempts) ∧
          (∀ other, request.Carries other ↔ other = token) ∧
            session.Targets calls earlier request token call := by
  intro calls course moment earlier request suffix deed headed
  have sound := session.sound_traced endpoint unlocked events
  have attributed := session.attributed_follow endpoint unlocked events
  have matched : session.Matches calls moment := by
    refine sound.each (Regime.stable_ofFree keptApart_attributed)
      (fun moment _ => session.Matches calls moment) ?_ suffix
    intro number outcome after ended moment earlier suffix own
    exact ended.1 moment (suffix.subset List.mem_cons_self) own
  obtain ⟨call, attempts, credential, timeout, asked, held, _, rfl⟩ := matched request deed headed
  have carries := call.carries_request (session.settings.baseUrl (some ↑credential.instanceUrl))
    credential.token timeout
  refine ⟨call, attempts, credential.token, asked, fun other => ⟨fun also => ?_, ?_⟩, ?_⟩
  · exact also.unique carries
  · rintro rfl
    exact carries
  · -- What was held when the request was sent is what the course held just before.
    obtain ⟨before, leads, rfl, allowed⟩ := (sound.leads.of_suffix suffix).last rfl
    rw [allowed.before] at held
    rcases inForce_of_attributed leads
      (attributed.suffix ((List.suffix_cons _ _).trans suffix)) held with
      initial | ⟨grant, force, rfl⟩
    · rw [empty] at initial
      cases initial
    · exact force.targets call timeout

theorem targeted_follow_api :
    let session : Session := ⟨⟨"https://login.test", "id", "secret", "user", "password", 5000⟩⟩
    let endpoint : Endpoint := fun _ _ => .later (.ok ⟨200, none,
      .text "\x7b\"access_token\": \"t\", \"instance_url\": \"https://a.test\"\x7d"⟩)
    let call : ApiCall := { method := "get", path := "x" }
    let course := (Course.initial {}).follow endpoint session.answer
      [.begins (.api call 1), .turn 0]
    ∃ moment earlier request, moment :: earlier <:+ course.past ∧ moment.deed = .sent request ∧
      request.url = "https://a.test/x" ∧ request.Carries "t" ∧
        session.Targets [.api call 1] earlier request "t" call := by
  intro session endpoint call course
  have sent : ∃ request ∈ course.past.sentBy 0,
      request.headers.isSome ∧ request.url = "https://a.test/x" ∧ request.Carries "t" := by
    decide +kernel
  obtain ⟨request, member, headed, url, carries⟩ := sent
  obtain ⟨moment, earlier, suffix, own, deed⟩ := History.exists_of_mem_sentBy member
  obtain ⟨other, attempts, token, asked, only, targets⟩ :=
    targeted_follow session endpoint rfl rfl _ moment earlier request suffix deed headed
  obtain rfl := (only "t").mp carries
  rw [own] at asked
  cases asked
  exact ⟨moment, earlier, request, suffix, deed, url, carries, targets⟩

end Session

end SessionKeeper
