import SessionKeeper.Proofs.Credential.Grant
import SessionKeeper.Proofs.Session.Failures
import SessionKeeper.Proofs.Session.Round

/-! # Taking over a response that was got elsewhere

A response to a login may come from somebody else. If it grants nothing, then taking it over fails
with what it says and leaves everything as it was. If it grants something, that is put in the place
of whatever was held, and then the listeners are told (`Session.TakenOver`). In neither case is a
request sent (`Session.run_applyLogin`).
-/

namespace SessionKeeper.Session

/-- What a grant makes of what is shared when its response is taken over, and what that comes to. -/
structure TakenOver (grant : Grant) (before : Shared) (outcome : Except Fault String)
    (after : Shared) : Prop where
  held : after.held = some grant.credential
  sent : after.sent = before.sent
  /-- One round of telling, in which the grant is held all the time. -/
  told : ∃ result, outcome = (result.map fun _ => grant.accessToken) ∧
    Listener.Circulated (.login grant.accessToken grant.instanceUrl) before.listeners.members
      ((before.say .info "✅ Login successful").hold (some grant.credential)) result after
  /-- Whoever is told is told of this login. -/
  notices : ∃ reached, reached <+: before.listeners.members ∧ after.notices = before.notices ++
    reached.map fun listener => ⟨listener.name, .login grant.accessToken grant.instanceUrl⟩
  /-- Unless one of them demands to stop, every listener is told once. -/
  everybody : before.Calm → outcome = .ok grant.accessToken ∧ after.notices = before.notices ++
    before.listeners.members.map fun listener =>
      ⟨listener.name, .login grant.accessToken grant.instanceUrl⟩

variable {response : Response} {grant : Grant} {fault : Fault}

theorem run_install_of_refused (endpoint : Endpoint)
    (refusal : response.classifyLogin = .error fault) (before : Shared) :
    (install response).run endpoint before = (before, .error fault) := by
  unfold install
  rw [refusal]
  exact Routine.run_bind_of_error endpoint (Routine.run_ofExcept endpoint _ before) _

/-- What a response grants is held before the listeners are told of it. -/
theorem run_install_of_granted (endpoint : Endpoint)
    (granted : response.classifyLogin = .ok grant) (before : Shared) :
    ∃ result after, Listener.Circulated (.login grant.accessToken grant.instanceUrl)
        before.listeners.members
        ((before.say .info "✅ Login successful").hold (some grant.credential)) result after ∧
      (install response).run endpoint before = (after, result.map fun _ => grant.accessToken) := by
  refine ⟨_, _, Listener.circulated_notifyAll endpoint _
    ((before.say .info "✅ Login successful").hold (some grant.credential)), ?_⟩
  unfold install
  rw [granted, Routine.run_bind_of_ok endpoint (Routine.run_ofExcept endpoint _ before),
    Routine.run_bind_of_ok endpoint (Routine.run_say endpoint _ _ before),
    Routine.run_bind_of_ok endpoint (Routine.run_modify endpoint _ _), Routine.run_bind]
  generalize (Listener.notifyAll (.login grant.accessToken grant.instanceUrl)).run endpoint
    ((before.say .info "✅ Login successful").hold (some grant.credential)) = result
  obtain ⟨after, fault | value⟩ := result <;> rfl

theorem takenOver_of_circulated {before after : Shared} {result : Except Fault Unit}
    (circulated : Listener.Circulated (.login grant.accessToken grant.instanceUrl)
      before.listeners.members
      ((before.say .info "✅ Login successful").hold (some grant.credential)) result after) :
    TakenOver grant before (result.map fun _ => grant.accessToken) after := by
  obtain ⟨reached, first, round⟩ := circulated.round
  refine ⟨round.held, round.sent, ⟨result, rfl, circulated⟩, ⟨reached, first, round.notices⟩,
    fun calm => ?_⟩
  obtain ⟨all, rfl⟩ := circulated.of_calm calm
  exact ⟨rfl, all.notices⟩

/-- A response that grants nothing is a refusal or cannot be decoded. -/
theorem of_classifyLogin_eq_error (failed : response.classifyLogin = .error fault) :
    (∃ refusal, fault = .refused refusal) ∨ ∃ problem, fault = .undecodable problem := by
  have accounted : fault.Accounted [] := .of_classifyLogin failed
  cases accounted with
  | transport request incident last failure cause kind => cases last
  | refused refusal => exact .inl ⟨refusal, rfl⟩
  | undecodable problem => exact .inr ⟨problem, rfl⟩

/-- **A response is taken over as a whole or not at all.** Whatever is held, whoever is registered
and whatever the response is: if it grants nothing, taking it over fails with its refusal, or since
it cannot be decoded, and nothing changes at all. If it grants something, that is held instead of
what was held before, and then the listeners that are registered are told; nothing is sent, and
nobody is told of a logout. -/
theorem run_applyLogin (endpoint : Endpoint) (response : Response) (before : Shared) :
    let ended := (applyLogin response).run endpoint before
    (∀ fault, response.classifyLogin = .error fault →
      ended = (before, .error fault) ∧
        ((∃ refusal, fault = .refused refusal) ∨ ∃ problem, fault = .undecodable problem)) ∧
      ∀ grant, response.classifyLogin = .ok grant → TakenOver grant before ended.2 ended.1 := by
  intro ended
  have locked : ended = _ := Routine.run_withLock endpoint .session (install response) before
  refine ⟨fun fault refusal => ⟨?_, of_classifyLogin_eq_error refusal⟩, fun grant granted => ?_⟩
  · rw [locked, run_install_of_refused endpoint refusal, Shared.unlock_lock]
  · obtain ⟨result, after, circulated, ran⟩ :=
      run_install_of_granted endpoint granted (before.lock .session)
    have begun : Listener.Circulated (.login grant.accessToken grant.instanceUrl)
        before.listeners.members
        (((before.say .info "✅ Login successful").hold (some grant.credential)).lock .session)
        result after := circulated
    rw [locked, ran]
    exact takenOver_of_circulated begun.unlock

theorem run_applyLogin_replaced :
    let response : Response := ⟨200, some "OK",
      .text "\x7b\"access_token\": \"t2\", \"instance_url\": \"https://b.test\"\x7d"⟩
    let grant : Grant := ⟨"t2", "https://b.test", none, none, none, none⟩
    let failing : Listener :=
      { name := "failing", onLogin := some fun _ _ => [.fail (.foreign .noAnswerLeft)] }
    let recorder : Listener := { name := "recorder", onLogin := some fun _ _ => [.note] }
    let before : Shared :=
      { held := some ⟨"t1", "https://a.test"⟩, listeners := ⟨[failing, recorder]⟩ }
    let endpoint : Endpoint := fun _ request => Endpoint.unforeseen request
    let ended := (applyLogin response).run endpoint before
    response.classifyLogin = .ok grant ∧ TakenOver grant before ended.2 ended.1 ∧
      ended.1.notes.map (·.held) = [some "t2"] ∧
      ended.1.notices.map (·.listener) = ["failing", "recorder"] := by
  intro response grant failing recorder before endpoint ended
  have granted : response.classifyLogin = .ok grant := Except.ok_of_toOption (by decide +kernel)
  exact ⟨granted, (run_applyLogin endpoint response before).2 grant granted, by decide +kernel⟩

end SessionKeeper.Session
