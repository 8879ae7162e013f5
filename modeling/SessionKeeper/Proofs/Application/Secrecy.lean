import Mathlib.Logic.Equiv.Basic
import SessionKeeper.Proofs.Application.Stage
import SessionKeeper.Proofs.Session.Disguise

/-! # What logs keep to themselves

Two runs of an application are asked for the same, get the same answers and have the same listeners,
except that tokens have other names in one of them and that its settings have another client secret
and another password. Step by step, both do the same (`Disguise.alike_errand`), so they write the
same log (`Application.log_eq_of_disguise`): no log line depends on a token or on a secret, however
tasks go on and whatever fails.
-/

namespace SessionKeeper

namespace Disguise

variable {disguise : Disguise} {settings : Settings}

/-- The same is asked of a session, except for the names of tokens. -/
def Calls (disguise : Disguise) : Call → Call → Prop
  | .login old, other => other = .login (old.map disguise.text)
  | .applyLogin response, other =>
    ∃ reply, disguise.Replies response reply ∧ other = .applyLogin reply
  | call, other => other = call

/-- The same is asked of an application, except for the names of tokens. -/
def Errands (disguise : Disguise) : Errand → Errand → Prop
  | .call call, other => ∃ again, disguise.Calls call again ∧ other = .call again
  | errand, other => other = errand

/-- A token and its other name. -/
def Tokens (disguise : Disguise) (token other : String) : Prop := other = disguise.token token

/-- An attempt is accepted with the same response, or rejected with the same status. -/
inductive Verdicts (disguise : Disguise) : Verdict → Verdict → Prop
  | accepted (response : Response) : Verdicts disguise (.accepted response) (.accepted response)
  | rejected (token : String) (status : Int) :
    Verdicts disguise (.rejected token status) (.rejected (disguise.token token) status)

/-! ## Logging in and out -/

theorem alike_revoke (token : Text) (url : Option Text) :
    Routine.Alike (disguise.likeness settings) Eq (Session.revoke ⟨settings⟩ token url)
      (Session.revoke ⟨disguise.settings settings⟩ (disguise.text token) url) := by
  refine (Routine.Alike.done (alike_draftLogout token url)).bind ?_
  rintro asked other ⟨requests, isOther⟩
  refine requests.send.bind fun response reply answers => ?_
  cases answers with
  | login isLogin => exact absurd isLogin isOther
  | other _ response =>
    split
    · exact Routine.alike_throw (.same _)
    · exact alike_say _ _

theorem alike_clear : Routine.Alike (disguise.likeness settings) Eq Session.clear Session.clear :=
  (Routine.alike_modify fun _ _ states => States.hold states none).bind fun _ _ _ =>
    alike_notifyAll .logout

theorem alike_revokeAndClear (token : Text) (url : Option Text) :
    Routine.Alike (disguise.likeness settings) Eq (Session.revokeAndClear ⟨settings⟩ token url)
      (Session.revokeAndClear ⟨disguise.settings settings⟩ (disguise.text token) url) :=
  (alike_revoke token url).ensuring alike_clear

theorem alike_revokeStale (token : Text) :
    Routine.Alike (disguise.likeness settings) Eq (Session.revokeStale ⟨settings⟩ token)
      (Session.revokeStale ⟨disguise.settings settings⟩ (disguise.text token)) := by
  refine Routine.alike_get.bind fun shared again states => ?_
  rw [States.instanceUrl? states]
  refine (alike_revokeAndClear token _).tryCatch fun fault other faults => ?_
  rw [Fault.Alike.isSession faults, Fault.Alike.labelled faults]
  split
  · exact alike_say _ _
  · exact Routine.alike_throw faults

/-- Alike replies grant alike. -/
theorem Replies.outcome {response reply : Response} (replies : disguise.Replies response reply) :
    (disguise.likeness settings).Outcome
      (fun grant other => other.credential = disguise.credential grant.credential)
      response.classifyLogin reply.classifyLogin := by
  have granted := replies.classifyLogin
  cases first : response.classifyLogin with
  | error fault =>
    cases second : reply.classifyLogin with
    | error other =>
      rw [first, second] at granted
      rw [Except.error.inj granted]
      exact .error (.same fault)
    | ok grant =>
      rw [first, second] at granted
      cases granted
  | ok grant =>
    cases second : reply.classifyLogin with
    | error other =>
      rw [first, second] at granted
      cases granted
    | ok other =>
      rw [first, second] at granted
      exact .ok (Except.ok.inj granted)

theorem alike_install {response reply : Response} (replies : disguise.Replies response reply) :
    Routine.Alike (disguise.likeness settings) disguise.Tokens (Session.install response)
      (Session.install reply) := by
  refine (Routine.Alike.done replies.outcome).bind fun grant other credentials => ?_
  have token : other.accessToken = disguise.token grant.accessToken :=
    congrArg Credential.token credentials
  have url : other.instanceUrl = grant.instanceUrl := congrArg Credential.instanceUrl credentials
  have held : Routine.Alike (disguise.likeness settings) Eq
      (Routine.modify (·.hold (some grant.credential)))
      (Routine.modify (·.hold (some other.credential))) := by
    rw [credentials]
    exact Routine.alike_modify fun _ _ states => States.hold states (some grant.credential)
  have told : Routine.Alike (disguise.likeness settings) Eq
      (Listener.notifyAll (.login grant.accessToken grant.instanceUrl))
      (Listener.notifyAll (.login other.accessToken other.instanceUrl)) := by
    rw [token, url, ← text_ofString]
    exact alike_notifyAll (.login grant.accessToken grant.instanceUrl)
  exact (alike_say _ _).bind fun _ _ _ => held.bind fun _ _ _ => told.bind fun _ _ _ =>
    Routine.alike_pure token

theorem alike_relogin (old : Option Text) :
    Routine.Alike (disguise.likeness settings) disguise.Tokens (Session.relogin ⟨settings⟩ old)
      (Session.relogin ⟨disguise.settings settings⟩ (old.map disguise.text)) := by
  refine Routine.alike_get.bind fun shared again states => ?_
  rw [States.instanceUrl? states]
  have login : Routine.Alike (disguise.likeness settings) disguise.Tokens
      (do
        let request ← Routine.ofReported (settings.draftLogin shared.instanceUrl?)
        let response ← request.send
        Session.install response)
      (do
        let request ← Routine.ofReported
          ((disguise.settings settings).draftLogin shared.instanceUrl?)
        let response ← request.send
        Session.install response) := by
    refine (alike_ofReported (lines_draftLogin _) (alike_draftLogin shared.instanceUrl?)).bind ?_
    rintro asked other ⟨requests, isLogin⟩
    refine requests.send.bind fun response reply answers => ?_
    cases answers with
    | login _ replies => exact alike_install replies
    | other isOther => exact absurd isLogin isOther
  cases old with
  | none => exact login
  | some token => exact (alike_revokeStale token).bind fun _ _ _ => login

theorem alike_loginLocked (old : Option Text) :
    Routine.Alike (disguise.likeness settings) disguise.Tokens (Session.loginLocked ⟨settings⟩ old)
      (Session.loginLocked ⟨disguise.settings settings⟩ (old.map disguise.text)) := by
  refine Routine.alike_get.bind fun shared again states => ?_
  rw [States.token? states]
  cases current : shared.token? with
  | none => exact alike_relogin old
  | some held =>
    have same : old.map disguise.text = some ↑(disguise.token held) ↔ old = some ↑held := by
      cases old with
      | none => simp
      | some token => simpa using text_eq_iff
    simp only [Option.map_some]
    by_cases stale : old = some ↑held
    · rw [if_pos stale, if_pos (same.mpr stale)]
      exact alike_relogin old
    · rw [if_neg stale, if_neg (mt same.mp stale)]
      exact (alike_say _ _).bind fun _ _ _ => Routine.alike_pure rfl

theorem alike_login (old : Option Text) :
    Routine.Alike (disguise.likeness settings) disguise.Tokens (Session.login ⟨settings⟩ old)
      (Session.login ⟨disguise.settings settings⟩ (old.map disguise.text)) :=
  (alike_loginLocked old).withLock .session

theorem alike_logout :
    Routine.Alike (disguise.likeness settings) Eq (Session.logout ⟨settings⟩)
      (Session.logout ⟨disguise.settings settings⟩) := by
  refine Routine.Alike.withLock (Routine.alike_get.bind fun shared again states => ?_) .session
  rw [States.held states]
  cases shared.held with
  | none => exact Routine.alike_pure rfl
  | some credential =>
    have revoked := @alike_revokeAndClear disguise settings credential.token
      (some ↑credential.instanceUrl)
    rw [text_ofString] at revoked
    exact revoked

theorem alike_start :
    Routine.Alike (disguise.likeness settings) Eq (Session.start ⟨settings⟩)
      (Session.start ⟨disguise.settings settings⟩) := by
  refine Routine.alike_get.bind fun shared again states => ?_
  have old : again.token?.map Text.ofString =
      (shared.token?.map Text.ofString).map disguise.text := by
    rw [States.token? states, Option.map_map, Option.map_map]
    exact congrArg (Option.map · _) (funext fun token => (text_ofString token).symm)
  rw [old]
  exact (alike_login _).bind fun _ _ _ => Routine.alike_pure rfl

/-! ## Requests to the API -/

theorem alike_tokenFor (stale : Option String) :
    Routine.Alike (disguise.likeness settings) disguise.Tokens (Session.tokenFor ⟨settings⟩ stale)
      (Session.tokenFor ⟨disguise.settings settings⟩ (stale.map disguise.token)) := by
  cases stale with
  | some token =>
    have login := @alike_login disguise settings (some ↑token)
    rw [Option.map_some, text_ofString] at login
    exact (alike_say _ _).bind fun _ _ _ => login
  | none =>
    refine Routine.alike_get.bind fun shared again states => ?_
    rw [States.token? states]
    cases shared.token? with
    | none => exact alike_login none
    | some token => exact Routine.alike_pure rfl

theorem alike_tryCall (call : ApiCall) (stale : Option String) :
    Routine.Alike (disguise.likeness settings) disguise.Verdicts
      (Session.tryCall ⟨settings⟩ call stale)
      (Session.tryCall ⟨disguise.settings settings⟩ call (stale.map disguise.token)) := by
  refine (alike_tokenFor stale).bind ?_
  rintro token _ rfl
  refine Routine.alike_get.bind fun shared again states => ?_
  rw [States.instanceUrl? states]
  have timeouts : (disguise.likeness settings).Outcome Eq settings.timeout
      (disguise.settings settings).timeout := by
    change Likeness.Outcome _ _ _ settings.timeout
    cases settings.timeout with
    | error fault => exact .error (.same fault)
    | ok timeout => exact .ok rfl
  refine (Routine.Alike.done timeouts).bind ?_
  rintro timeout _ rfl
  refine (Requests.send (.api call _ token timeout)).bind fun response reply answers => ?_
  cases answers with
  | login isLogin => exact absurd isLogin api_ne_login
  | other _ response =>
    split
    · exact Routine.alike_pure (.rejected token _)
    · exact Routine.alike_pure (.accepted response)

theorem alike_callFrom (call : ApiCall) (retries : Nat) (stale : Option String) :
    Routine.Alike (disguise.likeness settings) Eq
      (Session.callFrom ⟨settings⟩ call retries stale)
      (Session.callFrom ⟨disguise.settings settings⟩ call retries (stale.map disguise.token)) := by
  induction retries generalizing stale with
  | zero =>
    refine (alike_tryCall call stale).attempt.bind fun outcome other outcomes => ?_
    cases outcomes with
    | error faults => exact Routine.alike_throw (Fault.Alike.ofAttempt faults _ _)
    | ok verdicts =>
      cases verdicts with
      | accepted response => exact Routine.alike_pure rfl
      | rejected token status => exact Routine.alike_throw (.expired _ _ _)
  | succ retries ih =>
    refine (alike_tryCall call stale).attempt.bind fun outcome other outcomes => ?_
    cases outcomes with
    | error faults =>
      simp only [Fault.Alike.isExpired faults]
      split
      · exact Routine.alike_yieldTurn.bind fun _ _ _ => ih stale
      · exact Routine.alike_throw (Fault.Alike.ofAttempt faults _ _)
    | ok verdicts =>
      cases verdicts with
      | accepted response => exact Routine.alike_pure rfl
      | rejected token status =>
        exact Routine.alike_yieldTurn.bind fun _ _ _ => ih (some token)

/-! ## Calls and errands -/

theorem alike_draft :
    Routine.Alike (disguise.likeness settings)
      (fun asked other => disguise.Requests settings asked other ∧ asked.operation = "Login")
      (Session.draftLogin ⟨settings⟩) (Session.draftLogin ⟨disguise.settings settings⟩) := by
  refine Routine.alike_get.bind fun shared again states => ?_
  rw [States.instanceUrl? states]
  exact alike_ofReported (lines_draftLogin _) (alike_draftLogin _)

theorem alike_changeListeners (name : Text) {change : Shared → Listener → Bool × Shared}
    (changes : ∀ listener, disguise.Unseen listener → ∀ first second,
      disguise.States settings first second →
        disguise.States settings (change first listener).2 (change second listener).2) :
    Routine.Alike (disguise.likeness settings) (fun _ _ => True)
      (Session.changeListeners name change) (Session.changeListeners name change) := by
  refine (alike_named name).bind ?_
  rintro listener _ ⟨rfl, unseen⟩
  refine .look fun shared again states => ?_
  exact .update (changes _ unseen) (.done (.ok trivial))

theorem alike_answer {call other : Call} (calls : disguise.Calls call other) :
    Routine.Alike (disguise.likeness settings) (fun _ _ => True)
      (Session.answer ⟨settings⟩ call) (Session.answer ⟨disguise.settings settings⟩ other) := by
  cases call with
  | login old =>
    obtain rfl := calls
    exact (alike_login old).map fun _ _ _ => trivial
  | applyLogin response =>
    obtain ⟨reply, replies, rfl⟩ := calls
    exact ((alike_install replies).withLock .session).map fun _ _ _ => trivial
  | logout =>
    obtain rfl := calls
    exact alike_logout.map fun _ _ _ => trivial
  | start =>
    obtain rfl := calls
    exact alike_start.map fun _ _ _ => trivial
  | stop =>
    obtain rfl := calls
    exact alike_logout.map fun _ _ _ => trivial
  | api call attempts =>
    obtain rfl := calls
    exact (alike_callFrom call _ none).map fun _ _ _ => trivial
  | enlist name =>
    obtain rfl := calls
    refine (alike_changeListeners name ?_).map fun _ _ _ => trivial
    exact fun _ unseen _ _ states => States.enlist states unseen
  | dismiss name =>
    obtain rfl := calls
    refine (alike_changeListeners name ?_).map fun _ _ _ => trivial
    exact fun _ _ _ _ states => States.dismiss states _
  | draftLogin =>
    obtain rfl := calls
    exact alike_draft.map fun _ _ _ => trivial
  | describe =>
    obtain rfl := calls
    exact Routine.alike_get.bind fun _ _ _ => Routine.alike_pure trivial

variable {closing : Except Fault Unit}

theorem alike_startUp :
    Routine.Alike (disguise.likeness settings) Eq (Application.start ⟨some ⟨settings⟩, closing⟩)
      (Application.start ⟨some ⟨disguise.settings settings⟩, closing⟩) := by
  refine Routine.Alike.withLock (Routine.alike_get.bind fun shared again states => ?_) .lifecycle
  rw [States.started states]
  split
  · refine alike_start.bind fun _ _ _ => ?_
    refine (Routine.alike_modify fun _ _ states =>
      States.setStarted states true).bind fun _ _ _ => ?_
    exact alike_say _ _
  · exact Routine.alike_pure rfl

theorem alike_stopSession :
    Routine.Alike (disguise.likeness settings) Eq
      (Application.stopSession ⟨some ⟨settings⟩, closing⟩)
      (Application.stopSession ⟨some ⟨disguise.settings settings⟩, closing⟩) := by
  refine alike_logout.tryCatch fun fault other faults => ?_
  rw [Fault.Alike.isSession faults]
  split
  · exact Routine.alike_modify fun _ _ states => States.reportError states _ faults
  · exact Routine.alike_throw faults

theorem alike_disconnect :
    Routine.Alike (disguise.likeness settings) Eq
      (Application.disconnect ⟨some ⟨settings⟩, closing⟩)
      (Application.disconnect ⟨some ⟨disguise.settings settings⟩, closing⟩) := by
  have close : Routine.Alike (disguise.likeness settings) Eq
      (Application.close ⟨some ⟨settings⟩, closing⟩)
      (Application.close ⟨some ⟨disguise.settings settings⟩, closing⟩) := by
    refine (Routine.alike_modify fun _ _ states =>
      States.setClosings states _ _).bind fun _ _ _ => ?_
    have waits : Routine.Alike (disguise.likeness settings) Eq
        (do Routine.yieldTurn; Routine.ofExcept closing)
        (do Routine.yieldTurn; Routine.ofExcept closing) := by
      refine Routine.alike_yieldTurn.bind fun _ _ _ => ?_
      cases closing with
      | ok value => exact Routine.alike_pure rfl
      | error raised => exact Routine.alike_throw (.same raised)
    refine waits.tryCatch fun raised other faults => ?_
    cases faults with
    | same =>
      simp only
      split
      · exact alike_say _ _
      · exact Routine.alike_throw (.same _)
    | expired token other status => exact Routine.alike_throw (.expired token other status)
  refine Routine.alike_get.bind fun shared again states => ?_
  rw [States.connected states]
  split
  · exact close.ensuring (Routine.alike_modify fun _ _ states =>
      States.setConnected states false)
  · exact Routine.alike_pure rfl

theorem alike_shutdown :
    Routine.Alike (disguise.likeness settings) Eq (Application.shutdown ⟨some ⟨settings⟩, closing⟩)
      (Application.shutdown ⟨some ⟨disguise.settings settings⟩, closing⟩) := by
  refine Routine.Alike.withLock ?_ .lifecycle
  refine (alike_say _ _).bind fun _ _ _ => ?_
  refine alike_stopSession.bind fun _ _ _ => ?_
  refine alike_disconnect.bind fun _ _ _ => ?_
  refine (Routine.alike_modify fun _ _ states =>
    States.setStarted states false).bind fun _ _ _ => ?_
  refine (alike_say _ _).bind fun _ _ _ => ?_
  refine Routine.alike_modify fun before again states => ?_
  rw [States.ledger states]
  exact States.report states before.ledger.report

variable (closing) in
/-- Errands that differ only in the names of tokens are done alike. -/
theorem alike_errand (errand other : Errand) (errands : disguise.Errands errand other) :
    Routine.Alike (disguise.likeness settings) (fun _ _ => True)
      (Application.perform ⟨some ⟨settings⟩, closing⟩ ⟨settings⟩ errand)
      (Application.perform ⟨some ⟨disguise.settings settings⟩, closing⟩
        ⟨disguise.settings settings⟩ other) := by
  cases errand with
  | call call =>
    obtain ⟨again, calls, rfl⟩ := errands
    exact alike_answer calls
  | start =>
    obtain rfl := errands
    exact alike_startUp.map fun _ _ _ => trivial
  | shutdown =>
    obtain rfl := errands
    exact alike_shutdown.map fun _ _ _ => trivial

end Disguise

namespace Application

/-- The course of errands of an application with a session for settings. -/
def course (settings : Settings) (closing : Except Fault Unit) (endpoint : Endpoint)
    (shared : Shared) (events : List (Event Errand)) : Course CallReply :=
  (Course.initial shared).follow endpoint
    (Application.perform ⟨some ⟨settings⟩, closing⟩ ⟨settings⟩) events

end Application

end SessionKeeper
