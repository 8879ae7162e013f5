import SessionKeeper.Proofs.Listener.Roster
import SessionKeeper.Proofs.Session.Draft
import SessionKeeper.Proofs.Task.Likeness
import SessionKeeper.Session.Call

/-! # Runs with other secrets

A disguise gives tokens other names and settings other secrets (`Disguise`). What is shared in a run
in disguise differs from what is shared in the run without in just these names and secrets: what is
held has the other name, and so have the tokens in requests, replies and occasions, while the log
and the ledger are the same (`Disguise.States`). Listeners do the same, whatever tokens are called
(`Disguise.Unseen`). This is a likeness of runs (`Disguise.likeness`), which drafts, exchanges and
rounds of telling keep to.
-/

namespace SessionKeeper

/-- Other names for tokens, no two of which get the same, and other secrets for settings. -/
structure Disguise where
  token : String → String
  injective : Function.Injective token
  clientSecret : String
  password : String

namespace Disguise

variable (disguise : Disguise)

def settings (settings : Settings) : Settings :=
  { settings with clientSecret := disguise.clientSecret, password := disguise.password }

/-- The other name of a text that may be a token. A text with a surrogate is none. -/
def text (text : Text) : Text :=
  match text.toString? with
  | some token => disguise.token token
  | none => text

def credential (credential : Credential) : Credential :=
  { credential with token := disguise.token credential.token }

def occasion : Occasion → Occasion
  | .login token instanceUrl => .login (disguise.text token) instanceUrl
  | .logout => .logout

def notice (notice : Notice) : Notice :=
  { notice with occasion := disguise.occasion notice.occasion }

/-- The listener does the same, whatever tokens are called. -/
def Unseen (listener : Listener) : Prop :=
  ∀ occasion earlier,
    listener.moves (disguise.occasion occasion) (earlier.map disguise.notice) =
      listener.moves occasion earlier

/-- Requests that are drafted for the same, with other secrets and another name of the token. -/
inductive Requests (settings : Settings) : Request → Request → Prop
  | login (url : Option Text) (first second : Request)
      (draft : (settings.draftLogin url).outcome = .ok first)
      (other : ((disguise.settings settings).draftLogin url).outcome = .ok second) :
    Requests settings first second
  | logout (token : Text) (url : Option Text) (first second : Request)
      (draft : settings.draftLogout token url = .ok first)
      (other : (disguise.settings settings).draftLogout (disguise.text token) url = .ok second) :
    Requests settings first second
  | api (call : ApiCall) (base : Text) (token : String) (timeout : Binary64) :
    Requests settings (call.request base token timeout)
      (call.request base (disguise.token token) timeout)

/-- Replies to a login that are the same, except for the name of the token that they grant. -/
structure Replies (first second : Response) : Prop where
  status : second.status = first.status
  reason : second.reason = first.reason
  granted : first.status = Response.okStatus →
    (Grant.ofBody second.body).map (·.credential) =
      (Grant.ofBody first.body).map fun grant => disguise.credential grant.credential
  refused : first.status ≠ Response.okStatus → second.body = first.body

/-- Answers that are the same, except for the token that a reply to a login grants. -/
inductive Answers (request : Request) : Answer → Answer → Prop
  | failed (fault : Fault) : Answers request (.error fault) (.error fault)
  | login {first second : Response} (asked : request.operation = "Login")
      (replies : disguise.Replies first second) : Answers request (.ok first) (.ok second)
  | other (asked : request.operation ≠ "Login") (response : Response) :
    Answers request (.ok response) (.ok response)

/-- What is shared in both runs. -/
structure States (settings : Settings) (first second : Shared) : Prop where
  held : second.held = first.held.map disguise.credential
  listeners : second.listeners = first.listeners
  roster : second.roster = first.roster
  registered : ∀ listener ∈ first.listeners.members, disguise.Unseen listener
  known : ∀ listener ∈ first.roster, disguise.Unseen listener
  locked : second.locked = first.locked
  started : second.started = first.started
  connected : second.connected = first.connected
  sent : List.Forall₂ (disguise.Requests settings) first.sent second.sent
  log : second.log = first.log
  ledger : second.ledger = first.ledger
  notices : second.notices = first.notices.map disguise.notice

end Disguise

/-- The faults are the same, except for the token of an expired session. -/
inductive Fault.Alike : Fault → Fault → Prop
  | same (fault : Fault) : Alike fault fault
  | expired (token other : Option Text) (status : Int) :
    Alike (.expired token status) (.expired other status)

namespace Fault.Alike

variable {first second : Fault} (alike : first.Alike second)

include alike

theorem labelled : second.labelled = first.labelled := by
  cases alike <;> rfl

theorem isSession : second.isSession = first.isSession := by
  cases alike <;> rfl

theorem isFailure : second.isFailure = first.isFailure := by
  cases alike <;> rfl

theorem isExpired : second.isExpired = first.isExpired := by
  cases alike <;> rfl

theorem awaited : first.awaited.Alike second.awaited := by
  cases alike with
  | same => exact .same _
  | expired token other status => exact .expired token other status

theorem ofAttempt (stale other : Option String) :
    (first.ofAttempt stale).Alike (second.ofAttempt other) := by
  cases alike with
  | same =>
    unfold Fault.ofAttempt
    split
    · exact .expired _ _ _
    · exact .same _
  | expired token other status => exact .expired token other status

/-- What is reported of a fault leaves its token out. -/
theorem reportError (shared : Shared) (message : Text) :
    shared.reportError (.ofFault message second) = shared.reportError (.ofFault message first) := by
  cases alike <;> rfl

end Fault.Alike

namespace Disguise

variable {disguise : Disguise} {settings : Settings} {first second : Shared}

/-! ## Names -/

@[simp] theorem text_ofString (token : String) :
    disguise.text ↑token = ↑(disguise.token token) := by
  simp only [text, Text.toString?_ofString]

/-- Names differ where texts do. -/
theorem text_eq_iff {given : Text} {token : String} :
    disguise.text given = ↑(disguise.token token) ↔ given = ↑token := by
  constructor
  · intro same
    unfold text at same
    cases spelled : given.toString? with
    | some string =>
      simp only [spelled, Text.ofString_inj] at same
      rw [Text.ofString_of_toString? spelled, disguise.injective same]
    | none =>
      simp only [spelled] at same
      rw [same, Text.toString?_ofString] at spelled
      cases spelled
  · rintro rfl
    exact text_ofString token

/-! ## Requests and answers -/

theorem logout_ne_login : Text.ofString "Logout" ≠ "Login" := by decide +kernel

theorem api_ne_login : Text.ofString "API" ≠ "Login" := by decide +kernel

theorem Requests.operation {asked other : Request}
    (alike : disguise.Requests settings asked other) : other.operation = asked.operation := by
  cases alike with
  | login url _ _ draft again =>
    obtain ⟨_, _, rfl⟩ := Settings.eq_of_draftLogin draft
    obtain ⟨_, _, rfl⟩ := Settings.eq_of_draftLogin again
    rfl
  | logout token url _ _ draft again =>
    obtain ⟨_, _, _, _, rfl⟩ := Settings.eq_of_draftLogout draft
    obtain ⟨_, _, _, _, rfl⟩ := Settings.eq_of_draftLogout again
    rfl
  | api call base token timeout => rfl

/-- Faults of exchanges tell nothing but what the request is called. -/
theorem Requests.wrap {asked other : Request} (alike : disguise.Requests settings asked other)
    (fault : Fault) : other.wrap fault = asked.wrap fault := by
  simp only [Request.wrap, Request.failureOf, alike.operation]

theorem Replies.classifyLogin {reply other : Response} (alike : disguise.Replies reply other) :
    other.classifyLogin.map (·.credential) =
      reply.classifyLogin.map fun grant => disguise.credential grant.credential := by
  unfold Response.classifyLogin
  rw [alike.status]
  by_cases success : reply.status = Response.okStatus
  · have granted := alike.granted success
    simp only [success, if_true]
    cases first : Grant.ofBody reply.body with
    | error problem =>
      cases second : Grant.ofBody other.body with
      | error again =>
        rw [first, second] at granted
        rw [Except.error.inj granted]
        rfl
      | ok grant =>
        rw [first, second] at granted
        cases granted
    | ok grant =>
      cases second : Grant.ofBody other.body with
      | error again =>
        rw [first, second] at granted
        cases granted
      | ok again =>
        rw [first, second] at granted
        exact congrArg Except.ok (Except.ok.inj granted)
  · simp only [success, if_false, alike.refused success, alike.reason]
    split
    · cases LoginRefusal.ofBody reply.body <;> rfl
    · rfl

/-! ## The likeness of the runs -/

variable (disguise settings) in
/-- A run in disguise, besides the one without. -/
def likeness : Likeness where
  shared := disguise.States settings
  request := disguise.Requests settings
  answer := disguise.Answers
  fault := Fault.Alike
  same_fault := .same
  locked := States.locked
  lock taken states := { states with locked := congrArg (taken :: ·) states.locked }
  unlock given states := { states with locked := congrArg (·.erase given) states.locked }
  sent := States.sent
  send states requests :=
    { states with sent := List.rel_append states.sent (.cons requests .nil) }
  broken _ fault := .failed fault

theorem Requests.settle {asked other : Request} {answer again : Answer}
    (alike : disguise.Requests settings asked other)
    (answers : disguise.Answers asked answer again) :
    (disguise.likeness settings).Outcome
      (fun response reply => disguise.Answers asked (.ok response) (.ok reply))
      (asked.settle answer) (other.settle again) := by
  cases answers with
  | failed fault =>
    simp only [Request.settle, alike.wrap]
    exact .error (.same _)
  | login isLogin replies =>
    refine .ok (.login isLogin ⟨replies.status, ?_, replies.granted, replies.refused⟩)
    rw [replies.reason]
  | other isOther response => exact .ok (.other isOther _)

theorem Requests.send {asked other : Request} (alike : disguise.Requests settings asked other) :
    Routine.Alike (disguise.likeness settings)
      (fun response reply => disguise.Answers asked (.ok response) (.ok reply))
      asked.send other.send :=
  .exchange alike fun _ _ answers => .done (alike.settle answers)

theorem alike_draftLogin (url : Option Text) :
    (disguise.likeness settings).Outcome
      (fun asked other => disguise.Requests settings asked other ∧ asked.operation = "Login")
      (settings.draftLogin url).outcome ((disguise.settings settings).draftLogin url).outcome := by
  have draft := settings.outcome_draftLogin url
  have other := (disguise.settings settings).outcome_draftLogin url
  rw [show (disguise.settings settings).timeout = settings.timeout from rfl] at other
  cases usable : settings.timeout with
  | error fault =>
    rw [draft, other, usable]
    exact .error (.same fault)
  | ok timeout =>
    rw [usable] at draft other
    rw [draft, other]
    exact .ok ⟨.login url _ _ draft other, rfl⟩

/-- The line of a login does not tell the secrets. -/
theorem lines_draftLogin (url : Option Text) :
    ((disguise.settings settings).draftLogin url).lines = (settings.draftLogin url).lines := by
  unfold Settings.draftLogin
  simp only [bind, Reported.bind, Reported.say]
  rw [show (disguise.settings settings).timeout = settings.timeout from rfl]
  cases settings.timeout <;> rfl

theorem alike_draftLogout (token : Text) (url : Option Text) :
    (disguise.likeness settings).Outcome
      (fun asked other => disguise.Requests settings asked other ∧ asked.operation ≠ "Login")
      (settings.draftLogout token url)
      ((disguise.settings settings).draftLogout (disguise.text token) url) := by
  cases spelled : token.toString? with
  | some string =>
    obtain rfl := Text.ofString_of_toString? spelled
    have draft := settings.draftLogout_ofString string url
    have other := (disguise.settings settings).draftLogout_ofString (disguise.token string) url
    rw [show (disguise.settings settings).timeout = settings.timeout from rfl,
      ← text_ofString] at other
    cases usable : settings.timeout with
    | error fault =>
      rw [draft, other, usable]
      exact .error (.same fault)
    | ok timeout =>
      rw [usable] at draft other
      rw [draft, other]
      exact .ok ⟨.logout ↑string url _ _ draft other, logout_ne_login⟩
  | none =>
    have same : disguise.text token = token := by simp only [text, spelled]
    have other : (disguise.settings settings).draftLogout (disguise.text token) url =
        settings.draftLogout token url := by
      rw [same]
      rfl
    cases draft : settings.draftLogout token url with
    | error fault =>
      rw [other, draft]
      exact .error (.same fault)
    | ok request =>
      obtain ⟨_, _, _, _, operation⟩ := Settings.eq_of_draftLogout draft
      rw [other, draft]
      refine .ok ⟨.logout token url _ _ draft (other.trans draft), ?_⟩
      rw [operation]
      exact logout_ne_login

/-! ## Changes of what is shared -/

namespace States

variable (states : disguise.States settings first second)

include states

theorem token? : second.token? = first.token?.map disguise.token := by
  simp only [Shared.token?, states.held, Option.map_map]
  rfl

theorem instanceUrl? : second.instanceUrl? = first.instanceUrl? := by
  simp only [Shared.instanceUrl?, states.held, Option.map_map]
  rfl

theorem say (level : Level) (message : Text) :
    disguise.States settings (first.say level message) (second.say level message) :=
  { states with log := congrArg (·.write level message) states.log }

/-- Lines are written in both runs. -/
theorem report (lines : List (Level × Text)) :
    disguise.States settings
      (lines.foldl (fun shared line => shared.say line.1 line.2) first)
      (lines.foldl (fun shared line => shared.say line.1 line.2) second) := by
  induction lines generalizing first second with
  | nil => exact states
  | cons line rest ih => exact ih (states.say line.1 line.2)

theorem reportError (message : Text) {fault other : Fault} (faults : fault.Alike other) :
    disguise.States settings (first.reportError (.ofFault message fault))
      (second.reportError (.ofFault message other)) := by
  rw [faults.reportError]
  have said := states.say (ErrorNotice.ofFault message fault).level
    (ErrorNotice.ofFault message fault).line
  exact { said with ledger := congrArg (·.enter (.ofFault message fault)) states.ledger }

theorem setStarted (started : Bool) :
    disguise.States settings { first with started := started } { second with started := started } :=
  { states with started := rfl }

theorem setConnected (connected : Bool) :
    disguise.States settings { first with connected := connected }
      { second with connected := connected } :=
  { states with connected := rfl }

theorem setClosings (closings other : Nat) :
    disguise.States settings { first with closings := closings }
      { second with closings := other } :=
  { states with }

theorem hold (held : Option Credential) :
    disguise.States settings (first.hold held) (second.hold (held.map disguise.credential)) :=
  { states with held := rfl }

theorem tell (notice : Notice) :
    disguise.States settings (first.tell notice) (second.tell (disguise.notice notice)) := by
  refine { states with notices := ?_ }
  simp only [Shared.tell, states.notices, List.map_append, List.map_singleton]

theorem enlist {listener : Listener} (unseen : disguise.Unseen listener) :
    disguise.States settings (first.enlist listener).2 (second.enlist listener).2 := by
  refine { states with listeners := ?_, registered := fun other member => ?_ }
  · simp only [Shared.enlist, states.listeners]
  · rw [Shared.members_enlist] at member
    split at member
    · exact states.registered other member
    · rcases List.mem_append.mp member with earlier | added
      · exact states.registered other earlier
      · exact List.mem_singleton.mp added ▸ unseen

theorem dismiss (listener : Listener) :
    disguise.States settings (first.dismiss listener).2 (second.dismiss listener).2 := by
  refine { states with listeners := ?_, registered := fun other member => ?_ }
  · simp only [Shared.dismiss, states.listeners]
  · exact states.registered other ((Shared.members_dismiss first listener).subset member)

end States

/-! ## Telling listeners -/

section Routines

variable {α : Type} {values : α → α → Prop}

theorem alike_say (level : Level) (message : Text) :
    Routine.Alike (disguise.likeness settings) Eq (Routine.say level message)
      (Routine.say level message) :=
  Routine.alike_modify fun _ _ states => states.say level message

theorem alike_ofReported {report other : Reported α} (lines : other.lines = report.lines)
    (outcomes : (disguise.likeness settings).Outcome values report.outcome other.outcome) :
    Routine.Alike (disguise.likeness settings) values (Routine.ofReported report)
      (Routine.ofReported other) := by
  refine .update (fun before again states => ?_) (.done outcomes)
  rw [lines]
  exact States.report states report.lines

/-- Both runs find the same listener under a name. -/
theorem alike_named (name : Text) :
    Routine.Alike (disguise.likeness settings)
      (fun listener other => other = listener ∧ disguise.Unseen listener)
      (Listener.named name) (Listener.named name) := by
  refine Routine.alike_get.bind fun shared again states => ?_
  have same : again.listener? name = shared.listener? name := by
    simp only [Shared.listener?, States.roster states]
  rw [same]
  cases known : shared.listener? name with
  | none => exact Routine.alike_throw (.same _)
  | some listener =>
    exact Routine.alike_pure ⟨rfl, States.known states listener (List.mem_of_find?_eq_some known)⟩

theorem alike_perform (listener : Listener) (occasion : Occasion) (move : Move) :
    Routine.Alike (disguise.likeness settings) Eq (listener.perform occasion move)
      (listener.perform (disguise.occasion occasion) move) := by
  cases move with
  | pause => exact Routine.alike_yieldTurn
  | note => exact Routine.alike_modify fun _ _ (states : disguise.States ..) => { states with }
  | say level message => exact alike_say level message
  | enlist name =>
    refine (alike_named name).bind ?_
    rintro other _ ⟨rfl, unseen⟩
    exact Routine.alike_modify fun _ _ states => States.enlist states unseen
  | dismiss name =>
    refine (alike_named name).bind ?_
    rintro other _ ⟨rfl, _⟩
    exact Routine.alike_modify fun _ _ states => States.dismiss states _
  | fail fault => exact Routine.alike_throw (.same fault)

theorem alike_performAll (listener : Listener) (occasion : Occasion) (moves : List Move) :
    Routine.Alike (disguise.likeness settings) Eq (listener.performAll occasion moves)
      (listener.performAll (disguise.occasion occasion) moves) := by
  induction moves with
  | nil => exact Routine.alike_pure rfl
  | cons move rest ih => exact (alike_perform listener occasion move).bind fun _ _ _ => ih

theorem alike_notify {listener : Listener} (unseen : disguise.Unseen listener)
    (occasion : Occasion) :
    Routine.Alike (disguise.likeness settings) Eq (listener.notify occasion)
      (listener.notify (disguise.occasion occasion)) := by
  have method : (disguise.occasion occasion).method = occasion.method := by
    cases occasion <;> rfl
  have handled {fault other : Fault} (faults : fault.Alike other) :
      Routine.Alike (disguise.likeness settings) Eq
        (if fault.isFailure then Routine.say .warning (listener.failureLine occasion fault)
          else throw fault)
        (if other.isFailure then
            Routine.say .warning (listener.failureLine (disguise.occasion occasion) other)
          else throw other) := by
    simp only [faults.isFailure, Listener.failureLine, faults.labelled, method]
    split
    · exact alike_say _ _
    · exact Routine.alike_throw faults
  refine Routine.alike_get.bind fun shared again states => ?_
  refine (Routine.alike_modify fun _ _ telling =>
    States.tell telling ⟨listener.name, occasion⟩).bind fun _ _ _ => ?_
  rw [States.notices states, unseen]
  refine (alike_performAll listener occasion _).tryCatch fun raised other faults => ?_
  simp only
  split
  · exact handled (Fault.Alike.awaited faults)
  · exact handled faults

theorem alike_notifyAll (occasion : Occasion) :
    Routine.Alike (disguise.likeness settings) Eq (Listener.notifyAll occasion)
      (Listener.notifyAll (disguise.occasion occasion)) := by
  have each (listeners : List Listener)
      (unseen : ∀ listener ∈ listeners, disguise.Unseen listener) :
      Routine.Alike (disguise.likeness settings) Eq (Listener.notifyEach occasion listeners)
        (Listener.notifyEach (disguise.occasion occasion) listeners) := by
    induction listeners with
    | nil => exact Routine.alike_pure rfl
    | cons listener rest ih =>
      refine (alike_notify (unseen listener List.mem_cons_self) occasion).bind fun _ _ _ => ?_
      exact ih fun other member => unseen other (List.mem_cons_of_mem _ member)
  refine Routine.alike_get.bind fun shared again states => ?_
  rw [States.listeners states]
  exact each _ (States.registered states)

end Routines

end Disguise

end SessionKeeper
