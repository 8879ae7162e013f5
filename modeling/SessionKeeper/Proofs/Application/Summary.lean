import SessionKeeper.Application.Context
import SessionKeeper.Proofs.Ledger.Bookkeeping
import SessionKeeper.Proofs.Session.Round

/-! # The report of a shutdown

A shutdown that ends without a fault closes with a report of the errors of the lifetime
(`Application.tallies_afterSteps`). Of each category it tells how many errors the ledger keeps,
which is how many there were as long as these are not more than the ledger has room for. A failed
logout is one more error; nothing else that a shutdown does has to do with the ledger
(`Ledger.untouched`).
-/

namespace SessionKeeper

namespace Ledger

variable {endpoint : Endpoint} {errors : List (Text × LedgerEntry)}

/-! ## What a report has of a list of errors -/

/-- What a report tells of the errors under one category. -/
def recordsOf (category : Text) (errors : List LedgerEntry) : Log :=
  ⟨.warning, "  " ++ category ++ s!": {min errors.length capacity} total"⟩ ::
    errors.getLast?.toList.map fun last => ⟨.warning, "    Last: " ++ last.message⟩

/-- The records of a report of errors: of each category, in the order of their first error. -/
def reportOf (errors : List (Text × LedgerEntry)) : Log :=
  if errors = [] then [⟨.info, "No errors recorded in current session"⟩]
  else ⟨.warning, "🚨 ERROR SUMMARY REPORT"⟩ ::
    (namesOf errors).flatMap fun category => recordsOf category (under category errors)

theorem namesOf_eq_nil_iff : namesOf errors = [] ↔ errors = [] := by
  refine ⟨fun nobody => ?_, fun nothing => by rw [nothing]; rfl⟩
  refine List.eq_nil_iff_forall_not_mem.mpr fun error member => ?_
  have named : error.1 ∈ namesOf errors := List.mem_eraseDups.mpr (List.mem_map_of_mem member)
  rw [nobody] at named
  exact List.not_mem_nil named

theorem records_totalLines (category : Text) (errors : List LedgerEntry) :
    (totalLines ⟨category, min errors.length capacity, errors.getLast?⟩).map
      (fun line => (⟨line.1, line.2⟩ : Record)) = recordsOf category errors := by
  unfold totalLines recordsOf
  cases errors.getLast? <;> rfl

theorem records_report {ledger : Ledger} (kept : ledger = .ofErrors errors) :
    ledger.report.map (fun line => (⟨line.1, line.2⟩ : Record)) = reportOf errors := by
  unfold report reportOf
  rw [kept, summary_ofErrors]
  split
  · rename_i nothing
    rw [if_pos (namesOf_eq_nil_iff.mp (List.map_eq_nil_iff.mp nothing))]
    rfl
  · rename_i totals something
    rw [if_neg fun nothing => something (by rw [namesOf_eq_nil_iff.mpr nothing]; rfl),
      List.map_cons, List.map_flatMap, List.flatMap_map]
    simp only [records_totalLines]

/-- Reports are kept in the log. -/
theorem isKept_of_mem_report {ledger : Ledger} {line : Level × Text}
    (member : line ∈ ledger.report) : line.1.isKept = true := by
  unfold report at member
  split at member
  · rw [List.mem_singleton.mp member]
    rfl
  · rcases List.mem_cons.mp member with rfl | told
    · rfl
    · obtain ⟨total, _, told⟩ := List.mem_flatMap.mp told
      unfold totalLines at told
      rcases List.mem_cons.mp told with rfl | last
      · rfl
      · split at last
        · rw [List.mem_singleton.mp last]
          rfl
        · cases last

/-! ## What leaves the ledger alone -/

/-- The ledger stays as it is. -/
def untouched : Routine.Manner where
  passes before after := after.ledger = before.ledger
  fails _ := True
  refl _ := rfl
  trans first second := second.trans first

theorem untouched_modify {change : Shared → Shared}
    (same : ∀ shared, (change shared).ledger = shared.ledger) :
    (Routine.modify change).Behaves endpoint untouched :=
  Routine.behaves_modify same

theorem untouched_say (level : Level) (message : Text) :
    (Routine.say level message).Behaves endpoint untouched :=
  untouched_modify fun _ => rfl

theorem untouched_throw {α : Type} (fault : Fault) :
    (throw fault : Routine α).Behaves endpoint untouched :=
  Routine.behaves_throw trivial

theorem untouched_clear : Session.clear.Behaves endpoint untouched := by
  have tells : (Listener.notifyAll .logout).Behaves endpoint untouched := by
    refine fun shared => ⟨?_, fun _ _ => trivial⟩
    obtain ⟨_, _, round⟩ := (Listener.circulated_notifyAll endpoint .logout shared).round
    exact round.ledger
  unfold Session.clear
  exact Routine.Behaves.bind (untouched_modify fun _ => rfl) fun _ => tells

theorem untouched_revoke (session : Session) (token : Text) (url : Option Text) :
    (session.revoke token url).Behaves endpoint untouched := by
  refine (Routine.behaves_ofExcept fun _ _ => trivial).bind fun request => ?_
  have sends : request.send.Behaves endpoint untouched := fun _ => ⟨rfl, fun _ _ => trivial⟩
  refine sends.bind fun response => ?_
  split
  · exact (untouched_throw _).bind fun _ => untouched_say _ _
  · exact untouched_say _ _

theorem untouched_stop (endpoint : Endpoint) (session : Session) :
    session.stop.Behaves endpoint untouched := by
  have body : session.logoutLocked.Behaves endpoint untouched := by
    refine Routine.behaves_get.bind fun shared => ?_
    cases shared.held with
    | none => exact Routine.behaves_pure ()
    | some credential => exact (untouched_revoke session _ _).ensuring untouched_clear
  exact body.withLock (fun _ => rfl) fun _ => rfl

theorem untouched_disconnect (endpoint : Endpoint) (application : Application) :
    application.disconnect.Behaves endpoint untouched := by
  have closes : application.close.Behaves endpoint untouched := by
    unfold Application.close
    refine Routine.Behaves.bind (untouched_modify fun _ => rfl) fun _ => ?_
    have waits : (do
        Routine.yieldTurn
        Routine.ofExcept application.closing : Routine Unit).Behaves endpoint untouched :=
      Routine.behaves_yieldTurn.bind fun _ => Routine.behaves_ofExcept fun _ _ => trivial
    refine waits.tryCatch fun raised _ => ?_
    simp only
    split
    · exact untouched_say _ _
    · exact untouched_throw _
  refine Routine.behaves_get.bind fun shared => ?_
  split
  · exact closes.ensuring (untouched_modify fun _ => rfl)
  · exact Routine.behaves_pure ()

end Ledger

namespace Shared

/-- Lines that are kept stand in the log one after the other. -/
theorem foldl_say {lines : List (Level × Text)} (kept : ∀ line ∈ lines, line.1.isKept = true)
    (shared : Shared) : lines.foldl (fun shared line => shared.say line.1 line.2) shared =
      { shared with log := shared.log ++ lines.map fun line => ⟨line.1, line.2⟩ } := by
  induction lines generalizing shared with
  | nil => rw [List.map_nil, List.append_nil, List.foldl_nil]
  | cons line rest ih =>
    rw [List.foldl_cons, ih fun other member => kept other (List.mem_cons_of_mem line member),
      say_eq, if_pos (kept line List.mem_cons_self), List.map_cons, List.append_assoc,
      List.singleton_append]

end Shared

namespace Application

variable {application : Application} {endpoint : Endpoint} {shared : Shared}
  {steps : List ErrorStep}

theorem run_reportErrors (endpoint : Endpoint) (shared : Shared) :
    reportErrors.run endpoint shared =
      ({ shared with log := shared.log ++
          shared.ledger.report.map fun line => ⟨line.1, line.2⟩ }, .ok ()) := by
  unfold reportErrors
  rw [Routine.run_modify, Shared.foldl_say fun _ => Ledger.isKept_of_mem_report]

/-- The fault of the logout at a shutdown, if it is recorded as an error of the lifetime. -/
def logoutFault (application : Application) (endpoint : Endpoint) (shared : Shared) :
    Option Fault :=
  application.session.bind fun session =>
    match (session.stop.run endpoint shared).2 with
    | .ok () => none
    | .error fault => if fault.isSession then some fault else none

/-- What is done about the errors at a logout: if it fails, that is reported. -/
def logoutSteps (application : Application) (endpoint : Endpoint) (shared : Shared) :
    List ErrorStep :=
  (application.logoutFault endpoint shared).toList.map fun fault =>
    .report (.ofFault "Error during logout at shutdown" fault)

/-- At a logout nothing is entered in the ledger but that it failed, if it did. -/
theorem ledger_stopSession (application : Application) (endpoint : Endpoint)
    (kept : shared.ledger = .ofErrors (ErrorStep.sinceReset steps)) :
    (application.stopSession.run endpoint shared).1.ledger = .ofErrors
      (ErrorStep.sinceReset (steps ++ application.logoutSteps endpoint shared)) := by
  unfold stopSession logoutSteps logoutFault
  cases application.session with
  | none => simpa using kept
  | some session =>
    simp only [Option.bind_some]
    have same := (Ledger.untouched_stop endpoint session shared).1
    generalize ran : session.stop.run endpoint shared = result at same
    obtain ⟨after, fault | value⟩ := result
    · rw [Routine.run_tryCatch_of_error endpoint ran]
      simp only
      split
      · have reported := Shared.takeStep_eq (same.trans kept)
          (.report (.ofFault "Error during logout at shutdown" fault))
        rw [Option.toList_some, List.map_singleton, ErrorStep.sinceReset_concat]
        exact congrArg Shared.ledger reported
      · simpa using same.trans kept
    · rw [Routine.run_tryCatch_of_ok endpoint ran]
      simpa using same.trans kept

/-- A shutdown has begun: it is alone and has said so. -/
def begun (shared : Shared) : Shared :=
  (shared.lock .lifecycle).say .info "🔻 Application context shutdown initiated"

/-- A shutdown that ends without a fault reports the errors, with the failure of its own logout. -/
theorem log_shutdown {after : Shared}
    (kept : shared.ledger = .ofErrors (ErrorStep.sinceReset steps))
    (ended : application.shutdown.run endpoint shared = (after, .ok ())) :
    let errors := ErrorStep.sinceReset (steps ++ application.logoutSteps endpoint (begun shared))
    after.ledger = .ofErrors errors ∧
      ∃ earlier, after.log = earlier ++ Ledger.reportOf errors := by
  intro errors
  obtain ⟨last, ran, rfl⟩ := Routine.run_withLock_eq_ok endpoint ended
  rw [Routine.run_bind_of_ok endpoint (Routine.run_say endpoint _ _ _)] at ran
  obtain ⟨off, _, stopped, ran⟩ := Routine.run_bind_eq_ok endpoint ran
  obtain ⟨closed, _, disconnected, ran⟩ := Routine.run_bind_eq_ok endpoint ran
  have recorded : off.ledger = .ofErrors errors := by
    rw [← congrArg (·.1.ledger) stopped]
    exact ledger_stopSession application endpoint kept
  have same := (Ledger.untouched_disconnect endpoint application off).1
  rw [disconnected] at same
  rw [Routine.run_bind_of_ok endpoint (Routine.run_modify endpoint _ _),
    Routine.run_bind_of_ok endpoint (Routine.run_say endpoint _ _ _),
    run_reportErrors] at ran
  obtain ⟨rfl, _⟩ := Prod.mk.inj ran
  exact ⟨same.trans recorded, _,
    congrArg (_ ++ ·) (Ledger.records_report (same.trans recorded))⟩

/-- **A summary counts errors up to a thousand.** Whatever errors were recorded or reported since
the ledger was last emptied, its summary has the categories that they have, and counts the errors of
each of them but never more than a thousand, so that the count is right exactly if there were no
more. The report of a shutdown tells the same counts, of the errors that it found and of the failure
of its own logout. -/
theorem tallies_afterSteps (shared : Shared) (fresh : shared.ledger = {})
    (steps : List ErrorStep) :
    let after := shared.afterSteps steps
    let errors := ErrorStep.sinceReset steps
    (∀ category, category ∈ after.ledger.summary.map (·.category) ↔
      Ledger.under category errors ≠ []) ∧
    (∀ total ∈ after.ledger.summary,
      total.count = min (Ledger.under total.category errors).length 1000 ∧
      (total.count = (Ledger.under total.category errors).length ↔
        (Ledger.under total.category errors).length ≤ 1000)) ∧
    ∀ (application : Application) (endpoint : Endpoint) (ended : Shared),
      application.shutdown.run endpoint after = (ended, .ok ()) →
        let told := ErrorStep.sinceReset (steps ++ application.logoutSteps endpoint (begun after))
        ended.ledger = .ofErrors told ∧ ∃ earlier, ended.log = earlier ++ Ledger.reportOf told := by
  intro after errors
  have kept : after.ledger = .ofErrors errors := Shared.ledger_afterSteps fresh steps
  refine ⟨fun category => ?_, fun total member => ?_, fun _ _ _ => log_shutdown kept⟩
  · rw [kept, Ledger.categories_ofErrors, Ledger.mem_namesOf_iff]
  · rw [kept, Ledger.summary_ofErrors] at member
    obtain ⟨category, _, rfl⟩ := List.mem_map.mp member
    refine ⟨rfl, ?_⟩
    simp only [Ledger.capacity]
    omega

/-- Of a thousand and one errors of one category the summary counts a thousand, and so does the
report of a shutdown. -/
theorem tallies_afterSteps_many :
    let shared : Shared := {}
    let steps : List ErrorStep := List.replicate 1001 (.record "network" "m" [])
    let application : Application := ⟨none, .ok ()⟩
    let endpoint : Endpoint := fun _ _ => .later (.ok ⟨200, none, .text ""⟩)
    let after := shared.afterSteps steps
    (Ledger.under "network" (ErrorStep.sinceReset steps)).length = 1001 ∧
    (∃ total ∈ after.ledger.summary, total.category = "network" ∧ total.count = 1000) ∧
    ∃ ended earlier, application.shutdown.run endpoint after = (ended, .ok ()) ∧
      ended.log = earlier ++ [⟨.warning, "🚨 ERROR SUMMARY REPORT"⟩,
        ⟨.warning, "  network: 1000 total"⟩, ⟨.warning, "    Last: m"⟩] := by
  intro shared steps application endpoint after
  have many : (Ledger.under "network" (ErrorStep.sinceReset steps)).length = 1001 := by
    decide +kernel
  obtain ⟨categories, counts, reports⟩ := tallies_afterSteps shared rfl steps
  refine ⟨many, ?_, ?_⟩
  · have named : Ledger.under "network" (ErrorStep.sinceReset steps) ≠ [] :=
      List.ne_nil_of_length_pos (by omega)
    obtain ⟨total, member, own⟩ := List.mem_map.mp ((categories "network").mpr named)
    refine ⟨total, member, own, ?_⟩
    have counted := (counts total member).1
    rw [own, many] at counted
    exact counted
  · obtain ⟨ended, ran⟩ : ∃ ended, application.shutdown.run endpoint after = (ended, .ok ()) := by
      rw [show after = _ from Shared.afterSteps_eq rfl steps]
      exact ⟨_, rfl⟩
    obtain ⟨_, earlier, log⟩ := reports application endpoint ended ran
    have told : Ledger.reportOf (ErrorStep.sinceReset (steps ++ [])) =
        [⟨.warning, "🚨 ERROR SUMMARY REPORT"⟩, ⟨.warning, "  network: 1000 total"⟩,
          ⟨.warning, "    Last: m"⟩] := by decide +kernel
    exact ⟨ended, earlier, ran, log.trans (congrArg (earlier ++ ·) told)⟩

end Application

end SessionKeeper
