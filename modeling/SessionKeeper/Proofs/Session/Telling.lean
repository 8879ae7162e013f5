import SessionKeeper.Proofs.Task.Assertion
import SessionKeeper.Session.Exchange
import SessionKeeper.Session.Notify

/-! # Exchanges and rounds of telling, among other tasks

What an exchange and a round of telling the listeners come to when other tasks go on meanwhile. An
exchange ends with the answer of the endpoint or is broken off (`Request.Exchanged`). A round tells
the listeners that were registered at its beginning, each in its turn (`Listener.Told`); it stops
early only where a listener or a broken off wait demands to stop (`Listener.Halts`, `World.Halted`).
-/

namespace SessionKeeper

variable {regime : Regime} {number : Nat} {world : World}

/-- Some wait may be broken off by a demand to stop. -/
def Regime.Halts (regime : Regime) : Prop := ∃ fault, regime.breaks fault ∧ fault.isFailure = false

/-- The wait of a task has just been broken off by a demand to stop. -/
def World.Halted (regime : Regime) (number : Nat) (world : World) : Prop :=
  ∃ fault before, regime.breaks fault ∧ fault.isFailure = false ∧
    world = World.stops before number fault

theorem World.Halted.halts (halted : world.Halted regime number) : regime.Halts := by
  obtain ⟨fault, _, breaks, demand, _⟩ := halted
  exact ⟨fault, breaks, demand⟩

namespace Request

/-- What sending a request in a world and waiting for its answer comes to. -/
inductive Exchanged (regime : Regime) (number : Nat) (request : Request) (world : World) :
    Except Fault Response → World → Prop
  | answered (answer : Answer)
      (delivered : (regime.endpoint world.shared.sent request).answer = answer) (later : World)
      (meanwhile : (world.sends number request).Meanwhile number later) :
      Exchanged regime number request world (request.settle answer)
        (later.hears number request answer)
  | brokenOff (fault : Fault) (breaks : regime.breaks fault) (later : World)
      (meanwhile : (world.sends number request).Meanwhile number later) :
      Exchanged regime number request world (.error (request.wrap fault)) (later.stops number fault)

theorem ensures_send {request : Request} (entitles : world.Entitles number (.sent request)) :
    request.send.Ensures regime number (request.Exchanged regime number world) world := by
  unfold send Routine.Ensures
  refine ⟨⟨rfl, rfl, entitles, by simp⟩, ?_⟩
  cases delivery : regime.endpoint world.shared.sent request with
  | atOnce answer => exact .answered answer (by rw [delivery]; rfl) _ .refl
  | later answer =>
    intro later meanwhile
    refine ⟨.answered answer (by rw [delivery]; rfl) later meanwhile, fun fault breaks => ?_⟩
    exact .brokenOff fault breaks later meanwhile

/-- A response is the answer of the endpoint. -/
theorem Exchanged.of_ok {request : Request} {outcome : Except Fault Response} {response : Response}
    {after : World} (exchanged : request.Exchanged regime number world outcome after)
    (success : outcome = .ok response) :
    ∃ answer later, (regime.endpoint world.shared.sent request).answer = answer ∧
      request.settle answer = .ok response ∧ (world.sends number request).Meanwhile number later ∧
      after = later.hears number request answer := by
  cases exchanged with
  | answered answer delivered later meanwhile =>
    exact ⟨answer, later, delivered, success, meanwhile, rfl⟩
  | brokenOff fault breaks later meanwhile => cases success

theorem Exchanged.grips {request : Request} {outcome : Except Fault Response} {after : World}
    (exchanged : request.Exchanged regime number world outcome after) :
    world.Grips number after := by
  have sending : world.Grips number (world.sends number request) :=
    World.grips_did (by simp) (by simp)
  cases exchanged with
  | answered answer delivered later meanwhile =>
    exact (sending.trans meanwhile.calmly.grips).trans (World.grips_did (by simp) (by simp))
  | brokenOff fault breaks later meanwhile =>
    exact (sending.trans meanwhile.calmly.grips).trans (World.grips_did (by simp) (by simp))

theorem Exchanged.suffix {request : Request} {outcome : Except Fault Response} {after : World}
    (exchanged : request.Exchanged regime number world outcome after) :
    world.past <:+ after.past := by
  cases exchanged with
  | answered answer delivered later meanwhile =>
    exact (List.suffix_cons _ _).trans (meanwhile.leads.suffix.trans (List.suffix_cons _ _))
  | brokenOff fault breaks later meanwhile =>
    exact (List.suffix_cons _ _).trans (meanwhile.leads.suffix.trans (List.suffix_cons _ _))

end Request

namespace Listener

/-- Some callback may fail with a demand to stop. -/
def Halts (listener : Listener) : Prop :=
  ∃ occasion earlier fault, Move.fail fault ∈ listener.moves occasion earlier ∧
    fault.isFailure = false

/-- What telling listeners of an occasion, in a world, comes to. -/
inductive Told (regime : Regime) (number : Nat) (occasion : Occasion) :
    List Listener → World → Except Fault Unit → World → Prop
  | nobody (world : World) : Told regime number occasion [] world (.ok ()) world
  | next {listener : Listener} {rest : List Listener} {world between after : World}
      {outcome : Except Fault Unit}
      (calmly : (world.tells number ⟨listener.name, occasion⟩).Calmly number between)
      (others : Told regime number occasion rest between outcome after) :
      Told regime number occasion (listener :: rest) world outcome after
  | stopped {listener : Listener} {rest : List Listener} {world after : World} {fault : Fault}
      (calmly : (world.tells number ⟨listener.name, occasion⟩).Calmly number after)
      (halts : listener.Halts ∨ after.Halted regime number) (demand : fault.isFailure = false) :
      Told regime number occasion (listener :: rest) world (.error fault) after

theorem Told.grips {occasion : Occasion} {listeners : List Listener} {outcome : Except Fault Unit}
    {after : World} (told : Told regime number occasion listeners world outcome after) :
    world.Grips number after := by
  have telling {world : World} {notice : Notice} : world.Grips number (world.tells number notice) :=
    World.grips_did (by simp) (by simp)
  induction told with
  | nobody world => exact .refl
  | next calmly others ih => exact (telling.trans calmly.grips).trans ih
  | stopped calmly halts => exact telling.trans calmly.grips

/-! ## What a callback does -/

theorem ensures_named {name : Text} {post : Except Fault Listener → World → Prop}
    (found : ∀ listener ∈ world.shared.roster, post (.ok listener) world)
    (unknown : post (.error (.foreign (.unknownListener name))) world) :
    (named name).Ensures regime number post world := by
  unfold named
  rw [Routine.ensures_bind, Routine.ensures_get]
  cases known : world.shared.listener? name with
  | none =>
    simp only [known]
    exact unknown
  | some listener =>
    simp only [known]
    exact found listener (List.mem_of_find?_eq_some known)

/-- A part of a callback is quiet; if it ends with a demand to stop, that is its own or that of a
wait which was just broken off. -/
private def Performed (regime : Regime) (number : Nat) (moves : List Move) (world : World)
    (outcome : Except Fault Unit) (after : World) : Prop :=
  world.Calmly number after ∧
    ∀ fault, outcome = .error fault → fault.isFailure = false →
      Move.fail fault ∈ moves ∨ after.Halted regime number

theorem ensures_perform (listener : Listener) (occasion : Occasion) (move : Move) :
    (listener.perform occasion move).Ensures regime number
      (Performed regime number [move] world) world := by
  have modified {change : Shared → Shared} (harmless : Shared.Harmless change world.shared) :
      (Routine.modify change).Ensures regime number (Performed regime number [move] world)
        world := by
    apply (Routine.ensures_modify harmless).mono
    rintro _ after ⟨rfl, calmly⟩
    exact ⟨calmly, by simp⟩
  have unknown (name : Text) : Performed regime number [move] world
      (.error (.foreign (.unknownListener name))) world := by
    refine ⟨.refl, ?_⟩
    rintro _ ⟨rfl⟩ demand
    cases demand
  cases move with
  | pause =>
    apply Routine.ensures_yieldTurn.mono
    rintro outcome after ⟨calmly, stopped⟩
    refine ⟨calmly, fun fault failed demand => .inr ?_⟩
    obtain ⟨breaks, before, same⟩ := stopped fault failed
    exact ⟨fault, before, breaks, demand, same⟩
  | note => exact modified (Shared.harmless_note _ _ _)
  | say level message => exact modified (Shared.harmless_say _ _ _)
  | enlist name =>
    unfold perform
    rw [Routine.ensures_bind]
    exact ensures_named (fun other known => modified (Shared.harmless_enlist known)) (unknown name)
  | dismiss name =>
    unfold perform
    rw [Routine.ensures_bind]
    exact ensures_named (fun other known => modified (Shared.harmless_dismiss known)) (unknown name)
  | fail fault =>
    refine ⟨.refl, ?_⟩
    rintro _ ⟨rfl⟩ _
    exact .inl List.mem_cons_self

theorem ensures_performAll (listener : Listener) (occasion : Occasion) (moves : List Move) :
    (listener.performAll occasion moves).Ensures regime number
      (Performed regime number moves world) world := by
  induction moves generalizing world with
  | nil => exact ⟨.refl, by simp⟩
  | cons move rest ih =>
    unfold performAll
    rw [Routine.ensures_bind]
    apply (ensures_perform listener occasion move).mono
    rintro (fault | ⟨⟨⟩⟩) between ⟨first, own⟩
    · refine ⟨first, fun raised failed demand => ?_⟩
      obtain rfl : fault = raised := by simpa using failed
      refine (own fault rfl demand).imp_left fun member => ?_
      exact List.mem_cons.mpr (.inl (List.mem_singleton.mp member))
    · apply ih.mono
      rintro outcome after ⟨calmly, others⟩
      refine ⟨first.trans calmly, fun fault failed demand => ?_⟩
      exact (others fault failed demand).imp_left (List.mem_cons_of_mem move)

/-! ## A round -/

theorem isFailure_awaited (fault : Fault) : fault.awaited.isFailure = fault.isFailure := by
  cases fault with
  | foreign incident =>
    simp only [Fault.awaited]
    split
    · rename_i exhausted
      simp only [Fault.isFailure, exhausted]
      rfl
    · rfl
  | _ => rfl

theorem Told.demand {occasion : Occasion} {listeners : List Listener} {fault : Fault}
    {result : Except Fault Unit} {after : World}
    (told : Told regime number occasion listeners world result after)
    (failed : result = .error fault) : fault.isFailure = false := by
  induction told with
  | nobody world => cases failed
  | next calmly others ih => exact ih failed
  | stopped calmly halts demand =>
    cases failed
    exact demand

theorem ensures_tell {notice : Notice} {post : Except Fault Unit → World → Prop}
    (held : world.holder .session = some number)
    (told : post (.ok ()) (world.tells number notice)) :
    (Routine.modify (·.tell notice)).Ensures regime number post world := by
  have deed := Deed.ofUpdate_tell notice world.shared
  refine ⟨?_, fun lock released => ?_, ?_⟩
  · rw [deed]
    refine ⟨rfl, rfl, ?_, by simp⟩
    rintro lock ⟨rfl⟩
    exact held
  · rw [deed] at released
    cases released
  · rw [World.updates, deed]
    exact told

/-- Telling one listener is quiet after the notice, and lets only a demand to stop out. -/
theorem does_notify (listener : Listener) (occasion : Occasion) :
    (listener.notify occasion).Does regime number fun world outcome after =>
      (world.tells number ⟨listener.name, occasion⟩).Calmly number after ∧
        ∀ fault, outcome = .error fault →
          (listener.Halts ∨ after.Halted regime number) ∧ fault.isFailure = false := by
  intro world held
  unfold notify
  rw [Routine.ensures_bind, Routine.ensures_get]
  simp only
  rw [Routine.ensures_bind]
  apply ensures_tell held
  simp only
  rw [Routine.ensures_tryCatch]
  apply (ensures_performAll listener occasion _).mono
  rintro (raised | value) between ⟨calmly, demands⟩
  · have reported (fault : Fault) (same : fault.isFailure = raised.isFailure) :
        (if fault.isFailure then Routine.say .warning (listener.failureLine occasion fault)
          else throw fault : Routine Unit).Ensures regime number
          (fun outcome after =>
            (world.tells number ⟨listener.name, occasion⟩).Calmly number after ∧
              ∀ fault, outcome = .error fault →
                (listener.Halts ∨ after.Halted regime number) ∧ fault.isFailure = false)
          between := by
      split
      · apply (Routine.ensures_say _ _).mono
        rintro _ after ⟨rfl, quiet⟩
        exact ⟨calmly.trans quiet, by simp⟩
      · rename_i halting
        have demand : raised.isFailure = false := by simpa [same] using halting
        refine ⟨calmly, ?_⟩
        rintro _ ⟨rfl⟩
        refine ⟨(demands raised rfl demand).imp_left fun member => ?_, same.trans demand⟩
        exact ⟨occasion, _, raised, member, demand⟩
    simp only
    split
    · exact reported raised.awaited (isFailure_awaited raised)
    · exact reported raised rfl
  · exact ⟨calmly, by simp⟩

theorem does_notifyEach (occasion : Occasion) (listeners : List Listener) :
    (notifyEach occasion listeners).Does regime number (Told regime number occasion listeners) := by
  induction listeners with
  | nil => exact fun world _ => .nobody world
  | cons listener rest ih =>
    intro world held
    unfold notifyEach
    rw [Routine.ensures_bind]
    apply (does_notify listener occasion world held).mono
    rintro (fault | value) between ⟨calmly, halts⟩
    · obtain ⟨halted, demand⟩ := halts fault rfl
      exact .stopped calmly halted demand
    · have telling : world.Grips number (world.tells number ⟨listener.name, occasion⟩) :=
        World.grips_did (by simp) (by simp)
      apply (ih between ((telling.trans calmly.grips .session).mpr held)).mono
      exact fun outcome after others => .next calmly others

/-- Every listener that is registered at the beginning is told, unless somebody demands to stop. -/
theorem does_notifyAll (occasion : Occasion) :
    (notifyAll occasion).Does regime number fun world =>
      Told regime number occasion world.shared.listeners.members world :=
  fun world held => does_notifyEach occasion world.shared.listeners.members world held

end Listener

end SessionKeeper
