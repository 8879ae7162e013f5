import SessionKeeper.Proofs.Listener.Roster
import SessionKeeper.Proofs.Session.Keeping

/-! # Transitions and what listeners are told of them

What a registered listener was told and what was put in the place of what was held are two readings
of one history. They agree, up to the one transition that is still being told (`History.InStep`,
`History.Owes`). A transition that is told at once takes a listener from the one state through the
other and back (`Session.Settled.assigned`).
-/

namespace SessionKeeper

/-- The occasion on which listeners are told that something else is held. -/
def Occasion.ofHeld : Option Credential → Occasion
  | some credential => .login credential.token credential.instanceUrl
  | none => .logout

/-- The token and the address that an occasion is about. -/
def Occasion.pair? : Occasion → Option (Text × Text)
  | login token instanceUrl => some (token, instanceUrl)
  | logout => none

/-- The token and the address that are held. -/
def Shared.pair? (shared : Shared) : Option (Text × Text) :=
  shared.held.map fun credential => (↑credential.token, ↑credential.instanceUrl)

theorem Occasion.pair?_ofHeld (held : Option Credential) :
    (Occasion.ofHeld held).pair? =
      held.map fun credential =>
        (Text.ofString credential.token, Text.ofString credential.instanceUrl) := by
  cases held <;> rfl

/-- What the listener with a name was told of, as the notices show it. -/
def Shared.heard (name : Text) (shared : Shared) : List Occasion :=
  (shared.notices.filter (·.listener = name)).map (·.occasion)

/-- What a moment means for the revocation of tokens: one is asked for, or one is over. -/
inductive Revocation where
  | asked
  | cleared

namespace Moment

/-- The occasion that the listener with a name was told of. -/
def told? (name : Text) (moment : Moment) : Option Occasion :=
  match moment.deed with
  | .told notice => if notice.listener = name then some notice.occasion else none
  | _ => none

def revocation? (moment : Moment) : Option Revocation :=
  match moment.deed with
  | .sent request => if request.headers = none ∧ request.method = "GET" then some .asked else none
  | .assigned none => some .cleared
  | _ => none

/-- The moment is no transition, tells the listener with a name nothing, and leaves the lock of the
session alone. -/
structure IsSilent (name : Text) (moment : Moment) : Prop where
  assigned : moment.assigned? = none
  told : moment.told? name = none
  released : moment.deed ≠ .released .session

theorem IsApart.isSilent {moment : Moment} (apart : moment.IsApart) (name : Text) :
    moment.IsSilent name := by
  refine ⟨apart.assigned?, ?_, ?_⟩
  · unfold told?
    split
    · rename_i deed
      exact absurd (by rw [deed]; rfl) apart.1
    · rfl
  · exact fun deed => apart.1 (by rw [deed]; rfl)

theorem IsApart.revocation? {moment : Moment} (apart : moment.IsApart) :
    moment.revocation? = none := by
  unfold Moment.revocation?
  split
  · rename_i request deed
    refine if_neg fun bare => apart.1 ?_
    rw [deed]
    simp [Deed.needs, bare.1]
  · rename_i deed
    exact absurd (by rw [deed]; rfl) apart.1
  · rfl

end Moment

namespace History

variable (name : Text) (past : History)

/-- What was put in the place of what was held, the latest first. -/
def transitions : List (Option Credential) := past.filterMap Moment.assigned?

/-- What the listener with a name was told of, the latest first. -/
def told : List Occasion := past.filterMap (Moment.told? name)

def revocations : List Revocation := past.filterMap Moment.revocation?

/-- The listener was told of every transition, once and in their order. -/
def InStep : Prop := past.told name = past.transitions.map Occasion.ofHeld

/-- The listener was told of every transition but the last one, which is that of an occasion. -/
def Owes (occasion : Occasion) : Prop :=
  ∃ held rest, past.transitions = held :: rest ∧ occasion = .ofHeld held ∧
    past.told name = rest.map Occasion.ofHeld

/-- A listener with the name was registered after every moment. -/
def Attended : Prop := ∀ moment ∈ past, name ∈ moment.after.names

variable {name past} {moment : Moment} {occasion : Occasion}

theorem Attended.tail (attended : Attended name (moment :: past)) : past.Attended name :=
  fun other member => attended other (List.mem_cons_of_mem _ member)

theorem told_cons : told name (moment :: past) = (moment.told? name).toList ++ past.told name := by
  rw [told, List.filterMap_cons]
  cases moment.told? name <;> rfl

theorem InStep.silent (inStep : past.InStep name) (unassigned : moment.assigned? = none)
    (untold : moment.told? name = none) : InStep name (moment :: past) := by
  rw [InStep, told, transitions, List.filterMap_cons_none untold,
    List.filterMap_cons_none unassigned]
  exact inStep

theorem Owes.silent (owes : past.Owes name occasion) (unassigned : moment.assigned? = none)
    (untold : moment.told? name = none) : Owes name (moment :: past) occasion := by
  rw [Owes, told, transitions, List.filterMap_cons_none untold,
    List.filterMap_cons_none unassigned]
  exact owes

/-- A transition leaves a listener that was in step one behind. -/
theorem InStep.assigned {held : Option Credential} (inStep : past.InStep name)
    (deed : moment.deed = .assigned held) : Owes name (moment :: past) (.ofHeld held) := by
  refine ⟨held, past.transitions, ?_, rfl, ?_⟩
  · rw [transitions, List.filterMap_cons_some (by rw [Moment.assigned?, deed])]
    rfl
  · rw [told, List.filterMap_cons_none (by rw [Moment.told?, deed])]
    exact inStep

/-- A listener that is told of the transition that it is owed is in step. -/
theorem Owes.told (owes : past.Owes name occasion) (deed : moment.deed = .told ⟨name, occasion⟩) :
    InStep name (moment :: past) := by
  obtain ⟨held, rest, transitions', rfl, told'⟩ := owes
  have hearing : Moment.told? name moment = some (.ofHeld held) := by
    rw [Moment.told?, deed]
    exact if_pos rfl
  rw [InStep, History.told, List.filterMap_cons_some hearing, transitions,
    List.filterMap_cons_none (by rw [Moment.assigned?, deed])]
  rw [transitions] at transitions'
  rw [History.told] at told'
  rw [transitions', told', List.map_cons]

/-- The notices show what the history tells. -/
theorem heard_eq {start : Shared} {world : World} (leads : World.Leads ⟨start, []⟩ world) :
    world.shared.heard name = start.heard name ++ (world.past.told name).reverse := by
  induction leads with
  | refl => exact (List.append_nil _).symm
  | tail before step ih =>
    obtain ⟨moment, _, allowed, rfl⟩ := step
    rw [World.shared_add, World.past_add]
    by_cases telling : ∃ notice, moment.deed = .told notice
    · obtain ⟨notice, deed⟩ := telling
      have after : moment.after.notices = moment.before.notices ++ [notice] := by
        have lawful := allowed.lawful
        rw [Moment.Lawful, deed] at lawful
        rw [lawful]
        rfl
      rw [Shared.heard, after, allowed.before, List.filter_append, List.map_append,
        ← Shared.heard, ih, List.append_assoc]
      by_cases own : notice.listener = name
      · have told? : moment.told? name = some notice.occasion := by simp [Moment.told?, deed, own]
        rw [told_cons, told?]
        simp [own]
      · have told? : moment.told? name = none := by simp [Moment.told?, deed, own]
        rw [told_cons, told?]
        simp [own]
    · have untold : ∀ notice, moment.deed ≠ .told notice :=
        fun notice deed => telling ⟨notice, deed⟩
      have told? : moment.told? name = none := by
        rw [Moment.told?]
        split
        · rename_i notice deed
          exact absurd deed (untold notice)
        · rfl
      rw [Shared.heard, allowed.notices_eq untold, ← Shared.heard, ih, told_cons, told?]
      rfl

end History

namespace Session

variable (session : Session) (name : Text)

/-- Every request for a revocation is followed by one clearing of the session, before anything else
is asked or cleared; and a clearing follows such a request, unless the request has no draft. -/
inductive Attempts : List Revocation → Prop
  | nothing : Attempts []
  | asked {earlier : List Revocation} (before : Attempts earlier) :
    Attempts (.cleared :: .asked :: earlier)
  | undrafted {earlier : List Revocation} (token : Text) (url : Option Text) (fault : Fault)
      (draft : session.settings.draftLogout token url = .error fault) (before : Attempts earlier) :
    Attempts (.cleared :: earlier)

/-- A moment respects that the listener with a name mirrors the session. -/
structure Respects (moment : Moment) (earlier : History) : Prop where
  assigned : ∀ held, moment.deed = .assigned held → earlier.InStep name
  told : ∀ occasion, moment.deed = .told ⟨name, occasion⟩ → earlier.Owes name occasion
  released : moment.deed = .released .session →
    earlier.InStep name ∧ session.Attempts earlier.revocations

/-- As long as the listener with a name was registered, every moment respects that it mirrors the
session. -/
def Respected (past : History) : Prop :=
  ∀ (moment : Moment) (earlier : History), moment :: earlier <:+ past → earlier.Attended name →
    session.Respects name moment earlier

/-- What holds of a world in which a transition may be under way. -/
structure Reflected (revocations : List Revocation) (world : World) : Prop where
  tidy : world.shared.Tidy
  enlisted : world.past.Attended name → name ∈ world.shared.names
  respected : session.Respected name world.past
  revoked : world.past.revocations = revocations

/-- What holds of a world in which the listener with a name was told of everything. -/
structure Settled (revocations : List Revocation) (world : World) : Prop
    extends session.Reflected name revocations world where
  inStep : world.past.Attended name → world.past.InStep name

/-- What holds of a world in which the listener with a name is to be told of an occasion. -/
structure Owing (revocations : List Revocation) (occasion : Occasion) (world : World) : Prop
    extends session.Reflected name revocations world where
  owes : world.past.Attended name → world.past.Owes name occasion

variable {session name} {regime : Regime} {number : Nat} {world after : World} {moment : Moment}
  {revocations : List Revocation} {occasion : Occasion}

/-! ## Moments -/

theorem Respects.of_silent (silent : moment.IsSilent name) (earlier : History) :
    session.Respects name moment earlier where
  assigned held deed := by
    have reading := silent.assigned
    rw [Moment.assigned?, deed] at reading
    cases reading
  told occasion deed := by
    have reading := silent.told
    rw [Moment.told?, deed] at reading
    simp at reading
  released deed := absurd deed silent.released

theorem Reflected.add (reflected : session.Reflected name revocations world) (moment : Moment)
    (tidy : moment.after.Tidy)
    (respects : world.past.Attended name → session.Respects name moment world.past) :
    session.Reflected name (moment.revocation?.toList ++ revocations) (world.add moment) where
  tidy := tidy
  enlisted attended := attended moment List.mem_cons_self
  respected := by
    intro last earlier suffix attended
    rcases List.suffix_cons_iff.mp suffix with same | shorter
    · obtain ⟨rfl, rfl⟩ := List.cons.inj same
      exact respects attended
    · exact reflected.respected last earlier shorter attended
  revoked := by
    have before := reflected.revoked
    rw [History.revocations] at before ⊢
    rw [World.past_add, List.filterMap_cons]
    cases moment.revocation? with
    | none => simpa using before
    | some revocation => simpa using before

theorem Settled.silent (settled : session.Settled name revocations world) (moment : Moment)
    (tidy : moment.after.Tidy) (silent : moment.IsSilent name) :
    session.Settled name (moment.revocation?.toList ++ revocations) (world.add moment) where
  toReflected := settled.toReflected.add moment tidy fun _ => .of_silent silent _
  inStep attended := (settled.inStep attended.tail).silent silent.assigned silent.told

theorem Owing.silent (owing : session.Owing name revocations occasion world) (moment : Moment)
    (tidy : moment.after.Tidy) (silent : moment.IsSilent name) :
    session.Owing name (moment.revocation?.toList ++ revocations) occasion (world.add moment) where
  toReflected := owing.toReflected.add moment tidy fun _ => .of_silent silent _
  owes attended := (owing.owes attended.tail).silent silent.assigned silent.told

theorem keptApart_settled : World.KeptApart (session.Settled name revocations) := by
  intro world moment settled allowed apart
  have tidy := settled.tidy.enrolment allowed.enrolment allowed.roster_eq
  have next := settled.silent moment tidy (apart.isSilent name)
  rwa [apart.revocation?] at next

theorem keptApart_owing : World.KeptApart (session.Owing name revocations occasion) := by
  intro world moment owing allowed apart
  have tidy := owing.tidy.enrolment allowed.enrolment allowed.roster_eq
  have next := owing.silent moment tidy (apart.isSilent name)
  rwa [apart.revocation?] at next

/-! ## Rounds of telling -/

/-- A round leaves everybody told who was to be told, and nobody told twice. -/
theorem Settled.told {listeners : List Listener} {outcome : Except Fault Unit}
    (told : Listener.Told regime number occasion listeners world outcome after)
    (distinct : (listeners.map (·.name)).Nodup)
    (tame : ∀ listener ∈ listeners, ¬ listener.Halts) (unbroken : ¬ regime.Halts)
    (held : world.holder .session = some number) :
    (name ∈ listeners.map (·.name) → session.Owing name revocations occasion world →
        session.Settled name revocations after) ∧
      (name ∉ listeners.map (·.name) → session.Settled name revocations world →
        session.Settled name revocations after) := by
  induction told with
  | nobody world => exact ⟨fun member => absurd member List.not_mem_nil, fun _ settled => settled⟩
  | stopped calmly halts =>
    rcases halts with own | broken
    · exact absurd own (tame _ List.mem_cons_self)
    · exact absurd broken.halts unbroken
  | @next listener rest world between after outcome calmly others ih =>
    rw [List.map_cons, List.nodup_cons] at distinct
    have telling : (world.tells number ⟨listener.name, occasion⟩).holder .session = some number :=
      (World.grips_did (by simp) (by simp) .session).mpr held
    obtain ⟨first, second⟩ := ih distinct.2 (fun other member => tame other
      (List.mem_cons_of_mem _ member)) ((calmly.grips .session).mpr telling)
    by_cases same : listener.name = name
    · refine ⟨fun _ owing => second (same ▸ distinct.1) ?_, fun absent => ?_⟩
      · apply calmly.keeps keptApart_settled.calm telling
        subst same
        refine ⟨owing.toReflected.add ⟨number, .told ⟨listener.name, occasion⟩, world.shared, _⟩
          (owing.tidy.enrolment (.inl rfl) rfl) fun attended => ?_,
          fun attended => (owing.owes attended.tail).told rfl⟩
        refine ⟨nofun, fun other deed => ?_, nofun⟩
        obtain ⟨rfl⟩ := Deed.told.inj deed
        exact owing.owes attended
      · exact absurd (List.mem_map.mpr ⟨listener, List.mem_cons_self, same⟩) absent
    · have silent : Moment.IsSilent name ⟨number, .told ⟨listener.name, occasion⟩, world.shared,
          world.shared.tell ⟨listener.name, occasion⟩⟩ :=
        ⟨rfl, by simp [Moment.told?, same], by simp⟩
      refine ⟨fun member owing => first ?_ ?_, fun absent settled => second ?_ ?_⟩
      · rw [List.map_cons, List.mem_cons] at member
        exact member.resolve_left (Ne.symm same)
      · exact calmly.keeps keptApart_owing.calm telling
          (owing.silent _ (owing.tidy.enrolment (.inl rfl) rfl) silent)
      · exact fun member => absent (List.mem_cons_of_mem _ member)
      · exact calmly.keeps keptApart_settled.calm telling
          (settled.silent _ (settled.tidy.enrolment (.inl rfl) rfl) silent)

/-- A transition that is told at once leaves the listener with a name in step. -/
theorem Settled.assigned (next : Option Credential) {outcome : Except Fault Unit}
    (settled : session.Settled name revocations world) (unbroken : ¬ regime.Halts)
    (held : world.holder .session = some number)
    (told : Listener.Told regime number (.ofHeld next) world.shared.listeners.members
      (world.assigns number next) outcome after) :
    session.Settled name
      ((Moment.revocation? ⟨number, .assigned next, world.shared, world.shared.hold next⟩).toList ++
        revocations) after := by
  have reflected := settled.toReflected.add
    ⟨number, .assigned next, world.shared, world.shared.hold next⟩
    (settled.tidy.enrolment (.inl rfl) rfl) fun attended =>
      ⟨fun _ _ => settled.inStep attended, nofun, nofun⟩
  obtain ⟨first, second⟩ := Settled.told told settled.tidy.distinct settled.tidy.registered unbroken
    (holder_assigns.trans held)
  by_cases enlisted : name ∈ world.shared.names
  · exact first enlisted ⟨reflected, fun attended => (settled.inStep attended.tail).assigned rfl⟩
  · exact second enlisted
      ⟨reflected, fun attended => absurd (settled.enlisted attended.tail) enlisted⟩

end Session

end SessionKeeper
