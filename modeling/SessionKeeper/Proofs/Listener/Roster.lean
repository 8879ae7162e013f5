import SessionKeeper.Proofs.Session.Keeping

/-! # Who is registered

No two registered listeners have one name, and nobody gets registered who was neither registered nor
known before. So a crowd of listeners none of which demands to stop remains one.
-/

namespace SessionKeeper

/-- The names of the registered listeners. -/
def Shared.names (shared : Shared) : List Text := shared.listeners.members.map (·.name)

/-- No listener ever demands to stop. -/
structure Shared.Tame (shared : Shared) : Prop where
  registered : ∀ listener ∈ shared.listeners.members, ¬ listener.Halts
  known : ∀ listener ∈ shared.roster, ¬ listener.Halts

/-- Moreover, no two registered listeners have one name. -/
structure Shared.Tidy (shared : Shared) : Prop extends shared.Tame where
  distinct : shared.names.Nodup

namespace Shared

variable {before after : Shared} {listener : Listener}

theorem members_enlist (before : Shared) (listener : Listener) :
    (before.enlist listener).2.listeners.members =
      if before.listeners.contains Listener.same listener then before.listeners.members
      else before.listeners.members ++ [listener] := by
  simp only [Shared.enlist, Registry.add]
  split <;> rfl

theorem members_dismiss (before : Shared) (listener : Listener) :
    List.Sublist (before.dismiss listener).2.listeners.members before.listeners.members := by
  simp only [Shared.dismiss, Registry.remove]
  split
  · exact List.eraseP_sublist
  · exact List.Sublist.refl _

theorem Tame.enrolment (tame : before.Tame) (enrolment : before.Enrolment after)
    (roster : after.roster = before.roster) : after.Tame := by
  refine ⟨fun other member => ?_, fun other member => tame.known other (roster ▸ member)⟩
  rcases enrolment with same | ⟨listener, known, enlisted | dismissed⟩
  · exact tame.registered other (same ▸ member)
  · rw [enlisted, members_enlist] at member
    split at member
    · exact tame.registered other member
    · rcases List.mem_append.mp member with earlier | added
      · exact tame.registered other earlier
      · rw [List.mem_singleton.mp added]
        exact tame.known listener known
  · rw [dismissed] at member
    exact tame.registered other ((members_dismiss before listener).subset member)

/-- A listener whose name is registered is not registered again. -/
theorem distinct_enlist (distinct : before.names.Nodup) (listener : Listener) :
    (before.enlist listener).2.names.Nodup := by
  rw [names, members_enlist]
  split
  · exact distinct
  · rename_i absent
    rw [List.map_append, List.map_singleton, List.nodup_append]
    refine ⟨distinct, by simp, ?_⟩
    rintro name member other single rfl
    obtain ⟨registered, member, same⟩ := List.mem_map.mp member
    refine absent (List.any_eq_true.mpr ⟨registered, member, ?_⟩)
    simp [Listener.same, same, List.mem_singleton.mp single]

theorem Tidy.enrolment (tidy : before.Tidy) (enrolment : before.Enrolment after)
    (roster : after.roster = before.roster) : after.Tidy := by
  refine ⟨tidy.toTame.enrolment enrolment roster, ?_⟩
  rcases enrolment with same | ⟨listener, known, enlisted | dismissed⟩
  · rw [names, same]
    exact tidy.distinct
  · rw [names, enlisted]
    exact distinct_enlist tidy.distinct listener
  · rw [names, dismissed]
    exact tidy.distinct.sublist ((members_dismiss before listener).map _)

end Shared

theorem keptApart_tame : World.KeptApart fun world => world.shared.Tame :=
  fun _ _ tame allowed _ => tame.enrolment allowed.enrolment allowed.roster_eq

/-- A round among listeners that do not demand to stop comes to its end. -/
theorem Listener.Told.ok {regime : Regime} {number : Nat} {occasion : Occasion}
    {listeners : List Listener} {world after : World} {outcome : Except Fault Unit}
    (told : Listener.Told regime number occasion listeners world outcome after)
    (tame : ∀ listener ∈ listeners, ¬ listener.Halts) (unbroken : ¬ regime.Halts) :
    outcome = .ok () := by
  induction told with
  | nobody world => rfl
  | next calmly others ih => exact ih fun other member => tame other (List.mem_cons_of_mem _ member)
  | stopped calmly halts =>
    rcases halts with own | broken
    · exact absurd own (tame _ List.mem_cons_self)
    · exact absurd broken.halts unbroken

end SessionKeeper
