import Replex.Routes.Disclosure

namespace Replex

open Data MetaData

/-! Which containers the policy transforms clean as a whole. -/

/-- The policy holds of everything in the container exactly when it held of
what the passes leave out. -/
theorem policy_covers_container_iff (policy : ResolutionPolicy)
    (failClosed : Bool) (payload : MediaContainer) :
    (Avoids (Prohibited policy)
          (applyPolicyTransforms (.ok policy) failClosed payload).items ∧
        ∀ item ∈
            (applyPolicyTransforms (.ok policy) failClosed payload).items,
          isHidden item policy = false) ↔
      Avoids (Prohibited policy) (unfilteredItems policy payload.lists) ∧
        ∀ item ∈ unfilteredItems policy payload.lists,
          isHidden item policy = false := by
  obtain ⟨visited, items, clean, shown⟩ :=
    exists_visited_applyPolicyTransforms policy failClosed payload
  rw [items, avoids_append, List.forall_mem_append]
  constructor
  · rintro ⟨⟨-, avoids⟩, -, visible⟩
    exact ⟨avoids, visible⟩
  · rintro ⟨avoids, visible⟩
    exact ⟨⟨clean, avoids⟩, shown, visible⟩

def lateNightPolicy : ResolutionPolicy :=
  { fullHdPolicy with hiddenCollections := ["Late Night"] }

/-- One permitted movie, and behind it another one and a collection. -/
def mixedContainer : MediaContainer where
  metadata := [{ type := "movie", media := [fullHdVersion] }]
  directory :=
    [{ type := "movie", media := [uhdVersion] },
      { type := "collection", title := "Late Night" }]

theorem second_list_not_covered :
    lateNightPolicy.isUnrestricted = false ∧
      ¬ Avoids (Prohibited lateNightPolicy)
        (applyPolicyTransforms (.ok lateNightPolicy) true
          mixedContainer).items ∧
      ∃ item ∈ (applyPolicyTransforms (.ok lateNightPolicy) true
          mixedContainer).items,
        isHidden item lateNightPolicy = true := by
  decide

end Replex
