import EventWiring.Finalizer

/-!
# Putting the marker on and taking it off

What the patches of the finalizer say about the list that they replace, and which version they
carry.
-/

namespace EventWiring.Scheduler

variable {s : Scheduler} {patch : FinalizerPatch}

theorem addMarker?_eq_none : s.addMarker? = none ↔ marker ∈ s.metadata.markers := by
  unfold addMarker?
  simp

theorem addMarker?_eq_some (h : s.addMarker? = some patch) :
    patch = ⟨s.metadata.markers ++ [marker], s.version⟩ := by
  unfold addMarker? at h
  simp only at h
  split at h
  · cases h
  · exact (Option.some.inj h).symm

theorem finalizers_of_addMarker? (h : s.addMarker? = some patch) :
    patch.finalizers = s.metadata.markers ++ [marker] := by
  rw [addMarker?_eq_some h]

theorem removeMarker?_eq_none :
    s.removeMarker? = none ↔ s.metadata.markers.head? ≠ some marker := by
  unfold removeMarker?
  cases s.metadata.markers with
  | nil => simp
  | cons first rest => by_cases h : first = marker <;> simp [h]

theorem removeMarker?_eq_some (h : s.removeMarker? = some patch) :
    s.metadata.markers = marker :: patch.finalizers ∧ patch.resourceVersion = s.version := by
  unfold removeMarker? at h
  split at h
  · next first rest hmarkers =>
    split at h
    · next hfirst =>
      cases h
      rw [hmarkers, hfirst]
      exact ⟨rfl, rfl⟩
    · cases h
  · cases h

end EventWiring.Scheduler
