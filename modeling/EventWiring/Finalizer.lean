import EventWiring.Resource.Scheduler

/-!
# The finalizer

While a scheduler carries the marker among its finalizers the API server keeps it, deleted or not.
`Scheduler.addMarker?` and `Scheduler.removeMarker?` are the patches that take the marker on and
off; every other finalizer stays where it is.
-/

namespace EventWiring

/-- A new list of finalizers for an object that is still at that version. -/
structure FinalizerPatch where
  finalizers : List String
  resourceVersion : String
deriving DecidableEq, Repr

def FinalizerPatch.toJson (p : FinalizerPatch) : Json :=
  .object [("metadata", .object [("finalizers", .array (p.finalizers.map .string)),
    ("resourceVersion", .string p.resourceVersion)])]

namespace Scheduler

def marker : String := "cloud-run-events-scheduler-source-controller"

/-- The version, empty when the object has none. -/
def version (s : Scheduler) : String := s.metadata.resourceVersion.getD ""

/-- Appends the marker unless it is there. -/
def addMarker? (s : Scheduler) : Option FinalizerPatch :=
  let markers := s.metadata.markers
  if marker ∈ markers then none else some ⟨markers ++ [marker], s.version⟩

/-- Drops the marker once it is first in line. -/
def removeMarker? (s : Scheduler) : Option FinalizerPatch :=
  match s.metadata.markers with
  | first :: rest => if first = marker then some ⟨rest, s.version⟩ else none
  | [] => none

end Scheduler

end EventWiring
