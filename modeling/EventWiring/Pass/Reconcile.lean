import EventWiring.Pass.Converge
import EventWiring.Pass.Teardown

/-!
# Reconciling a scheduler

`Pass.reconcile` works on a copy of the scheduler behind a key. The status of the copy is stored
only when something about it changed, and a pass that fails says so even if its status was stored.
-/

namespace EventWiring.Pass

/-- Puts the marker on, and carries the version that this gives the scheduler. -/
def ensureMarker (s : Scheduler) : Program (Except Error Scheduler) :=
  match s.addMarker? with
  | none => return .ok s
  | some patch => do
    match ← Program.ask (.patchScheduler s.space s.displayName patch) with
    | .error e => return .error e
    | .ok patched =>
      return .ok { s with
        metadata.finalizers := patched.metadata.finalizers
        metadata.resourceVersion := patched.metadata.resourceVersion }

/-- Every condition starts out unknown again; identifiers are kept. -/
def startingStatus (p : Pass) (s : Scheduler) : SchedulerStatus :=
  ((s.status.getD .blank).establish (p.clock 0)).reset (p.clock 1)

/-- Computes a new status. Conditions that end where they started keep their time. -/
def revise (p : Pass) (s : Scheduler)
    (work : SchedulerStatus → Program (Except Error Ending × SchedulerStatus)) :
    Program (Except Error Ending × Scheduler) := do
  let (result, status) ← work (p.startingStatus s)
  return (result,
    { s with status := some (status.restoreTimes (s.status.getD .blank).conditions) })

/-- The result of the pass and the scheduler with the status that it computes. Without the marker
nothing is touched. -/
def work (p : Pass) (s : Scheduler) : Program (Except Error Ending × Scheduler) := do
  if s.metadata.deleting then p.revise s (p.teardown s)
  else
    match ← ensureMarker s with
    | .error e => return (.error e, s)
    | .ok s => p.revise s (p.converge s)

/-- Stores the status of a scheduler, and tells the users when it has become ready. -/
def storeStatus (found s : Scheduler) : Program (Except Error Unit) := do
  match ← Program.ask (.updateStatus s) with
  | .error e => return .error e
  | .ok updated =>
    if s.ready && !found.ready then
      let _ ← Program.ask (.publish (.ready updated))
    return .ok ()

/-- Stores what changed. A failure to do so is the result of the pass. -/
def conclude (found s : Scheduler) (result : Except Error Ending) :
    Program (Except Error Unit) := do
  if found.status = s.status ∧ found.metadata = s.metadata then
    return result.map fun _ => ()
  else
    match ← storeStatus found s with
    | .ok () => return result.map fun _ => ()
    | .error e =>
      let _ ← Program.ask (.publish (.updateFailed s e.message))
      return .error e

/-- The pass over the scheduler behind a key. Nothing is done for a key that is none, nor for a
scheduler that is gone. -/
def reconcile (p : Pass) (key : String) : Program (Except Error Unit) := do
  match Key.parse key with
  | .error _ => return .ok ()
  | .ok k =>
    match ← Program.ask (.getScheduler k.space k.name) with
    | .error e => return .error e
    | .ok none => return .ok ()
    | .ok (some found) =>
      let (result, s) ← p.work found
      match result with
      | .ok .finalized => return .ok ()
      | result => conclude found s result

end EventWiring.Pass
