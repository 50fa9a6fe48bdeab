import EventWiring.Pass.Notification

/-!
# Undoing the wiring

When a scheduler is to go, its notification is deleted first, then the topic and the pull
subscription, and last the marker that holds the scheduler back. The first failure ends the pass.
-/

namespace EventWiring.Pass

def deletionSetback (e : Error) : Setback :=
  ⟨"NotificationDeleteFailed", "Failed to delete Scheduler notification: " ++ e.message, e⟩

/-- Takes the marker off, if it is first in line. -/
def releaseMarker (s : Scheduler) : Program (Except Error Unit) :=
  match s.removeMarker? with
  | none => return .ok ()
  | some patch => do
    match ← Program.ask (.patchScheduler s.space s.displayName patch) with
    | .error e => return .error e
    | .ok _ => return .ok ()

/-- The result of the pass and the status that it computes. -/
def teardown (p : Pass) (s : Scheduler) (status : SchedulerStatus) :
    Program (Except Error Ending × SchedulerStatus) := do
  let _ ← Program.ask (.publish (.deleteRequested s))
  match ← p.deleteNotification s status with
  | .error e => return (.error e, p.markSetback status .notification (deletionSetback e))
  | .ok status =>
    match ← Program.ask (.delete .topic s.space s.displayName) with
    | .error e => return (.error e, status)
    | .ok _ =>
      let status := { status with topicId := none }
      match ← Program.ask (.delete .pullSubscription s.space s.displayName) with
      | .error e => return (.error e, status)
      | .ok _ =>
        match ← releaseMarker s with
        | .error e => return (.error e, status)
        | .ok () => return (.ok .finalized, status)

end EventWiring.Pass
