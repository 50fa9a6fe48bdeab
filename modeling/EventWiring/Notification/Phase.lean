import EventWiring.Error
import EventWiring.Notification.Job

/-!
# Where a job stands

A job is finished once a condition says that it is complete or that it failed; a failure counts
even beside a completion.
-/

namespace EventWiring.Notification

inductive Phase where
  | created
  /-- Somebody else created the job in the meantime. -/
  | alreadyCreated
  | ongoing
  | succeeded
  | failed (message : String)
  | createFailed (message : String)
  | getFailed (message : String)
deriving DecidableEq, Repr

/-- Only a job that succeeded lets a pass go on. -/
def Phase.outcome (job : String) : Phase → Except Error Unit
  | .succeeded => .ok ()
  | .created | .alreadyCreated | .ongoing => .error (.jobNotCompleted job)
  | .failed message | .createFailed message => .error (.jobFailed job message)
  | .getFailed message => .error (.other message)

end EventWiring.Notification

namespace EventWiring.Job

/-- The first condition of that type that is true. -/
def holding? (j : Job) (type : String) : Option JobCondition :=
  j.conditions.find? fun c => c.type = type && c.status = "True"

def failed (j : Job) : Bool := (j.holding? "Failed").isSome

def finished (j : Job) : Bool := (j.holding? "Complete").isSome || j.failed

/-- The reason in brackets and the message of the failure. -/
def failureMessage (j : Job) : String :=
  match j.holding? "Failed" with
  | some c => "[" ++ c.reason.getD "" ++ "] " ++ c.message.getD ""
  | none => "job failed"

def phase (j : Job) : Notification.Phase :=
  if !j.finished then .ongoing
  else if j.failed then .failed j.failureMessage
  else .succeeded

end EventWiring.Job
