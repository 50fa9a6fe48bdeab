import EventWiring.Notification.Phase
import EventWiring.Notification.Report
import EventWiring.Pass.Basic

/-!
# Notifications of a pass

`Pass.runJob` makes sure that the job for an action exists and, once it succeeded, reads what its
pod reports.
-/

namespace EventWiring.Pass

open Notification (Action Args Phase Report)

/-- Failures are phases too. -/
def ensureJob (args : Args) : Program Phase := do
  match ← Program.ask (.get .job args.space args.jobName) with
  | .error e => return .getFailed e.message
  | .ok (some job) => return Job.phase job
  | .ok none =>
    match ← Program.ask (.create .job args.space args.job) with
    | .ok _ => return .created
    | .error (.alreadyExists _) => return .alreadyCreated
    | .error e => return .createFailed e.message

/-- What the pod that counts reports, unless it reports a failure. -/
def reportOf (pods : List Pod) : Except Error Report := do
  let pod ← Pod.select pods
  let report ← pod.report
  report.outcome

def runJob (args : Args) : Program (Except Error Report) := do
  let phase ← ensureJob args
  match phase.outcome args.jobName with
  | .error e => return .error e
  | .ok () =>
    match ← Program.ask (.listPods args.space args.podSelector) with
    | .error e => return .error e
    | .ok pods => return reportOf pods

/-- What a job for a scheduler needs to know. -/
def notificationArgs (p : Pass) (s : Scheduler) (action : Action) (projectId : String)
    (topicId notificationId : Option String) : Except Error Args :=
  s.ownerReference.map fun owner =>
    { uid := owner.uid
      space := s.space
      owner
      image := p.image
      action
      projectId
      bucket := s.spec.bucket
      topicId
      notificationId
      secret := s.spec.secretOrStandard
      backoffLimit := p.backoffLimit }

/-- Creates the notification of a scheduler whose topic is known. -/
def createNotification (p : Pass) (s : Scheduler) (status : SchedulerStatus) :
    Program (Except Error Report) :=
  match p.notificationArgs s .create (status.projectId.getD "") status.topicId none with
  | .error e => return .error e
  | .ok args => runJob args

/-- The project of a notification to be deleted: the one asked for, else the one recorded. -/
def deletionProject (s : Scheduler) (status : SchedulerStatus) : String :=
  let project := s.spec.project.getD ""
  if project = "" then status.projectId.getD "" else project

/-- Deletes the recorded notification, if there is one, and forgets it. -/
def deleteNotification (p : Pass) (s : Scheduler) (status : SchedulerStatus) :
    Program (Except Error SchedulerStatus) :=
  let id := status.notificationId.getD ""
  if id = "" then return .ok status
  else match p.notificationArgs s .delete (deletionProject s status) none (some id) with
    | .error e => return .error e
    | .ok args => do
      match ← runJob args with
      | .error e => return .error e
      | .ok _ => return .ok { status with notificationId := none }

end EventWiring.Pass
