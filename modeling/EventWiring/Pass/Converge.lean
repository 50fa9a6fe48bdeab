import EventWiring.Pass.Notification
import EventWiring.Uri.Validity

/-!
# Wiring a scheduler up

A live scheduler needs a topic that is ready under the expected name, then a pull subscription that
knows its sink, then a notification. `Pass.converge` takes the stages in this order and stops at the
first that is not reached.
-/

namespace EventWiring.Pass

open Notification (Report)

/-- What a topic tells once it is ready. -/
structure TopicIds where
  topicId : String
  projectId : String
deriving DecidableEq, Repr

/-- The recorded name of the messaging topic, or else the one that follows from the uid. -/
def topicName (s : Scheduler) (status : SchedulerStatus) : String :=
  let recorded := status.topicId.getD ""
  if recorded = "" then "scheduler-" ++ s.metadata.uid.getD "" else recorded

def topicReason : String := "TopicNotReady"

/-- A ready topic must tell its project and the name that is expected of it. -/
def topicIds (t : Topic) (expected : String) : Except Setback TopicIds :=
  let place := "Topic " ++ (Key.of t.metadata).path
  let status := t.status.getD .blank
  let projectId := status.projectId.getD ""
  let topicId := status.topicId.getD ""
  if !t.ready then .error ⟨topicReason, place ++ " not ready", .topicNotReady⟩
  else if projectId = "" then
    .error ⟨topicReason, place ++ " did not expose projectid", .topicMissingProjectId⟩
  else if topicId = "" then
    .error ⟨topicReason, place ++ " did not expose topicid", .topicMissingTopicId⟩
  else if topicId ≠ expected then
    .error ⟨topicReason, place ++ " topic mismatch expected " ++ Text.quote expected ++ " got " ++
      Text.quote topicId, .topicMismatch expected topicId⟩
  else .ok ⟨topicId, projectId⟩

def reachTopic (s : Scheduler) (name : String) : Program (Except Setback TopicIds) := do
  match ← ensure .topic s.space s.displayName (s.topic name) with
  | .error e => return .error ⟨topicReason, "Failed to reconcile Topic: " ++ e.message, e⟩
  | .ok topic => return topicIds topic name

def subscriptionReason : String := "PullSubscriptionNotReady"

/-- A ready pull subscription of the object under `key` must tell a sink that is a URI. -/
def sinkOf (p : PullSubscription) (key : Key) : Except Setback String :=
  if !p.ready then
    .error ⟨subscriptionReason, "PullSubscription " ++ key.path ++ " not ready",
      .pullSubscriptionNotReady⟩
  else match Uri.check p.sinkUri with
    | .ok () => .ok p.sinkUri
    | .error failure =>
      .error ⟨"InvalidSinkURI", "Sink URI " ++ Text.quote p.sinkUri ++ " is invalid: " ++
        failure.message, .invalidSinkUri p.sinkUri failure⟩

def reachSubscription (s : Scheduler) (name : String) : Program (Except Setback String) := do
  match ← ensure .pullSubscription s.space s.displayName (s.pullSubscription name) with
  | .error e =>
    return .error ⟨subscriptionReason,
      "Failed to reconcile PullSubscription Source: " ++ e.message, e⟩
  | .ok subscription => return sinkOf subscription (Key.of s.metadata)

/-- How the condition of the notification names an error. -/
def notificationReason : Error → String
  | .jobNotCompleted _ => "NotificationJobPending"
  | .jobFailed _ _ => "NotificationJobFailed"
  | _ => "NotificationNotReady"

def reachNotification (p : Pass) (s : Scheduler) (status : SchedulerStatus) :
    Program (Except Setback Report) := do
  match ← p.createNotification s status with
  | .error e =>
    return .error ⟨notificationReason e,
      "Failed to create Scheduler notification: " ++ e.message, e⟩
  | .ok report => return .ok report

/-- The status once the topic is ready. -/
def recordTopic (p : Pass) (status : SchedulerStatus) (ids : TopicIds) : SchedulerStatus :=
  p.markReady
    { status with topicId := some ids.topicId, projectId := some ids.projectId } .topic

/-- The status once the pull subscription is ready. -/
def recordSink (p : Pass) (status : SchedulerStatus) (uri : String) : SchedulerStatus :=
  p.markReady { status with sinkUri := some uri } .pullSubscription

/-- The status once the notification exists; a project that the job reports counts. -/
def recordReport (p : Pass) (status : SchedulerStatus) (report : Report) : SchedulerStatus :=
  p.markReady
    { status with
      notificationId := some report.notificationId
      projectId := if report.projectId = "" then status.projectId else some report.projectId }
    .notification

/-- The result of the pass and the status that it computes. -/
def converge (p : Pass) (s : Scheduler) (status : SchedulerStatus) :
    Program (Except Error Ending × SchedulerStatus) := do
  let name := topicName s status
  match ← reachTopic s name with
  | .error b => return (.error b.error, p.markSetback status .topic b)
  | .ok ids =>
    let status := p.recordTopic status ids
    match ← reachSubscription s name with
    | .error b => return (.error b.error, p.markSetback status .pullSubscription b)
    | .ok uri =>
      let status := p.recordSink status uri
      match ← p.reachNotification s status with
      | .error b => return (.error b.error, p.markSetback status .notification b)
      | .ok report => return (.ok .converged, p.recordReport status report)

end EventWiring.Pass
