import EventWiring.Condition
import EventWiring.Resource.Delivery

/-!
# Schedulers

A scheduler object binds a notification on a bucket to a sink. Its status depends on three
conditions, one for each of the topic, the pull subscription and the notification.
-/

namespace EventWiring

open Json (Decoder Fields)

structure SchedulerSpec where
  bucket : String
  project : Option String
  secret : Option SecretKey
  sink : Destination
  ceOverrides : Option EventOverrides
deriving DecidableEq, Repr

namespace SchedulerSpec

def secretOrStandard (s : SchedulerSpec) : SecretKey := s.secret.getD .standard

def toJson (s : SchedulerSpec) : Json :=
  .object ([("bucket", .string s.bucket)] ++ Json.member? "project" (s.project.map .string) ++
    Json.member? "secret" (s.secret.map SecretKey.toJson) ++ [("sink", s.sink.toJson)] ++
    Json.member? "ceOverrides" (s.ceOverrides.map EventOverrides.toJson))

def decoder : Decoder SchedulerSpec :=
  .record "SchedulerSpec"
    (.cons "bucket" .string .refused <| .optional "project" .string <|
      .optional "secret" SecretKey.decoder <| .cons "sink" Destination.decoder .refused <|
      .optional "ceOverrides" EventOverrides.decoder .nil)
    fun (bucket, project, secret, sink, overrides, ()) => ⟨bucket, project, secret, sink, overrides⟩

end SchedulerSpec

/-- The stages of the wiring, in the order in which they are reached. -/
inductive Stage where
  | topic
  | pullSubscription
  | notification
deriving DecidableEq, Repr

namespace Stage

/-- The type of the condition that says whether the stage is reached. -/
def condition : Stage → String
  | .topic => "TopicReady"
  | .pullSubscription => "PullSubscriptionReady"
  | .notification => "NotificationReady"

def all : List Stage := [.topic, .pullSubscription, .notification]

/-- The conditions that must all be true for a scheduler to be ready. -/
def conditions : List String := all.map condition

end Stage

structure SchedulerStatus where
  conditions : Conditions
  topicId : Option String
  projectId : Option String
  notificationId : Option String
  sinkUri : Option String
deriving DecidableEq, Repr

namespace SchedulerStatus

def blank : SchedulerStatus := ⟨[], none, none, none, none⟩

def ready (s : SchedulerStatus) : Bool := s.conditions.happy Stage.conditions

/-- Adds the conditions that are missing as unknown. -/
def establish (s : SchedulerStatus) (clock : Readings) : SchedulerStatus :=
  { s with conditions := s.conditions.establish Stage.conditions clock }

/-- Makes every condition unknown; identifiers stay. -/
def reset (s : SchedulerStatus) (clock : Readings) : SchedulerStatus :=
  { s with conditions := s.conditions.reset Stage.conditions clock }

def markReady (s : SchedulerStatus) (clock : Readings) (stage : Stage) : SchedulerStatus :=
  { s with conditions := s.conditions.markTrue Stage.conditions clock stage.condition }

def markNotReady (s : SchedulerStatus) (clock : Readings) (stage : Stage)
    (reason message : String) : SchedulerStatus :=
  { s with
    conditions := s.conditions.markFalse Stage.conditions clock stage.condition reason message }

def restoreTimes (s : SchedulerStatus) (previous : Conditions) : SchedulerStatus :=
  { s with conditions := s.conditions.restoreTimes previous }

/-- Absent identifiers are written as `null`, so that a merge patch clears them. -/
def toJson (s : SchedulerStatus) : Json :=
  .object [("conditions", s.conditions.toJson),
    ("topicId", Json.orNull (s.topicId.map .string)),
    ("projectId", Json.orNull (s.projectId.map .string)),
    ("notificationId", Json.orNull (s.notificationId.map .string)),
    ("sinkUri", Json.orNull (s.sinkUri.map .string))]

def decoder : Decoder SchedulerStatus :=
  .record "SchedulerStatus"
    (.cons "conditions" Conditions.decoder (.default []) <| .optional "topicId" .string <|
      .optional "projectId" .string <| .optional "notificationId" .string <|
      .optional "sinkUri" .string .nil)
    fun (conditions, topicId, projectId, notificationId, sinkUri, ()) =>
      ⟨conditions, topicId, projectId, notificationId, sinkUri⟩

end SchedulerStatus

structure Scheduler where
  metadata : Metadata
  spec : SchedulerSpec
  status : Option SchedulerStatus
deriving DecidableEq

namespace Scheduler

def apiVersion : String := "events.cloud.run/v1alpha1"

def ready (s : Scheduler) : Bool := s.status.any (·.ready)

def displayName (s : Scheduler) : String := s.metadata.displayName

def space (s : Scheduler) : String := s.metadata.space

def toJson (s : Scheduler) : Json :=
  .object ([("apiVersion", .string apiVersion), ("kind", .string "Scheduler"),
    ("metadata", s.metadata.toJson), ("spec", s.spec.toJson)] ++
    Json.member? "status" (s.status.map SchedulerStatus.toJson))

def decoder : Decoder Scheduler :=
  .record "Scheduler"
    (.cons "metadata" Metadata.decoder .refused <|
      .cons "spec" SchedulerSpec.decoder .refused <|
      .optional "status" SchedulerStatus.decoder .nil)
    fun (metadata, spec, status, ()) => ⟨metadata, spec, status⟩

end Scheduler

end EventWiring
