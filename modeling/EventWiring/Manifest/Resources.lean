import EventWiring.Json.Yaml
import EventWiring.Manifest.Schema
import EventWiring.Resource.Topic

/-!
# Manifests

The definitions by which the API server learns the three kinds of resources. Names stand in
ascending order throughout.
-/

namespace EventWiring

/-- A column that is shown for every object. -/
structure Manifest.Column where
  name : String
  path : String

structure Manifest where
  group : String
  kind : String
  plural : String
  singular : String
  shortNames : List String
  columns : List Manifest.Column
  description : String
  spec : Schema
  status : Schema

namespace Manifest

open Schema

def version : String := "v1alpha1"

def Column.toJson (c : Column) : Json :=
  .object [("jsonPath", .string c.path), ("name", .string c.name), ("type", .string "string")]

def schema (m : Manifest) : Schema :=
  .record { description := some m.description, title := some m.kind } ["spec"]
    [("spec", m.spec), ("status", m.status)]

def toJson (m : Manifest) : Json :=
  .object [("apiVersion", .string "apiextensions.k8s.io/v1"),
    ("kind", .string "CustomResourceDefinition"),
    ("metadata", .object [("name", .string (m.plural ++ "." ++ m.group))]),
    ("spec", .object [("group", .string m.group),
      ("names", .object [("categories", .array []), ("kind", .string m.kind),
        ("plural", .string m.plural), ("shortNames", textList m.shortNames),
        ("singular", .string m.singular)]),
      ("scope", .string "Namespaced"),
      ("versions", .array [.object [
        ("additionalPrinterColumns", .array (m.columns.map Column.toJson)),
        ("name", .string version),
        ("schema", .object [("openAPIV3Schema", m.schema.toJson)]),
        ("served", .bool true), ("storage", .bool true),
        ("subresources", .object [("status", .object [])])]])])]

def condition : Schema :=
  .record
    { description := some "A readiness condition as exposed on every status in this API group." }
    ["status", "type"]
    [("lastTransitionTime",
        .text { description := some "RFC 3339 timestamp of the last status flip", nullable := true }
          []),
      ("message", optionalText), ("reason", optionalText),
      ("status", .text { description := some "One of `True`, `False`, `Unknown`" } []),
      ("type", anyText)]

def conditions : Schema := .list { default := some (.array []) } condition

def secret (description : String) : Schema :=
  .record { description := some description, nullable := true } ["key", "name"]
    [("key", anyText), ("name", anyText)]

def secretDescription : String := "Reference to a key inside a Secret in the object's namespace."

def sinkReference : Schema :=
  .record { nullable := true } ["apiVersion", "kind", "name"]
    [("apiVersion", anyText), ("kind", anyText), ("name", anyText), ("namespace", optionalText)]

def sink : Schema :=
  .record
    { description :=
        some "Where events are delivered: either an addressable object or a literal URI." } []
    [("ref", sinkReference), ("uri", optionalText)]

def overrides : Schema :=
  .record
    { description :=
        some "Extra CloudEvent attributes stamped on every event emitted for the source."
      nullable := true } []
    [("extensions", .map { default := some (.object []) } anyText)]

def scheduler : Manifest where
  group := "events.cloud.run"
  kind := "Scheduler"
  plural := "schedulers"
  singular := "scheduler"
  shortNames := []
  columns :=
    [⟨"Ready", ".status.conditions[?(@.type==\"Ready\")].status"⟩, ⟨"Topic", ".status.topicId"⟩,
      ⟨"Notification", ".status.notificationId"⟩]
  description :=
    "Scheduler wires a scheduled notification on an external bucket to a sink through Pub/Sub"
  spec :=
    .record { } ["bucket", "sink"]
      [("bucket", .text { description := some "Bucket the notification is bound to" } []),
        ("ceOverrides", overrides),
        ("project",
          .text
            { description :=
                some "Project to operate in; discovered by the topic controller when unset"
              nullable := true } []),
        ("secret",
          secret "Credential used by the topic, pull subscription and notification job"),
        ("sink", sink)]
  status :=
    .record
      { description :=
          some "`None` fields serialize as `null` so that a merge patch of the status clears them."
        nullable := true } []
      [("conditions", conditions), ("notificationId", optionalText), ("projectId", optionalText),
        ("sinkUri", optionalText), ("topicId", optionalText)]

def topic : Manifest where
  group := "pubsub.cloud.run"
  kind := "Topic"
  plural := "topics"
  singular := "topic"
  shortNames := []
  columns := []
  description := "Auto-generated derived type for TopicSpec via `CustomResource`"
  spec :=
    .record { } ["topic"]
      [("project", optionalText),
        ("propagationPolicy",
          .text
            { description :=
                some "What the topic controller does with the backing Pub/Sub topic."
              default := some PropagationPolicy.createDelete.toJson }
            (PropagationPolicy.all.map PropagationPolicy.name)),
        ("secret", secret secretDescription), ("topic", anyText)]
  status :=
    .record { nullable := true } []
      [("address", optionalText), ("conditions", conditions), ("projectId", optionalText),
        ("topicId", optionalText)]

def pullSubscription : Manifest where
  group := "pubsub.cloud.run"
  kind := "PullSubscription"
  plural := "pullsubscriptions"
  singular := "pullsubscription"
  shortNames := ["ps"]
  columns := []
  description := "Auto-generated derived type for PullSubscriptionSpec via `CustomResource`"
  spec :=
    .record { } ["sink", "topic"]
      [("ceOverrides", overrides), ("project", optionalText),
        ("secret", secret secretDescription), ("sink", sink), ("topic", anyText)]
  status :=
    .record { nullable := true } []
      [("conditions", conditions), ("projectId", optionalText), ("sinkUri", optionalText),
        ("subscriptionId", optionalText)]

def all : List Manifest := [scheduler, topic, pullSubscription]

/-- The file that a manifest is kept in. -/
def fileName (m : Manifest) : String := m.singular ++ ".yaml"

end Manifest

end EventWiring
