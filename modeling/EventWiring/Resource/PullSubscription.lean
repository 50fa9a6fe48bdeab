import EventWiring.Condition
import EventWiring.Resource.Delivery

/-!
# Pull subscriptions

A pull subscription object asks for the events of a topic to be delivered to a sink; its status
reports the address of the sink.
-/

namespace EventWiring

open Json (Decoder Fields)

structure PullSubscriptionSpec where
  secret : Option SecretKey
  project : Option String
  topic : String
  sink : Destination
  ceOverrides : Option EventOverrides
deriving DecidableEq, Repr

namespace PullSubscriptionSpec

def toJson (s : PullSubscriptionSpec) : Json :=
  .object (Json.member? "secret" (s.secret.map SecretKey.toJson) ++
    Json.member? "project" (s.project.map .string) ++
    [("topic", .string s.topic), ("sink", s.sink.toJson)] ++
    Json.member? "ceOverrides" (s.ceOverrides.map EventOverrides.toJson))

def decoder : Decoder PullSubscriptionSpec :=
  .record "PullSubscriptionSpec"
    (.optional "secret" SecretKey.decoder <| .optional "project" .string <|
      .cons "topic" .string .refused <| .cons "sink" Destination.decoder .refused <|
      .optional "ceOverrides" EventOverrides.decoder .nil)
    fun (secret, project, topic, sink, overrides, ()) => ⟨secret, project, topic, sink, overrides⟩

end PullSubscriptionSpec

structure PullSubscriptionStatus where
  conditions : Conditions
  sinkUri : Option String
  projectId : Option String
  subscriptionId : Option String
deriving DecidableEq, Repr

namespace PullSubscriptionStatus

def blank : PullSubscriptionStatus := ⟨[], none, none, none⟩

def toJson (s : PullSubscriptionStatus) : Json :=
  .object ([("conditions", s.conditions.toJson)] ++
    Json.member? "sinkUri" (s.sinkUri.map .string) ++
    Json.member? "projectId" (s.projectId.map .string) ++
    Json.member? "subscriptionId" (s.subscriptionId.map .string))

def decoder : Decoder PullSubscriptionStatus :=
  .record "PullSubscriptionStatus"
    (.cons "conditions" Conditions.decoder (.default []) <| .optional "sinkUri" .string <|
      .optional "projectId" .string <| .optional "subscriptionId" .string .nil)
    fun (conditions, sinkUri, projectId, subscriptionId, ()) =>
      ⟨conditions, sinkUri, projectId, subscriptionId⟩

end PullSubscriptionStatus

structure PullSubscription where
  metadata : Metadata
  spec : PullSubscriptionSpec
  status : Option PullSubscriptionStatus
deriving DecidableEq

namespace PullSubscription

def apiVersion : String := "pubsub.cloud.run/v1alpha1"

def ready (p : PullSubscription) : Bool := p.status.any (·.conditions.isTrue Condition.ready)

/-- The address of the sink, empty while it is not known. -/
def sinkUri (p : PullSubscription) : String := (p.status.bind (·.sinkUri)).getD ""

def toJson (p : PullSubscription) : Json :=
  .object ([("apiVersion", .string apiVersion), ("kind", .string "PullSubscription"),
    ("metadata", p.metadata.toJson), ("spec", p.spec.toJson)] ++
    Json.member? "status" (p.status.map PullSubscriptionStatus.toJson))

def decoder : Decoder PullSubscription :=
  .record "PullSubscription"
    (.cons "metadata" Metadata.decoder .refused <|
      .cons "spec" PullSubscriptionSpec.decoder .refused <|
      .optional "status" PullSubscriptionStatus.decoder .nil)
    fun (metadata, spec, status, ()) => ⟨metadata, spec, status⟩

end PullSubscription

end EventWiring
