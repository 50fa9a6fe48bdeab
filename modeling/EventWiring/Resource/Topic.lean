import EventWiring.Condition
import EventWiring.Resource.Delivery

/-!
# Topics

A topic object asks for a messaging topic; its status reports the topic and the project it is in.
-/

namespace EventWiring

open Json (Decoder Fields)

/-- Whether the messaging topic is created, and deleted, along with its object. -/
inductive PropagationPolicy where
  | createDelete
  | createNoDelete
  | noCreateNoDelete
deriving DecidableEq, Repr

namespace PropagationPolicy

def name : PropagationPolicy → String
  | .createDelete => "CreateDelete"
  | .createNoDelete => "CreateNoDelete"
  | .noCreateNoDelete => "NoCreateNoDelete"

def all : List PropagationPolicy := [.createDelete, .createNoDelete, .noCreateNoDelete]

def toJson (p : PropagationPolicy) : Json := .string p.name

def decoder : Decoder PropagationPolicy := .enumeration (all.map fun p => (p.name, p))

end PropagationPolicy

structure TopicSpec where
  secret : Option SecretKey
  project : Option String
  topic : String
  propagationPolicy : PropagationPolicy
deriving DecidableEq, Repr

namespace TopicSpec

def toJson (s : TopicSpec) : Json :=
  .object (Json.member? "secret" (s.secret.map SecretKey.toJson) ++
    Json.member? "project" (s.project.map .string) ++
    [("topic", .string s.topic), ("propagationPolicy", s.propagationPolicy.toJson)])

def decoder : Decoder TopicSpec :=
  .record "TopicSpec"
    (.optional "secret" SecretKey.decoder <| .optional "project" .string <|
      .cons "topic" .string .refused <|
      .cons "propagationPolicy" PropagationPolicy.decoder (.default .createDelete) .nil)
    fun (secret, project, topic, policy, ()) => ⟨secret, project, topic, policy⟩

end TopicSpec

structure TopicStatus where
  conditions : Conditions
  projectId : Option String
  topicId : Option String
  address : Option String
deriving DecidableEq, Repr

namespace TopicStatus

def blank : TopicStatus := ⟨[], none, none, none⟩

def toJson (s : TopicStatus) : Json :=
  .object ([("conditions", s.conditions.toJson)] ++
    Json.member? "projectId" (s.projectId.map .string) ++
    Json.member? "topicId" (s.topicId.map .string) ++
    Json.member? "address" (s.address.map .string))

def decoder : Decoder TopicStatus :=
  .record "TopicStatus"
    (.cons "conditions" Conditions.decoder (.default []) <| .optional "projectId" .string <|
      .optional "topicId" .string <| .optional "address" .string .nil)
    fun (conditions, projectId, topicId, address, ()) => ⟨conditions, projectId, topicId, address⟩

end TopicStatus

structure Topic where
  metadata : Metadata
  spec : TopicSpec
  status : Option TopicStatus
deriving DecidableEq

namespace Topic

def apiVersion : String := "pubsub.cloud.run/v1alpha1"

def ready (t : Topic) : Bool := t.status.any (·.conditions.isTrue Condition.ready)

def toJson (t : Topic) : Json :=
  .object ([("apiVersion", .string apiVersion), ("kind", .string "Topic"),
    ("metadata", t.metadata.toJson), ("spec", t.spec.toJson)] ++
    Json.member? "status" (t.status.map TopicStatus.toJson))

def decoder : Decoder Topic :=
  .record "Topic"
    (.cons "metadata" Metadata.decoder .refused <| .cons "spec" TopicSpec.decoder .refused <|
      .optional "status" TopicStatus.decoder .nil)
    fun (metadata, spec, status, ()) => ⟨metadata, spec, status⟩

end Topic

end EventWiring
