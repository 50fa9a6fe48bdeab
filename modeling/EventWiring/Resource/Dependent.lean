import EventWiring.Resource.Job
import EventWiring.Resource.PullSubscription
import EventWiring.Resource.Topic

/-!
# Dependents

The three kinds of objects that are created for a scheduler, and what they have in common.
-/

namespace EventWiring

inductive Dependent where
  | topic
  | pullSubscription
  | job
deriving DecidableEq, Repr

namespace Dependent

def Object : Dependent → Type
  | .topic => Topic
  | .pullSubscription => PullSubscription
  | .job => Job

def all : List Dependent := [.topic, .pullSubscription, .job]

def kind : Dependent → String
  | .topic => "Topic"
  | .pullSubscription => "PullSubscription"
  | .job => "Job"

def metadata : (d : Dependent) → d.Object → Metadata
  | .topic => Topic.metadata
  | .pullSubscription => PullSubscription.metadata
  | .job => Job.metadata

def toJson : (d : Dependent) → d.Object → Json
  | .topic => Topic.toJson
  | .pullSubscription => PullSubscription.toJson
  | .job => Job.toJson

def decoder : (d : Dependent) → Json.Decoder d.Object
  | .topic => Topic.decoder
  | .pullSubscription => PullSubscription.decoder
  | .job => Job.decoder

instance (d : Dependent) : DecidableEq d.Object :=
  match d with
  | .topic => inferInstanceAs (DecidableEq Topic)
  | .pullSubscription => inferInstanceAs (DecidableEq PullSubscription)
  | .job => inferInstanceAs (DecidableEq Job)

end Dependent

end EventWiring
