import EventWiring.Error
import EventWiring.Resource.PullSubscription
import EventWiring.Resource.Scheduler
import EventWiring.Resource.Topic

/-!
# What a scheduler owns

The topic and the pull subscription of a scheduler bear its name, lie in its namespace and refer to
it as their controller.
-/

namespace EventWiring.Scheduler

/-- The reference of an owned object to its controller, which outlives it when deleted in the
foreground. -/
def ownerReference (s : Scheduler) : Except Error OwnerReference :=
  match s.metadata.name, s.metadata.uid with
  | some name, some uid =>
    .ok
      { apiVersion
        kind := "Scheduler"
        name
        uid
        controller := some true
        blockOwnerDeletion := some true }
  | _, _ => .error (.other ("Scheduler " ++ s.displayName ++ " has no uid"))

/-- The label of every owned object. -/
def adapterLabels : TextMap := .ofList [("receive-adapter", "scheduler.events.cloud.run")]

def ownedMetadata (s : Scheduler) : Except Error Metadata :=
  s.ownerReference.map fun owner =>
    { name := some s.displayName
      space? := s.metadata.space?
      labels := some adapterLabels
      ownerReferences := some [owner] }

/-- The topic object that asks for the messaging topic of that name. -/
def topic (s : Scheduler) (name : String) : Except Error Topic :=
  s.ownedMetadata.map fun metadata =>
    { metadata
      spec :=
        { secret := some s.spec.secretOrStandard
          project := s.spec.project
          topic := name
          propagationPolicy := .createDelete }
      status := none }

/-- The pull subscription that delivers the events of a messaging topic to the sink. -/
def pullSubscription (s : Scheduler) (topic : String) : Except Error PullSubscription :=
  s.ownedMetadata.map fun metadata =>
    { metadata
      spec :=
        { secret := some s.spec.secretOrStandard
          project := s.spec.project
          topic
          sink := s.spec.sink
          ceOverrides := s.spec.ceOverrides }
      status := none }

end EventWiring.Scheduler
