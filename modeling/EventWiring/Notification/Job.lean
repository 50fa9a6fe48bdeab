import EventWiring.Resource.Delivery
import EventWiring.Resource.Job
import EventWiring.Text.LowerCase

/-!
# Notification jobs

A job creates or deletes one notification. There is at most one job per owner and action, so its
name depends on those alone; its pods carry both as labels.
-/

namespace EventWiring.Notification

inductive Action where
  | create
  | delete
deriving DecidableEq, Repr

def Action.name : Action → String
  | .create => "create"
  | .delete => "delete"

/-- The pod label with the uid of the object that a job works for. -/
def uidLabel : String := "resource-uid"

/-- The pod label with the action. -/
def actionLabel : String := "action"

/-- What a job needs to know. -/
structure Args where
  uid : String
  space : String
  owner : OwnerReference
  image : String
  action : Action
  projectId : String
  bucket : String
  topicId : Option String
  notificationId : Option String
  secret : SecretKey
  backoffLimit : Int
deriving DecidableEq, Repr

def jobName (uid : String) (action : Action) : String :=
  "scheduler-" ++ action.name ++ "-" ++ Text.lowerCase uid

/-- The label selector of the pods of a job. -/
def podSelector (uid : String) (action : Action) : String :=
  uidLabel ++ "=" ++ uid ++ "," ++ actionLabel ++ "=" ++ action.name

namespace Args

def jobName (a : Args) : String := Notification.jobName a.uid a.action

def podSelector (a : Args) : String := Notification.podSelector a.uid a.action

def labels (a : Args) : TextMap := .ofList [(uidLabel, a.uid), (actionLabel, a.action.name)]

def credentialsVolume : String := "google-cloud-key"

def credentialsPath : String := "/var/secrets/google"

/-- Where a container leaves its last words. -/
def terminationPath : String := "/dev/termination-log"

def env (a : Args) : List EnvVar :=
  [⟨"ACTION", a.action.name⟩, ⟨"PROJECT_ID", a.projectId⟩, ⟨"BUCKET", a.bucket⟩,
    ⟨"GOOGLE_APPLICATION_CREDENTIALS", credentialsPath ++ "/" ++ a.secret.key⟩] ++
    (a.topicId.map fun id => ⟨"TOPIC_ID", id⟩).toList ++
    (a.notificationId.map fun id => ⟨"NOTIFICATION_ID", id⟩).toList

def container (a : Args) : Container where
  name := "job"
  image := a.image
  imagePullPolicy := "IfNotPresent"
  env := a.env
  terminationMessagePath := terminationPath
  mounts := [⟨credentialsVolume, credentialsPath⟩]

def job (a : Args) : Job where
  metadata :=
    { name := some a.jobName
      space? := some a.space
      labels := some a.labels
      ownerReferences := some [a.owner] }
  spec := some
    { backoffLimit := a.backoffLimit
      podLabels := a.labels
      restartPolicy := "Never"
      containers := [a.container]
      volumes := [⟨credentialsVolume, a.secret.name⟩] }
  status := none

end Args

end EventWiring.Notification
