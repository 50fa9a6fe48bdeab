import EventWiring.Resource.Metadata

/-!
# Jobs and their pods

Of a job's status its conditions count, of a pod's status its phase and how its containers ended.
The template of a job is written when the job is created and not read back.
-/

namespace EventWiring

open Json (Decoder Fields)

structure EnvVar where
  name : String
  value : String
deriving DecidableEq, Repr

structure VolumeMount where
  name : String
  mountPath : String
deriving DecidableEq, Repr

structure Container where
  name : String
  image : String
  imagePullPolicy : String
  env : List EnvVar
  terminationMessagePath : String
  mounts : List VolumeMount
deriving DecidableEq, Repr

/-- A volume that holds a secret. -/
structure SecretVolume where
  name : String
  secretName : String
deriving DecidableEq, Repr

structure JobSpec where
  backoffLimit : Int
  podLabels : TextMap
  restartPolicy : String
  containers : List Container
  volumes : List SecretVolume
deriving DecidableEq, Repr

namespace JobSpec

def envJson (e : EnvVar) : Json := .object [("name", .string e.name), ("value", .string e.value)]

/-- Secrets are mounted for reading only. -/
def mountJson (m : VolumeMount) : Json :=
  .object [("mountPath", .string m.mountPath), ("name", .string m.name), ("readOnly", .bool true)]

def containerJson (c : Container) : Json :=
  .object [("env", .array (c.env.map envJson)), ("image", .string c.image),
    ("imagePullPolicy", .string c.imagePullPolicy), ("name", .string c.name),
    ("terminationMessagePath", .string c.terminationMessagePath),
    ("volumeMounts", .array (c.mounts.map mountJson))]

def volumeJson (v : SecretVolume) : Json :=
  .object [("name", .string v.name), ("secret", .object [("secretName", .string v.secretName)])]

def toJson (s : JobSpec) : Json :=
  .object [("backoffLimit", Json.int s.backoffLimit),
    ("template", .object [
      ("metadata", .object [("labels", s.podLabels.toJson)]),
      ("spec", .object [("containers", .array (s.containers.map containerJson)),
        ("restartPolicy", .string s.restartPolicy),
        ("volumes", .array (s.volumes.map volumeJson))])])]

end JobSpec

structure JobCondition where
  type : String
  status : String
  reason : Option String
  message : Option String
deriving DecidableEq, Repr

namespace JobCondition

def toJson (c : JobCondition) : Json :=
  .object (Json.member? "message" (c.message.map .string) ++
    Json.member? "reason" (c.reason.map .string) ++
    [("status", .string c.status), ("type", .string c.type)])

def decoder : Decoder JobCondition :=
  .lenient "JobCondition"
    (.optional "message" .string <| .optional "reason" .string <|
      .cons "status" .textOrEmpty (.blank "") <| .cons "type" .textOrEmpty (.blank "") .nil)
    fun (message, reason, status, type, ()) => ⟨type, status, reason, message⟩

end JobCondition

structure JobStatus where
  conditions : Option (List JobCondition)
deriving DecidableEq, Repr

structure Job where
  metadata : Metadata
  spec : Option JobSpec
  status : Option JobStatus
deriving DecidableEq

namespace Job

def apiVersion : String := "batch/v1"

def conditions (j : Job) : List JobCondition := (j.status.bind (·.conditions)).getD []

def toJson (j : Job) : Json :=
  .object ([("apiVersion", .string apiVersion), ("kind", .string "Job"),
    ("metadata", j.metadata.toJson)] ++ Json.member? "spec" (j.spec.map JobSpec.toJson) ++
    Json.member? "status" (j.status.map fun s =>
      .object (Json.member? "conditions"
        (s.conditions.map fun cs => .array (cs.map JobCondition.toJson)))))

def decoder : Decoder Job :=
  .lenient "Job"
    (.cons "apiVersion" (.constant apiVersion) (.blank ()) <|
      .cons "kind" (.constant "Job") (.blank ()) <|
      .optional "metadata" Metadata.decoder <|
      .optional "status" (.lenient "JobStatus"
        (.optional "conditions" JobCondition.decoder.list .nil) fun (cs, ()) => ⟨cs⟩) .nil)
    fun ((), (), metadata, status, ()) =>
      (⟨metadata.getD { }, none, status⟩ : Job)

end Job

/-- How a container ended. -/
structure Termination where
  message : Option String
deriving DecidableEq, Repr

structure ContainerStatus where
  terminated : Option Termination
deriving DecidableEq, Repr

structure PodStatus where
  phase : Option String
  containers : Option (List ContainerStatus)
deriving DecidableEq, Repr

structure Pod where
  metadata : Metadata
  status : Option PodStatus
deriving DecidableEq

namespace Pod

def label? (p : Pod) (key : String) : Option String := p.metadata.labels.bind (·.get? key)

def terminationDecoder : Decoder Termination :=
  .lenient "ContainerStateTerminated" (.optional "message" .string .nil)
    fun (message, ()) => ⟨message⟩

def containerDecoder : Decoder ContainerStatus :=
  .lenient "ContainerStatus"
    (.optional "state" (.lenient "ContainerState"
      (.optional "terminated" terminationDecoder .nil) fun (terminated, ()) => terminated) .nil)
    fun (state, ()) => ⟨state.bind id⟩

def statusDecoder : Decoder PodStatus :=
  .lenient "PodStatus"
    (.optional "containerStatuses" containerDecoder.list <| .optional "phase" .string .nil)
    fun (containers, phase, ()) => ⟨phase, containers⟩

def decoder : Decoder Pod :=
  .lenient "Pod"
    (.cons "apiVersion" (.constant "v1") (.blank ()) <|
      .cons "kind" (.constant "Pod") (.blank ()) <| .optional "metadata" Metadata.decoder <|
      .optional "status" statusDecoder .nil)
    fun ((), (), metadata, status, ()) => (⟨metadata.getD { }, status⟩ : Pod)

def listMetadataDecoder : Decoder Unit :=
  .lenient "ListMeta"
    (.optional "continue" .string <| .optional "remainingItemCount" .int64 <|
      .optional "resourceVersion" .string <| .optional "selfLink" .string .nil)
    fun _ => ()

/-- The list of pods that the API server answers with; no items at all count as none. -/
def listDecoder : Decoder (List Pod) where
  read := do
    match ← Json.Reader.peekToken with
    | some '[' => Json.Reader.fail (.invalidType .sequence "struct ObjectList")
    | _ => (Decoder.record "ObjectList"
        (.cons "metadata" listMetadataDecoder (.default ()) <|
          .cons "items" decoder.list.option .refused .nil)
        fun ((), items, ()) => items.getD []).read
  ofJson
    | .object ms => match Json.Members.get? "items" ms with
      | some .null => some []
      | some (.array items) => items.mapM decoder.ofJson
      | _ => none
    | _ => none

end Pod

end EventWiring
