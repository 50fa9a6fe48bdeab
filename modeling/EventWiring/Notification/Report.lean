import EventWiring.Error
import EventWiring.Json.Printer
import EventWiring.Json.Record
import EventWiring.Resource.Job

/-!
# What a job reports

A job leaves one JSON object as its termination message: whether it succeeded, and the texts that
are not empty. The message must fit into 4096 bytes.
-/

namespace EventWiring.Notification

structure Report where
  success : Bool
  error : String
  notificationId : String
  projectId : String
deriving DecidableEq, Repr

namespace Report

/-- The revision of these rules. It is published, and no message holds it. -/
def protocolVersion : Nat := 1

def sizeLimit : Nat := 4096

def succeeded (notificationId projectId : String) : Report := ⟨true, "", notificationId, projectId⟩

def failed (error projectId : String) : Report := ⟨false, error, "", projectId⟩

/-- A member for a text that is not empty. -/
def textMember (name text : String) : Json.Members :=
  if text = "" then [] else [(name, .string text)]

def toJson (r : Report) : Json :=
  .object ([("result", .bool r.success)] ++ textMember "error" r.error ++
    textMember "notificationId" r.notificationId ++ textMember "projectId" r.projectId)

open Json in
def decoder : Decoder Report :=
  .record "JobResult"
    (.cons "result" .bool .refused <| .cons "error" .string (.default "") <|
      .cons "notificationId" .string (.default "") <|
      .cons "projectId" .string (.default "") .nil)
    fun (success, error, notificationId, projectId, ()) =>
      ⟨success, error, notificationId, projectId⟩

def encode (r : Report) : Except Error String :=
  let message := r.toJson.render
  if sizeLimit < message.utf8ByteSize then .error (.resultTooLarge message.utf8ByteSize sizeLimit)
  else .ok message

def decode (message : String) : Except Error Report :=
  match decoder.decode message with
  | .ok r => .ok r
  | .error f => .error (.malformedResult f.message)

/-- The report, or the failure that it reports. -/
def outcome (r : Report) : Except Error Report :=
  if r.success then .ok r else .error (.jobReported r.error)

end Report

/-- What a path leads to. -/
inductive Place where
  | vacant
  | file (content : String)
  | directory
  /-- The directory that would hold it is missing. -/
  | nowhere
deriving DecidableEq, Repr

def Place.content? : Place → Option String
  | .file content => some content
  | _ => none

/-- Writes a whole file, over what it held. -/
def Place.write (content : String) : Place → Except Error Unit × Place
  | .vacant => (.ok (), .file content)
  | .file _ => (.ok (), .file content)
  | .directory => (.error (.io "Is a directory (os error 21)"), .directory)
  | .nowhere => (.error (.io "No such file or directory (os error 2)"), .nowhere)

/-- Leaves the message of a report at a place; a message that is too large is not written. -/
def Report.write (r : Report) (place : Place) : Except Error Unit × Place :=
  match r.encode with
  | .ok message => place.write message
  | .error e => (.error e, place)

end EventWiring.Notification

namespace EventWiring.Pod

open Notification (Report)

/-- The first container's last words, empty while it runs. -/
def terminationMessage (p : Pod) : String :=
  let containers := (p.status.bind (·.containers)).getD []
  ((containers.head?.bind (·.terminated)).bind (·.message)).getD ""

def hasSucceeded (p : Pod) : Bool := (p.status.bind (·.phase)) = some "Succeeded"

/-- Of several pods the first that succeeded, else the first. -/
def select (pods : List Pod) : Except Error Pod :=
  match (pods.find? hasSucceeded).or pods.head? with
  | some p => .ok p
  | none => .error .podNotFound

def report (p : Pod) : Except Error Report :=
  let message := p.terminationMessage
  if message = "" then .error (.terminationMessageMissing p.metadata.displayName)
  else Report.decode message

end EventWiring.Pod
