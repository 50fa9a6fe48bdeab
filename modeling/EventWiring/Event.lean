import EventWiring.Api.Target
import EventWiring.Finalizer

/-!
# Events

An event tells the users of an object what was done with it. The recorder publishes an event of a
new kind as an object of its own; when one of the same kind comes again it raises the count of the
first.
-/

namespace EventWiring

inductive Severity where
  | normal
  | warning
deriving DecidableEq, Repr

def Severity.name : Severity → String
  | .normal => "Normal"
  | .warning => "Warning"

/-- What an event is about. -/
structure ObjectReference where
  apiVersion : String
  kind : String
  name : Option String
  space? : Option String
  uid : Option String
deriving DecidableEq, Repr

namespace ObjectReference

def toJson (r : ObjectReference) : Json :=
  .object ([("apiVersion", .string r.apiVersion), ("kind", .string r.kind)] ++
    Json.member? "name" (r.name.map .string) ++
    Json.member? "namespace" (r.space?.map .string) ++
    Json.member? "uid" (r.uid.map .string))

end ObjectReference

def Scheduler.reference (s : Scheduler) : ObjectReference :=
  ⟨apiVersion, "Scheduler", s.metadata.name, s.metadata.space?, s.metadata.uid⟩

structure Event where
  severity : Severity
  reason : String
  action : String
  note : String
  regarding : ObjectReference
deriving DecidableEq, Repr

namespace Event

/-- Events of one kind differ in their notes at most. -/
def sameKind (e f : Event) : Bool :=
  e.severity = f.severity && e.reason = f.reason && e.action = f.action &&
    e.regarding = f.regarding

def ready (s : Scheduler) : Event where
  severity := .normal
  reason := "SchedulerReady"
  action := "Reconciled"
  note := "Scheduler " ++ s.displayName ++ " is ready"
  regarding := s.reference

def deleteRequested (s : Scheduler) : Event where
  severity := .normal
  reason := "DeleteRequested"
  action := "Deleting"
  note := "Delete `" ++ s.displayName ++ "`"
  regarding := s.reference

def updateFailed (s : Scheduler) (failure : String) : Event where
  severity := .warning
  reason := "UpdateFailed"
  action := "UpdateStatus"
  note := "Failed to update status: " ++ failure
  regarding := s.reference

end Event

/-- An event as it is sent: the first time without a count, later with how often it came. -/
structure Publication where
  event : Event
  count : Option Nat
deriving DecidableEq, Repr

/-- Publishes events, and knows those that the API server took. -/
structure Recorder where
  accepting : Bool
  published : List Publication
deriving DecidableEq, Repr

namespace Recorder

/-- The name that the controller reports events under. -/
def reporter : String := "cloud-run-events-scheduler-source-controller"

/-- How an event is to be sent; one that comes again keeps the note of the first. -/
def publication (r : Recorder) (e : Event) : Publication :=
  match r.published.find? (·.event.sameKind e) with
  | some p => { p with count := some (p.count.getD 1 + 1) }
  | none => ⟨e, none⟩

/-- The object of an event is named after what it is about and the time. -/
def nameSuffix : String := ".0000000000000000"

def target (p : Publication) : Api.Target :=
  let all := Api.events (p.event.regarding.space?.getD "default")
  match p.count with
  | none => all.asking
  | some _ => (all.below (p.event.regarding.name.getD reporter ++ nameSuffix)).asking

def remember (r : Recorder) (p : Publication) : Recorder :=
  { r with published := p :: r.published.filter (!·.event.sameKind p.event) }

/-- What is sent, if the target lets it, and the recorder afterwards. -/
def publish (r : Recorder) (e : Event) : Option Publication × Recorder :=
  let p := r.publication e
  if (target p).defect?.isSome then (none, r)
  else (some p, if r.accepting then r.remember p else r)

end Recorder

end EventWiring
