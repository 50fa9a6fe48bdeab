import EventWiring.Api.Response
import EventWiring.Program

/-!
# Requests

The requests that carry out the calls of a program, and how the responses to them answer the calls.
Reads of schedulers and events are no matter of requests here.
-/

namespace EventWiring.Api

inductive Method where
  | get
  | post
  | delete
  | patch
deriving DecidableEq, Repr

def Method.name : Method → String
  | .get => "GET"
  | .post => "POST"
  | .delete => "DELETE"
  | .patch => "PATCH"

def Method.contentType? : Method → Option String
  | .get => none
  | .post | .delete => some "application/json"
  | .patch => some "application/merge-patch+json"

structure Request where
  method : Method
  target : Target
  body : Option Json

namespace Request

def build (method : Method) (target : Target) (body : Option Json) : Except Failure Request :=
  match target.defect? with
  | some defect => .error (.unsendable ("failed to build request: " ++ defect))
  | none => .ok ⟨method, target, body⟩

/-- A request about one object, which must have a name. -/
def about (name : String) (method : Method) (target : Target) (body : Option Json) :
    Except Failure Request :=
  if name = "" then .error (.unsendable "failed to validate request: A non-empty name is required")
  else build method target body

/-- The merge patch that replaces the status of a scheduler that is still at its version. -/
def statusPatch (s : Scheduler) : Json :=
  .object [("metadata",
      .object [("resourceVersion", Json.orNull (s.metadata.resourceVersion.map .string))]),
    ("status", Json.orNull (s.status.map SchedulerStatus.toJson))]

def patchScheduler (space name : String) (patch : Json) : Except Failure Request :=
  about name .patch ((schedulers space).below name).asking (some patch)

def statusTarget (s : Scheduler) : Target :=
  (((schedulers s.space).below s.displayName).below "status").asking

def updateStatus (s : Scheduler) : Except Failure Request :=
  about s.displayName .patch (statusTarget s) (some (statusPatch s))

def get (d : Dependent) (space name : String) : Except Failure Request :=
  about name .get ((dependents d space).below name) none

def create (d : Dependent) (space : String) (object : d.Object) : Except Failure Request :=
  build .post (dependents d space).asking (some (d.toJson object))

/-- What belongs to the object is deleted after it. -/
def delete (d : Dependent) (space name : String) : Except Failure Request :=
  about name .delete ((dependents d space).below name).asking
    (some (.object [("propagationPolicy", .string "Background")]))

def listPods (space selector : String) : Except Failure Request :=
  build .get ((pods space).asking.adding "labelSelector" selector) none

/-- The request for a call, if it takes one. -/
def for? : Call → Option (Except Failure Request)
  | .getScheduler _ _ => none
  | .patchScheduler space name patch => some (patchScheduler space name patch.toJson)
  | .updateStatus s => some (updateStatus s)
  | .get d space name => some (get d space name)
  | .create d space object => some (create d space object)
  | .delete d space name => some (delete d space name)
  | .listPods space selector => some (listPods space selector)
  | .publish _ => none

end Request

namespace Response

def readScheduler (r : Response) : Except Error Scheduler :=
  (r.read Scheduler.decoder).mapError .api

/-- An object that is not found is none; the server says so in words. -/
def readGet (d : Dependent) (r : Response) : Except Error (Option d.Object) :=
  match r.read d.decoder with
  | .ok object => .ok (some object)
  | .error (.refused refusal) =>
    if refusal.reason = "NotFound" then .ok none else .error (.api (.refused refusal))
  | .error failure => .error (.api failure)

def readCreate (d : Dependent) (space : String) (object : d.Object) (r : Response) :
    Except Error d.Object :=
  match r.read d.decoder with
  | .ok created => .ok created
  | .error (.refused refusal) =>
    if refusal.code = 409 then
      .error (.alreadyExists (d.kind ++ " " ++ space ++ "/" ++ (d.metadata object).displayName))
    else .error (.api (.refused refusal))
  | .error failure => .error (.api failure)

/-- The body of a deletion is the object on its way out, or else an outcome. -/
def readDeletion (d : Dependent) (r : Response) : Except Failure Unit := do
  let body ← r.read .any
  if body.get? "kind" = some (.string "Status") then
    (r.read Outcome.decoder).map fun _ => ()
  else (r.read d.decoder).map fun _ => ()

/-- Nothing to delete is no failure. -/
def readDelete (d : Dependent) (r : Response) : Except Error Bool :=
  match r.readDeletion d with
  | .ok () => .ok true
  | .error (.refused refusal) =>
    if refusal.code = 404 then .ok false else .error (.api (.refused refusal))
  | .error failure => .error (.api failure)

def readPods (r : Response) : Except Error (List Pod) := (r.read Pod.listDecoder).mapError .api

end Response

end EventWiring.Api
