import EventWiring.Resource.Dependent
import EventWiring.Resource.Scheduler
import EventWiring.Uri.Percent

/-!
# Targets of requests

Where the API server keeps objects: a path by group, namespace and kind, and a query. Names go into
the path as they are, so not every name makes a target that can be sent.
-/

namespace EventWiring.Api

/-- A path and, after a question mark, a query. -/
structure Target where
  text : String
deriving DecidableEq, Repr

namespace Target

/-- The objects of a kind in a namespace. -/
def objects (apiVersion plural space : String) : Target :=
  ⟨(if '/' ∈ apiVersion.toList then "/apis/" else "/api/") ++ apiVersion ++ "/namespaces/" ++
    space ++ "/" ++ plural⟩

/-- One step further down the path. -/
def below (t : Target) (name : String) : Target := ⟨t.text ++ "/" ++ name⟩

/-- Opens a query. -/
def asking (t : Target) : Target := ⟨t.text ++ "?"⟩

def adding (t : Target) (name value : String) : Target :=
  ⟨t.text ++ "&" ++ Uri.Form.encode name ++ "=" ++ Uri.Form.encode value⟩

/-- The text up to a number sign, which would start a fragment. -/
def sent (t : Target) : List Char := t.text.toList.takeWhile (· ≠ '#')

def path (t : Target) : String := String.ofList (t.sent.takeWhile (· ≠ '?'))

def query (t : Target) : String := String.ofList ((t.sent.dropWhile (· ≠ '?')).drop 1)

/-- No path may hold blanks, controls, backquotes and angle brackets. -/
def inPath (c : Char) : Bool :=
  let n := c.toNat
  n = 0x21 || n = 0x22 || (0x24 ≤ n && n ≤ 0x3b) || n = 0x3d || (0x40 ≤ n && n ≤ 0x5f) || 0x61 ≤ n

/-- No query may hold blanks, controls, double quotes and angle brackets. -/
def inQuery (c : Char) : Bool :=
  let n := c.toNat
  n = 0x21 || (0x24 ≤ n && n ≤ 0x3b) || n = 0x3d || 0x3f ≤ n

def sizeLimit : Nat := 65534

/-- Why a target cannot be sent. -/
def defect? (t : Target) : Option String :=
  if sizeLimit < t.text.utf8ByteSize then some "uri too long"
  else if t.path.toList.all inPath && t.query.toList.all inQuery then none
  else some "invalid uri character"

end Target

/-- The part of a path that names a kind. -/
def plural : Dependent → String
  | .topic => "topics"
  | .pullSubscription => "pullsubscriptions"
  | .job => "jobs"

def apiVersion : Dependent → String
  | .topic => Topic.apiVersion
  | .pullSubscription => PullSubscription.apiVersion
  | .job => Job.apiVersion

def dependents (d : Dependent) (space : String) : Target :=
  .objects (apiVersion d) (plural d) space

def schedulers (space : String) : Target := .objects Scheduler.apiVersion "schedulers" space

def pods (space : String) : Target := .objects "v1" "pods" space

def events (space : String) : Target := .objects "events.k8s.io/v1" "events" space

end EventWiring.Api
