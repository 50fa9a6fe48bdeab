import EventWiring.Program
import EventWiring.Text.Numeral
import EventWiring.World.Store

/-!
# Objects in memory

`Stores.answer` answers the calls of a program from stores in memory, as the API server would: a
write to a scheduler gives it a new version, and a status is stored only over the version that it
was computed from.
-/

namespace EventWiring

structure Stores where
  schedulers : Store Scheduler
  topics : Store Topic
  pullSubscriptions : Store PullSubscription
  jobs : Store Job
  /-- In the order in which they came. -/
  pods : List Pod
deriving DecidableEq

namespace Stores

def empty : Stores := ⟨[], [], [], [], []⟩

def dependents (s : Stores) : (d : Dependent) → Store d.Object
  | .topic => s.topics
  | .pullSubscription => s.pullSubscriptions
  | .job => s.jobs

def setDependents (s : Stores) : (d : Dependent) → Store d.Object → Stores
  | .topic, store => { s with topics := store }
  | .pullSubscription, store => { s with pullSubscriptions := store }
  | .job, store => { s with jobs := store }

@[simp] theorem dependents_setDependents (s : Stores) (d : Dependent) (store : Store d.Object) :
    (s.setDependents d store).dependents d = store := by
  cases d <;> rfl

theorem dependents_setDependents_of_ne (s : Stores) {d e : Dependent} (h : e ≠ d)
    (store : Store d.Object) : (s.setDependents d store).dependents e = s.dependents e := by
  cases d <;> cases e <;> first | rfl | exact absurd rfl h

@[simp] theorem schedulers_setDependents (s : Stores) (d : Dependent) (store : Store d.Object) :
    (s.setDependents d store).schedulers = s.schedulers := by
  cases d <;> rfl

@[simp] theorem pods_setDependents (s : Stores) (d : Dependent) (store : Store d.Object) :
    (s.setDependents d store).pods = s.pods := by
  cases d <;> rfl

/-- The next version, a word of 64 bits; one that is no number counts as zero. -/
def nextVersion (version : Option String) : String :=
  match Text.Numeral.word64 (version.getD "").toList with
  | .ok n => toString ((n + 1) % Nat.pow 2 64)
  | .error _ => "1"

def bumped (s : Scheduler) : Scheduler :=
  { s with metadata.resourceVersion := some (nextVersion s.metadata.resourceVersion) }

def patchScheduler (s : Stores) (key : Key) (patch : FinalizerPatch) :
    Except Error Scheduler × Stores :=
  match s.schedulers.get? key with
  | none => (.error (.other (key.path ++ " not found")), s)
  | some stored =>
    let patched := bumped { stored with metadata.finalizers := some patch.finalizers }
    (.ok patched, { s with schedulers := s.schedulers.put key patched })

def updateStatus (s : Stores) (desired : Scheduler) : Except Error Scheduler × Stores :=
  let key := Key.of desired.metadata
  match s.schedulers.get? key with
  | none => (.error (.other (key.name ++ " not found")), s)
  | some stored =>
    if stored.metadata.resourceVersion ≠ desired.metadata.resourceVersion then
      (.error (.other "resourceVersion conflict"), s)
    else
      let updated := bumped { stored with status := desired.status }
      (.ok updated, { s with schedulers := s.schedulers.put key updated })

/-- An object is stored under its own key. -/
def create (s : Stores) (d : Dependent) (object : d.Object) : Except Error d.Object × Stores :=
  let key := Key.of (d.metadata object)
  match (s.dependents d).get? key with
  | some _ => (.error (.alreadyExists (d.kind ++ " " ++ key.path)), s)
  | none => (.ok object, s.setDependents d ((s.dependents d).put key object))

/-- Whether there was anything to delete. -/
def delete (s : Stores) (d : Dependent) (key : Key) : Bool × Stores :=
  (((s.dependents d).get? key).isSome, s.setDependents d ((s.dependents d).erase key))

/-- The labels that a selector asks for; a part without an equals sign asks for nothing. -/
def wantedLabels (selector : String) : List (String × String) :=
  (Text.splitOn ',' selector.toList).filterMap fun part =>
    match part.dropWhile (· ≠ '=') with
    | _ :: value => some (String.ofList (part.takeWhile (· ≠ '=')), String.ofList value)
    | [] => none

def selected (selector : String) (p : Pod) : Bool :=
  (wantedLabels selector).all fun (key, value) => p.label? key = some value

def listPods (s : Stores) (space selector : String) : List Pod :=
  s.pods.filter fun p => p.metadata.space? = some space && selected selector p

/-- Nobody hears of events here. -/
def answer : (c : Call) → Stores → c.Answer × Stores
  | .getScheduler space name, s => (.ok (s.schedulers.get? ⟨space, name⟩), s)
  | .patchScheduler space name patch, s => s.patchScheduler ⟨space, name⟩ patch
  | .updateStatus desired, s => s.updateStatus desired
  | .get d space name, s => (.ok ((s.dependents d).get? ⟨space, name⟩), s)
  | .create d _ object, s => s.create d object
  | .delete d space name, s =>
    let (found, s) := s.delete d ⟨space, name⟩
    (.ok found, s)
  | .listPods space selector, s => (.ok (s.listPods space selector), s)
  | .publish _, s => (none, s)

end Stores

end EventWiring
