import EventWiring.Json.MergePatch
import EventWiring.World.World

/-!
# Changes by others

What happens to a world between passes: others put, merge into and remove objects, and faults come
and go.
-/

namespace EventWiring

inductive Change where
  | putScheduler (s : Scheduler)
  | put (d : Dependent) (object : d.Object)
  | addPod (p : Pod)
  | mergeScheduler (key : Key) (patch : Json)
  | merge (d : Dependent) (key : Key) (patch : Json)
  | removeScheduler (key : Key)
  | remove (d : Dependent) (key : Key)
  | setPods (pods : List Pod)
  | fail (site : Site) (e : Error)
  | mend (site : Site)
  | break (site : Site)
  | hide (d : Dependent)
  | reveal (d : Dependent)
  /-- From now on reads of a scheduler find this. -/
  | see (key : Key) (s : Option Scheduler)
  /-- From now on reads of a scheduler find what is stored now. -/
  | freeze (key : Key)
  /-- From now on reads of schedulers find what is stored. -/
  | refresh

namespace Stores

def putScheduler (s : Stores) (object : Scheduler) : Stores :=
  { s with schedulers := s.schedulers.put (Key.of object.metadata) object }

def putDependent (s : Stores) (d : Dependent) (object : d.Object) : Stores :=
  s.setDependents d ((s.dependents d).put (Key.of (d.metadata object)) object)

/-- An object with a merge patch applied to its JSON; it stays as it is if that makes no object. -/
def merged {α : Type} (toJson : α → Json) (decoder : Json.Decoder α) (patch : Json) (a : α) : α :=
  (decoder.ofJson (Json.mergePatch patch (toJson a))).getD a

def mergeScheduler (s : Stores) (key : Key) (patch : Json) : Stores :=
  match s.schedulers.get? key with
  | none => s
  | some stored =>
    { s with
      schedulers := s.schedulers.put key
        (merged Scheduler.toJson Scheduler.decoder patch stored) }

def mergeDependent (s : Stores) (d : Dependent) (key : Key) (patch : Json) : Stores :=
  match (s.dependents d).get? key with
  | none => s
  | some stored =>
    s.setDependents d ((s.dependents d).put key (merged d.toJson d.decoder patch stored))

end Stores

namespace World

def mapStores (w : World) (f : Stores → Stores) : World := { w with stores := f w.stores }

def mapFaults (w : World) (f : Faults → Faults) : World := { w with faults := f w.faults }

def change (w : World) : Change → World
  | .putScheduler s => w.mapStores (·.putScheduler s)
  | .put d object => w.mapStores (·.putDependent d object)
  | .addPod p => w.mapStores fun s => { s with pods := s.pods ++ [p] }
  | .mergeScheduler key patch => w.mapStores (·.mergeScheduler key patch)
  | .merge d key patch => w.mapStores (·.mergeDependent d key patch)
  | .removeScheduler key =>
    w.mapStores fun s => { s with schedulers := s.schedulers.erase key }
  | .remove d key => w.mapStores fun s => s.setDependents d ((s.dependents d).erase key)
  | .setPods pods => w.mapStores fun s => { s with pods }
  | .fail site e =>
    w.mapFaults fun f => { f with failing := (site, e) :: f.failing.filter (·.1 ≠ site) }
  | .mend site => w.mapFaults fun f => { f with failing := f.failing.filter (·.1 ≠ site) }
  | .break site => w.mapFaults fun f => { f with broken := site :: f.broken }
  | .hide d => w.mapFaults fun f => { f with hidden := d :: f.hidden }
  | .reveal d => w.mapFaults fun f => { f with hidden := f.hidden.filter (· ≠ d) }
  | .see key s => w.mapFaults fun f => { f with seen := f.seen.put key s }
  | .freeze key =>
    w.mapFaults fun f => { f with seen := f.seen.put key (w.stores.schedulers.get? key) }
  | .refresh => w.mapFaults fun f => { f with seen := [] }

/-- Stores with these objects, without faults. -/
def ofObjects (schedulers : List Scheduler) (topics : List Topic)
    (subscriptions : List PullSubscription) (jobs : List Job) (pods : List Pod)
    (recorder : Option Recorder) : World :=
  let s := schedulers.foldl Stores.putScheduler Stores.empty
  let s := topics.foldl (·.putDependent .topic ·) s
  let s := subscriptions.foldl (·.putDependent .pullSubscription ·) s
  let s := jobs.foldl (·.putDependent .job ·) s
  ⟨{ s with pods }, recorder, .none⟩

end World

end EventWiring
