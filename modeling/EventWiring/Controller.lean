import EventWiring.Duration
import EventWiring.Pass.Reconcile

/-!
# The controller

The controller reconciles a scheduler whenever it is triggered for it, and counts the schedulers
that it last saw ready. After a failure it comes back on its own: soon when something is on its way,
later when something broke.
-/

namespace EventWiring

structure Diagnostics where
  /-- How many schedulers were ready when last seen. -/
  ready : Nat
  /-- Their keys, each once. -/
  readyKeys : List String
deriving DecidableEq, Repr

namespace Diagnostics

def blank : Diagnostics := ⟨0, []⟩

def observe (d : Diagnostics) (key : String) (ready : Bool) : Diagnostics :=
  let others := d.readyKeys.filter (· ≠ key)
  let readyKeys := if ready then key :: others else others
  ⟨readyKeys.length, readyKeys⟩

end Diagnostics

/-- When the controller looks at a scheduler again. -/
inductive Requeue where
  /-- Not before it changes. -/
  | onChange
  | after (delay : Duration)
deriving DecidableEq, Repr

def Requeue.name : Requeue → String
  | .onChange => "await_change"
  | .after delay => delay.decimal

structure Controller where
  pass : Pass
  pendingRequeue : Duration
  errorRequeue : Duration

namespace Controller

/-- What is noted of a scheduler before it is worked on. -/
def observe (d : Diagnostics) (s : Scheduler) : Diagnostics :=
  d.observe (Key.queued s.metadata) (!s.metadata.deleting && s.ready)

/-- The work that a scheduler triggers. -/
def trigger (c : Controller) (s : Scheduler) : Program (Except Error Unit) :=
  c.pass.reconcile (Key.queued s.metadata)

/-- What a controller does that is triggered for a scheduler: it notes the scheduler, and then works
on it. -/
def handle (c : Controller) (d : Diagnostics) (s : Scheduler) :
    Diagnostics × Program (Except Error Unit) :=
  (observe d s, c.trigger s)

def requeue (c : Controller) : Except Error Unit → Requeue
  | .ok () => .onChange
  | .error e => .after (if e.pending then c.pendingRequeue else c.errorRequeue)

end Controller

end EventWiring
