import EventWiring.Key
import EventWiring.Ownership
import EventWiring.Program

/-!
# Passes

A pass looks at one scheduler and takes the wiring one step further. What it finds on the way to a
stage is either what the stage yields or a setback, which ends the pass.
-/

namespace EventWiring

/-- What the clock reads, by operation and stamp. -/
abbrev Clock := Nat → Readings

/-- What a pass is told from outside. -/
structure Pass where
  /-- The image of notification jobs. -/
  image : String
  backoffLimit : Int
  clock : Clock

namespace Pass

/-- How a pass ends that does not fail. -/
inductive Ending where
  /-- The wiring is complete. -/
  | converged
  /-- All is undone, and the object is on its way out. -/
  | finalized
deriving DecidableEq, Repr

/-- Why a stage is not reached: what its condition says, and the error of the pass. -/
structure Setback where
  reason : String
  message : String
  error : Error
deriving DecidableEq, Repr

/-- The operation that marks a stage; the clock is read twice before. -/
def moment : Stage → Nat
  | .topic => 2
  | .pullSubscription => 3
  | .notification => 4

def markReady (p : Pass) (status : SchedulerStatus) (stage : Stage) : SchedulerStatus :=
  status.markReady (p.clock (moment stage)) stage

def markSetback (p : Pass) (status : SchedulerStatus) (stage : Stage) (b : Setback) :
    SchedulerStatus :=
  status.markNotReady (p.clock (moment stage)) stage b.reason b.message

/-- Gets an object, or creates it when it is absent. One that is there stays as it is. -/
def ensure (d : Dependent) (space name : String) (desired : Except Error d.Object) :
    Program (Except Error d.Object) := do
  match ← Program.ask (.get d space name) with
  | .error e => return .error e
  | .ok (some existing) => return .ok existing
  | .ok none =>
    match desired with
    | .error e => return .error e
    | .ok object => Program.ask (.create d space object)

end Pass

end EventWiring
