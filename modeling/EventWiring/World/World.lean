import EventWiring.World.Stores

/-!
# Worlds

A world is what a pass meets: the stores, the recorder that publishes its events, and whatever goes
wrong. Calls may fail, and reads may be answered with what the stores held at another time.
-/

namespace EventWiring

/-- The kinds of calls that can fail. -/
inductive Site where
  | getScheduler
  | patchScheduler
  | updateStatus
  | get (dependent : Dependent)
  | create (dependent : Dependent)
  | delete (dependent : Dependent)
  | listPods
deriving DecidableEq, Repr

namespace Call

/-- Events are published without regard to failures. -/
def site? : Call → Option Site
  | getScheduler _ _ => some .getScheduler
  | patchScheduler _ _ _ => some .patchScheduler
  | updateStatus _ => some .updateStatus
  | get d _ _ => some (.get d)
  | create d _ _ => some (.create d)
  | delete d _ _ => some (.delete d)
  | listPods _ _ => some .listPods
  | publish _ => none

end Call

/-- How a store says that it takes no writes of a kind. -/
def Site.breakage? : Site → Option Error
  | .create _ => some (.other "injected create failure")
  | .delete _ => some (.other "injected delete failure")
  | .patchScheduler => some (.other "injected patch failure")
  | _ => none

/-- What goes wrong with calls. -/
structure Faults where
  /-- The calls that fail, and how. -/
  failing : List (Site × Error)
  /-- The writes that the stores do not take. -/
  broken : List Site
  /-- The dependents that no read finds. -/
  hidden : List Dependent
  /-- What reads of schedulers find in place of what is stored. -/
  seen : Store (Option Scheduler)
deriving DecidableEq

namespace Faults

def none : Faults := ⟨[], [], [], []⟩

/-- How calls of a kind fail. -/
def failure? (f : Faults) (site : Site) : Option Error :=
  (f.failing.lookup site).or (if site ∈ f.broken then site.breakage? else .none)

/-- What is read in place of what is stored, if anything. -/
def misread? (f : Faults) : (c : Call) → Option c.Answer
  | .getScheduler space name => (f.seen.get? ⟨space, name⟩).map .ok
  | .get d _ _ => if d ∈ f.hidden then some (.ok .none) else .none
  | _ => .none

/-- The answer that a fault gives to a call. -/
def answer? (f : Faults) (c : Call) : Option c.Answer :=
  ((c.site?.bind f.failure?).map c.failed).or (f.misread? c)

end Faults

structure World where
  stores : Stores
  recorder : Option Recorder
  faults : Faults

namespace World

def publish (w : World) (e : Event) : Option Publication × World :=
  match w.recorder with
  | none => (none, w)
  | some r =>
    let (publication, r) := r.publish e
    (publication, { w with recorder := some r })

/-- Events go to the recorder, and all else to the stores unless a fault comes between. -/
def answer (c : Call) (w : World) : c.Answer × World :=
  match c with
  | .publish e => w.publish e
  | c =>
    match w.faults.answer? c with
    | some reply => (reply, w)
    | none =>
      let (reply, stores) := Stores.answer c w.stores
      (reply, { w with stores })

/-- Runs a program in a world. -/
def run {α : Type} (p : Program α) (w : World) : Program.Run World α := p.run answer w

end World

end EventWiring
