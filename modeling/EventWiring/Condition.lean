import EventWiring.Json.Record

/-!
# Conditions

A condition is one line of a status: its type, whether it holds, why, and when that last changed.
A status keeps a list of them, of which the first of a type counts.

`Ready` is never set by itself: every mark derives it from the conditions it depends on.
-/

namespace EventWiring

structure Condition where
  type : String
  status : String
  reason : Option String
  message : Option String
  lastTransitionTime : Option String
deriving DecidableEq, Repr

namespace Condition

def isTrue : String := "True"

def isFalse : String := "False"

def isUnknown : String := "Unknown"

def ready : String := "Ready"

def toJson (c : Condition) : Json :=
  .object ([("type", .string c.type), ("status", .string c.status)] ++
    Json.member? "reason" (c.reason.map .string) ++
    Json.member? "message" (c.message.map .string) ++
    Json.member? "lastTransitionTime" (c.lastTransitionTime.map .string))

open Json in
def decoder : Decoder Condition :=
  .record "Condition"
    (.cons "type" .string .refused <| .cons "status" .string .refused <|
      .cons "reason" Decoder.string.option (.blank none) <|
      .cons "message" Decoder.string.option (.blank none) <|
      .cons "lastTransitionTime" Decoder.string.option (.blank none) .nil)
    fun (type, status, reason, message, time, ()) => ⟨type, status, reason, message, time⟩

end Condition

/-- What the clock reads at the successive stamps of one operation. -/
abbrev Readings := Nat → String

abbrev Conditions := List Condition

namespace Conditions

def get? (cs : Conditions) (type : String) : Option Condition := cs.find? (·.type = type)

def isTrue (cs : Conditions) (type : String) : Bool :=
  (cs.get? type).any (·.status = Condition.isTrue)

/-- Writes a condition over the first of its type, or at the end. A condition whose status stays
as it was keeps its time. -/
def upsert : Conditions → Condition → Conditions
  | [], new => [new]
  | c :: rest, new =>
    if c.type = new.type then
      (if c.status = new.status then { c with reason := new.reason, message := new.message }
        else new) :: rest
    else c :: upsert rest new

/-- Takes over the time of every condition whose type and status stood in `previous`. -/
def restoreTimes (cs previous : Conditions) : Conditions :=
  cs.map fun c =>
    match previous.find? fun p => p.type = c.type && p.status = c.status with
    | some old => { c with lastTransitionTime := old.lastTransitionTime }
    | none => c

/-- A condition that starts at `time` to be neither true nor false. -/
def unknown (time : String) (type : String) : Condition :=
  ⟨type, Condition.isUnknown, none, none, some time⟩

/-- The dependents and `Ready`, each with the reading that stamps it. -/
def stamped (dependents : List String) (clock : Readings) : List (String × String) :=
  (dependents ++ [Condition.ready]).mapIdx fun i type => (type, clock i)

/-- Adds every condition that is missing as unknown. -/
def establish (cs : Conditions) (dependents : List String) (clock : Readings) : Conditions :=
  (stamped dependents clock).foldl
    (fun cs (type, time) =>
      if (cs.get? type).isNone then cs.upsert (unknown time type) else cs) cs

/-- Makes every dependent and `Ready` unknown. -/
def reset (cs : Conditions) (dependents : List String) (clock : Readings) : Conditions :=
  (stamped dependents clock).foldl (fun cs (type, time) => cs.upsert (unknown time type)) cs

/-- All dependents hold. -/
def happy (cs : Conditions) (dependents : List String) : Bool := dependents.all cs.isTrue

/-- The dependent that explains why not all hold: the first false one, else the first that is not
true. -/
def culprit (cs : Conditions) (dependents : List String) : Option Condition :=
  let present := dependents.filterMap cs.get?
  (present.find? (·.status = Condition.isFalse)).or (present.find? (·.status ≠ Condition.isTrue))

/-- What `Ready` says of the dependents. -/
def derivedReady (cs : Conditions) (dependents : List String) (time : String) : Condition :=
  if cs.happy dependents then ⟨Condition.ready, Condition.isTrue, none, none, some time⟩
  else match cs.culprit dependents with
    | some c => ⟨Condition.ready, c.status, c.reason, c.message, some time⟩
    | none => unknown time Condition.ready

/-- Writes a condition, and then `Ready` as it follows from the dependents. -/
def mark (cs : Conditions) (dependents : List String) (clock : Readings) (type status : String)
    (reason message : Option String) : Conditions :=
  let cs := cs.upsert ⟨type, status, reason, message, some (clock 0)⟩
  cs.upsert (cs.derivedReady dependents (clock 1))

def markTrue (cs : Conditions) (dependents : List String) (clock : Readings) (type : String) :
    Conditions :=
  cs.mark dependents clock type Condition.isTrue none none

def markFalse (cs : Conditions) (dependents : List String) (clock : Readings)
    (type reason message : String) : Conditions :=
  cs.mark dependents clock type Condition.isFalse (some reason) (some message)

def toJson (cs : Conditions) : Json := .array (cs.map Condition.toJson)

def decoder : Json.Decoder Conditions := Condition.decoder.list

end Conditions

end EventWiring
