import EventWiring.Text.Numeral

/-!
# Durations

A duration is written as a sum of whole numbers of units, such as `1h 30m`. `Duration.render` writes
it in the largest unit that divides it, `Duration.decimal` as a decimal fraction of the largest unit
from nanoseconds to seconds that it fills.
-/

namespace EventWiring

structure Duration where
  nanos : Nat
deriving DecidableEq, Repr

namespace Duration

def nanosPerSecond : Nat := 1000000000

def ofSeconds (n : Nat) : Duration := ⟨n * nanosPerSecond⟩

/-- Why a text is no duration. -/
inductive Failure where
  | number (failure : Text.Numeral.Failure)
  | unit
  | tooLarge
deriving DecidableEq, Repr

def Failure.message : Failure → String
  | .number failure => failure.message
  | .unit =>
    "missing time duration format, must be multiples of `[0-9]+(ns|us|ms|[smhdwy])`"
  | .tooLarge => "number is too large to fit in target type"

/-- The units from the largest down, with their nanoseconds; a year is a tropical one. -/
def units : List (String × Nat) :=
  [("y", 31556926 * nanosPerSecond), ("w", 604800 * nanosPerSecond), ("d", 86400 * nanosPerSecond),
    ("h", 3600 * nanosPerSecond), ("m", 60 * nanosPerSecond), ("s", nanosPerSecond),
    ("ms", 1000000), ("us", 1000), ("ns", 1)]

/-- All durations are shorter than this many seconds. -/
def secondLimit : Nat := Nat.pow 2 64

/-- A number and the unit behind it. -/
structure Term where
  number : List Char
  unit : List Char

/-- Puts a character in front of the terms that follow it. -/
def Term.cons (c : Char) : List Term → List Term
  | [] => if Text.numeric.contains c then [⟨[c], []⟩] else [⟨[], [c]⟩]
  | t :: ts =>
    if Text.numeric.contains c then ⟨c :: t.number, t.unit⟩ :: ts
    else if t.number.isEmpty then ⟨[], c :: t.unit⟩ :: ts
    else ⟨[], [c]⟩ :: t :: ts

/-- The terms of a text: wherever a number begins, a term begins. -/
def terms (cs : List Char) : List Term :=
  match cs.foldr Term.cons [] with
  | [] => [⟨[], []⟩]
  | ts => ts

def Term.nanos (t : Term) : Except Failure Nat :=
  match Text.Numeral.word64 t.number with
  | .error failure => .error (.number failure)
  | .ok n =>
    match units.lookup (String.ofList t.unit) with
    | none => .error .unit
    | some size =>
      if secondLimit * nanosPerSecond ≤ n * size then .error .tooLarge else .ok (n * size)

/-- Adds terms up as long as the sum stays within the limit. -/
def sum (sofar : Nat) : List Term → Except Failure Nat
  | [] => .ok sofar
  | t :: ts => do
    let n ← t.nanos
    if secondLimit * nanosPerSecond ≤ sofar + n then .error .tooLarge else sum (sofar + n) ts

/-- Blanks do not count, wherever they stand. -/
def parse (s : String) : Except Failure Duration :=
  (sum 0 (terms (s.toList.filter (!Text.blank.contains ·)))).map Duration.mk

def render (d : Duration) : String :=
  match units.find? fun (_, size) => d.nanos % size = 0 with
  | some (unit, size) => toString (d.nanos / size) ++ unit
  | none => toString d.nanos ++ "ns"

/-- The digits after the point, without the zeros at the end. -/
def fraction (width n : Nat) : List Char :=
  let digits := Nat.toDigits 10 n
  let padded := List.replicate (width - digits.length) '0' ++ digits
  (padded.reverse.dropWhile (· = '0')).reverse

/-- So many units of `10 ^ width` nanoseconds. -/
def decimalIn (width : Nat) (unit : String) (nanos : Nat) : String :=
  let rest := fraction width (nanos % Nat.pow 10 width)
  toString (nanos / Nat.pow 10 width) ++
    (if rest.isEmpty then "" else "." ++ String.ofList rest) ++ unit

def decimal (d : Duration) : String :=
  if nanosPerSecond ≤ d.nanos then decimalIn 9 "s" d.nanos
  else if 1000000 ≤ d.nanos then decimalIn 6 "ms" d.nanos
  else if 1000 ≤ d.nanos then decimalIn 3 "µs" d.nanos
  else decimalIn 0 "ns" d.nanos

end Duration

end EventWiring
