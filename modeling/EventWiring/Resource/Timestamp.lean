import EventWiring.Json.Decoder
import EventWiring.Text.Blank

/-!
# Points in time

Times in the metadata of objects are read from RFC 3339 texts with any offset and written in UTC
with whole seconds. A leap second is kept apart from the second that follows it.
-/

namespace EventWiring

/-- Seconds since the start of 1970, in UTC. -/
structure Timestamp where
  seconds : Int
  leap : Bool
deriving DecidableEq, Repr

namespace Timestamp

/-! ### Calendar -/

structure Date where
  year : Int
  month : Nat
  day : Nat
deriving DecidableEq, Repr

def isLeapYear (year : Int) : Bool := year % 4 = 0 && (year % 100 ≠ 0 || year % 400 = 0)

def monthLength (year : Int) (month : Nat) : Nat :=
  if month = 2 then (if isLeapYear year then 29 else 28)
  else if month = 4 ∨ month = 6 ∨ month = 9 ∨ month = 11 then 30 else 31

/-- Days since 1970-01-01, counting years from March. -/
def Date.toDays (d : Date) : Int :=
  let y := if d.month ≤ 2 then d.year - 1 else d.year
  let m : Int := if d.month ≤ 2 then d.month + 9 else d.month - 3
  let era := y.fdiv 400
  let ofEra := y - era * 400
  let ofYear := (153 * m + 2) / 5 + d.day - 1
  era * 146097 + ofEra * 365 + ofEra / 4 - ofEra / 100 + ofYear - 719468

def Date.ofDays (days : Int) : Date :=
  let z := days + 719468
  let era := z.fdiv 146097
  let ofEra := z - era * 146097
  let yearOfEra := (ofEra - ofEra / 1460 + ofEra / 36524 - ofEra / 146096) / 365
  let ofYear := ofEra - (365 * yearOfEra + yearOfEra / 4 - yearOfEra / 100)
  let m := (5 * ofYear + 2) / 153
  let day := (ofYear - (153 * m + 2) / 5 + 1).toNat
  let month := (if m < 10 then m + 3 else m - 9).toNat
  ⟨yearOfEra + era * 400 + (if month ≤ 2 then 1 else 0), month, day⟩

/-! ### Reading -/

def outOfRange : String := "input is out of range"

def invalid : String := "input contains invalid characters"

def tooShort : String := "premature end of input"

abbrev Scan (α : Type) := StateT (List Char) (Except String) α

def isBlank (c : Char) : Bool := Text.blank.contains c

def skipBlank : Scan Unit := modify (List.dropWhile isBlank)

def isDigit (c : Char) : Bool := (Text.digit? c).isSome

/-- A number of at most `width` digits, which must lie between the bounds. -/
def number (width : Nat) (low high : Int) : Scan Int := fun cs =>
  let ds := (cs.take width).takeWhile isDigit
  if cs.isEmpty then .error tooShort
  else if ds.isEmpty then .error invalid
  else
    let n : Nat := (ds.filterMap Text.digit?).foldl (fun n d => n * 10 + d) 0
    if low ≤ (n : Int) ∧ (n : Int) ≤ high then .ok (n, cs.drop ds.length) else .error outOfRange

/-- A year of four digits, or of any number of digits after a sign. -/
def year : Scan Int := fun cs =>
  match cs.dropWhile isBlank with
  | '-' :: rest => (do return -(← number rest.length 0 262143)) rest
  | '+' :: rest => number rest.length 0 262142 rest
  | rest => number 4 0 9999 rest

/-- A number of at most two digits, after blanks. -/
def pair (low high : Int) : Scan Nat := do
  skipBlank
  return (← number 2 low high).toNat

def mark (accepted : Char → Bool) : Scan Unit
  | [] => .error tooShort
  | c :: rest => if accepted c then .ok ((), rest) else .error invalid

/-- The mark between two numbers, which may stand after blanks. -/
def separator (c : Char) : Scan Unit := do
  skipBlank
  mark (· = c)

/-- A fraction of a second, which is dropped. -/
def secondFraction : Scan Unit := fun cs =>
  match cs with
  | '.' :: rest =>
    match rest with
    | [] => .error tooShort
    | c :: _ => if isDigit c then .ok ((), rest.dropWhile isDigit) else .error invalid
  | _ => .ok ((), cs)

/-- Two digits, the first of them at most `most`. -/
def twoDigits (most : Nat) : Scan Nat := fun cs =>
  if Json.Reader.byteCount (cs.take 2) < 2 then .error tooShort
  else match cs with
    | a :: b :: rest =>
      match Text.digit? a, Text.digit? b with
      | some x, some y => if x ≤ most then .ok (x * 10 + y, rest) else .error outOfRange
      | _, _ => .error invalid
    | _ => .error invalid

/-- Seconds east of UTC. -/
def offset : Scan Int := fun cs =>
  match cs with
  | 'Z' :: rest => .ok (0, rest)
  | 'z' :: rest => .ok (0, rest)
  | [] => .error tooShort
  | c :: rest =>
    if (cs.take 3).map Char.toUpper = ['U', 'T', 'C'] then .ok (0, cs.drop 3)
    else
      let distance : Scan Int := do
        let hours ← twoDigits 9
        modify (List.dropWhile fun c => c = ':' || isBlank c)
        return ((hours * 3600 + (← twoDigits 5) * 60 : Nat) : Int)
      if c = '+' then distance rest
      else if c = '-' ∨ c = '\u2212' then (do return -(← distance)) rest
      else .error invalid

def scan : Scan Timestamp := do
  let y ← year
  separator '-'
  let month ← pair 1 12
  separator '-'
  let day ← pair 1 31
  mark fun c => c = 'T' || c = 't' || c = ' '
  let hour ← pair 0 23
  separator ':'
  let minute ← pair 0 59
  separator ':'
  let second ← pair 0 60
  secondFraction
  skipBlank
  let east ← offset
  if !(← get).all isBlank then throw "trailing input"
  if monthLength y month < day then throw outOfRange
  if 86400 ≤ east.natAbs then throw outOfRange
  let leap := second = 60
  let ofDay : Int := hour * 3600 + minute * 60 + (if leap then 59 else second : Nat)
  return ⟨(Date.toDays ⟨y, month, day⟩) * 86400 + ofDay - east, leap⟩

def parse (s : String) : Except String Timestamp := (scan.run s.toList).map (·.1)

/-! ### Writing -/

def padded (width n : Nat) : String :=
  let digits := toString n
  String.ofList (List.replicate (width - digits.length) '0') ++ digits

/-- Four digits, more after a sign. -/
def yearText (y : Int) : String :=
  if 0 ≤ y ∧ y ≤ 9999 then padded 4 y.toNat
  else (if y < 0 then "-" else "+") ++ padded 4 y.natAbs

def render (t : Timestamp) : String :=
  let date := Date.ofDays (t.seconds.fdiv 86400)
  let ofDay := (t.seconds.fmod 86400).toNat
  yearText date.year ++ "-" ++ padded 2 date.month ++ "-" ++ padded 2 date.day ++ "T" ++
    padded 2 (ofDay / 3600) ++ ":" ++ padded 2 (ofDay / 60 % 60) ++ ":" ++
    padded 2 (ofDay % 60 + (if t.leap then 1 else 0)) ++ "Z"

def toJson (t : Timestamp) : Json := .string t.render

def decoder : Json.Decoder Timestamp :=
  Json.Decoder.text "an RFC 3339 formatted date and time string" parse

end Timestamp

end EventWiring
