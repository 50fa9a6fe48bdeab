import EventWiring.Text.Blank
import EventWiring.Text.Split

/-!
# Addresses of hosts by number

`Ipv4.parse?` reads one to four numbers in decimal, octal or hexadecimal, of which the last fills
the bytes that are left. `Ipv6.valid` tells the texts of eight groups of hexadecimal digits, of
which one run of zeros may be left out and the last two may be written as an IPv4 address.
-/

namespace EventWiring.Uri

open Text (hexDigit? splitOn)

/-- A number written in a base of at most sixteen. -/
def numeral? (base : Nat) (cs : List Char) : Option Nat :=
  cs.foldlM (fun n c => do
    let d ← hexDigit? c
    if d < base then some (n * base + d) else none) 0

namespace Ipv4

/-- One part of an address; `0x` starts a hexadecimal and `0` an octal number. -/
def part? (cs : List Char) : Option Nat :=
  match cs with
  | [] => none
  | '0' :: 'x' :: rest | '0' :: 'X' :: rest => numeral? 16 rest
  | '0' :: rest => numeral? 8 rest
  | cs => numeral? 10 cs

/-- The parts between the dots; a dot at the end counts for nothing. -/
def parts (cs : List Char) : List (List Char) :=
  let ps := splitOn '.' cs
  if 1 < ps.length ∧ ps.getLast? = some [] then ps.dropLast else ps

/-- A domain whose last part is a number can only be an address. -/
def endsInNumber (cs : List Char) : Bool :=
  match (parts cs).getLast? with
  | some last =>
    (!last.isEmpty && last.all fun c => (Text.digit? c).isSome) || (part? last).isSome
  | none => false

def parse? (cs : List Char) : Option Nat := do
  let ps := parts cs
  if 4 < ps.length then none
  let numbers ← ps.mapM part?
  let last ← numbers.getLast?
  let front := numbers.dropLast
  if front.any (255 < ·) ∨ Nat.pow 256 (4 - front.length) ≤ last then none
  else return front.foldl (fun sum n => sum * 256 + n) 0 * Nat.pow 256 (4 - front.length) + last

end Ipv4

namespace Ipv6

/-- One to four hexadecimal digits. -/
def isGroup (cs : List Char) : Bool :=
  !cs.isEmpty && cs.length ≤ 4 && cs.all fun c => (hexDigit? c).isSome

/-- Four decimal numbers below 256 without leading zeros. -/
def isQuad (cs : List Char) : Bool :=
  let ps := splitOn '.' cs
  ps.length = 4 && ps.all fun p =>
    match p with
    | [] => false
    | ['0'] => true
    | '0' :: _ => false
    | p => match numeral? 10 p with
      | some n => n < 256
      | none => false

/-- The number of groups between colons, the last of which may be an IPv4 address of two groups. -/
def groupCount? : List (List Char) → Option Nat
  | [] => some 0
  | [last] => if isGroup last then some 1 else if isQuad last then some 2 else none
  | part :: rest => if isGroup part then (groupCount? rest).map (· + 1) else none

/-- Splits at the first two colons in a row. -/
def splitGap : List Char → Option (List Char × List Char)
  | ':' :: ':' :: rest => some ([], rest)
  | c :: rest => (splitGap rest).map fun (before, after) => (c :: before, after)
  | [] => none

def groups (cs : List Char) : List (List Char) := if cs.isEmpty then [] else splitOn ':' cs

/-- Before the gap only groups may stand; the gap stands for one group at least. -/
def valid (cs : List Char) : Bool :=
  match splitGap cs with
  | none => groupCount? (groups cs) = some 8
  | some (before, after) =>
    (groups before).all isGroup &&
      match groupCount? (groups after) with
      | some n => (groups before).length + n ≤ 7
      | none => false

end Ipv6

end EventWiring.Uri
