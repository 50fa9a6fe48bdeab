import EventWiring.Text.Blank
import EventWiring.Text.Split

/-!
# Tables of characters

A `Block` says of each character of a range which characters stand for it. A table is a list of
blocks in ascending order.
-/

namespace EventWiring.Text

/-- The entries are parted by blanks. Each is a sequence of code points in hexadecimal, joined by
plus signs. -/
structure Block where
  first : Nat
  last : Nat
  entries : String

namespace Block

def code (digits : List Char) : Nat :=
  digits.foldl (fun n c => n * 16 + (hexDigit? c).getD 0) 0

def sequences (b : Block) : List (List Nat) :=
  (splitOn ' ' b.entries.toList).map fun entry => (splitOn '+' entry).map code

/-- What stands for a code point; the blocks after its own need no look. -/
def find? : List Block → Nat → Option (List Nat)
  | [], _ => none
  | b :: rest, n =>
    if n < b.first then none
    else if n ≤ b.last then b.sequences[n - b.first]?
    else find? rest n

/-- The first code point that a sequence stands for. -/
def inverse? : List Block → List Nat → Option Nat
  | [], _ => none
  | b :: rest, codes =>
    match b.sequences.idxOf? codes with
    | some i => some (b.first + i)
    | none => inverse? rest codes

end Block

end EventWiring.Text
