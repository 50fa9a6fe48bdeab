import EventWiring.Text.Blank

/-!
# Decimal numerals

Numbers written with decimal digits and at most one sign. The first character that is no digit is
noticed before the number grows too large.
-/

namespace EventWiring.Text.Numeral

inductive Failure where
  | empty
  | invalidDigit
  | tooLarge
  | tooSmall
deriving DecidableEq, Repr

def Failure.message : Failure → String
  | .empty => "cannot parse integer from empty string"
  | .invalidDigit => "invalid digit found in string"
  | .tooLarge => "number too large to fit in target type"
  | .tooSmall => "number too small to fit in target type"

/-- Appends digits to a number that has to stay below a limit. -/
def append (limit : Nat) (excess : Failure) (n : Nat) : List Char → Except Failure Nat
  | [] => .ok n
  | c :: rest =>
    match digit? c with
    | none => .error .invalidDigit
    | some d =>
      if limit ≤ n * 10 + d then .error excess else append limit excess (n * 10 + d) rest

/-- One digit at least. -/
def digits (limit : Nat) (excess : Failure) (cs : List Char) : Except Failure Nat :=
  if cs.isEmpty then .error .invalidDigit else append limit excess 0 cs

/-- A number below 2⁶⁴, with or without a plus sign. -/
def word64 : List Char → Except Failure Nat
  | [] => .error .empty
  | '+' :: rest => digits (Nat.pow 2 64) .tooLarge rest
  | cs => digits (Nat.pow 2 64) .tooLarge cs

/-- A number from -2⁶³ to 2⁶³ - 1. -/
def int64 : List Char → Except Failure Int
  | [] => .error .empty
  | '+' :: rest => (digits (Nat.pow 2 63) .tooLarge rest).map Int.ofNat
  | '-' :: rest => (digits (Nat.pow 2 63 + 1) .tooSmall rest).map fun n => -(n : Int)
  | cs => (digits (Nat.pow 2 63) .tooLarge cs).map Int.ofNat

end EventWiring.Text.Numeral
