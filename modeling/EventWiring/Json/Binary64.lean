/-!
# Binary floating point numbers of 64 bits

A finite number is `± mantissa · 2 ^ exponent` with fewer than 54 bits of mantissa. Products and
quotients are computed exactly and rounded once, to the nearest number and on a tie to the even
mantissa. `render` writes the fewest decimal digits that read back.
-/

namespace EventWiring.Json

structure Binary64 where
  negative : Bool
  mantissa : Nat
  exponent : Int
deriving DecidableEq, Repr

namespace Binary64

/-- The exponent of the last bit of the smallest numbers. -/
def leastExponent : Int := -1074

/-- The exponent of the last bit of the largest numbers. -/
def greatestExponent : Int := 971

/-- `num · 2 ^ shift` and `den` with the power of two on the side where it is whole. -/
def scale (num den : Nat) (shift : Int) : Nat × Nat :=
  if 0 ≤ shift then (num * Nat.pow 2 shift.toNat, den) else (num, den * Nat.pow 2 (-shift).toNat)

/-- The quotient rounded to the nearest whole number, a half to the even neighbour. -/
def divideEven (num den : Nat) : Nat :=
  let q := num / den
  let r := num % den
  if 2 * r < den ∨ (2 * r = den ∧ q % 2 = 0) then q else q + 1

/-- The number nearest to `num / den`, or `none` where that is beyond the largest number. -/
def ofRatio (negative : Bool) (num den : Nat) : Option Binary64 :=
  if num = 0 then some ⟨negative, 0, 0⟩
  else
    let guess : Int := max ((num.log2 : Int) - den.log2 - 52) leastExponent
    let (n, d) := scale num den (-guess)
    let exponent := if n / d < Nat.pow 2 52 ∧ leastExponent < guess then guess - 1 else guess
    let (n, d) := scale num den (-exponent)
    let m := divideEven n d
    let (m, exponent) := if m = Nat.pow 2 53 then (Nat.pow 2 52, exponent + 1) else (m, exponent)
    if greatestExponent < exponent then none else some ⟨negative, m, exponent⟩

def ofNat (n : Nat) : Option Binary64 := ofRatio false n 1

/-- The power of ten as a number of this format. -/
def powerOfTen (k : Nat) : Option Binary64 := ofNat (Nat.pow 10 k)

def mul (x y : Binary64) : Option Binary64 :=
  let (n, d) := scale (x.mantissa * y.mantissa) 1 (x.exponent + y.exponent)
  ofRatio (x.negative != y.negative) n d

def div (x y : Binary64) : Option Binary64 :=
  let (n, d) := scale x.mantissa y.mantissa (x.exponent - y.exponent)
  ofRatio (x.negative != y.negative) n d

def neg (x : Binary64) : Binary64 := { x with negative := !x.negative }

/-! ### Shortest digits -/

/-- Twice the numerator of the bounds between which a decimal reads back, over a common
denominator: the halves of the gaps to the two neighbours. -/
structure Interval where
  low : Nat
  value : Nat
  high : Nat
  den : Nat
  closed : Bool

/-- The gap below a power of two is half the gap above it. -/
def interval (x : Binary64) : Interval :=
  let below := if x.mantissa = Nat.pow 2 52 ∧ leastExponent < x.exponent then 1 else 2
  let (v, d) := scale (4 * x.mantissa) 4 x.exponent
  let (lo, _) := scale (4 * x.mantissa - below) 4 x.exponent
  let (hi, _) := scale (4 * x.mantissa + 2) 4 x.exponent
  ⟨lo, v, hi, d, x.mantissa % 2 = 0⟩

/-- The decimal `digits · 10 ^ exponent`. -/
structure Decimal where
  digits : Nat
  exponent : Int
deriving DecidableEq, Repr

/-- Is `digits · num / den` within the bounds? -/
def Interval.holds (i : Interval) (digits num den : Nat) : Bool :=
  let c := digits * num * i.den
  if i.closed then i.low * den ≤ c && c ≤ i.high * den else i.low * den < c && c < i.high * den

/-- The nearest point of the grid of `10 ^ exponent` that reads back, if any does. -/
def Interval.onGrid (i : Interval) (exponent : Int) : Option Decimal :=
  let num := if 0 ≤ exponent then Nat.pow 10 exponent.toNat else 1
  let den := if 0 ≤ exponent then 1 else Nat.pow 10 (-exponent).toNat
  let down := i.value * den / (i.den * num)
  match i.holds down num den, i.holds (down + 1) num den with
  | true, true => some ⟨divideEven (i.value * den) (i.den * num), exponent⟩
  | true, false => some ⟨down, exponent⟩
  | false, true => some ⟨down + 1, exponent⟩
  | false, false => none

/-- The number of decimal digits before the point, at most zero for numbers below one. -/
def Interval.magnitude (i : Interval) : Int :=
  if i.den ≤ i.value then (toString (i.value / i.den)).length
  else 1 - (toString ((i.den - 1) / i.value)).length

/-- Grids of ever more digits, seventeen of which always suffice. -/
def Interval.shortest (i : Interval) : Nat → Decimal
  | 0 => (i.onGrid (i.magnitude - 17)).getD ⟨0, 0⟩
  | n + 1 => (i.onGrid (i.magnitude - (17 - (n + 1 : Nat) : Int))).getD (i.shortest n)

/-- Drops the zeros at the end, of which there are at most `n`. -/
def Decimal.trim (d : Decimal) : Nat → Decimal
  | 0 => d
  | n + 1 => if d.digits % 10 = 0 ∧ d.digits ≠ 0 then
      Decimal.trim ⟨d.digits / 10, d.exponent + 1⟩ n else d

def zeros (n : Nat) : List Char := List.replicate n '0'

/-- Positional from `0.00001` up to sixteen digits before the point, scientific beyond. -/
def Decimal.chars (d : Decimal) : List Char :=
  let digits := (toString d.digits).toList
  let point : Int := digits.length + d.exponent
  if 0 ≤ d.exponent ∧ point ≤ 16 then digits ++ zeros d.exponent.toNat ++ ['.', '0']
  else if 0 < point ∧ point ≤ 16 then
    digits.take point.toNat ++ '.' :: digits.drop point.toNat
  else if -5 < point ∧ point ≤ 0 then '0' :: '.' :: zeros (-point).toNat ++ digits
  else
    let mark := 'e' :: (if point ≤ 0 then '-' else '+') :: (toString (point - 1).natAbs).toList
    match digits with
    | [d] => d :: mark
    | d :: rest => d :: '.' :: rest ++ mark
    | [] => mark

def chars (x : Binary64) : List Char :=
  let body :=
    if x.mantissa = 0 then ['0', '.', '0'] else ((x.interval.shortest 16).trim 17).chars
  if x.negative then '-' :: body else body

end Binary64

end EventWiring.Json
