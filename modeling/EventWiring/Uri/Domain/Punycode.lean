/-!
# Labels in ASCII

A label with characters beyond ASCII is written in ASCII as its ASCII characters, a hyphen, and a
row of numbers that say which character goes where. `decode?` reads such a label. The numbers are
written in base 36, least digit first. How many digits a number takes follows from a bias, which
is adapted to the numbers read so far.
-/

namespace EventWiring.Uri.Domain.Punycode

def digit? (c : Char) : Option Nat :=
  if 'a' ≤ c ∧ c ≤ 'z' then some (c.toNat - 97)
  else if 'A' ≤ c ∧ c ≤ 'Z' then some (c.toNat - 65)
  else if '0' ≤ c ∧ c ≤ '9' then some (c.toNat - 22)
  else none

/-- A digit below the threshold is the last one of its number. -/
def threshold (bias k : Nat) : Nat :=
  if k ≤ bias then 1 else if bias + 26 ≤ k then 26 else k - bias

/-- Divides by 35 as long as the number is above 455, and counts in steps of 36. -/
def scale (delta k : Nat) : Nat × Nat :=
  if 455 < delta then scale (delta / 35) (k + 36) else (delta, k)
termination_by delta
decreasing_by omega

/-- The bias after the character number `count`. -/
def adapt (delta count : Nat) (isFirst : Bool) : Nat :=
  let delta := if isFirst then delta / 700 else delta / 2
  let (delta, k) := scale (delta + delta / count) 0
  k + 36 * delta / (delta + 38)

/-- The label so far, the last character put into it and the place behind it, and what has been
read of the next number. -/
structure Progress where
  label : List Char
  code : Nat
  bias : Nat
  start : Nat
  number : Nat
  weight : Nat
  k : Nat

/-- Numbers have to stay below this limit. -/
def limit : Nat := Nat.pow 2 32

/-- Puts in the next character, whose number is complete. -/
def Progress.insert? (p : Progress) : Option Progress :=
  let count := p.label.length + 1
  let code := p.code + p.number / count
  let place := p.number % count
  if code.isValidChar then
    some {
      label := p.label.insertIdx place (Char.ofNat code)
      code
      bias := adapt (p.number - p.start) count (p.start = 0)
      start := place + 1
      number := place + 1
      weight := 1
      k := 36 }
  else none

def Progress.step? (p : Progress) (c : Char) : Option Progress :=
  (digit? c).bind fun d =>
    let t := threshold p.bias p.k
    let number := p.number + d * p.weight
    let weight := p.weight * (36 - t)
    if limit ≤ number then none
    else if d < t then { p with number }.insert?
    else if limit ≤ weight then none
    else some { p with number, weight, k := p.k + 36 }

/-- The ASCII characters before the last hyphen, and the numbers behind it. -/
def split (cs : List Char) : List Char × List Char :=
  let (after, before) := cs.reverse.span (· ≠ '-')
  match before with
  | _ :: c :: rest => ((c :: rest).reverse, after.reverse)
  | _ => ([], cs)

/-- No number may be left incomplete. -/
def decode? (cs : List Char) : Option (List Char) := do
  let (ascii, numbers) := split cs
  let p ← numbers.foldlM Progress.step? ⟨ascii, 128, 72, 0, 0, 1, 36⟩
  if p.k = 36 then some p.label else none

end EventWiring.Uri.Domain.Punycode
