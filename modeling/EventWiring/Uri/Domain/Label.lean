import EventWiring.Uri.Domain.Composition
import EventWiring.Uri.Domain.Direction
import EventWiring.Uri.Domain.Mapping
import EventWiring.Uri.Domain.Punycode

/-!
# The labels of a domain name

A label stands between dots. It begins with no mark, it holds joiners only where they make a
difference, and in a domain name with letters that are written from right to left the characters
of a label go one way.
-/

namespace EventWiring.Uri.Domain

def prefixed (cs : List Char) : Bool := cs.take 4 = "xn--".toList

/-- The label that a label in ASCII stands for. It must have numbers, and be in the form that
`image?` and `composed` would bring it into. -/
def unpack? (cs : List Char) : Option (List Char) := do
  if cs = [] ∨ cs.getLast? = some '-' ∨ cs.any (0x80 ≤ ·.toNat) ∨ 2000 < cs.length then none
  let label ← Punycode.decode? cs
  if (← label.mapM image?).flatten = label ∧ composed label = label then some label else none

def label? (cs : List Char) : Option (List Char) :=
  if prefixed cs then unpack? (cs.drop 4) else some cs

/-- A letter joins what stands next to it, if only transparent characters lie between. -/
def meets (joins : Char → Bool) (cs : List Char) : Bool :=
  (cs.dropWhile isTransparent).head?.any joins

def nonJoiner : Char := '\u200c'

def joiner : Char := '\u200d'

/-- A joiner follows a mark that ends a syllable, and a non-joiner does so or stands between
letters that would join. `before` is read backwards. -/
def joinerFits (before : List Char) (c : Char) (after : List Char) : Bool :=
  before.head?.any (markClass · = 9) ||
    (c = nonJoiner &&
      meets (fun d => dualJoining.contains d || leftJoining.contains d) before &&
      meets (fun d => dualJoining.contains d || rightJoining.contains d) after)

def joinersFit (before : List Char) : List Char → Bool
  | [] => true
  | c :: after =>
    ((c ≠ joiner && c ≠ nonJoiner) || joinerFits before c after) && joinersFit (c :: before) after

/-- Of labels beyond ASCII, at most a thousand characters are taken. -/
def isLabel (cs : List Char) : Bool :=
  !cs.head?.any isMark && joinersFit [] cs &&
    (cs.all (·.toNat < 0x80) || cs.length ≤ 1000)

/-- A domain name with such a character has to go one way in each label. -/
def isTurned (c : Char) : Bool :=
  let d := Direction.of c
  d = .right || d = .arabicNumber

/-- From left to right no letter or number of the other way occurs, and a letter or digit comes
last but for marks; and in the same way from right to left, with one kind of digits. -/
def goesOneWay (cs : List Char) : Bool :=
  let ds := cs.map Direction.of
  let last := (ds.reverse.dropWhile (· = .mark)).head?
  match ds with
  | [] => true
  | .left :: _ =>
    !ds.contains .right && !ds.contains .arabicNumber &&
      (last = some .left || last = some .europeanNumber)
  | .right :: _ =>
    !ds.contains .left && !(ds.contains .europeanNumber && ds.contains .arabicNumber) &&
      (last = some .right || last = some .europeanNumber || last = some .arabicNumber)
  | _ => false

end EventWiring.Uri.Domain
