/-!
# Plain text

A message that quotes what it was given may carry control characters. `plain` is what is left of a
text without them and without the sequences that steer a terminal.
-/

namespace EventWiring.Text

/-- Where a reader of control sequences stands. -/
inductive Steering where
  | none
  | escape
  /-- After a bracket, until a letter or another sign from `@` on. -/
  | sequence
  /-- A text for the terminal, until the next bell. -/
  | string

def isWhite (c : Char) : Bool := c = ' ' || c = '\t' || c = '\n' || c = '\x0c' || c = '\r'

def isControl (c : Char) : Bool := c.toNat < 0x20 || c.toNat = 0x7f

def plainFrom : Steering → List Char → List Char
  | _, [] => []
  | .none, c :: rest =>
    if c = '\x1b' then plainFrom .escape rest
    else if isControl c && !isWhite c then plainFrom .none rest
    else c :: plainFrom .none rest
  | .escape, c :: rest =>
    if isWhite c && c ≠ ' ' then c :: plainFrom .none rest
    else if c = '[' then plainFrom .sequence rest
    else if c ∈ ['P', 'X', ']', '^', '_'] then plainFrom .string rest
    else if c.toNat < 0x30 || c = '\x7f' then plainFrom .escape rest
    else plainFrom .none rest
  | .sequence, c :: rest =>
    if isWhite c && c ≠ ' ' then c :: plainFrom .none rest
    else if c = '\x1b' then plainFrom .escape rest
    else if 0x40 ≤ c.toNat && c.toNat < 0x7f then plainFrom .none rest
    else plainFrom .sequence rest
  | .string, c :: rest =>
    if c = '\x07' then plainFrom .none rest
    else if c = '\x1b' then plainFrom .escape rest
    else plainFrom .string rest

def plain (s : String) : String := String.ofList (plainFrom .none s.toList)

/-- What stands before the first line break. -/
def firstLine (s : String) : String :=
  let line := s.toList.takeWhile (· ≠ '\n')
  String.ofList (if line.getLast? = some '\r' ∧ line.length < s.length then line.dropLast else line)

end EventWiring.Text
