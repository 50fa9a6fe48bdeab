import EventWiring.Json.Failure
import EventWiring.Text.Blank

/-!
# Reading JSON tokens

A reader takes characters off the front of a text and keeps the position of the rest. The readers
of this module take blanks, words, strings and numbers, and pass over whole values that nobody
asked for.
-/

namespace EventWiring.Json

open Text (hexDigit?)

structure Cursor where
  rest : List Char
  position : Position
deriving Repr

def Cursor.start (text : String) : Cursor := ⟨text.toList, Position.start⟩

/-- The place after the first byte of the rest. -/
def Cursor.nextByte (s : Cursor) : Position :=
  match s.rest with
  | [] => s.position
  | c :: _ => s.position.afterByte c

def isBlank (c : Char) : Bool := c = ' ' || c = '\n' || c = '\t' || c = '\r'

def isDigit (c : Char) : Bool := '0' ≤ c && c ≤ '9'

def skipBlanks : List Char → Position → Cursor
  | [], p => ⟨[], p⟩
  | c :: rest, p => if isBlank c then skipBlanks rest (p.after c) else ⟨c :: rest, p⟩

/-- The cursor before the next character that is not blank. -/
def Cursor.skipBlank (s : Cursor) : Cursor := skipBlanks s.rest s.position

abbrev Reader := StateT Cursor (Except Failure)

namespace Reader

/-- Stops at the place reached. -/
def fail {α : Type} (cause : Cause) : Reader α := fun s => .error ⟨cause, s.position⟩

/-- Stops after the first byte of the next character. -/
def failNext {α : Type} (cause : Cause) : Reader α := fun s => .error ⟨cause, s.nextByte⟩

def peek : Reader (Option Char) := fun s => .ok (s.rest.head?, s)

/-- The next character that is not blank, which stays in the rest. -/
def peekToken : Reader (Option Char) := fun s =>
  let s := s.skipBlank
  .ok (s.rest.head?, s)

def advance : Reader Unit := fun s =>
  match s.rest with
  | [] => .ok ((), s)
  | c :: rest => .ok ((), ⟨rest, s.position.after c⟩)

/-- Takes the given characters, which the text must go on with. -/
def word : List Char → Reader Unit
  | [] => pure ()
  | c :: cs => fun s =>
    match s.rest with
    | [] => .error ⟨.endOfValue, s.position⟩
    | d :: rest =>
      if d = c then word cs ⟨rest, s.position.after d⟩
      else .error ⟨.expectedWord, s.position.afterByte d⟩

/-! ### Strings -/

def fourHex? (a b c d : Char) : Option Nat := do
  return ((← hexDigit? a) * 16 + (← hexDigit? b)) * 256 + ((← hexDigit? c) * 16 + (← hexDigit? d))

def byteCount (cs : List Char) : Nat := cs.foldr (fun c n => c.utf8Size + n) 0

/-- The four bytes of an escape by code unit. -/
def codeUnit : Reader Nat := fun s =>
  if byteCount (s.rest.take 4) < 4 then .error ⟨.endOfString, s.position.afterAll s.rest⟩
  else
    let refused := .error ⟨.invalidEscape, s.position.afterBytes 4 s.rest⟩
    match s.rest with
    | a :: b :: c :: d :: rest =>
      match fourHex? a b c d with
      | some n => .ok (n, ⟨rest, s.position.afterAll [a, b, c, d]⟩)
      | none => refused
    | _ => refused

def isLeading (n : Nat) : Bool := 0xD800 ≤ n && n ≤ 0xDBFF

def isTrailing (n : Nat) : Bool := 0xDC00 ≤ n && n ≤ 0xDFFF

/-- The character that two surrogates stand for together. -/
def joinSurrogates (leading trailing : Nat) : Char :=
  Char.ofNat (0x10000 + (leading - 0xD800) * 0x400 + (trailing - 0xDC00))

/-- A given character of the second half of a surrogate pair. -/
def pairMark (c : Char) : Reader Unit := fun s =>
  match s.rest with
  | [] => .error ⟨.endOfString, s.position⟩
  | d :: rest =>
    if d = c then .ok ((), ⟨rest, s.position.after d⟩)
    else .error ⟨.halfSurrogatePair, s.position.afterByte d⟩

/-- An escape by code unit, or by two of them that form a surrogate pair. -/
def unicodeEscape : Reader Char := do
  let n ← codeUnit
  if isTrailing n then fail .loneSurrogate
  else if isLeading n then
    pairMark '\\'
    pairMark 'u'
    let m ← codeUnit
    if isTrailing m then return joinSurrogates n m else fail .loneSurrogate
  else return Char.ofNat n

/-- What a short escape stands for. -/
def shortEscape? (c : Char) : Option Char :=
  match c with
  | '"' => some '"'
  | '\\' => some '\\'
  | '/' => some '/'
  | 'b' => some '\x08'
  | 'f' => some '\x0c'
  | 'n' => some '\n'
  | 'r' => some '\r'
  | 't' => some '\t'
  | _ => none

/-- An escape, after its backslash. -/
def escape : Reader Char := fun s =>
  match s.rest with
  | [] => .error ⟨.endOfString, s.position⟩
  | c :: rest =>
    match shortEscape? c with
    | some d => .ok (d, ⟨rest, s.position.after c⟩)
    | none =>
      if c = 'u' then unicodeEscape ⟨rest, s.position.after c⟩
      else .error ⟨.invalidEscape, s.position.afterByte c⟩

/-- The characters up to the closing quote; `fuel` bounds their number. -/
def stringBody : Nat → Reader (List Char)
  | 0 => fail .endOfString
  | fuel + 1 => fun s =>
    match s.rest with
    | [] => .error ⟨.endOfString, s.position⟩
    | '"' :: rest => .ok ([], ⟨rest, s.position.after '"'⟩)
    | '\\' :: rest => do
      let (c, s) ← escape ⟨rest, s.position.after '\\'⟩
      let (cs, s) ← stringBody fuel s
      return (c :: cs, s)
    | c :: rest =>
      if c.toNat < 0x20 then .error ⟨.controlCharacter, s.position.after c⟩
      else do
        let (cs, s) ← stringBody fuel ⟨rest, s.position.after c⟩
        return (c :: cs, s)

/-- A string, after its opening quote. -/
def stringRest : Reader String := fun s => do
  let (cs, s) ← stringBody (s.rest.length + 1) s
  return (String.ofList cs, s)

/-- Passes over a string, after its opening quote; code units need not form characters. -/
def skipStringBody : Nat → Reader Unit
  | 0 => fail .endOfString
  | fuel + 1 => fun s =>
    match s.rest with
    | [] => .error ⟨.endOfString, s.position⟩
    | '"' :: rest => .ok ((), ⟨rest, s.position.after '"'⟩)
    | '\\' :: rest =>
      let s : Cursor := ⟨rest, s.position.after '\\'⟩
      match s.rest with
      | [] => .error ⟨.endOfString, s.position⟩
      | c :: rest =>
        if (shortEscape? c).isSome then skipStringBody fuel ⟨rest, s.position.after c⟩
        else if c = 'u' then do
          let (_, s) ← codeUnit ⟨rest, s.position.after c⟩
          skipStringBody fuel s
        else .error ⟨.invalidEscape, s.position.afterByte c⟩
    | c :: rest =>
      if c.toNat < 0x20 then .error ⟨.controlCharacter, s.position⟩
      else skipStringBody fuel ⟨rest, s.position.after c⟩

def skipStringRest : Reader Unit := fun s => skipStringBody (s.rest.length + 1) s

/-! ### Numbers -/

/-- The digits at the front. -/
def digits : Reader (List Nat) := fun s =>
  let ds := s.rest.takeWhile isDigit
  .ok (ds.map fun c => c.toNat - 48, ⟨s.rest.dropWhile isDigit, s.position.afterAll ds⟩)

/-- One digit, which must stand here. -/
def digit : Reader Nat := fun s =>
  match s.rest with
  | [] => .error ⟨.endOfValue, s.position⟩
  | c :: rest =>
    if isDigit c then .ok (c.toNat - 48, ⟨rest, s.position.after c⟩)
    else .error ⟨.invalidNumber, s.position.afterByte c⟩

/-- The digits of a whole number: a zero stands alone. -/
def wholeDigits : Reader (List Nat) := do
  let d ← digit
  if d = 0 then
    if ((← peek).map isDigit).getD false then failNext .invalidNumber else return [0]
  else return d :: (← digits)

/-- The largest significand that is kept exactly. -/
def significandLimit : Nat := Nat.pow 2 64

/-- Appends digits while the significand stays below the limit; also the number of those that
are left over. -/
def appendDigits (significand : Nat) : List Nat → Nat × Nat
  | [] => (significand, 0)
  | d :: ds =>
    if significand * 10 + d < significandLimit then appendDigits (significand * 10 + d) ds
    else (significand, ds.length + 1)

/-- `x · 10 ^ exponent`, by powers of ten up to `10 ^ 308`; three divisions by that one leave
nothing of any significand. -/
def scaleTen (x : Binary64) (exponent : Int) : Nat → Option Binary64
  | 0 => some ⟨x.negative, 0, 0⟩
  | n + 1 =>
    if exponent.natAbs ≤ 308 then do
      let power ← Binary64.powerOfTen exponent.natAbs
      if 0 ≤ exponent then x.mul power else x.div power
    else if x.mantissa = 0 then some x
    else if 0 ≤ exponent then none
    else do scaleTen (← x.div (← Binary64.powerOfTen 308)) (exponent + 308) n

/-- The fraction `± significand · 10 ^ exponent`. -/
def fraction (negative : Bool) (significand : Nat) (exponent : Int) : Reader Number :=
  match (Binary64.ofNat significand).bind fun x => scaleTen x exponent 4 with
  | some x => return .fraction { x with negative := negative }
  | none => fail .numberOutOfRange

/-- The largest exponent that is read. -/
def exponentLimit : Nat := Nat.pow 2 31

/-- Reads the digits of an exponent on from `sofar`; `none` once it passes the limit. -/
def exponentDigits (sofar : Nat) : List Char → Position → Option Nat × Cursor
  | [], p => (some sofar, ⟨[], p⟩)
  | c :: rest, p =>
    if isDigit c then
      let next := sofar * 10 + (c.toNat - 48)
      if next < exponentLimit then exponentDigits next rest (p.after c)
      else (none, ⟨rest, p.after c⟩)
    else (some sofar, ⟨c :: rest, p⟩)

/-- The sign of an exponent, if it has one. -/
def exponentSign : Reader Bool := fun s =>
  match s.rest with
  | '+' :: rest => .ok (false, ⟨rest, s.position.after '+'⟩)
  | '-' :: rest => .ok (true, ⟨rest, s.position.after '-'⟩)
  | _ => .ok (false, s)

/-- The rest of a number after its exponent mark. An exponent beyond all bounds leaves zero,
unless it makes the number infinite. -/
def exponentRest (negative : Bool) (significand : Nat) (exponent : Int) : Reader Number := do
  advance
  let below ← exponentSign
  let first ← digit
  let total ← fun s => .ok (exponentDigits first s.rest s.position)
  match total with
  | some e => fraction negative significand (if below then exponent - e else exponent + e)
  | none =>
    if significand ≠ 0 ∧ ¬ below then fail .numberOutOfRange
    else
      let _ ← digits
      return .fraction ⟨negative, 0, 0⟩

def isExponentMark (c : Option Char) : Bool := c = some 'e' || c = some 'E'

/-- The rest of a number after its point. -/
def fractionRest (negative : Bool) (significand : Nat) (exponent : Int) : Reader Number := do
  advance
  let ds ← digits
  if ds.isEmpty then
    match ← peek with
    | some _ => failNext .invalidNumber
    | none => fail .endOfValue
  else
    let (significand, unused) := appendDigits significand ds
    let exponent := exponent - (ds.length - unused : Nat)
    if isExponentMark (← peek) then exponentRest negative significand exponent
    else fraction negative significand exponent

/-- A whole number without point and exponent. -/
def whole (negative : Bool) (significand : Nat) : Number :=
  if !negative then .integer significand
  else if significand = 0 ∨ Nat.pow 2 63 < significand then
    .fraction (((Binary64.ofNat significand).getD ⟨false, 0, 0⟩).neg)
  else .integer (-significand)

/-- A number, after its sign. -/
def unsignedNumber (negative : Bool) : Reader Number := do
  let ds ← wholeDigits
  let (significand, unused) := appendDigits 0 ds
  let next ← peek
  if next = some '.' then fractionRest negative significand unused
  else if isExponentMark next then exponentRest negative significand unused
  else if unused = 0 then return whole negative significand
  else fraction negative significand unused

def number : Reader Number := do
  if (← peek) = some '-' then
    advance
    unsignedNumber true
  else unsignedNumber false

/-- Passes over digits of which there must be one. -/
def skipDigits : Reader Unit := fun s =>
  match s.rest with
  | [] => .error ⟨.invalidNumber, s.position⟩
  | c :: _ => if isDigit c then (do let _ ← digits) s else
      .error ⟨.invalidNumber, s.position.afterByte c⟩

def skipExponent : Reader Unit := do
  advance
  let _ ← exponentSign
  skipDigits

def skipFraction : Reader Unit := do
  advance
  if (← digits).isEmpty then failNext .invalidNumber
  else if isExponentMark (← peek) then skipExponent

/-- Passes over a number, whatever its size. -/
def skipNumber : Reader Unit := do
  if (← peek) = some '-' then advance
  match ← peek with
  | some '0' =>
    advance
    if ((← peek).map isDigit).getD false then failNext .invalidNumber
  | _ => skipDigits
  let next ← peek
  if next = some '.' then skipFraction
  else if isExponentMark next then skipExponent

/-! ### Values nobody asked for -/

mutual

/-- Passes over a value; `fuel` bounds twice the number of its tokens. -/
def skipValueWithin : Nat → Reader Unit
  | 0 => fail .endOfValue
  | fuel + 1 => do
    match ← peekToken with
    | none => fail .endOfValue
    | some 'n' => word ['n', 'u', 'l', 'l']
    | some 't' => word ['t', 'r', 'u', 'e']
    | some 'f' => word ['f', 'a', 'l', 's', 'e']
    | some '"' => do advance; skipStringRest
    | some '[' =>
      advance
      match ← peekToken with
      | none => fail .endOfList
      | some ']' => advance
      | some _ => skipItems fuel
    | some '\x7b' =>
      advance
      match ← peekToken with
      | none => fail .endOfObject
      | some '\x7d' => advance
      | some _ => skipMembers fuel
    | some c => if c = '-' || isDigit c then skipNumber else failNext .expectedValue

/-- Passes over an item, those after it and the closing bracket. -/
def skipItems : Nat → Reader Unit
  | 0 => fail .endOfList
  | fuel + 1 => do
    skipValueWithin fuel
    match ← peekToken with
    | none => fail .endOfList
    | some ']' => advance
    | some ',' => do advance; skipItems fuel
    | some _ => failNext .expectedListEnd

/-- Passes over a member, those after it and the closing brace. -/
def skipMembers : Nat → Reader Unit
  | 0 => fail .endOfObject
  | fuel + 1 => do
    match ← peekToken with
    | none => fail .endOfObject
    | some '"' => advance
    | some _ => failNext .keyNotString
    skipStringRest
    match ← peekToken with
    | none => fail .endOfObject
    | some ':' => advance
    | some _ => failNext .expectedColon
    skipValueWithin fuel
    match ← peekToken with
    | none => fail .endOfObject
    | some '\x7d' => advance
    | some ',' => do advance; skipMembers fuel
    | some _ => failNext .expectedObjectEnd

end

def skipValue : Reader Unit := fun s => skipValueWithin (2 * s.rest.length + 2) s

end Reader

end EventWiring.Json
