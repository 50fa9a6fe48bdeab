import EventWiring.Json.Reader

/-!
# Decoding typed values

A `Decoder` reads a value of some type off a text, or takes it from a JSON value; on a text that
spells a JSON value both agree. Decoders are built from those of strings, numbers, lists and
records. A record names its fields once: the reader of its members, the reader of its array form,
the errors for absent and repeated members all follow from the list.
-/

namespace EventWiring.Json

open Reader

structure Decoder (α : Type) where
  read : Reader α
  ofJson : Json → Option α

/-- Reads a whole text; only blanks may follow the value. -/
def Reader.run {α : Type} (reader : Reader α) (text : String) : Except Failure α := do
  let (a, s) ← reader (Cursor.start text)
  let s := s.skipBlank
  if s.rest.isEmpty then return a else .error ⟨.trailingCharacters, s.nextByte⟩

def Decoder.decode {α : Type} (d : Decoder α) (text : String) : Except Failure α := d.read.run text

namespace Reader

/-- Reads what stands here in order to refuse it. -/
def mismatch {α : Type} (expected : String) : Reader α := do
  match ← peekToken with
  | none => fail .endOfValue
  | some 'n' => word ['n', 'u', 'l', 'l']; fail (.invalidType .null expected)
  | some 't' => word ['t', 'r', 'u', 'e']; fail (.invalidType (.bool true) expected)
  | some 'f' => word ['f', 'a', 'l', 's', 'e']; fail (.invalidType (.bool false) expected)
  | some '"' => advance; fail (.invalidType (.string (← stringRest)) expected)
  | some '[' => fail (.invalidType .sequence expected)
  | some '\x7b' => fail (.invalidType .map expected)
  | some c =>
    if c = '-' || isDigit c then fail (.invalidType (.number (← number)) expected)
    else failNext .expectedValue

/-- Stops after the closing brace if that comes next, else before what comes next. -/
def failClosing {α : Type} (cause : Cause) : Reader α := do
  if (← peekToken) = some '\x7d' then advance
  fail cause

def colon : Reader Unit := do
  match ← peekToken with
  | none => fail .endOfObject
  | some ':' => advance
  | some _ => failNext .expectedColon

/-- The items up to the closing bracket, by a reader of one item. -/
def itemsWith {α : Type} (item : Reader α) : Nat → Bool → Reader (List α)
  | 0, _ => fail .endOfList
  | fuel + 1, first => do
    match ← peekToken with
    | none => fail .endOfList
    | some ']' => advance; return []
    | some c =>
      if !first then
        if c = ',' then
          advance
          match ← peekToken with
          | none => fail .endOfValue
          | some ']' => failNext .trailingComma
          | some _ => pure ()
        else failNext .expectedListEnd
      let a ← item
      return a :: (← itemsWith item fuel false)

/-- The members up to the closing brace, by a reader that goes on after each name. -/
def membersWith {σ : Type} (member : String → σ → Reader σ) : Nat → Bool → σ → Reader σ
  | 0, _, _ => fail .endOfObject
  | fuel + 1, first, state => do
    match ← peekToken with
    | none => fail .endOfObject
    | some '\x7d' => advance; return state
    | some c =>
      if first then
        if c ≠ '"' then failNext .keyNotString
      else if c = ',' then
        advance
        match ← peekToken with
        | none => fail .endOfValue
        | some '"' => pure ()
        | some '\x7d' => failNext .trailingComma
        | some _ => failNext .keyNotString
      else failNext .expectedObjectEnd
      advance
      let name ← stringRest
      membersWith member fuel false (← member name state)

/-- Enough fuel for every loop over the rest of the text. -/
def remaining : Reader Nat := fun s => .ok (s.rest.length + 1, s)

/-- The end of a list all of whose expected items were read. -/
def listEnd : Reader Unit := do
  match ← peekToken with
  | none => fail .endOfList
  | some ']' => advance
  | some ',' =>
    advance
    if (← peekToken) = some ']' then failNext .trailingComma else failNext .trailingCharacters
  | some _ => failNext .trailingCharacters

mutual

/-- A value of any kind, nested less than `depth` deep. -/
def valueWithin : Nat → Nat → Reader Json
  | 0, _ => fail .endOfValue
  | fuel + 1, depth => do
    match ← peekToken with
    | none => fail .endOfValue
    | some 'n' => word ['n', 'u', 'l', 'l']; return .null
    | some 't' => word ['t', 'r', 'u', 'e']; return .bool true
    | some 'f' => word ['f', 'a', 'l', 's', 'e']; return .bool false
    | some '"' => advance; return .string (← stringRest)
    | some '[' =>
      if depth ≤ 1 then failNext .tooDeep
      advance
      return .array (← arrayWithin fuel (depth - 1) true)
    | some '\x7b' =>
      if depth ≤ 1 then failNext .tooDeep
      advance
      return .object (← objectWithin fuel (depth - 1) true [])
    | some c => if c = '-' || isDigit c then return .number (← number) else failNext .expectedValue

def arrayWithin : Nat → Nat → Bool → Reader (List Json)
  | 0, _, _ => fail .endOfList
  | fuel + 1, depth, first => do
    match ← peekToken with
    | none => fail .endOfList
    | some ']' => advance; return []
    | some c =>
      if !first then
        if c = ',' then
          advance
          match ← peekToken with
          | none => fail .endOfValue
          | some ']' => failNext .trailingComma
          | some _ => pure ()
        else failNext .expectedListEnd
      let a ← valueWithin fuel depth
      return a :: (← arrayWithin fuel depth false)

/-- Of members with the same name the last counts. -/
def objectWithin : Nat → Nat → Bool → Members → Reader Members
  | 0, _, _, _ => fail .endOfObject
  | fuel + 1, depth, first, ms => do
    match ← peekToken with
    | none => fail .endOfObject
    | some '\x7d' => advance; return ms
    | some c =>
      if first then
        if c ≠ '"' then failNext .keyNotString
      else if c = ',' then
        advance
        match ← peekToken with
        | none => fail .endOfValue
        | some '"' => pure ()
        | some '\x7d' => failNext .trailingComma
        | some _ => failNext .keyNotString
      else failNext .expectedObjectEnd
      advance
      let name ← stringRest
      colon
      let value ← valueWithin fuel depth
      objectWithin fuel depth false (ms.put name value)

end

end Reader

namespace Decoder

/-- How deep arrays and objects of a value of any kind may be nested. -/
def depthLimit : Nat := 128

/-- Any value. -/
def any : Decoder Json where
  read := do valueWithin (2 * (← remaining)) depthLimit
  ofJson := some

def string : Decoder String where
  read := do
    match ← peekToken with
    | some '"' => advance; stringRest
    | _ => mismatch "a string"
  ofJson
    | .string s => some s
    | _ => none

def bool : Decoder Bool where
  read := do
    match ← peekToken with
    | some 't' => word ['t', 'r', 'u', 'e']; return true
    | some 'f' => word ['f', 'a', 'l', 's', 'e']; return false
    | _ => mismatch "a boolean"
  ofJson
    | .bool b => some b
    | _ => none

/-- A whole number between two bounds; `expected` names the range. -/
def integer (low high : Int) (expected : String) : Decoder Int where
  read := do
    match ← peekToken with
    | some c =>
      if c = '-' || isDigit c then
        match ← Reader.number with
        | .integer n =>
          if low ≤ n ∧ n ≤ high then return n
          else fail (.invalidValue (.number (.integer n)) expected)
        | n => fail (.invalidType (.number n) expected)
      else mismatch expected
    | none => fail .endOfValue
  ofJson
    | .number (.integer n) => if low ≤ n ∧ n ≤ high then some n else none
    | _ => none

def int64 : Decoder Int := integer (-0x8000000000000000) 0x7fffffffffffffff "i64"

def word16 : Decoder Int := integer 0 0xffff "u16"

def word32 : Decoder Int := integer 0 0xffffffff "u32"

/-- `null` or a value. -/
def option {α : Type} (d : Decoder α) : Decoder (Option α) where
  read := do
    match ← peekToken with
    | some 'n' => word ['n', 'u', 'l', 'l']; return none
    | _ => return some (← d.read)
  ofJson
    | .null => some none
    | j => (d.ofJson j).map some

def map {α β : Type} (f : α → β) (d : Decoder α) : Decoder β where
  read := do return f (← d.read)
  ofJson j := (d.ofJson j).map f

def list {α : Type} (d : Decoder α) : Decoder (List α) where
  read := do
    match ← peekToken with
    | some '[' => advance; itemsWith d.read (← remaining) true
    | _ => mismatch "a sequence"
  ofJson
    | .array items => items.mapM d.ofJson
    | _ => none

/-- The members of an object, collected one by one. -/
def entries {α σ : Type} (d : Decoder α) (empty : σ) (insert : String → α → σ → σ) :
    Decoder σ where
  read := do
    match ← peekToken with
    | some '\x7b' =>
      advance
      membersWith (fun name s => do colon; return insert name (← d.read) s) (← remaining) true
        empty
    | _ => mismatch "a map"
  ofJson
    | .object ms => ms.foldlM (fun s m => (d.ofJson m.2).map (insert m.1 · s)) empty
    | _ => none

/-- One of some names, alone or as the only member of an object with the value `null`. -/
def enumeration {α : Type} (variants : List (String × α)) : Decoder α where
  read := do
    let named := do
      match ← peekToken with
      | some '"' =>
        advance
        let name ← stringRest
        match variants.lookup name with
        | some a => return a
        | none => fail (.unknownVariant name (variants.map (·.1)))
      | _ => mismatch "variant identifier"
    match ← peekToken with
    | none => fail .endOfValue
    | some '"' => named
    | some '\x7b' =>
      advance
      let a ← named
      colon
      match ← peekToken with
      | some 'n' => word ['n', 'u', 'l', 'l']
      | _ => mismatch "unit"
      match ← peekToken with
      | some '\x7d' => advance; return a
      | some _ => fail .expectedValue
      | none => fail .endOfObject
    | some _ => failNext .expectedValue
  ofJson
    | .string name => variants.lookup name
    | .object [(name, .null)] => variants.lookup name
    | _ => none

/-- A string that can only be one text, as a member of an object. -/
def constant (text : String) : Decoder Unit where
  read := do
    let s ← string.read
    if s = text then return () else failClosing (.invalidValue (.string s) text)
  ofJson
    | .string s => if s = text then some () else none
    | _ => none

/-- A string that stands for something else; `parse` says why it does not. -/
def text {α : Type} (expected : String) (parse : String → Except String α) : Decoder α where
  read := do
    match ← peekToken with
    | some '"' =>
      advance
      match parse (← stringRest) with
      | .ok a => return a
      | .error reason => fail (.unreadable reason)
    | _ => mismatch expected
  ofJson
    | .string s => (parse s).toOption
    | _ => none

end Decoder

end EventWiring.Json
