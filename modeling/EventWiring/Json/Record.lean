import EventWiring.Json.Decoder

/-!
# Decoding records

The fields of a record are named once, in the order of the record's array form. `record` is strict:
a repeated member is refused, and an array of the fields' values is read too. `lenient` takes the
last of repeated members and reads objects only.
-/

namespace EventWiring.Json

open Reader

/-- What stands for a field that is absent. -/
inductive Absence (α : Type) where
  | refused
  /-- A value in an object; an array must name it. -/
  | blank (a : α)
  | default (a : α)

/-- The fields of a record: `σ` holds the values read so far, `γ` all of them. -/
inductive Fields : Type → Type → Type 1 where
  | nil : Fields Unit Unit
  | cons {β σ γ : Type} (name : String) (decoder : Decoder β) (absence : Absence β)
      (rest : Fields σ γ) : Fields (Option β × σ) (β × γ)

namespace Fields

/-- No value read yet. -/
def empty : {σ γ : Type} → Fields σ γ → σ
  | _, _, .nil => ()
  | _, _, .cons _ _ _ rest => (none, rest.empty)

def count : {σ γ : Type} → Fields σ γ → Nat
  | _, _, .nil => 0
  | _, _, .cons _ _ _ rest => rest.count + 1

/-- Reads a member's value into its slot; a member of another name is passed over. -/
def readMember (repeats : Bool) (key : String) : {σ γ : Type} → Fields σ γ → σ → Reader σ
  | _, _, .nil, () => do colon; skipValue; return ()
  | _, _, .cons name d _ rest, (slot, slots) =>
    if key = name then
      if slot.isSome && !repeats then failClosing (.duplicateField name)
      else do colon; return (some (← d.read), slots)
    else do return (slot, ← rest.readMember repeats key slots)

/-- Takes a member's value into its slot. -/
def takeMember (repeats : Bool) (key : String) (value : Json) : {σ γ : Type} → Fields σ γ → σ →
    Option σ
  | _, _, .nil, () => some ()
  | _, _, .cons name d _ rest, (slot, slots) =>
    if key = name then
      if slot.isSome && !repeats then none else (d.ofJson value).map fun a => (some a, slots)
    else (rest.takeMember repeats key value slots).map fun slots => (slot, slots)

/-- All fields, or the name of the first that must not be absent. -/
def close : {σ γ : Type} → Fields σ γ → σ → Except String γ
  | _, _, .nil, () => .ok ()
  | _, _, .cons name _ absence rest, (slot, slots) => do
    let a ← match slot, absence with
      | some a, _ => .ok a
      | none, .blank a => .ok a
      | none, .default a => .ok a
      | none, .refused => .error name
    return (a, ← rest.close slots)

/-- The fields in the order of an array; `index` counts those before. -/
def readItems (expected : String) (index : Nat) : {σ γ : Type} → Fields σ γ → Reader γ
  | _, _, .nil => return ()
  | _, _, .cons _ d absence rest => do
    let more ← match ← peekToken with
      | none => fail .endOfList
      | some ']' => pure false
      | some c =>
        if index = 0 then pure true
        else if c = ',' then do
          advance
          match ← peekToken with
          | none => fail .endOfValue
          | some ']' => failNext .trailingComma
          | some _ => pure true
        else failNext .expectedListEnd
    let a ← if more then d.read else match absence with
      | .default a => pure a
      | _ => do advance; fail (.invalidLength index expected)
    return (a, ← rest.readItems expected (index + 1))

def takeItems : {σ γ : Type} → Fields σ γ → List Json → Option γ
  | _, _, .nil, [] => some ()
  | _, _, .nil, _ :: _ => none
  | _, _, .cons _ d _ rest, j :: js => do return (← d.ofJson j, ← rest.takeItems js)
  | _, _, .cons _ _ (.default a) rest, [] => do return (a, ← rest.takeItems [])
  | _, _, .cons _ _ _ _, [] => none

/-- The fields of an object's members. -/
def takeMembers {σ γ : Type} (repeats : Bool) (fs : Fields σ γ) (ms : Members) : Option γ := do
  let slots ← ms.foldlM (fun slots m => fs.takeMember repeats m.1 m.2 slots) fs.empty
  (fs.close slots).toOption

/-- Reads the members of an object, after its opening brace. -/
def readMembers {σ γ : Type} (repeats : Bool) (fs : Fields σ γ) : Reader γ := do
  let slots ← membersWith (fun key => fs.readMember repeats key) (← remaining) true fs.empty
  match fs.close slots with
  | .ok a => return a
  | .error name => fail (.missingField name)

/-- The array form by its length. -/
def arrayForm {σ γ : Type} (fs : Fields σ γ) (name : String) : String :=
  "struct " ++ name ++ " with " ++ toString fs.count ++
    (if fs.count = 1 then " element" else " elements")

end Fields

namespace Decoder

/-- A record with a name, as an object or as an array. -/
def record {α σ γ : Type} (name : String) (fields : Fields σ γ) (build : γ → α) : Decoder α where
  read := do
    match ← peekToken with
    | some '\x7b' => advance; return build (← fields.readMembers false)
    | some '[' =>
      advance
      let a ← fields.readItems (fields.arrayForm name) 0
      listEnd
      return build a
    | _ => mismatch ("struct " ++ name)
  ofJson
    | .object ms => (fields.takeMembers false ms).map build
    | .array items => (fields.takeItems items).map build
    | _ => none

/-- Stops where a list that is no record ends, or at its first item. -/
def refuseList {α : Type} (expected : String) : Reader α := do
  advance
  match ← peekToken with
  | some ']' => advance
  | some ',' => advance; let _ ← peekToken
  | _ => pure ()
  fail (.invalidType .sequence expected)

/-- A record with a name, as an object. -/
def lenient {α σ γ : Type} (name : String) (fields : Fields σ γ) (build : γ → α) : Decoder α where
  read := do
    match ← peekToken with
    | some '\x7b' => advance; return build (← fields.readMembers true)
    | some '[' => refuseList name
    | _ => mismatch name
  ofJson
    | .object ms => (fields.takeMembers true ms).map build
    | _ => none

end Decoder

end EventWiring.Json
