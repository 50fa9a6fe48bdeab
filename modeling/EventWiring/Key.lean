import EventWiring.Error
import EventWiring.Resource.Metadata
import EventWiring.Text.Split

/-!
# Keys

An object is addressed by its namespace and its name. Work is queued under the text of a key, which
is the name alone when the object is in no namespace.
-/

namespace EventWiring

structure Key where
  space : String
  name : String
deriving DecidableEq, Repr

namespace Key

/-- Where an object is stored. -/
def of (m : Metadata) : Key := ⟨m.space, m.displayName⟩

/-- The text under which the work on an object is queued. -/
def queued (m : Metadata) : String :=
  match m.space? with
  | some space => space ++ "/" ++ m.displayName
  | none => m.displayName

def path (k : Key) : String := k.space ++ "/" ++ k.name

/-- At most one slash, and a name after it. -/
def parse (text : String) : Except Error Key :=
  match Text.splitOn '/' text.toList with
  | [name] => if name = [] then .error (.invalidKey text) else .ok ⟨"", String.ofList name⟩
  | [space, name] =>
    if name = [] then .error (.invalidKey text)
    else .ok ⟨String.ofList space, String.ofList name⟩
  | _ => .error (.invalidKey text)

/-- Work that is queued for an object finds it again, unless slashes get in the way. -/
theorem parse_queued {m : Metadata} (hspace : '/' ∉ m.space.toList)
    (hname : '/' ∉ m.displayName.toList) (hne : m.displayName ≠ "") :
    parse (queued m) = .ok (of m) := by
  have hchars : m.displayName.toList ≠ [] := fun h => hne (String.toList_eq_nil_iff.1 h)
  unfold queued
  cases hm : m.space? with
  | none =>
    have hempty : m.space = "" := by rw [Metadata.space, hm, Option.getD_none]
    simp [parse, Text.splitOn_of_not_mem hname, hchars, of, hempty]
  | some space =>
    have hsame : m.space = space := by rw [Metadata.space, hm, Option.getD_some]
    rw [hsame] at hspace
    simp [parse, Text.splitOn_append hspace, Text.splitOn_of_not_mem hname, hchars, of, hsame]

end Key

end EventWiring
