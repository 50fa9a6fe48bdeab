import EventWiring.Uri.Domain.Label
import EventWiring.Uri.Percent

/-!
# Domain names

`Domain.read?` reads a domain name as it is written in a URI, in any script. It brings the name
into lower case and plain shapes, and refuses the names that cannot be looked up.
-/

namespace EventWiring.Uri.Domain

/-- The characters whose bytes are escaped with percent signs. -/
def decoded? (cs : List Char) : Option (List Char) :=
  let bytes := percentDecode (String.ofList cs).toUTF8.toList
  (String.fromUTF8? ⟨bytes.toArray⟩).map String.toList

def read? (cs : List Char) : Option (List Char) := do
  let cs ← decoded? cs
  let images ← cs.mapM image?
  let labels ← (Text.splitOn '.' (composed images.flatten)).mapM label?
  let ordered := !labels.any (·.any isTurned) || labels.all goesOneWay
  if ordered && labels.all isLabel then some (Text.joinWith '.' labels) else none

end EventWiring.Uri.Domain
