import EventWiring.Json.Value

/-!
# Merge patches

`Json.mergePatch` applies a patch to a value by RFC 7396: a patch that is an object changes its
target member by member, removing those that it sets to `null`; any other patch replaces the
target whole.
-/

namespace EventWiring.Json

mutual

/-- Members of a patch are applied to those of the target in order; a target that is no object
counts as an empty one. -/
def mergePatch : Json → Json → Json
  | .object patch, target => .object (mergeMembers patch target.members)
  | patch, _ => patch

def mergeMembers : Members → Members → Members
  | [], target => target
  | (name, .null) :: rest, target => mergeMembers rest (target.erase name)
  | (name, value) :: rest, target =>
    mergeMembers rest (target.put name (mergePatch value ((target.get? name).getD .null)))

end

end EventWiring.Json
