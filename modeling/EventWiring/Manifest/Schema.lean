import EventWiring.Json.Value

/-!
# Schemas

What a resource may look like, as it is told to the API server.
-/

namespace EventWiring

/-- What a schema says beside the kind of value. -/
structure Schema.Notes where
  description : Option String := none
  nullable : Bool := false
  default : Option Json := none
  title : Option String := none

inductive Schema where
  /-- A string, one of some if there are any. -/
  | text (notes : Schema.Notes) (choices : List String)
  | list (notes : Schema.Notes) (item : Schema)
  /-- An object with members of any name. -/
  | map (notes : Schema.Notes) (value : Schema)
  /-- An object with fields, of which the listed ones are required. -/
  | record (notes : Schema.Notes) (required : List String) (fields : List (String × Schema))

namespace Schema

/-- A string of any kind. -/
def anyText : Schema := .text { } []

def optionalText : Schema := .text { nullable := true } []

def textList (xs : List String) : Json := .array (xs.map .string)

/-- Members in front of those about the fields, and the title and the type after them. -/
def Notes.front (n : Notes) : Json.Members :=
  Json.member? "default" n.default ++ Json.member? "description" (n.description.map .string)

def Notes.nullableMember (n : Notes) : Json.Members :=
  if n.nullable then [("nullable", .bool true)] else []

def Notes.back (n : Notes) (type : String) : Json.Members :=
  Json.member? "title" (n.title.map .string) ++ [("type", .string type)]

mutual

/-- The members stand in the order of their names. -/
def toJson : Schema → Json
  | .text notes choices =>
    .object (notes.front ++ (if choices.isEmpty then [] else [("enum", textList choices)]) ++
      notes.nullableMember ++ notes.back "string")
  | .list notes item =>
    .object (notes.front ++ [("items", toJson item)] ++ notes.nullableMember ++ notes.back "array")
  | .map notes value =>
    .object ([("additionalProperties", toJson value)] ++ notes.front ++ notes.nullableMember ++
      notes.back "object")
  | .record notes required fields =>
    .object (notes.front ++ notes.nullableMember ++ [("properties", .object (fieldsJson fields))] ++
      (if required.isEmpty then [] else [("required", textList required)]) ++ notes.back "object")

def fieldsJson : List (String × Schema) → Json.Members
  | [] => []
  | (name, schema) :: fields => (name, toJson schema) :: fieldsJson fields

end

end Schema

end EventWiring
