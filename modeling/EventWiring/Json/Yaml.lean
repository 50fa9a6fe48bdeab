import EventWiring.Json.Printer

/-!
# YAML texts

`Json.yaml` writes a value as a block of lines. Members of objects are indented by two, items of
lists stand under their key, and a string is quoted when it would otherwise read as something else.
-/

namespace EventWiring.Json

/-- Signs that may not begin a plain string. -/
def isIndicator (c : Char) : Bool := "-?:,[]\x7b\x7d#&*!|>'\"%@`".toList.contains c

/-- Strings that read as other values when they are not quoted. -/
def reservedWords : List String :=
  ["", "~", "null", "Null", "NULL", "true", "True", "TRUE", "false", "False", "FALSE", "y", "Y",
    "yes", "Yes", "YES", "n", "N", "no", "No", "NO", "on", "On", "ON", "off", "Off", "OFF"]

def hasPair (a b : Char) : List Char → Bool
  | c :: d :: rest => (c = a && d = b) || hasPair a b (d :: rest)
  | _ => false

/-- A string that is read back as it stands: no mark of a key or a comment in it, nothing that
begins like a number or an indicator, no blank at an end. -/
def isPlainScalar (s : String) : Bool :=
  let cs := s.toList
  !reservedWords.contains s && !hasPair ':' ' ' cs && !hasPair ' ' '#' cs &&
    cs.getLast? ≠ some ':' && cs.getLast? ≠ some ' ' &&
    match cs with
    | c :: _ => c ≠ ' ' && !isIndicator c && !('0' ≤ c && c ≤ '9') && c ≠ '+'
    | [] => false

/-- In single quotes a quote is written twice. -/
def scalarText (s : String) : String :=
  let doubled := s.toList.flatMap fun c => if c = '\'' then ['\'', '\''] else [c]
  if isPlainScalar s then s else "'" ++ String.ofList doubled ++ "'"

/-- The text of a value that fits on the line of its key. -/
def inlineText? : Json → Option String
  | .null => some "null"
  | .bool b => some (if b then "true" else "false")
  | .number n => some (String.ofList n.chars)
  | .string s => some (scalarText s)
  | .array [] => some "[]"
  | .object [] => some "\x7b\x7d"
  | _ => none

def indented (lines : List String) : List String := lines.map ("  " ++ ·)

mutual

/-- The lines of a value that does not fit on one. -/
def yamlLines : Json → List String
  | .array items => itemLines items
  | .object members => memberLines members
  | _ => []

def itemLines : List Json → List String
  | [] => []
  | item :: items =>
    (match inlineText? item with
      | some text => ["- " ++ text]
      | none => match yamlLines item with
        | first :: rest => ("- " ++ first) :: indented rest
        | [] => []) ++ itemLines items

def memberLines : Members → List String
  | [] => []
  | (name, value) :: members =>
    (match inlineText? value with
      | some text => [scalarText name ++ ": " ++ text]
      | none => (scalarText name ++ ":") :: (match value with
        | .array items => itemLines items
        | value => indented (yamlLines value))) ++ memberLines members

end

def yaml (j : Json) : String :=
  let lines := match inlineText? j with
    | some text => [text]
    | none => yamlLines j
  String.join (lines.map (· ++ "\n"))

end EventWiring.Json
