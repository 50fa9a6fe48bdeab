import EventWiring.Manifest.Resources

/-!
# Command line

Writes the manifests of the three kinds of resources, each into a file of its own. The directory is
given with `--output`, or `-o` for short, and is the current one otherwise.
-/

namespace EventWiring.Manifest

/-- The directory that the arguments name, if they can be read. -/
def directory? : List String → Option String
  | [] => some "."
  | [arg] =>
    if arg.startsWith "--output=" then some (String.ofList (arg.toList.drop 9))
    else match arg.toList with
      | '-' :: 'o' :: '=' :: name => some (String.ofList name)
      | '-' :: 'o' :: c :: name => some (String.ofList (c :: name))
      | _ => none
  | [flag, name] =>
    if (flag = "--output" ∨ flag = "-o") ∧ (name = "-" ∨ !name.startsWith "-") then some name
    else none
  | _ => none

end EventWiring.Manifest

open EventWiring in
/-- Files that are there already are replaced. -/
def main (args : List String) : IO UInt32 := do
  match Manifest.directory? args with
  | some directory =>
    IO.FS.createDirAll directory
    for m in Manifest.all do
      IO.FS.writeFile (directory ++ "/" ++ m.fileName) m.toJson.yaml
    return 0
  | none =>
    IO.eprintln "usage: eventwiring [--output DIRECTORY]"
    return 2
