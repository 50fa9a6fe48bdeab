import EventWiring.Settings.Basic

/-!
# Settings from arguments and environment

Arguments are read from left to right. A flag whose value comes as the next argument is settled only
when the next flag or the end is reached, so an argument that nobody knows is noticed before a value
that cannot be read.
-/

namespace EventWiring.Settings

/-- What an argument looks like. -/
inductive Argument where
  /-- Two hyphens alone, after which no flag follows. -/
  | hyphens
  | long (name : String) (value : Option String)
  /-- Letters after one hyphen, of which the first counts. -/
  | short (letter : Char)
  | plain

def Argument.of (arg : String) : Argument :=
  match arg.toList with
  | ['-', '-'] => .hyphens
  | '-' :: '-' :: cs =>
    let name := String.ofList (cs.takeWhile (· ≠ '='))
    match cs.dropWhile (· ≠ '=') with
    | _ :: value => .long name (some (String.ofList value))
    | [] => .long name none
  | '-' :: c :: _ => .short c
  | _ => .plain

/-- A flag that is not settled yet, with its value if that has come. -/
abbrev Pending := Option (Flag × Option String)

/-- No flag may be given twice. -/
def Draft.add (d : Draft) (f : Flag) (value : String) : Except Failure Draft :=
  if d.gives f then .error (.repeated f) else d.set f value

def settle (d : Draft) : Pending → Except Failure Draft
  | none => .ok d
  | some (f, none) => .error (.missingValue f)
  | some (f, some value) => d.add f value

/-- Settles what is pending and then stops. -/
def stop {α : Type} (d : Draft) (p : Pending) (failure : Failure) : Except Failure α :=
  match settle d p with
  | .ok _ => .error failure
  | .error earlier => .error earlier

def readArguments (d : Draft) (p : Pending) : List String → Except Failure Draft
  | [] => settle d p
  | arg :: rest =>
    match Argument.of arg with
    | .hyphens =>
      match rest with
      | [] => settle d p
      | next :: _ => .error (.unknownArgument next)
    | .long name value =>
      match Flag.named? name, value with
      | some f, none =>
        match settle d p with
        | .ok d => readArguments d (some (f, none)) rest
        | .error e => .error e
      | some f, some value =>
        match settle d p with
        | .ok d =>
          match d.add f value with
          | .ok d => readArguments d none rest
          | .error e => .error e
        | .error e => .error e
      | none, value =>
        if name = "help" ∨ name = "version" then
          match value with
          | some value => .error (.unexpectedValue value name)
          | none => stop d p (if name = "help" then .help else .version)
        else .error (.unknownArgument ("--" ++ name))
    | .short letter =>
      if letter = 'h' then stop d p .help
      else if letter = 'V' then stop d p .version
      else .error (.unknownArgument (String.ofList ['-', letter]))
    | .plain =>
      match p with
      | some (f, none) => readArguments d (some (f, some arg)) rest
      | _ => .error (.unknownArgument arg)

/-- Takes the settings that are not given from the environment. -/
def readEnvironment (d : Draft) (environment : String → Option String) :
    List Flag → Except Failure Draft
  | [] => .ok d
  | f :: rest =>
    if d.gives f then readEnvironment d environment rest
    else match environment f.variableName with
      | none => readEnvironment d environment rest
      | some value =>
        match d.set f value with
        | .ok d => readEnvironment d environment rest
        | .error e => .error e

/-- The settings of a process that is started with these arguments in this environment. -/
def read (arguments : List String) (environment : String → Option String) :
    Except Failure Settings := do
  let d ← readArguments .blank none arguments
  let d ← readEnvironment d environment Flag.all
  d.complete

end EventWiring.Settings
