import EventWiring.Duration
import EventWiring.Text.Plain

/-!
# Settings

What the controller is started with. Each setting has a flag and an environment variable; all but
the image of notification jobs have a default.
-/

namespace EventWiring

inductive LogFormat where
  | compact
  | json
deriving DecidableEq, Repr

structure Settings where
  jobImage : String
  /-- How long to wait for something that is on its way. -/
  pendingRequeue : Duration
  /-- How long to wait after any other failure. -/
  errorRequeue : Duration
  /-- How often a failing job is tried again. -/
  jobBackoffLimit : Int
  bind : String
  logFormat : LogFormat
deriving DecidableEq, Repr

namespace Settings

inductive Flag where
  | jobImage
  | pendingRequeue
  | errorRequeue
  | jobBackoffLimit
  | bind
  | logFormat
deriving DecidableEq, Repr

namespace Flag

def all : List Flag :=
  [.jobImage, .pendingRequeue, .errorRequeue, .jobBackoffLimit, .bind, .logFormat]

def name : Flag → String
  | .jobImage => "job-image"
  | .pendingRequeue => "pending-requeue"
  | .errorRequeue => "error-requeue"
  | .jobBackoffLimit => "job-backoff-limit"
  | .bind => "bind"
  | .logFormat => "log-format"

/-- The environment variable that counts when the flag is not given. -/
def variableName : Flag → String
  | .jobImage => "SCHEDULER_JOB_IMAGE"
  | .pendingRequeue => "SCHEDULER_PENDING_REQUEUE"
  | .errorRequeue => "SCHEDULER_ERROR_REQUEUE"
  | .jobBackoffLimit => "SCHEDULER_JOB_BACKOFF_LIMIT"
  | .bind => "SCHEDULER_BIND"
  | .logFormat => "LOG_FORMAT"

/-- What stands for the value in messages. -/
def placeholder : Flag → String
  | .jobImage => "JOB_IMAGE"
  | .pendingRequeue => "PENDING_REQUEUE"
  | .errorRequeue => "ERROR_REQUEUE"
  | .jobBackoffLimit => "JOB_BACKOFF_LIMIT"
  | .bind => "BIND"
  | .logFormat => "LOG_FORMAT"

def usage (f : Flag) : String := "'--" ++ f.name ++ " <" ++ f.placeholder ++ ">'"

def named? (name : String) : Option Flag := all.find? (·.name = name)

end Flag

/-- Why there are no settings. Help and version are asked for rather than failed. -/
inductive Failure where
  | help
  | version
  | unknownArgument (argument : String)
  | repeated (flag : Flag)
  | missingValue (flag : Flag)
  /-- A value for something that takes none. -/
  | unexpectedValue (value name : String)
  | unknownValue (flag : Flag) (value : String)
  | invalidValue (flag : Flag) (value reason : String)
  | missingImage
deriving DecidableEq, Repr

def Failure.message : Failure → String
  | .help => ""
  | .version => ""
  | .unknownArgument argument => "error: unexpected argument '" ++ argument ++ "' found"
  | .repeated flag => "error: the argument " ++ flag.usage ++ " cannot be used multiple times"
  | .missingValue flag =>
    "error: a value is required for " ++ flag.usage ++ " but none was supplied"
  | .unexpectedValue value name =>
    "error: unexpected value '" ++ value ++ "' for '--" ++ name ++
      "' found; no more were expected"
  | .unknownValue flag value => "error: invalid value '" ++ value ++ "' for " ++ flag.usage
  | .invalidValue flag value reason =>
    "error: invalid value '" ++ value ++ "' for " ++ flag.usage ++ ": " ++ reason
  | .missingImage => "error: the following required arguments were not provided:"

/-- The first line of the message, as it can be shown anywhere. -/
def Failure.line (f : Failure) : String := Text.firstLine (Text.plain f.message)

/-- Settings of which some are given. -/
structure Draft where
  jobImage : Option String
  pendingRequeue : Option Duration
  errorRequeue : Option Duration
  jobBackoffLimit : Option Int
  bind : Option String
  logFormat : Option LogFormat
deriving DecidableEq, Repr

namespace Draft

def blank : Draft := ⟨none, none, none, none, none, none⟩

def gives (d : Draft) : Flag → Bool
  | .jobImage => d.jobImage.isSome
  | .pendingRequeue => d.pendingRequeue.isSome
  | .errorRequeue => d.errorRequeue.isSome
  | .jobBackoffLimit => d.jobBackoffLimit.isSome
  | .bind => d.bind.isSome
  | .logFormat => d.logFormat.isSome

def readDuration (f : Flag) (value : String) : Except Failure Duration :=
  match Duration.parse value with
  | .ok d => .ok d
  | .error failure => .error (.invalidValue f value failure.message)

/-- A whole number of 32 bits. -/
def readLimit (f : Flag) (value : String) : Except Failure Int :=
  match Text.Numeral.int64 value.toList with
  | .error failure => .error (.invalidValue f value failure.message)
  | .ok n =>
    if -0x80000000 ≤ n ∧ n ≤ 0x7fffffff then .ok n
    else .error (.invalidValue f value (toString n ++ " is not in -2147483648..=2147483647"))

def readFormat (f : Flag) (value : String) : Except Failure LogFormat :=
  if value = "compact" then .ok .compact
  else if value = "json" then .ok .json
  else if value = "" then .error (.missingValue f)
  else .error (.unknownValue f value)

/-- Reads the value of a flag. -/
def set (d : Draft) (f : Flag) (value : String) : Except Failure Draft :=
  match f with
  | .jobImage => .ok { d with jobImage := some value }
  | .pendingRequeue => (readDuration f value).map fun v => { d with pendingRequeue := some v }
  | .errorRequeue => (readDuration f value).map fun v => { d with errorRequeue := some v }
  | .jobBackoffLimit => (readLimit f value).map fun v => { d with jobBackoffLimit := some v }
  | .bind => .ok { d with bind := some value }
  | .logFormat => (readFormat f value).map fun v => { d with logFormat := some v }

/-- Fills in the defaults. -/
def complete (d : Draft) : Except Failure Settings :=
  match d.jobImage with
  | none => .error .missingImage
  | some jobImage =>
    .ok
      { jobImage
        pendingRequeue := d.pendingRequeue.getD (.ofSeconds 10)
        errorRequeue := d.errorRequeue.getD (.ofSeconds 300)
        jobBackoffLimit := d.jobBackoffLimit.getD 3
        bind := d.bind.getD "0.0.0.0:8080"
        logFormat := d.logFormat.getD .compact }

end Draft

end Settings

end EventWiring
