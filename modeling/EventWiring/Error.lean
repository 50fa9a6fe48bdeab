import EventWiring.Json.Failure

/-!
# Errors

What can go wrong in a pass, and how it is put into words.
-/

namespace EventWiring

/-- Why a text is no URI. -/
inductive Uri.Failure where
  | noScheme
  | emptyHost
  | invalidPort
  | invalidIpv4
  | invalidIpv6
  | invalidDomain
  | invalidDomainCharacter
deriving DecidableEq, Repr

def Uri.Failure.message : Uri.Failure → String
  | .noScheme => "relative URL without a base"
  | .emptyHost => "empty host"
  | .invalidPort => "invalid port number"
  | .invalidIpv4 => "invalid IPv4 address"
  | .invalidIpv6 => "invalid IPv6 address"
  | .invalidDomain => "invalid international domain name"
  | .invalidDomainCharacter => "invalid domain character"

/-- The reason that the API server gives for a refusal. -/
structure Api.Refusal where
  status : String
  message : String
  reason : String
  code : Nat
deriving DecidableEq, Repr

def Api.Refusal.describe (r : Api.Refusal) : String :=
  r.message ++ ": " ++ r.reason ++ " (ErrorResponse \x7b status: " ++ Text.quote r.status ++
    ", message: " ++ Text.quote r.message ++ ", reason: " ++ Text.quote r.reason ++ ", code: " ++
    toString r.code ++ " \x7d)"

/-- Why a request to the API server came to nothing. -/
inductive Api.Failure where
  | refused (refusal : Api.Refusal)
  | unsendable (reason : String)
  | unreadable (failure : Json.Failure)
deriving DecidableEq, Repr

def Api.Failure.message : Api.Failure → String
  | .refused refusal => "ApiError: " ++ refusal.describe
  | .unsendable reason => "Failed to build request: " ++ reason
  | .unreadable failure => "Error deserializing response: " ++ failure.message

inductive Error where
  | serialization (reason : String)
  | api (failure : Api.Failure)
  | io (reason : String)
  | invalidKey (key : String)
  | alreadyExists (object : String)
  | topicNotReady
  | topicMissingProjectId
  | topicMissingTopicId
  | topicMismatch (expected actual : String)
  | pullSubscriptionNotReady
  | invalidSinkUri (uri : String) (failure : Uri.Failure)
  | jobNotCompleted (job : String)
  | jobFailed (job message : String)
  | podNotFound
  | terminationMessageMissing (pod : String)
  | malformedResult (reason : String)
  | resultTooLarge (size limit : Nat)
  /-- The failure that a job reports of itself. -/
  | jobReported (message : String)
  | other (message : String)
deriving DecidableEq, Repr

namespace Error

def message : Error → String
  | .serialization reason => "SerializationError: " ++ reason
  | .api failure => "Kube Error: " ++ failure.message
  | .io reason => "IO Error: " ++ reason
  | .invalidKey key => "invalid resource key: " ++ key
  | .alreadyExists object => object ++ " already exists"
  | .topicNotReady => "topic not ready"
  | .topicMissingProjectId => "topic did not expose projectid"
  | .topicMissingTopicId => "topic did not expose topicid"
  | .topicMismatch expected actual =>
    "topic did not match expected: " ++ Text.quote expected ++ " got: " ++ Text.quote actual
  | .pullSubscriptionNotReady => "PullSubscription not ready"
  | .invalidSinkUri uri failure =>
    "failed to parse url " ++ Text.quote uri ++ " : " ++ failure.message
  | .jobNotCompleted job => "Job " ++ Text.quote job ++ " has not completed yet"
  | .jobFailed job message =>
    "Job " ++ Text.quote job ++ " failed to create or job failed: " ++ message
  | .podNotFound => "Pod not found"
  | .terminationMessageMissing pod => "did not find termination message for pod " ++ Text.quote pod
  | .malformedResult reason => "failed to unmarshal terminationmessage: " ++ Text.quote reason
  | .resultTooLarge size limit =>
    "termination message is " ++ toString size ++ " bytes, limit is " ++ toString limit
  | .jobReported message => message
  | .other message => "Other Error: " ++ message

/-- Something the pass depends on is still on its way; nothing broke. -/
def pending : Error → Bool
  | .topicNotReady => true
  | .pullSubscriptionNotReady => true
  | .jobNotCompleted _ => true
  | _ => false

end Error

end EventWiring
