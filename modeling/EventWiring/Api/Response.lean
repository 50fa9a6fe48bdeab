import EventWiring.Error
import EventWiring.Json.Record

/-!
# Responses

How the answers of the API server are read. A response from 400 to 599 is a refusal, told by its
body or else by its code; of any other response only the body counts.
-/

namespace EventWiring.Api

structure Response where
  code : Nat
  body : String
deriving DecidableEq, Repr

open Json (Decoder Fields)

namespace Refusal

def decoder : Decoder Refusal :=
  .record "ErrorResponse"
    (.cons "status" .string .refused <| .cons "message" .string (.default "") <|
      .cons "reason" .string (.default "") <| .cons "code" .word16 .refused .nil)
    fun (status, message, reason, code, ()) => ⟨status, message, reason, code.toNat⟩

/-- The names of the codes that mean a refusal. -/
def codeNames : List (Nat × String) :=
  [(400, "Bad Request"), (401, "Unauthorized"), (402, "Payment Required"), (403, "Forbidden"),
    (404, "Not Found"), (405, "Method Not Allowed"), (406, "Not Acceptable"),
    (407, "Proxy Authentication Required"), (408, "Request Timeout"), (409, "Conflict"),
    (410, "Gone"), (411, "Length Required"), (412, "Precondition Failed"),
    (413, "Payload Too Large"), (414, "URI Too Long"), (415, "Unsupported Media Type"),
    (416, "Range Not Satisfiable"), (417, "Expectation Failed"), (418, "I'm a teapot"),
    (421, "Misdirected Request"), (422, "Unprocessable Entity"), (423, "Locked"),
    (424, "Failed Dependency"), (425, "Too Early"), (426, "Upgrade Required"),
    (428, "Precondition Required"), (429, "Too Many Requests"),
    (431, "Request Header Fields Too Large"), (451, "Unavailable For Legal Reasons"),
    (500, "Internal Server Error"), (501, "Not Implemented"), (502, "Bad Gateway"),
    (503, "Service Unavailable"), (504, "Gateway Timeout"), (505, "HTTP Version Not Supported"),
    (506, "Variant Also Negotiates"), (507, "Insufficient Storage"), (508, "Loop Detected"),
    (510, "Not Extended"), (511, "Network Authentication Required")]

def codeText (code : Nat) : String :=
  toString code ++ " " ++ (codeNames.lookup code).getD "<unknown status code>"

/-- What stands for a body that tells no refusal. -/
def reconstructed (r : Response) : Refusal where
  status := codeText r.code
  message := Text.quote r.body
  reason := "Failed to parse error data"
  code := r.code

end Refusal

namespace Response

def refusal? (r : Response) : Option Refusal :=
  if 400 ≤ r.code ∧ r.code < 600 then
    match Refusal.decoder.decode r.body with
    | .ok refusal => some refusal
    | .error _ => some (.reconstructed r)
  else none

/-- The value in the body. -/
def read {α : Type} (d : Decoder α) (r : Response) : Except Failure α :=
  match r.refusal? with
  | some refusal => .error (.refused refusal)
  | none =>
    match d.decode r.body with
    | .ok a => .ok a
    | .error failure => .error (.unreadable failure)

end Response

/-- The answer to a deletion that is carried out at once tells how it went. -/
structure Outcome where
  code : Nat
  message : String
  reason : String
deriving DecidableEq, Repr

namespace Outcome

def causeDecoder : Decoder Unit :=
  .record "StatusCause"
    (.cons "reason" .string (.default "") <| .cons "message" .string (.default "") <|
      .cons "field" .string (.default "") .nil) fun _ => ()

def detailsDecoder : Decoder Unit :=
  .record "StatusDetails"
    (.cons "name" .string (.default "") <| .cons "group" .string (.default "") <|
      .cons "kind" .string (.default "") <| .cons "uid" .string (.default "") <|
      .cons "causes" causeDecoder.list (.default []) <|
      .cons "retryAfterSeconds" .word32 (.default 0) .nil) fun _ => ()

def decoder : Decoder Outcome :=
  .record "Status"
    (.cons "status" (Decoder.enumeration [("Success", ()), ("Failure", ())]).option
        (.default none) <|
      .cons "code" .word16 (.default 0) <| .cons "message" .string (.default "") <|
      .cons "reason" .string (.default "") <|
      .cons "details" detailsDecoder.option (.default none) .nil)
    fun (_, code, message, reason, _, ()) => ⟨code.toNat, message, reason⟩

end Outcome

end EventWiring.Api
