import EventWiring.Error
import EventWiring.Uri.Domain

/-!
# Which texts are URIs

`Uri.check` reads an absolute URI as browsers do: blanks at both ends and line breaks anywhere are
dropped, backslashes count as slashes in the schemes of the web, and a path, a query or a fragment
is never wrong. What can be wrong is the scheme, the host and the port.
-/

namespace EventWiring.Uri

def isAsciiLetter (c : Char) : Bool := ('a' ≤ c && c ≤ 'z') || ('A' ≤ c && c ≤ 'Z')

def isAsciiDigit (c : Char) : Bool := '0' ≤ c && c ≤ '9'

/-- The text without controls and spaces around it, and without tabs and line breaks. -/
def trimmed (s : String) : List Char :=
  let atEnd := fun c : Char => c.toNat ≤ 0x20
  let cs := s.toList.dropWhile atEnd
  ((cs.reverse.dropWhile atEnd).reverse).filter fun c => c ≠ '\t' && c ≠ '\n' && c ≠ '\r'

def isSchemeChar (c : Char) : Bool :=
  isAsciiLetter c || isAsciiDigit c || c = '+' || c = '-' || c = '.'

/-- The scheme in lower case and what follows its colon. -/
def scheme? (cs : List Char) : Option (String × List Char) :=
  match cs with
  | [] => none
  | c :: _ =>
    if !isAsciiLetter c then none
    else match cs.dropWhile isSchemeChar with
      | ':' :: rest => some (String.ofList ((cs.takeWhile isSchemeChar).map Char.toLower), rest)
      | _ => none

/-- How a scheme treats hosts. -/
inductive SchemeKind where
  | web
  | file
  | plain
deriving DecidableEq, Repr

def SchemeKind.of (scheme : String) : SchemeKind :=
  if scheme ∈ ["http", "https", "ws", "wss", "ftp"] then .web
  else if scheme = "file" then .file else .plain

def isSlash (c : Char) : Bool := c = '/' || c = '\\'

/-- Where the part of a URI with user, host and port ends. -/
def endsAuthority (kind : SchemeKind) (c : Char) : Bool :=
  c = '/' || c = '?' || c = '#' || (kind ≠ .plain && c = '\\')

/-- What stands before the last `@`, and what follows it. -/
def splitUser (cs : List Char) : Option (List Char × List Char) :=
  let (after, before) := cs.reverse.span (· ≠ '@')
  match before with
  | _ :: before => some (before.reverse, after.reverse)
  | [] => none

/-- The host ends at the first colon outside brackets. -/
def splitHost (bracketed : Bool) : List Char → List Char × List Char
  | [] => ([], [])
  | c :: rest =>
    if c = ':' && !bracketed then ([], c :: rest)
    else
      let (host, port) := splitHost (c = '[' || (bracketed && c ≠ ']')) rest
      (c :: host, port)

/-- The address within brackets. -/
def checkIpv6 (cs : List Char) : Except Failure Unit :=
  if cs.getLast? = some ']' ∧ 1 < cs.length ∧ Ipv6.valid (cs.drop 1).dropLast then .ok ()
  else .error .invalidIpv6

/-- No host of a plain scheme holds these characters. -/
def isDeniedPlain (c : Char) : Bool :=
  "\x00\t\n\r #/:<>?@[\\]^|".toList.contains c

def checkPlainHost (cs : List Char) : Except Failure Unit :=
  if cs.head? = some '[' then checkIpv6 cs
  else if cs.any isDeniedPlain then .error .invalidDomainCharacter
  else .ok ()

def checkWebHost (cs : List Char) : Except Failure Unit :=
  if cs.head? = some '[' then checkIpv6 cs
  else match Domain.read? cs with
    | none => .error .invalidDomain
    | some [] => .error .emptyHost
    | some domain =>
      if Ipv4.endsInNumber domain ∧ (Ipv4.parse? domain).isNone then .error .invalidIpv4
      else .ok ()

/-- At most five digits that stand for a number below 65536; a slash ends them. -/
def checkPort (sofar : Nat) : List Char → Except Failure Unit
  | [] => .ok ()
  | c :: rest =>
    match Text.digit? c with
    | some d => if sofar * 10 + d < 65536 then checkPort (sofar * 10 + d) rest
        else .error .invalidPort
    | none => if isSlash c then .ok () else .error .invalidPort

/-- User, host and port. A plain scheme may leave the host empty, unless a user or a port stands
beside it. -/
def checkAuthority (kind : SchemeKind) (cs : List Char) : Except Failure Unit := do
  let authority := cs.takeWhile (!endsAuthority kind ·)
  let (user, place) := (splitUser authority).getD ([], authority)
  let named := user.any (· ≠ ':') || 1 < user.length
  if user.isEmpty ∧ place.isEmpty ∧ authority = ['@'] ∧ authority.length < cs.length then
    throw .emptyHost
  let (host, port) := splitHost false place
  if kind = .web then
    if host.isEmpty then throw .emptyHost
    checkWebHost host
  else
    checkPlainHost host
    if host.isEmpty ∧ !port.isEmpty then throw .emptyHost
  match port with
  | _ :: digits => checkPort 0 digits
  | [] => pure ()
  if host.isEmpty ∧ named then throw .emptyHost

/-- A drive of a file system in place of a host. -/
def isDrive (cs : List Char) : Bool :=
  match cs with
  | [c, d] => isAsciiLetter c && (d = ':' || d = '|')
  | _ => false

def checkFile (cs : List Char) : Except Failure Unit :=
  match cs with
  | a :: b :: rest =>
    if isSlash a && isSlash b then
      let host := rest.takeWhile (!endsAuthority .file ·)
      if host.isEmpty || isDrive host then .ok () else checkWebHost host
    else .ok ()
  | _ => .ok ()

def check (s : String) : Except Failure Unit :=
  match scheme? (trimmed s) with
  | none => .error .noScheme
  | some (scheme, rest) =>
    match SchemeKind.of scheme with
    | .file => checkFile rest
    | .web => checkAuthority .web (rest.dropWhile isSlash)
    | .plain =>
      match rest with
      | '/' :: '/' :: rest => checkAuthority .plain rest
      | _ => .ok ()

end EventWiring.Uri
