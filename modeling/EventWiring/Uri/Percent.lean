import EventWiring.Uri.Address

/-!
# Bytes of a URI

`percentDecode` puts back the bytes that are written as `%` and two hexadecimal digits. `Form`
writes and reads the pairs of a query. `textOfBytes` reads bytes as UTF-8 and puts U+FFFD where
they are none.
-/

namespace EventWiring.Uri

open Text (hexDigit?)

/-- Replaces each `%` and two hexadecimal digits by the byte they stand for. -/
def percentDecode : List UInt8 → List UInt8
  | 0x25 :: a :: b :: rest =>
    match hexDigit? (Char.ofNat a.toNat), hexDigit? (Char.ofNat b.toNat) with
    | some x, some y => UInt8.ofNat (x * 16 + y) :: percentDecode rest
    | _, _ => 0x25 :: percentDecode (a :: b :: rest)
  | b :: rest => b :: percentDecode rest
  | [] => []

def bytesOf (s : String) : List UInt8 := s.toUTF8.toList

/-- The ranges of the bytes that follow a leading byte; none follows a byte that leads nothing. -/
def continuation (lead : UInt8) : List (UInt8 × UInt8) :=
  let any : UInt8 × UInt8 := (0x80, 0xbf)
  if 0xc2 ≤ lead ∧ lead ≤ 0xdf then [any]
  else if lead = 0xe0 then [(0xa0, 0xbf), any]
  else if lead = 0xed then [(0x80, 0x9f), any]
  else if 0xe1 ≤ lead ∧ lead ≤ 0xef then [any, any]
  else if lead = 0xf0 then [(0x90, 0xbf), any, any]
  else if 0xf1 ≤ lead ∧ lead ≤ 0xf3 then [any, any, any]
  else if lead = 0xf4 then [(0x80, 0x8f), any, any]
  else []

/-- The bytes in front that lie in the ranges. -/
def fitting : List (UInt8 × UInt8) → List UInt8 → List UInt8
  | (low, high) :: ranges, b :: rest =>
    if low ≤ b ∧ b ≤ high then b :: fitting ranges rest else []
  | _, _ => []

def scalar (lead : UInt8) (rest : List UInt8) : Char :=
  let start := lead.toNat % Nat.pow 2 (6 - rest.length)
  Char.ofNat (rest.foldl (fun n b => n * 64 + b.toNat % 64) start)

/-- Every longest start of a sequence that does not go on becomes one U+FFFD. -/
def textOfBytes : List UInt8 → List Char
  | [] => []
  | lead :: rest =>
    if lead < 0x80 then Char.ofNat lead.toNat :: textOfBytes rest
    else
      let ranges := continuation lead
      let taken := fitting ranges rest
      (if !ranges.isEmpty && taken.length = ranges.length then scalar lead taken else '\ufffd') ::
        textOfBytes (rest.drop taken.length)
termination_by bytes => bytes.length
decreasing_by
  · simp
  · simp only [List.length_drop, List.length_cons]
    omega

namespace Form

def isPlain (b : UInt8) : Bool :=
  (0x30 ≤ b && b ≤ 0x39) || (0x41 ≤ b && b ≤ 0x5a) || (0x61 ≤ b && b ≤ 0x7a) ||
    b = 0x2a || b = 0x2d || b = 0x2e || b = 0x5f

def upperHex (n : Nat) : Char := if n < 10 then Char.ofNat (48 + n) else Char.ofNat (55 + n)

def encodeByte (b : UInt8) : List Char :=
  if isPlain b then [Char.ofNat b.toNat]
  else if b = 0x20 then ['+']
  else ['%', upperHex (b.toNat / 16), upperHex (b.toNat % 16)]

/-- Blanks become plus signs, and all but letters, digits and a few marks is escaped. -/
def encode (s : String) : String := String.ofList ((bytesOf s).flatMap encodeByte)

def decode (cs : List Char) : String :=
  let bytes := (bytesOf (String.ofList cs)).map fun b => if b = 0x2b then 0x20 else b
  String.ofList (textOfBytes (percentDecode bytes))

/-- A name and a value on both sides of the first equals sign. -/
def pair (cs : List Char) : String × String :=
  (decode (cs.takeWhile (· ≠ '=')), decode ((cs.dropWhile (· ≠ '=')).drop 1))

/-- The pairs between ampersands. -/
def pairs (query : String) : List (String × String) :=
  ((Text.splitOn '&' query.toList).filter fun part => !part.isEmpty).map pair

end Form

end EventWiring.Uri
