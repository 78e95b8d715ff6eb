import CallSignaling.Text.Utf8

/-!
# Percent encoding

Each part of a URL has a set of characters that are written as `%` and two hexadecimal digits per
UTF-8 byte.  Every set holds the control characters and everything beyond ASCII.
-/

namespace CallSignaling.Url

/-- A control character or a character beyond ASCII. -/
def isControl (c : Char) : Bool := c.toNat < 0x20 || 0x7E < c.toNat

/-- The characters written with a percent sign in a fragment. -/
def fragmentSet (c : Char) : Bool := isControl c || [' ', '"', '<', '>', '`'].contains c

/-- The same in the query of a URL with a host. -/
def querySet (c : Char) : Bool := isControl c || [' ', '"', '#', '<', '>', '\''].contains c

/-- The same in a path segment. -/
def pathSet (c : Char) : Bool := fragmentSet c || ['#', '?', '\x7b', '\x7d'].contains c

/-- The same in a user name or a password. -/
def userSet (c : Char) : Bool :=
  pathSet c || ['/', ':', ';', '=', '@', '[', '\\', ']', '^', '|'].contains c

/-- A hexadecimal digit in upper case. -/
def upperHex (n : Nat) : Char := (Nat.digitChar (n % 16)).toUpper

/-- A byte as `%` and two digits. -/
def percentByte (b : UInt8) : List Char := ['%', upperHex (b.toNat / 16), upperHex b.toNat]

/-- Writes the characters of a set with percent signs. -/
def percentEncode (set : Char → Bool) (cs : List Char) : List Char :=
  cs.flatMap fun c => if set c then (Utf8.encodeChar c).flatMap percentByte else [c]

def hexDigit? (c : Char) : Option Nat :=
  if '0' ≤ c ∧ c ≤ '9' then some (c.toNat - '0'.toNat)
  else if 'a' ≤ c ∧ c ≤ 'f' then some (c.toNat - 'a'.toNat + 10)
  else if 'A' ≤ c ∧ c ≤ 'F' then some (c.toNat - 'A'.toNat + 10)
  else none

/-- The bytes meant by a text with percent signs; a sign without two digits stands for itself. -/
def percentDecode : List Char → Bytes
  | '%' :: a :: b :: r =>
    match hexDigit? a, hexDigit? b with
    | some x, some y => UInt8.ofNat (x * 16 + y) :: percentDecode r
    | _, _ => 0x25 :: percentDecode (a :: b :: r)
  | c :: r => Utf8.encodeChar c ++ percentDecode r
  | [] => []

end CallSignaling.Url
