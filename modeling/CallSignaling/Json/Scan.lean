import CallSignaling.Json.Fault
import CallSignaling.Json.Value

/-!
# Scan — literals, numbers and strings of a JSON text

Each function takes the bytes from the token's first byte on (for a string: from the byte after the
opening quote) and answers the token with the bytes after it.
-/

namespace CallSignaling.Json.Scan

/-- The byte of an ASCII character. -/
abbrev byte (c : Char) : UInt8 := c.toUInt8

/-- Blank space between tokens. -/
def isSpace (b : UInt8) : Bool := b == 0x20 || b == 0x0A || b == 0x09 || b == 0x0D

/-- The bytes from the next token on. -/
def skipSpace (s : Bytes) : Bytes := s.dropWhile isSpace

/-- The rest of a literal word. -/
def word : List Char → Bytes → Except Fault Bytes
  | [], s => .ok s
  | _ :: _, [] => .error ⟨.eofValue, []⟩
  | c :: cs, b :: s => if b = byte c then word cs s else .error ⟨.expectedIdent, s⟩

/-! ### Numbers -/

def isDigit (b : UInt8) : Bool := 0x30 ≤ b && b ≤ 0x39

def digitValue (b : UInt8) : Nat := b.toNat - 0x30

/-- Digits taken in as long as they fit into 64 bits; the later ones are only counted. -/
structure Significand where
  value : Nat
  dropped : Nat
deriving DecidableEq, Repr

namespace Significand

/-- One digit of the part before the point. -/
def pushWhole (s : Significand) (d : Nat) : Significand :=
  if s.dropped = 0 ∧ s.value * 10 + d < UInt64.size then ⟨s.value * 10 + d, 0⟩
  else ⟨s.value, s.dropped + 1⟩

/-- Digits of the part behind the point, up to the first that does not fit; answers the value and
how many were taken in. -/
def pushFraction : Nat → List Nat → Nat × Nat
  | v, [] => (v, 0)
  | v, d :: ds =>
    if v * 10 + d < UInt64.size then
      let (w, n) := pushFraction (v * 10 + d) ds
      (w, n + 1)
    else (v, 0)

end Significand

/-- The greatest exponent that is read as such. -/
def greatestExponent : Nat := Nat.pow 2 31 - 1

/-- Digits of an exponent; `none` if the exponent grows above the greatest one, with the bytes after
the digit that made it so. -/
def exponentDigits : Nat → Bytes → Option Nat × Bytes
  | e, [] => (some e, [])
  | e, b :: s =>
    if isDigit b then
      if e * 10 + digitValue b ≤ greatestExponent then exponentDigits (e * 10 + digitValue b) s
      else (none, s)
    else (some e, b :: s)

/-- `value · 10 ^ power` as a double. -/
def double (negative : Bool) (value : Nat) (power : Int) (s : Bytes) : Outcome Number :=
  match Decimal.Binary64.ofDecimal? value power with
  | some m => .ok (.double negative m, s)
  | none => .error ⟨.numberOutOfRange, s⟩

/-- The part after `e` or `E`. -/
def exponent (negative : Bool) (value : Nat) (power : Int) (s : Bytes) : Outcome Number :=
  let (down, s) := match s with
    | b :: t => if b = byte '+' then (false, t) else if b = byte '-' then (true, t) else (false, s)
    | [] => (false, [])
  match s with
  | [] => .error ⟨.eofValue, []⟩
  | b :: t =>
    if isDigit b then
      match exponentDigits (digitValue b) t with
      | (some e, t) => double negative value (if down then power - e else power + e) t
      | (none, t) =>
        if value ≠ 0 ∧ down = false then .error ⟨.numberOutOfRange, t⟩
        else .ok (.double negative .zero, t.dropWhile isDigit)
    else .error ⟨.invalidNumber, t⟩

/-- What follows the digits of the number so far: an exponent, or its end. -/
def afterFraction (negative : Bool) (value : Nat) (power : Int) (s : Bytes) : Outcome Number :=
  match s with
  | b :: t =>
    if b = byte 'e' ∨ b = byte 'E' then exponent negative value power t
    else double negative value power s
  | [] => double negative value power []

/-- The part after the point. -/
def fraction (negative : Bool) (value : Nat) (power : Int) (s : Bytes) : Outcome Number :=
  match s.takeWhile isDigit with
  | [] => .error (.next (if s.isEmpty then .eofValue else .invalidNumber) s)
  | ds =>
    let (value, n) := Significand.pushFraction value (ds.map digitValue)
    afterFraction negative value (power - n) (s.dropWhile isDigit)

/-- An integer, unless it is `-0` or needs more than 64 bits. -/
def whole (negative : Bool) (sig : Significand) (s : Bytes) : Outcome Number :=
  if sig.dropped ≠ 0 then double negative sig.value sig.dropped s
  else if negative then
    if sig.value = 0 ∨ Nat.pow 2 63 < sig.value then double true sig.value 0 s
    else .ok (.integer (-sig.value), s)
  else .ok (.integer sig.value, s)

/-- What follows the digits before the point. -/
def afterWhole (negative : Bool) (sig : Significand) (s : Bytes) : Outcome Number :=
  match s with
  | b :: t =>
    if b = byte '.' then fraction negative sig.value sig.dropped t
    else if b = byte 'e' ∨ b = byte 'E' then exponent negative sig.value sig.dropped t
    else whole negative sig s
  | [] => whole negative sig []

/-- A number without its sign. -/
def magnitude (negative : Bool) (s : Bytes) : Outcome Number :=
  match s with
  | [] => .error ⟨.eofValue, []⟩
  | b :: t =>
    if b = byte '0' then
      match t with
      | c :: _ =>
        if isDigit c then .error (.next .invalidNumber t) else afterWhole negative ⟨0, 0⟩ t
      | [] => afterWhole negative ⟨0, 0⟩ []
    else if isDigit b then
      let ds := (s.takeWhile isDigit).map digitValue
      afterWhole negative (ds.foldl Significand.pushWhole ⟨0, 0⟩) (s.dropWhile isDigit)
    else .error ⟨.invalidNumber, t⟩

/-- A number. -/
def number (s : Bytes) : Outcome Number :=
  match s with
  | b :: t => if b = byte '-' then magnitude true t else magnitude false s
  | [] => magnitude false []

/-! ### Strings -/

def hexValue? (b : UInt8) : Option Nat :=
  if isDigit b then some (digitValue b)
  else if 0x61 ≤ b ∧ b ≤ 0x66 then some (b.toNat - 0x61 + 10)
  else if 0x41 ≤ b ∧ b ≤ 0x46 then some (b.toNat - 0x41 + 10)
  else none

/-- Four hexadecimal digits. -/
def hex4 : Bytes → Outcome Nat
  | a :: b :: c :: d :: s =>
    match hexValue? a, hexValue? b, hexValue? c, hexValue? d with
    | some a, some b, some c, some d => .ok (((a * 16 + b) * 16 + c) * 16 + d, s)
    | _, _, _, _ => .error ⟨.invalidEscape, s⟩
  | _ => .error ⟨.eofString, []⟩

/-- The second half of a surrogate pair. -/
def trailingSurrogate (lead : Nat) (s : Bytes) : Outcome Char :=
  match s with
  | [] => .error ⟨.eofString, []⟩
  | b :: s =>
    if b ≠ byte '\\' then .error ⟨.unexpectedEndOfHexEscape, s⟩
    else match s with
      | [] => .error ⟨.eofString, []⟩
      | b :: s =>
        if b ≠ byte 'u' then .error ⟨.unexpectedEndOfHexEscape, s⟩
        else
          match hex4 s with
          | .error f => .error f
          | .ok (n, s) =>
            if 0xDC00 ≤ n ∧ n ≤ 0xDFFF then
              .ok (Char.ofNat ((lead - 0xD800) * 0x400 + (n - 0xDC00) + 0x10000), s)
            else .error ⟨.loneLeadingSurrogate, s⟩

/-- The character of a `\u` escape, after the `u`. -/
def unicodeEscape (s : Bytes) : Outcome Char :=
  match hex4 s with
  | .error f => .error f
  | .ok (n, s) =>
    if 0xDC00 ≤ n ∧ n ≤ 0xDFFF then .error ⟨.loneLeadingSurrogate, s⟩
    else if 0xD800 ≤ n ∧ n ≤ 0xDBFF then trailingSurrogate n s
    else .ok (Char.ofNat n, s)

/-- The characters that are escaped by one letter. -/
def letterEscapes : List (Char × Char) :=
  [('"', '"'), ('\\', '\\'), ('/', '/'), ('b', '\x08'), ('f', '\x0C'), ('n', '\n'), ('r', '\r'),
   ('t', '\t')]

/-- The character of an escape, after the backslash. -/
def escape (s : Bytes) : Outcome Char :=
  match s with
  | [] => .error ⟨.eofString, []⟩
  | b :: s =>
    match letterEscapes.find? fun e => byte e.1 == b with
    | some e => .ok (e.2, s)
    | none => if b = byte 'u' then unicodeEscape s else .error ⟨.invalidEscape, s⟩

/-- The characters up to the closing quote of a string whose bytes are `text`.  Ill-formed bytes are
reported there.  Their place counts back from the end of the text that the string stands for:
`bad` is the number of its bytes from the first ill-formed one on.  An escape makes that text
shorter than what is written, so only a string without escapes has the fault at the byte itself.
The number bounds the steps: each takes a byte. -/
def chars (text : Bytes) : Nat → Option Nat → Bytes → Outcome (List Char)
  | _, _, [] => .error ⟨.eofString, []⟩
  | 0, _, _ :: _ => .error ⟨.eofString, []⟩
  | n + 1, bad, b :: s =>
    if b = byte '"' then
      match bad with
      | none => .ok ([], s)
      | some k => .error ⟨.invalidCodePoint, text.drop (text.length - (k + s.length))⟩
    else if b = byte '\\' then
      match escape s with
      | .error f => .error f
      | .ok (c, s) =>
        (chars text n (bad.map (· + c.utf8Size)) s).map fun (cs, r) => (c :: cs, r)
    else if b < 0x20 then .error ⟨.controlCharacter, s⟩
    else
      match Utf8.next? (b :: s) with
      | some (c, s) => (chars text n (bad.map (· + c.utf8Size)) s).map fun (cs, r) => (c :: cs, r)
      | none => chars text n (some (bad.getD 0 + 1)) s

/-- A string, after the opening quote. -/
def string (s : Bytes) : Outcome String :=
  (chars s s.length none s).map fun (cs, r) => (String.ofList cs, r)

end CallSignaling.Json.Scan
