import CallSignaling.Json.Scan

/-!
# Skip — passing over a value that nobody wants

The value has to be JSON, but its numbers are not looked at closely, and it may nest to any depth.
-/

namespace CallSignaling.Json.Skip

open Scan

/-- What is open around a place in the text. -/
inductive Bracket where
  | list
  | object
deriving DecidableEq, Repr

namespace Bracket

def close : Bracket → Char
  | .list => ']'
  | .object => '\x7d'

/-- The problem of a text that ends inside. -/
def eof : Bracket → Problem
  | .list => .eofList
  | .object => .eofObject

/-- The problem of a value that is followed by neither a comma nor the closing bracket. -/
def expectedCommaOrEnd : Bracket → Problem
  | .list => .expectedListCommaOrEnd
  | .object => .expectedObjectCommaOrEnd

end Bracket

/-! ### Numbers -/

/-- At least one digit must follow a sign or an `e`. -/
def exponent (s : Bytes) : Except Fault Bytes :=
  let s := match s with
    | b :: t => if b = byte '+' ∨ b = byte '-' then t else s
    | [] => []
  match s with
  | b :: t => if isDigit b then .ok (t.dropWhile isDigit) else .error ⟨.invalidNumber, t⟩
  | [] => .error ⟨.invalidNumber, []⟩

def fraction (s : Bytes) : Except Fault Bytes :=
  if (s.takeWhile isDigit).isEmpty then .error (.next .invalidNumber s)
  else
    match s.dropWhile isDigit with
    | b :: t => if b = byte 'e' ∨ b = byte 'E' then exponent t else .ok (b :: t)
    | [] => .ok []

/-- What follows the digits before the point. -/
def afterWhole (s : Bytes) : Except Fault Bytes :=
  match s with
  | b :: t =>
    if b = byte '.' then fraction t
    else if b = byte 'e' ∨ b = byte 'E' then exponent t
    else .ok s
  | [] => .ok []

/-- A number without its sign. -/
def magnitude (s : Bytes) : Except Fault Bytes :=
  match s with
  | [] => .error ⟨.invalidNumber, []⟩
  | b :: t =>
    if b = byte '0' then
      match t with
      | c :: _ => if isDigit c then .error (.next .invalidNumber t) else afterWhole t
      | [] => .ok []
    else if isDigit b then afterWhole (t.dropWhile isDigit)
    else .error ⟨.invalidNumber, t⟩

/-! ### Strings -/

/-- An escape, after the backslash; what it stands for does not matter. -/
def escape (s : Bytes) : Except Fault Bytes :=
  match s with
  | [] => .error ⟨.eofString, []⟩
  | b :: s =>
    if letterEscapes.any fun e => byte e.1 == b then .ok s
    else if b = byte 'u' then (hex4 s).map Prod.snd
    else .error ⟨.invalidEscape, s⟩

/-- The rest of a string up to and with the closing quote.  The first argument bounds the number of
steps: each takes a byte. -/
def chars : Nat → Bytes → Except Fault Bytes
  | _, [] => .error ⟨.eofString, []⟩
  | 0, _ :: _ => .error ⟨.eofString, []⟩
  | n + 1, b :: s =>
    if b = byte '"' then .ok s
    else if b = byte '\\' then
      match escape s with
      | .error f => .error f
      | .ok s => chars n s
    else if b < 0x20 then .error ⟨.controlCharacter, b :: s⟩
    else chars n s

/-- A string, after the opening quote. -/
def string (s : Bytes) : Except Fault Bytes := chars s.length s

/-! ### Values -/

/-- A literal, a number or a string from its first byte on. -/
def scalar (b : UInt8) (t : Bytes) : Except Fault Bytes :=
  if b = byte 'n' then word ['u', 'l', 'l'] t
  else if b = byte 't' then word ['r', 'u', 'e'] t
  else if b = byte 'f' then word ['a', 'l', 's', 'e'] t
  else if b = byte '-' then magnitude t
  else if isDigit b then magnitude (b :: t)
  else if b = byte '"' then string t
  else .error ⟨.expectedValue, t⟩

/-- The key of a member with its colon. -/
def key (s : Bytes) : Except Fault Bytes :=
  match skipSpace s with
  | [] => .error ⟨.eofObject, []⟩
  | b :: t =>
    if b = byte '"' then
      match string t with
      | .error f => .error f
      | .ok t =>
        match skipSpace t with
        | [] => .error ⟨.eofObject, []⟩
        | b :: t => if b = byte ':' then .ok t else .error ⟨.expectedColon, t⟩
    else .error ⟨.keyMustBeString, t⟩

/-- Where the next value begins in the innermost bracket. -/
def enter : Bracket → Bytes → Except Fault Bytes
  | .list, s => .ok s
  | .object, s => key s

/-- Behind a value, or behind an opening bracket (`first`): closes brackets up to the place where
the next value begins, if there is one.  Answers what is still open. -/
def closeAll (first : Bool) : List Bracket → Bytes → Except Fault (List Bracket × Bytes)
  | [], s => .ok ([], s)
  | k :: ks, s =>
    match skipSpace s with
    | [] => .error ⟨k.eof, []⟩
    | b :: t =>
      if b = byte k.close then closeAll false ks t
      else if first then (enter k (b :: t)).map fun s => (k :: ks, s)
      else if b = byte ',' then (enter k t).map fun s => (k :: ks, s)
      else .error ⟨k.expectedCommaOrEnd, t⟩

/-- Values up to the end of the outermost bracket.  The first argument bounds the number of values
by the bytes. -/
def values : Nat → List Bracket → Bytes → Except Fault Bytes
  | n, stack, s =>
    match skipSpace s with
    | [] => .error ⟨.eofValue, []⟩
    | b :: t =>
      match n with
      | 0 => .error ⟨.eofValue, []⟩
      | n + 1 =>
        let after :=
          if b = byte '[' then closeAll true (.list :: stack) t
          else if b = byte '\x7b' then closeAll true (.object :: stack) t
          else
            match scalar b t with
            | .error f => .error f
            | .ok t => closeAll false stack t
        match after with
        | .error f => .error f
        | .ok ([], s) => .ok s
        | .ok (k :: ks, s) => values n (k :: ks) s

/-- One value. -/
def value (s : Bytes) : Except Fault Bytes := values s.length [] s

end CallSignaling.Json.Skip
