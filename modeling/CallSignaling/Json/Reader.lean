import CallSignaling.Json.Scan

/-!
# Reader — a JSON value from bytes

`read` takes a whole text.  Arrays and objects nest less than `depthLimit` deep.
-/

namespace CallSignaling.Json

/-- Arrays and objects nest less deep than this. -/
def depthLimit : Nat := 128

end CallSignaling.Json

namespace CallSignaling.Json.Reader

open Scan

/-- The place where the next item of an array begins; `false` at the closing bracket, with the bytes
after it.  `first` says that no item has been read. -/
def itemStart (first : Bool) (s : Bytes) : Outcome Bool :=
  match skipSpace s with
  | [] => .error ⟨.eofList, []⟩
  | b :: t =>
    if b = byte ']' then .ok (false, t)
    else if first then .ok (true, b :: t)
    else if b = byte ',' then
      match skipSpace t with
      | [] => .error ⟨.eofValue, []⟩
      | c :: u => if c = byte ']' then .error ⟨.trailingComma, u⟩ else .ok (true, c :: u)
    else .error ⟨.expectedListCommaOrEnd, t⟩

/-- The items of an array after `[`, with the closing bracket.  The first argument bounds the number
of items by the bytes left. -/
def items (element : Bytes → Outcome Json) : Nat → Bool → Bytes → Outcome (List Json)
  | n, first, s =>
    match itemStart first s with
    | .error f => .error f
    | .ok (false, t) => .ok ([], t)
    | .ok (true, t) =>
      match n with
      | 0 => .error ⟨.eofList, []⟩
      | n + 1 =>
        match element t with
        | .error f => .error f
        | .ok (v, t) => (items element n false t).map fun (vs, r) => (v :: vs, r)

/-- The colon between key and value. -/
def colon (s : Bytes) : Except Fault Bytes :=
  match skipSpace s with
  | [] => .error ⟨.eofObject, []⟩
  | b :: t => if b = byte ':' then .ok t else .error ⟨.expectedColon, t⟩

/-- The bytes after the opening quote of the next key; `false` at the closing brace, with the bytes
after it. -/
def keyStart (first : Bool) (s : Bytes) : Outcome Bool :=
  match skipSpace s with
  | [] => .error ⟨.eofObject, []⟩
  | b :: t =>
    if b = byte '\x7d' then .ok (false, t)
    else if first then
      if b = byte '"' then .ok (true, t) else .error ⟨.keyMustBeString, t⟩
    else if b = byte ',' then
      match skipSpace t with
      | [] => .error ⟨.eofValue, []⟩
      | c :: u =>
        if c = byte '"' then .ok (true, u)
        else if c = byte '\x7d' then .error ⟨.trailingComma, u⟩
        else .error ⟨.keyMustBeString, u⟩
    else .error ⟨.expectedObjectCommaOrEnd, t⟩

/-- The members of an object after the opening brace, with the closing one. -/
def members (element : Bytes → Outcome Json) : Nat → Bool → Bytes → Outcome (List (String × Json))
  | n, first, s =>
    match keyStart first s with
    | .error f => .error f
    | .ok (false, t) => .ok ([], t)
    | .ok (true, t) =>
      match n with
      | 0 => .error ⟨.eofObject, []⟩
      | n + 1 =>
        match Scan.string t with
        | .error f => .error f
        | .ok (k, t) =>
          match colon t with
          | .error f => .error f
          | .ok t =>
            match element t with
            | .error f => .error f
            | .ok (v, t) => (members element n false t).map fun (ms, r) => ((k, v) :: ms, r)

/-- A value with the space in front of it; the first argument is how many more levels may open. -/
def value : Nat → Bytes → Outcome Json
  | depth, s =>
    match skipSpace s with
    | [] => .error ⟨.eofValue, []⟩
    | b :: t =>
      if b = byte 'n' then (word ['u', 'l', 'l'] t).map fun r => (.null, r)
      else if b = byte 't' then (word ['r', 'u', 'e'] t).map fun r => (.bool true, r)
      else if b = byte 'f' then (word ['a', 'l', 's', 'e'] t).map fun r => (.bool false, r)
      else if b = byte '-' ∨ isDigit b then (Scan.number (b :: t)).map fun (x, r) => (.number x, r)
      else if b = byte '"' then (Scan.string t).map fun (x, r) => (.string x, r)
      else if b = byte '[' then
        match depth with
        | 0 => .error ⟨.recursionLimit, t⟩
        | d + 1 => (items (value d) t.length true t).map fun (vs, r) => (.array vs, r)
      else if b = byte '\x7b' then
        match depth with
        | 0 => .error ⟨.recursionLimit, t⟩
        | d + 1 => (members (value d) t.length true t).map fun (ms, r) => (.object ms, r)
      else .error ⟨.expectedValue, t⟩

/-- Nothing but space follows. -/
def finish (s : Bytes) : Except Fault Unit :=
  match skipSpace s with
  | [] => .ok ()
  | _ :: t => .error ⟨.trailingCharacters, t⟩

end CallSignaling.Json.Reader

namespace CallSignaling

/-- The value of a whole text. -/
def Json.read (text : Bytes) : Except Json.Fault Json :=
  match Json.Reader.value (Json.depthLimit - 1) text with
  | .error f => .error f
  | .ok (v, s) => (Json.Reader.finish s).map fun () => v

end CallSignaling
