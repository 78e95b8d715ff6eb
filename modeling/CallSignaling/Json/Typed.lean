import CallSignaling.Decimal.Shortest
import CallSignaling.Json.Reader
import CallSignaling.Json.Skip
import CallSignaling.Text.Quoted

/-!
# Typed — reading a JSON text into a record

A record is written as an object or as the list of its fields in order.  A value of another shape
is a fault whose text names what was found and what was wanted.
-/

namespace CallSignaling.Json.Typed

open Scan

/-! ### Unwanted values -/

/-- What a number is called in the text of a fault. -/
def numberText : Number → String
  | .integer i => "integer `" ++ toString i ++ "`"
  | .double negative m => "floating point `" ++ Decimal.writeDouble negative m ++ "`"

/-- A value of the wrong type. -/
def invalidType (found wanted : String) : Problem :=
  .shape ("invalid type: " ++ found ++ ", expected " ++ wanted)

/-- The fault of a literal, number, string or bracket where something else was wanted.  Lists and
objects are not read. -/
def unwanted (wanted : String) (s : Bytes) : Fault :=
  let found (text : String) (r : Except Fault Bytes) : Fault :=
    match r with
    | .error f => f
    | .ok rest => ⟨invalidType text wanted, rest⟩
  match s with
  | [] => ⟨.eofValue, []⟩
  | b :: t =>
    if b = byte 'n' then found "null" (word ['u', 'l', 'l'] t)
    else if b = byte 't' then found "boolean `true`" (word ['r', 'u', 'e'] t)
    else if b = byte 'f' then found "boolean `false`" (word ['a', 'l', 's', 'e'] t)
    else if b = byte '-' ∨ isDigit b then
      match Scan.number s with
      | .error f => f
      | .ok (x, rest) => ⟨invalidType (numberText x) wanted, rest⟩
    else if b = byte '"' then
      match Scan.string t with
      | .error f => f
      | .ok (x, rest) => ⟨invalidType ("string " ++ Text.quote x) wanted, rest⟩
    else if b = byte '[' then ⟨invalidType "sequence" wanted, s⟩
    else if b = byte '\x7b' then ⟨invalidType "map" wanted, s⟩
    else ⟨.expectedValue, t⟩

/-! ### Simple values -/

/-- A string. -/
def text (s : Bytes) : Outcome String :=
  match skipSpace s with
  | [] => .error ⟨.eofValue, []⟩
  | b :: t => if b = byte '"' then Scan.string t else .error (unwanted "a string" (b :: t))

/-- The literal `null`. -/
def unit (s : Bytes) : Outcome Unit :=
  match skipSpace s with
  | [] => .error ⟨.eofValue, []⟩
  | b :: t =>
    if b = byte 'n' then (word ['u', 'l', 'l'] t).map fun r => ((), r)
    else .error (unwanted "unit" (b :: t))

/-- A number below `2 ^ 16`. -/
def natural16 (s : Bytes) : Outcome Nat :=
  match skipSpace s with
  | [] => .error ⟨.eofValue, []⟩
  | b :: t =>
    if b = byte '-' ∨ isDigit b then
      match Scan.number (b :: t) with
      | .error f => .error f
      | .ok (.integer i, r) =>
        if 0 ≤ i ∧ i < UInt16.size then .ok (i.toNat, r)
        else .error ⟨.shape ("invalid value: " ++ numberText (.integer i) ++ ", expected u16"), r⟩
      | .ok (x, r) => .error ⟨invalidType (numberText x) "u16", r⟩
    else .error (unwanted "u16" (b :: t))

/-- A value, or `null` for none. -/
def option {α : Type} (value : Bytes → Outcome α) (s : Bytes) : Outcome (Option α) :=
  match skipSpace s with
  | [] => (value []).map fun (a, r) => (some a, r)
  | b :: t =>
    if b = byte 'n' then (word ['u', 'l', 'l'] t).map fun r => (none, r)
    else (value (b :: t)).map fun (a, r) => (some a, r)

/-! ### Alternatives -/

/-- The alternative of a name. -/
def named {α : Type} (alternatives : List (String × α)) (name : String) (rest : Bytes) :
    Outcome α :=
  match alternatives.lookup name with
  | some a => .ok (a, rest)
  | none =>
    let names := alternatives.map fun e => "`" ++ e.1 ++ "`"
    .error ⟨.shape ("unknown variant `" ++ name ++ "`, expected one of " ++ ", ".intercalate names),
      rest⟩

/-- The only key of an object that stands for an alternative, after the opening brace. -/
def onlyKey (s : Bytes) : Outcome String :=
  match skipSpace s with
  | [] => .error ⟨.eofObject, []⟩
  | b :: t =>
    if b = byte '"' then Scan.string t
    else .error ⟨if b = byte '\x7d' then .expectedValue else .keyMustBeString, t⟩

/-- The colon and the `null` behind a key, with the brace that closes the object. -/
def emptyMember (s : Bytes) : Except Fault Bytes :=
  match Reader.colon s >>= unit with
  | .error f => .error f
  | .ok ((), r) =>
    match skipSpace r with
    | [] => .error ⟨.eofObject, []⟩
    | b :: t => if b = byte '\x7d' then .ok t else .error ⟨.expectedValue, b :: t⟩

/-- One of several alternatives: its name, or an object with its name as the key of `null`. -/
def alternative {α : Type} (alternatives : List (String × α)) (s : Bytes) : Outcome α :=
  match skipSpace s with
  | [] => .error ⟨.eofValue, []⟩
  | b :: t =>
    if b = byte '"' then
      match Scan.string t with
      | .error f => .error f
      | .ok (name, r) => named alternatives name r
    else if b = byte '\x7b' then
      match onlyKey t with
      | .error f => .error f
      | .ok (name, r) =>
        match named alternatives name r with
        | .error f => .error f
        | .ok (a, r) => (emptyMember r).map fun r => (a, r)
    else .error ⟨.expectedValue, t⟩

/-! ### Records -/

/-- A field of a record that is read into a draft. -/
structure Field (σ : Type) where
  name : String
  required : Bool
  read : σ → Bytes → Outcome σ

/-- A record with its name and its fields in order. -/
structure Form (σ : Type) where
  name : String
  fields : List (Field σ)

namespace Form

variable {σ : Type}

/-- The bytes after the brace that closes an object, where there is one. -/
def pastBrace (s : Bytes) : Bytes :=
  match skipSpace s with
  | b :: t => if b = byte '\x7d' then t else b :: t
  | [] => []

/-- A field that must not be missing and is. -/
def missing? (form : Form σ) (seen : List String) : Option String :=
  (form.fields.find? fun f => f.required && !seen.contains f.name).map Field.name

/-- The members of an object, after its opening brace.  The first argument bounds their number by
the bytes; `seen` are the fields read so far.  Other members are passed over. -/
def members (form : Form σ) : Nat → List String → Bool → σ → Bytes → Outcome σ
  | n, seen, first, draft, s =>
    match Reader.keyStart first s with
    | .error f => .error f
    | .ok (false, t) =>
      match form.missing? seen with
      | none => .ok (draft, t)
      | some name => .error ⟨.shape ("missing field `" ++ name ++ "`"), t⟩
    | .ok (true, t) =>
      match n with
      | 0 => .error ⟨.eofObject, []⟩
      | n + 1 =>
        match Scan.string t with
        | .error f => .error f
        | .ok (key, t) =>
          match form.fields.find? fun f => f.name == key with
          | none =>
            match Reader.colon t >>= Skip.value with
            | .error f => .error f
            | .ok t => members form n seen false draft t
          | some field =>
            if seen.contains key then
              .error ⟨.shape ("duplicate field `" ++ key ++ "`"), pastBrace t⟩
            else
              match Reader.colon t >>= field.read draft with
              | .error f => .error f
              | .ok (draft, t) => members form n (key :: seen) false draft t

/-- What may follow the last item of a list. -/
def finishList (s : Bytes) : Except Fault Bytes :=
  match skipSpace s with
  | [] => .error ⟨.eofList, []⟩
  | b :: t =>
    if b = byte ']' then .ok t
    else if b = byte ',' then
      match skipSpace t with
      | c :: u => .error ⟨if c = byte ']' then .trailingComma else .trailingCharacters, u⟩
      | [] => .error ⟨.trailingCharacters, []⟩
    else .error ⟨.trailingCharacters, t⟩

/-- The fields that are left, after `count` others, of a record written as a list. -/
def items (form : Form σ) : List (Field σ) → Nat → σ → Bytes → Outcome σ
  | [], _, draft, s => (finishList s).map fun t => (draft, t)
  | field :: fields, count, draft, s =>
    match Reader.itemStart (count == 0) s with
    | .error f => .error f
    | .ok (false, t) =>
      .error ⟨.shape ("invalid length " ++ toString count ++ ", expected " ++ form.name ++ " with "
        ++ toString form.fields.length ++ " elements"), t⟩
    | .ok (true, t) =>
      match field.read draft t with
      | .error f => .error f
      | .ok (draft, t) => items form fields (count + 1) draft t

/-- A record. -/
def value (form : Form σ) (empty : σ) (s : Bytes) : Outcome σ :=
  match skipSpace s with
  | [] => .error ⟨.eofValue, []⟩
  | b :: t =>
    if b = byte '[' then form.items form.fields 0 empty t
    else if b = byte '\x7b' then form.members t.length [] true empty t
    else .error (unwanted form.name (b :: t))

/-- The record of a whole text. -/
def read (form : Form σ) (empty : σ) (s : Bytes) : Except Fault σ :=
  match form.value empty s with
  | .error f => .error f
  | .ok (draft, s) => (Reader.finish s).map fun () => draft

end Form

end CallSignaling.Json.Typed
