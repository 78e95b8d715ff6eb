import CallSignaling.Json.Reader
import CallSignaling.Json.Writer
import CallSignaling.Message.Basic

/-!
# Codec — messages as JSON frames

A frame is one object with the members `type`, the tag's name, and `payload`, the fields.  `encode`
writes the fields in the order of declaration and leaves absent ones out.  `ofJson` reads a value: a
frame with an unknown tag holds no message, and the first field that is missing or of the wrong type
is named.
-/

namespace CallSignaling.Message

/-- The version of the frame layout. -/
def wireVersion : String := "vox-signaling/1"

/-! ### Writing -/

/-- The fields of a message with their JSON texts; `none` for an absent one. -/
def fields : Message → List (String × Option (List Char))
  | .clientConnect c => [("client_id", some (Json.writeString c))]
  | .clientConnected s c =>
    [("server_id", some (Json.writeString s)), ("client_id", c.map Json.writeString)]
  | .offer f t d =>
    [("from", some (Json.writeString f)), ("to", some (Json.writeString t)),
     ("sdp", some (Json.writeString d))]
  | .answer f t d =>
    [("from", f.map Json.writeString), ("to", t.map Json.writeString),
     ("sdp", some (Json.writeString d))]
  | .iceCandidate f t c =>
    [("from", some (Json.writeString f)), ("to", some (Json.writeString t)),
     ("candidate", some (Json.writeString c))]
  | .clientDisconnect c => [("client_id", some (Json.writeString c))]
  | .serverDisconnect s => [("server_id", some (Json.writeString s))]
  | .error c m => [("code", some (Json.writeInt c)), ("message", some (Json.writeString m))]

/-- The members of the payload: the fields that are present. -/
def payload (m : Message) : List (String × List Char) :=
  m.fields.filterMap fun (k, v) => v.map fun v => (k, v)

/-- The wire text of a message. -/
def encode (m : Message) : String :=
  String.ofList (Json.writeObject
    [("type", Json.writeString m.tag.name), ("payload", Json.writeObject m.payload)])

/-! ### Reading -/

/-- Why a frame holds no message. -/
inductive DecodeError where
  /-- The frame is not JSON. -/
  | unreadable (problem : Json.Problem) (line column : Nat)
  | notObject
  | missingField (tag field : String)
deriving DecidableEq, Repr

def DecodeError.message : DecodeError → String
  | .unreadable problem line column =>
    "malformed signaling frame: " ++ problem.message ++ " at line " ++ toString line ++ " column "
      ++ toString column
  | .notObject => "malformed signaling frame: frame is not a JSON object"
  | .missingField tag field => tag ++ " message is missing required field `" ++ field ++ "`"

/-- The tag named in errors about frames that have none. -/
def untagged : String := "<untagged>"

/-- The payload of a frame with a known tag. -/
structure Payload where
  tag : Tag
  members : List (String × Json)

namespace Payload

def missing (p : Payload) (field : String) : DecodeError := .missingField p.tag.name field

/-- A field that may be absent; `null` counts as absent. -/
def optional (p : Payload) (field : String) : Except DecodeError (Option String) :=
  match Json.member? field p.members with
  | none => .ok none
  | some .null => .ok none
  | some (.string s) => .ok (some s)
  | some _ => .error (p.missing field)

/-- A text field. -/
def required (p : Payload) (field : String) : Except DecodeError String :=
  match p.optional field with
  | .error e => .error e
  | .ok (some s) => .ok s
  | .ok none => .error (p.missing field)

/-- An integer field of 64 bits with a sign. -/
def integer (p : Payload) (field : String) : Except DecodeError Int :=
  match Json.member? field p.members with
  | some (.number n) =>
    match n.int64? with
    | some i => .ok i
    | none => .error (p.missing field)
  | _ => .error (p.missing field)

/-- The message of a payload. -/
def message (p : Payload) : Except DecodeError Message :=
  match p.tag with
  | .clientConnect => do return .clientConnect (← p.required "client_id")
  | .clientConnected => do
    let server ← p.required "server_id"
    let client ← p.optional "client_id"
    return .clientConnected server client
  | .offer => do
    let sender ← p.required "from"
    let recipient ← p.required "to"
    let sdp ← p.required "sdp"
    return .offer sender recipient sdp
  | .answer => do
    let sender ← p.optional "from"
    let recipient ← p.optional "to"
    let sdp ← p.required "sdp"
    return .answer sender recipient sdp
  | .iceCandidate => do
    let sender ← p.required "from"
    let recipient ← p.required "to"
    let candidate ← p.required "candidate"
    return .iceCandidate sender recipient candidate
  | .clientDisconnect => do return .clientDisconnect (← p.required "client_id")
  | .serverDisconnect => do return .serverDisconnect (← p.required "server_id")
  | .error => do
    let code ← p.integer "code"
    let text ← p.required "message"
    return .error code text

end Payload

/-- The message of a JSON value; `none` if its tag is unknown. -/
def ofJson (v : Json) : Except DecodeError (Option Message) :=
  match v with
  | .object frame =>
    match Json.member? "type" frame with
    | some (.string name) =>
      match Tag.ofName? name with
      | none => .ok none
      | some tag =>
        match Json.member? "payload" frame with
        | some (.object members) => (Payload.message ⟨tag, members⟩).map some
        | _ => .error (.missingField tag.name "payload")
    | _ => .error (.missingField untagged "type")
  | _ => .error .notObject

/-- The message of a frame; `none` if its tag is unknown. -/
def decode (frame : Bytes) : Except DecodeError (Option Message) :=
  match Json.read frame with
  | .error f => .error (.unreadable f.problem (f.line frame) (f.column frame))
  | .ok v => ofJson v

end CallSignaling.Message
