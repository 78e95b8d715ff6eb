import CallSignaling.Url.Parser

/-!
# ICE servers — the servers that help two peers find each other

An address of a STUN or TURN server is a scheme, a colon and a host, such as
`stun:example.org:3478`.  A TURN address may name its transport protocol in a query and needs a user
name and a credential.
-/

namespace CallSignaling

/-- A server with its addresses; both credentials are empty where none are needed. -/
structure IceServer where
  urls : List String
  username : String
  credential : String
deriving DecidableEq, Repr

namespace IceServer

/-- A server that asks for no credentials. -/
def plain (urls : List String) : IceServer := ⟨urls, "", ""⟩

/-- The address of the STUN server used where nothing else is said. -/
def defaultStunUrl : String := "stun:stun.l.google.com:19302"

/-- One server per STUN address. -/
def ofStunUrls (urls : List String) : List IceServer := urls.map fun u => plain [u]

/-- The servers used where nothing else is said. -/
def defaults : List IceServer := ofStunUrls [defaultStunUrl]

/-- No server: only the host's own addresses are offered. -/
def localhost : List IceServer := []

end IceServer

/-! ### Addresses that can be used -/

/-- Why an address cannot be used. -/
inductive IceAddressError where
  | doubleSlash
  | unknownScheme
  | malformed (reason : Url.ParseError)
  | noHost
  | stunQuery
  | unknownQuery
  | unknownProtocol
  | noCredentials
deriving DecidableEq, Repr

def IceAddressError.message : IceAddressError → String
  | .doubleSlash => "invalid url"
  | .unknownScheme => "unknown scheme type"
  | .malformed reason => reason.message
  | .noHost => "invalid hostname"
  | .stunQuery => "queries not supported in stun address"
  | .unknownQuery => "invalid query"
  | .unknownProtocol => "invalid transport protocol type"
  | .noCredentials => "turn server credentials required"

namespace IceAddress

/-- A text of a query with its signs undone: a plus stands for a space. -/
def queryBytes (cs : List Char) : Bytes :=
  Url.percentDecode (cs.map fun c => if c = '+' then ' ' else c)

/-- A key and its value in a query; a missing value is empty. -/
def queryPair (cs : List Char) : Bytes × Bytes :=
  (queryBytes (cs.takeWhile (· != '=')), queryBytes ((cs.dropWhile (· != '=')).drop 1))

/-- The pairs of a query between its ampersands. -/
def queryPairs (query : Option (List Char)) : List (Bytes × Bytes) :=
  ((Text.pieces '&' (query.getD [])).filter fun p => !p.isEmpty).map queryPair

/-- The query of a TURN address: nothing, or a transport protocol. -/
def checkTurnQuery : List (Bytes × Bytes) → Except IceAddressError Unit
  | [] => .ok ()
  | [(key, value)] =>
    if key = Utf8.encode "transport" then
      if value = Utf8.encode "udp" ∨ value = Utf8.encode "tcp" then .ok ()
      else .error .unknownProtocol
    else .error .unknownQuery
  | _ => .error .unknownQuery

/-- An address by its parts; `credentials` says that there are some. -/
def checkParts (credentials : Bool) (scheme : List Char) (hasHost : Bool)
    (query : List (Bytes × Bytes)) : Except IceAddressError Unit :=
  if !hasHost then .error .noHost
  else if scheme = "stun".toList ∨ scheme = "stuns".toList then
    if query.isEmpty then .ok () else .error .stunQuery
  else if scheme = "turn".toList ∨ scheme = "turns".toList then
    match checkTurnQuery query with
    | .error e => .error e
    | .ok () => if credentials then .ok () else .error .noCredentials
  else .error .unknownScheme

/-- A text with two slashes in it. -/
def hasDoubleSlash : List Char → Bool
  | '/' :: '/' :: _ => true
  | _ :: cs => hasDoubleSlash cs
  | [] => false

/-- Checks an address.  Behind its first colon it is read like the part of a URL behind `//`. -/
def check (credentials : Bool) (address : String) : Except IceAddressError Unit :=
  let cs := address.toList
  if hasDoubleSlash cs then .error .doubleSlash
  else
    match cs.dropWhile (· != ':') with
    | [] => .error .unknownScheme
    | _ :: rest =>
      let url := cs.takeWhile (· != ':') ++ ':' :: '/' :: '/' :: rest
      match Url.parse (String.ofList url) with
      | .error e => .error (.malformed e)
      | .ok (.url u) => checkParts credentials u.scheme true (queryPairs u.query)
      | .ok (.other o) => checkParts credentials o.scheme o.host.isSome (queryPairs o.query)

end IceAddress

/-- Checks every address of a server. -/
def IceServer.check (s : IceServer) : Except IceAddressError Unit :=
  s.urls.forM (IceAddress.check (s.username ≠ "" && s.credential ≠ ""))

end CallSignaling
