/-!
# Messages — what two clients tell each other through the signaling server

A message has a tag and the fields of that tag.  Session descriptions and candidates are texts that
are passed on unread.
-/

namespace CallSignaling

/-- The kinds of message. -/
inductive Tag where
  | clientConnect
  | clientConnected
  | offer
  | answer
  | iceCandidate
  | clientDisconnect
  | serverDisconnect
  | error
deriving DecidableEq, Repr

namespace Tag

/-- Every kind. -/
def all : List Tag :=
  [.clientConnect, .clientConnected, .offer, .answer, .iceCandidate, .clientDisconnect,
   .serverDisconnect, .error]

/-- The name on the wire. -/
def name : Tag → String
  | .clientConnect => "client_connect"
  | .clientConnected => "client_connected"
  | .offer => "offer"
  | .answer => "answer"
  | .iceCandidate => "ice_candidate"
  | .clientDisconnect => "client_disconnect"
  | .serverDisconnect => "server_disconnect"
  | .error => "error"

/-- The kind of that name. -/
def ofName? (name : String) : Option Tag := all.find? fun t => t.name == name

theorem ofName?_name (t : Tag) : ofName? t.name = some t := by cases t <;> decide

end Tag

/-- A message between a client, the server and the remote peer. -/
inductive Message where
  /-- A client announces its identity. -/
  | clientConnect (clientId : String)
  /-- The server assigns a remote peer. -/
  | clientConnected (serverId : String) (clientId : Option String)
  | offer (sender recipient sdp : String)
  | answer (sender recipient : Option String) (sdp : String)
  | iceCandidate (sender recipient candidate : String)
  | clientDisconnect (clientId : String)
  | serverDisconnect (serverId : String)
  /-- The server reports an error; the code has 64 bits with a sign. -/
  | error (code : Int) (message : String)
deriving DecidableEq, Repr

/-- The kind of a message. -/
def Message.tag : Message → Tag
  | .clientConnect .. => .clientConnect
  | .clientConnected .. => .clientConnected
  | .offer .. => .offer
  | .answer .. => .answer
  | .iceCandidate .. => .iceCandidate
  | .clientDisconnect .. => .clientDisconnect
  | .serverDisconnect .. => .serverDisconnect
  | .error .. => .error

end CallSignaling
