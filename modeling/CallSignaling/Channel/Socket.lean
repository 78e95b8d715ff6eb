import CallSignaling.Channel.Loop
import CallSignaling.Message.Codec

/-!
# Socket — a signaling channel over a WebSocket

What is read from a socket becomes the items of a channel: it opens, brings frames and closes once.
Messages are written one text frame each, as long as the socket takes them.
-/

namespace CallSignaling

/-- Why a socket cannot be read any more. -/
inductive SocketError where
  | connectionClosed
  | alreadyClosed
  | resetWithoutClosing
  | other (text : String)
deriving DecidableEq, Repr

/-- The reason that counts; a plain end of the connection gives none. -/
def SocketError.reason? : SocketError → Option String
  | .other text => some text
  | _ => none

/-- What is read from a socket. -/
inductive SocketInput where
  | text (bytes : Bytes)
  | binary (bytes : Bytes)
  | ping
  | pong
  | close (reason : Option String)
  | failure (error : SocketError)
deriving DecidableEq, Repr

namespace Socket

/-- The items that follow the opening of a channel whose socket is read to its end.  Nothing is read
after a close frame or a failure. -/
def relay : List SocketInput → List ChannelItem
  | [] => [.closed none]
  | .text bytes :: rest => .frame bytes :: relay rest
  | .binary bytes :: rest => .frame bytes :: relay rest
  | .ping :: rest => relay rest
  | .pong :: rest => relay rest
  | .close reason :: _ => [.closed (reason.filter (· ≠ ""))]
  | .failure error :: _ => [.closed error.reason?]

/-- The items of a channel. -/
def items (inputs : List SocketInput) : List ChannelItem := .opened :: relay inputs

/-- The frames written for queued messages; `accepts` says of each attempt whether the socket takes
the frame.  Nothing is written after a refusal. -/
def written : List Bool → List Message → List String
  | true :: accepts, m :: ms => m.encode :: written accepts ms
  | _, _ => []

end Socket

end CallSignaling
