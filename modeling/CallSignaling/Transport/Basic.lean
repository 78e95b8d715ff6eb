/-!
# Transports — what they carry, report and refuse

The media of a call as far as signaling sees them: local tracks handed over by the capture side,
remote streams announced by a transport, the events that a transport raises, and why it did not do
what it was asked.
-/

namespace CallSignaling

inductive MediaKind where
  | audio
  | video
deriving DecidableEq, Repr

def MediaKind.name : MediaKind → String
  | .audio => "audio"
  | .video => "video"

/-- A locally captured track. -/
structure Track where
  id : String
  stream : String
  kind : MediaKind
deriving DecidableEq, Repr

/-- A track of the remote peer. -/
structure RemoteStream where
  track : String
  stream : String
  kind : MediaKind
deriving DecidableEq, Repr

/-- How the media connection stands. -/
inductive LinkState where
  | new
  | connecting
  | connected
  | disconnected
  | failed
  | closed
deriving DecidableEq, Repr

def LinkState.all : List LinkState :=
  [.new, .connecting, .connected, .disconnected, .failed, .closed]

def LinkState.name : LinkState → String
  | .new => "New"
  | .connecting => "Connecting"
  | .connected => "Connected"
  | .disconnected => "Disconnected"
  | .failed => "Failed"
  | .closed => "Closed"

/-- What a transport reports. -/
inductive TransportEvent where
  | candidate (candidate : String)
  | track (stream : RemoteStream)
  | link (state : LinkState)
deriving DecidableEq, Repr

/-- An event with the remote peer whose transport raised it. -/
structure PeerEvent where
  remote : String
  event : TransportEvent
deriving DecidableEq, Repr

/-- Why a transport did not do what it was asked. -/
inductive TransportError where
  | setup (reason : String)
  | rejected (reason : String)
  | closed
deriving DecidableEq, Repr

def TransportError.message : TransportError → String
  | .setup reason => "transport setup failed: " ++ reason
  | .rejected reason => "transport rejected request: " ++ reason
  | .closed => "transport closed"

end CallSignaling
