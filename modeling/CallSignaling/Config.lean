import CallSignaling.Text.Basic
import CallSignaling.Transport.Ice
import CallSignaling.Url.Signaling

/-!
# Configuration — a client's settings, read from named variables

A variable that is missing, blank or unreadable leaves the default in place.
-/

namespace CallSignaling

/-- The settings of a client. -/
structure Config where
  signalingUrl : String
  /-- The local identity; a random one is made where none is given. -/
  clientId : Option String
  /-- The STUN servers; where there are none, only the host's own addresses are offered. -/
  stunUrls : List String
  reconnectDelayMs : Nat
  /-- Negotiations do not time out where none is given. -/
  negotiationTimeoutSecs : Option Nat
deriving DecidableEq, Repr

namespace Config

def defaultSignalingUrl : String := "ws://localhost:9527/ws/client"

def defaultReconnectDelayMs : Nat := 5000

def default : Config :=
  { signalingUrl := defaultSignalingUrl, clientId := none, stunUrls := [IceServer.defaultStunUrl],
    reconnectDelayMs := defaultReconnectDelayMs, negotiationTimeoutSecs := none }

/-- The length of a random identity. -/
def randomIdSize : Nat := 36

/-- The number of bytes of the local identity. -/
def clientIdSize (c : Config) : Nat := (c.clientId.map Utf8.size).getD randomIdSize

/-- A text without surrounding blanks, unless nothing is left. -/
def nonBlank? (s : String) : Option String :=
  let t := Text.trim s
  if t = "" then none else some t

/-- The texts between commas without surrounding blanks; blank ones do not count. -/
def stunList (s : String) : List String :=
  (((Text.pieces ',' s.toList).map Text.trimChars).filter fun p => !p.isEmpty).map String.ofList

/-- A switch is on unless it is empty or `0`. -/
def isOn (value : String) : Bool := value != "0" && value != ""

/-- A number with blanks around it. -/
def number? (s : String) : Option Nat := Text.natural64? (Text.trim s)

/-- The settings made by variables. -/
def fromVars (var : String → Option String) : Config where
  signalingUrl := ((var "VOX_SIGNALING_URL").bind nonBlank?).getD defaultSignalingUrl
  clientId := (var "VOX_CLIENT_ID").bind nonBlank?
  stunUrls :=
    if (var "VOX_LOCALHOST_ONLY").any isOn then []
    else ((var "VOX_STUN_URLS").map stunList).getD [IceServer.defaultStunUrl]
  reconnectDelayMs := ((var "VOX_RECONNECT_DELAY_MS").bind number?).getD defaultReconnectDelayMs
  negotiationTimeoutSecs :=
    ((var "VOX_NEGOTIATION_TIMEOUT_SECS").bind number?).filter fun n => 0 < n

/-- The address of the signaling server. -/
def signaling (c : Config) : Except Url.SignalingError Url := Url.signaling c.signalingUrl

/-- The servers that help to find the peer. -/
def iceServers (c : Config) : List IceServer := IceServer.ofStunUrls c.stunUrls

end Config

end CallSignaling
