import CallSignaling.Url.Parser

/-!
# The address of the signaling server

A WebSocket URL.  The host `localhost` is replaced by the loopback address, so that the connection
does not depend on how that name is resolved.
-/

namespace CallSignaling.Url

/-- The text is no address of a signaling server. -/
inductive SignalingError where
  | malformed (reason : ParseError)
  | unsupportedScheme (scheme : String)
deriving DecidableEq, Repr

def SignalingError.reason : SignalingError → String
  | .malformed reason => reason.message
  | .unsupportedScheme scheme => "unsupported scheme " ++ scheme

/-- The error's text about the given URL text. -/
def SignalingError.message (e : SignalingError) (text : String) : String :=
  "invalid signaling url " ++ text ++ ": " ++ e.reason

/-- The loopback address 127.0.0.1. -/
def loopback : Host := .ipv4 0x7F000001

/-- The URL with the loopback address in place of `localhost`. -/
def withoutLocalhost (u : Url) : Url :=
  if u.host = .domain "localhost".toList then { u with host := loopback } else u

def isWebSocket (u : Url) : Bool := u.scheme == "ws".toList || u.scheme == "wss".toList

/-- The address written in a text. -/
def signaling (text : String) : Except SignalingError Url :=
  match parse text with
  | .error e => .error (.malformed e)
  | .ok (.other o) => .error (.unsupportedScheme (String.ofList o.scheme))
  | .ok (.url u) =>
    if u.isWebSocket then .ok u.withoutLocalhost
    else .error (.unsupportedScheme (String.ofList u.scheme))

end CallSignaling.Url
