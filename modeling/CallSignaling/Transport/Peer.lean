import CallSignaling.Transport.Basic
import CallSignaling.Transport.Description
import CallSignaling.Transport.Ice

/-!
# Peer — a media transport between two machines

What is kept of a peer connection is what decides its answers: the tracks, whether a remote
description was applied, and whether it is closed.  The SDP text of a description is not looked
into.
-/

namespace CallSignaling

structure Peer where
  tracks : List Track
  remoteSet : Bool
  closed : Bool
deriving DecidableEq, Repr

namespace Peer

/-- A connection that may use the given servers. -/
def create (servers : List IceServer) : Except TransportError Peer :=
  match servers.forM IceServer.check with
  | .error e => .error (.setup e.message)
  | .ok () => .ok ⟨[], false, false⟩

/-- A call's result and the connection after it. -/
abbrev Reply (α : Type) := Except TransportError α × Peer

def noRemoteDescription : TransportError := .rejected "remote description is not set"

/-- Answers on an open connection. -/
def whileOpen {α : Type} (p : Peer) (reply : Reply α) : Reply α :=
  if p.closed then (.error (.rejected "connection closed"), p) else reply

/-- Adds tracks; a closed connection refuses the first of them. -/
def addTracks (p : Peer) (tracks : List Track) : Reply Unit :=
  if tracks.isEmpty then (.ok (), p)
  else p.whileOpen (.ok (), { p with tracks := p.tracks ++ tracks })

def createOffer (p : Peer) : Reply Outline := p.whileOpen (.ok ⟨.offer, p.tracks⟩, p)

def createAnswer (p : Peer) : Reply Outline :=
  if p.remoteSet then p.whileOpen (.ok ⟨.answer, p.tracks⟩, p) else (.error noRemoteDescription, p)

/-- Applies what was read from a JSON text, or refuses it under the name of what it should be. -/
def applyText {α : Type} (p : Peer) (what : String) (r : Except String α) (reply : Reply Unit) :
    Reply Unit :=
  match r with
  | .error fault => (.error (.rejected ("invalid " ++ what ++ ": " ++ fault)), p)
  | .ok _ => reply

def setLocal (p : Peer) (sdp : String) : Reply Unit :=
  p.applyText "local description" (SessionDescription.read sdp) (p.whileOpen (.ok (), p))

def setRemote (p : Peer) (sdp : String) : Reply Unit :=
  p.applyText "remote description" (SessionDescription.read sdp)
    (p.whileOpen (.ok (), { p with remoteSet := true }))

/-- A candidate is refused as long as there is no remote description. -/
def addCandidate (p : Peer) (candidate : String) : Reply Unit :=
  p.applyText "ice candidate" (IceCandidate.read candidate)
    (if p.remoteSet then (.ok (), p) else (.error noRemoteDescription, p))

/-- Closes the connection, for good. -/
def close (p : Peer) : Peer := { p with closed := true }

end Peer

end CallSignaling
