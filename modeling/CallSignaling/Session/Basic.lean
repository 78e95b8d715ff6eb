import CallSignaling.Session.State

/-!
# Sessions — the record kept about one remote peer
-/

namespace CallSignaling

/-- What is known about the negotiation with one peer.  Times are nanoseconds. -/
structure Session where
  remote : String
  state : CallState
  /-- The number of the transport, once there is one. -/
  transport : Option Nat
  /-- Candidates that wait for the remote description, oldest first. -/
  pending : List String
  localSet : Bool
  remoteSet : Bool
  tracksBound : Bool
  started : Option Nat
deriving DecidableEq, Repr

namespace Session

/-- A session in which nothing has happened. -/
def fresh (remote : String) : Session :=
  { remote, state := .idle, transport := none, pending := [], localSet := false, remoteSet := false,
    tracksBound := false, started := none }

def bind (s : Session) (id : Nat) : Session := { s with transport := some id }
def enter (s : Session) (state : CallState) : Session := { s with state }
def push (s : Session) (candidate : String) : Session :=
  { s with pending := s.pending ++ [candidate] }
def markLocal (s : Session) : Session := { s with localSet := true }
def markRemote (s : Session) : Session := { s with remoteSet := true }
def markTracks (s : Session) : Session := { s with tracksBound := true }

/-- Enters a state of negotiation at the given time. -/
def start (s : Session) (state : CallState) (now : Nat) : Session :=
  { s with state, started := some now }

/-- Nothing waits any more and the peers are connected. -/
def connect (s : Session) : Session := { s with state := .connected, pending := [] }

/-- Gives up the transport and settles into `final`, unless the session has settled before. -/
def settle (s : Session) (final : CallState) : Session :=
  { s with
    transport := none, pending := [], started := none,
    state := if s.state.isTerminal then s.state else final }

end Session

end CallSignaling
