import CallSignaling.Session.State
import CallSignaling.Text.Basic
import CallSignaling.Transport.Scripted

/-!
# Errors of a call

A protocol error means that a message or a wish did not fit the state; nothing has changed.  The
other errors have ended the session they speak of.
-/

namespace CallSignaling

/-- The operations that are bound to a state. -/
inductive Operation where
  | requestConnect
  | assigned
  | startCall
  | answer
  | offer
  | candidate
deriving DecidableEq, Repr

def Operation.name : Operation → String
  | .requestConnect => "request_connect"
  | .assigned => "on_assigned"
  | .startCall => "start_call"
  | .answer => "on_answer"
  | .offer => "on_offer"
  | .candidate => "on_candidate"

/-- Why an operation did not succeed. -/
inductive CallError where
  | noRemoteAssigned
  | alreadyNegotiating (remote : String) (state : CallState)
  | invalidState (operation : Operation) (state : CallState)
  | unknownPeer (remote : String)
  | misaddressed (recipient localId : String)
  | rejected (remote : String) (source : TransportError)
  | timedOut (remote : String) (elapsed : Nat)
  | channelClosed
deriving DecidableEq, Repr

namespace CallError

def message : CallError → String
  | .noRemoteAssigned => "no remote peer has been assigned yet"
  | .alreadyNegotiating remote state =>
    "negotiation with " ++ remote ++ " already in progress (" ++ state.name ++ ")"
  | .invalidState operation state => operation.name ++ " is not valid in state " ++ state.name
  | .unknownPeer remote => "no session for peer " ++ remote
  | .misaddressed recipient localId =>
    "message addressed to " ++ recipient ++ ", local identity is " ++ localId
  | .rejected remote _ => "negotiation with " ++ remote ++ " rejected by transport"
  | .timedOut remote elapsed =>
    "negotiation with " ++ remote ++ " timed out after " ++ Text.span elapsed
  | .channelClosed => "signaling channel closed"

/-- The operation did not fit the state. -/
def isProtocol : CallError → Bool
  | .noRemoteAssigned | .alreadyNegotiating .. | .invalidState .. | .unknownPeer _
  | .misaddressed .. => true
  | .rejected .. | .timedOut .. | .channelClosed => false

/-- The transport's own error. -/
def source? : CallError → Option TransportError
  | .rejected _ source => some source
  | _ => none

end CallError

/-- What ended a session: the cause it settles with and the error it is reported by. -/
structure Failure where
  cause : FailureCause
  error : CallError
deriving DecidableEq, Repr

namespace Failure

def rejected (remote : String) (source : TransportError) : Failure :=
  ⟨.rejected, .rejected remote source⟩

def channelLost : Failure := ⟨.channelLost, .channelClosed⟩

def timedOut (remote : String) (elapsed : Nat) : Failure := ⟨.timeout, .timedOut remote elapsed⟩

end Failure

end CallSignaling
