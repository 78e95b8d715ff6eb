/-!
# States of a call

One list of states serves the client as a whole and the session with one peer.
-/

namespace CallSignaling

/-- Why a call failed. -/
inductive FailureCause where
  /-- The transport refused an offer, an answer or a description. -/
  | rejected
  | timeout
  /-- A message could not be handed to the signaling channel. -/
  | channelLost
deriving DecidableEq, Repr

inductive CallState where
  | idle
  | awaitingAssignment
  | assigned
  | offering
  | answering
  | connected
  | closed
  | failed (cause : FailureCause)
deriving DecidableEq, Repr

namespace CallState

/-- Every state. -/
def all : List CallState :=
  [.idle, .awaitingAssignment, .assigned, .offering, .answering, .connected, .closed,
   .failed .rejected, .failed .timeout, .failed .channelLost]

theorem mem_all (s : CallState) : s ∈ all := by
  cases s with
  | failed c => cases c <;> decide
  | _ => decide

def name : CallState → String
  | .idle => "idle"
  | .awaitingAssignment => "awaiting_assignment"
  | .assigned => "assigned"
  | .offering => "offering"
  | .answering => "answering"
  | .connected => "connected"
  | .closed => "closed"
  | .failed .rejected => "failed(rejected)"
  | .failed .timeout => "failed(timeout)"
  | .failed .channelLost => "failed(channel_lost)"

/-- Nothing follows this state. -/
def isTerminal : CallState → Bool
  | .closed | .failed _ => true
  | _ => false

/-- An offer or an answer is under way or has been agreed on. -/
def isNegotiating : CallState → Bool
  | .offering | .answering | .connected => true
  | _ => false

/-- No remote description has been applied yet, so candidates wait. -/
def buffersCandidates : CallState → Bool
  | .idle | .awaitingAssignment | .assigned | .offering | .answering => true
  | _ => false

end CallState

end CallSignaling
