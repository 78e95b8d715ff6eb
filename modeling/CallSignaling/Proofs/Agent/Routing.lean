import CallSignaling.Agent.Dispatch
import CallSignaling.Agent.Move

/-!
# Routing — the move that a message makes

A message that names its recipient is refused by every other agent; each of the others, but an
agent's own announcement, is one move.
-/

namespace CallSignaling

/-- The party a message is addressed to, if it names one. -/
def Message.recipient? : Message → Option String
  | .offer _ r _ | .iceCandidate _ r _ => some r
  | .answer _ r _ => r
  | _ => none

namespace Agent

/-- What a message means for the agent that it is addressed to. -/
def moveOf? : Message → Option Move
  | .clientConnected server _ => some (.assigned server)
  | .offer sender recipient sdp => some (.offer sender recipient sdp)
  | .answer sender _ sdp => some (.answer sender sdp)
  | .iceCandidate sender _ candidate => some (.candidate sender candidate)
  | .clientDisconnect r | .serverDisconnect r => some (.remoteLeft r)
  | .error code text => some (.serverError code text)
  | .clientConnect _ => none

variable {a : Agent} {m : Message} {r : String}

theorem route_misaddressed (hr : m.recipient? = some r) (hne : r ≠ a.localId) :
    a.route m = (.error (.misaddressed r a.localId), a) := by
  cases m with
  | offer sender recipient sdp =>
    obtain rfl : recipient = r := Option.some.inj hr
    exact if_pos hne
  | answer sender recipient sdp =>
    obtain rfl : recipient = some r := hr
    exact if_neg hne
  | iceCandidate sender recipient candidate =>
    obtain rfl : recipient = r := Option.some.inj hr
    exact if_neg hne
  | _ => exact absurd hr (by simp [Message.recipient?])

/-- A message that is not addressed to someone else. -/
theorem route_addressed (hr : ∀ r, m.recipient? = some r → r = a.localId) :
    a.route m = ((moveOf? m).map a.perform).getD (.ok (), a) := by
  cases m with
  | answer sender recipient sdp =>
    cases recipient with
    | none => rfl
    | some r => exact if_pos (hr r rfl)
  | iceCandidate sender recipient candidate => exact if_pos (hr recipient rfl)
  | _ => rfl

end Agent

end CallSignaling
