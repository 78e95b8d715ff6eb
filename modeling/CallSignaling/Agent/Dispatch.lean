import CallSignaling.Agent.Operations
import CallSignaling.Message.Codec

/-!
# Dispatch — what waits for the agent, and what it means

Messages, events and commands wait in queues.  `route` hands a message to its operation, `dispatch`
does so for a frame and drops what cannot be used, and `applyEvent` hands on what a transport
reports.
-/

namespace CallSignaling

/-- A queue that takes items while it is open. -/
structure Queue (α : Type) where
  isOpen : Bool
  items : List α
deriving DecidableEq, Repr

namespace Queue

variable {α : Type}

/-- Open and empty. -/
def fresh : Queue α := ⟨true, []⟩

/-- Takes an item in; answers whether the queue was open. -/
def push (q : Queue α) (x : α) : Bool × Queue α :=
  if q.isOpen then (true, { q with items := q.items ++ [x] }) else (false, q)

/-- No more items come; those in the queue stay. -/
def finish (q : Queue α) : Queue α := { q with isOpen := false }

/-- The reader is gone: nothing stays and nothing comes. -/
def shut (_ : Queue α) : Queue α := ⟨false, []⟩

end Queue

namespace Agent

/-- Hands on a message that must be addressed to this client. -/
def ifAddressed (a : Agent) (recipient : String) (op : Outcome × Agent) : Outcome × Agent :=
  if recipient = a.localId then op else (.error (.misaddressed recipient a.localId), a)

/-- What a message does. -/
def route (a : Agent) (m : Message) : Outcome × Agent :=
  match m with
  | .clientConnected server _ => a.assigned server
  | .offer sender recipient sdp => a.offer sender recipient sdp
  | .answer sender none sdp => a.answer sender sdp
  | .answer sender (some recipient) sdp => a.ifAddressed recipient (a.answer sender sdp)
  | .iceCandidate sender recipient candidate =>
    a.ifAddressed recipient (a.candidate sender candidate)
  | .clientDisconnect client => a.remoteLeft client
  | .serverDisconnect server => a.remoteLeft server
  | .error code message => (.ok (), a.serverError code message)
  | .clientConnect _ => (.ok (), a)

/-- What a frame does; a frame that holds no message does nothing. -/
def dispatch (a : Agent) (frame : Bytes) : Agent :=
  match Message.decode frame with
  | .ok (some m) => (a.route m).2
  | _ => a

/-- What an event of a transport does. -/
def applyEvent (a : Agent) (e : PeerEvent) : Outcome × Agent :=
  match e.event with
  | .candidate c => a.localCandidate e.remote c
  | .track s => (.ok (), a.remoteStream e.remote s)
  | .link _ => (.ok (), a)

end Agent

end CallSignaling
