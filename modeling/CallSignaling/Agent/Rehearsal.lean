import CallSignaling.Agent.Dispatch
import CallSignaling.Agent.Move

/-!
# Rehearsal — an agent driven step by step

Scripted transports raise events into a queue from which they are applied on demand, and the clock
stands still unless it is told to move.
-/

namespace CallSignaling

/-- An agent with the queue of its transports' events. -/
structure Rehearsal where
  agent : Agent
  events : Queue PeerEvent
deriving DecidableEq

namespace Rehearsal

inductive Step where
  | move (move : Agent.Move)
  /-- Fails what will be overdue so many nanoseconds from now. -/
  | expire (ahead : Nat)
  | frame (frame : Bytes)
  | route (message : Message)
  /-- The youngest transport for a peer raises an event. -/
  | emit (remote : String) (event : TransportEvent)
  /-- An event of a peer arrives, whether or not it has a transport. -/
  | peerEvent (event : PeerEvent)
  /-- The waiting events are applied. -/
  | pump
  | dropEvents
  | dropOutbound
  | tracks
  | takeTracks
  | sessionState (remote : String)

/-- The answer to a step. -/
inductive Answer where
  | outcome (result : Agent.Outcome)
  | outcomes (results : List Agent.Outcome)
  | flag (value : Bool)
  | noTransport
  | count (value : Nat)
  | tracks (tracks : List Track)
  | state (state : Option CallState)

def result (r : Rehearsal) (o : Agent.Outcome × Agent) : Answer × Rehearsal :=
  (.outcome o.1, { r with agent := o.2 })

/-- Queues an event; answers whether someone reads the queue. -/
def raise (r : Rehearsal) (e : PeerEvent) : Answer × Rehearsal :=
  let (b, q) := r.events.push e
  (.flag b, { r with events := q })

/-- Applies events one after another. -/
def applyAll (a : Agent) : List PeerEvent → List Agent.Outcome × Agent
  | [] => ([], a)
  | e :: es =>
    let (o, a) := a.applyEvent e
    let (os, a) := applyAll a es
    (o :: os, a)

def perform (r : Rehearsal) : Step → Answer × Rehearsal
  | .move m => r.result (r.agent.perform m)
  | .expire ahead =>
    let (n, a) := r.agent.expire (r.agent.now + ahead)
    (.count n, { r with agent := a })
  | .frame f => r.result (.ok (), r.agent.dispatch f)
  | .route m => r.result (r.agent.route m)
  | .emit remote event =>
    match r.agent.pool.newestFor? remote with
    | none => (.noTransport, r)
    | some t => r.raise ⟨t.remote, event⟩
  | .peerEvent e => r.raise e
  | .pump =>
    let (os, a) := applyAll r.agent r.events.items
    (.outcomes os, { agent := a, events := { r.events with items := [] } })
  | .dropEvents => (.outcome (.ok ()), { r with events := r.events.shut })
  | .dropOutbound => (.flag true, { r with agent := r.agent.mute })
  | .tracks => (.tracks r.agent.tracks, r)
  | .takeTracks =>
    let (ts, a) := r.agent.takeTracks
    (.tracks ts, { r with agent := a })
  | .sessionState remote => (.state (r.agent.sessionState? remote), r)

end Rehearsal

end CallSignaling
