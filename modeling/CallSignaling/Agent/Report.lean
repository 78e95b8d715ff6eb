import CallSignaling.Agent.Basic

/-!
# Report — what became visible between two moments

Logs only grow, so what is new in them is what lies behind the length they had before.
-/

namespace CallSignaling

/-- What is new about one transport. -/
structure TransportNews where
  index : Nat
  /-- The peer, if the transport itself is new. -/
  createdFor : Option String
  calls : List Call
  closed : Bool
deriving DecidableEq, Repr

/-- What is new about an agent. -/
structure News where
  sent : List Message
  notices : List Notice
  transports : List TransportNews
deriving DecidableEq, Repr

namespace News

/-- What is new about the transport of this number. -/
def ofTransport (before : Pool) (index : Nat) (t : Scripted) : TransportNews :=
  match before.transports[index]? with
  | some old => ⟨index, none, t.calls.drop old.calls.length, t.closed⟩
  | none => ⟨index, some t.remote, t.calls, t.closed⟩

/-- What is new about the transports. -/
def ofPool (before after : Pool) : List TransportNews :=
  after.transports.mapIdx fun i t => ofTransport before i t

def between (before after : Agent) : News where
  sent := after.outbox.sent.drop before.outbox.sent.length
  notices := after.notices.drop before.notices.length
  transports := ofPool before.pool after.pool

end News

end CallSignaling
