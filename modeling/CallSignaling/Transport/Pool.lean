import CallSignaling.Transport.Scripted

/-!
# Pool — every transport ever created

Transports are numbered in the order of their creation and keep their number for good.
-/

namespace CallSignaling

/-- The transports created so far and how the next ones will behave. -/
structure Pool where
  behaviour : Behaviour
  transports : List Scripted
deriving DecidableEq, Repr

namespace Pool

/-- No transport yet. -/
def fresh (behaviour : Behaviour) : Pool := ⟨behaviour, []⟩

/-- A new transport for a remote peer, unless creation is refused. -/
def create (p : Pool) (remote : String) : Except TransportError Nat × Pool :=
  if p.behaviour.rejectCreate then (.error (.setup "mock factory refused"), p)
  else
    (.ok p.transports.length,
      { p with transports := p.transports ++ [Scripted.create remote p.behaviour] })

/-- Calls one transport; a number that was never given out is a closed transport. -/
def request {α : Type} (p : Pool) (id : Nat) (op : Scripted → Scripted.Reply α) :
    Except TransportError α × Pool :=
  match p.transports[id]? with
  | none => (.error .closed, p)
  | some t =>
    let (r, t) := op t
    (r, { p with transports := p.transports.set id t })

/-- Closes one transport. -/
def close (p : Pool) (id : Nat) : Pool :=
  { p with transports := p.transports.modify id Scripted.close }

/-- The youngest transport created for a remote peer. -/
def newestFor? (p : Pool) (remote : String) : Option Scripted :=
  p.transports.reverse.find? fun t => t.remote == remote

end Pool

end CallSignaling
