import CallSignaling.Agent.Error
import CallSignaling.Message.Basic
import CallSignaling.Session.Registry
import CallSignaling.Transport.Pool

/-!
# Agent — a client's side of the signaling

The agent keeps the phase of the client as a whole, the remote peer it is assigned to, and a
session for every peer it deals with.  Its surroundings are part of the value: the transports it
has created, the messages it has sent, the notices it has given and the clock.
-/

namespace CallSignaling

/-- The way out: messages in the order in which they were sent, while it is open. -/
structure Outbox where
  isOpen : Bool
  sent : List Message
deriving DecidableEq, Repr

/-- What the user of the agent is told. -/
inductive Notice where
  | assigned (remote : String)
  | stream (remote : String) (stream : RemoteStream)
  | fatal (reason : String)
deriving DecidableEq, Repr

/-- A client of the signaling server.  Times are nanoseconds. -/
structure Agent where
  localId : String
  timeout : Option Nat
  phase : CallState
  active : Option String
  registry : Registry
  /-- The peers whose session was torn down; their late candidates are dropped. -/
  retired : Roster Unit
  tracks : List Track
  pool : Pool
  outbox : Outbox
  notices : List Notice
  now : Nat
deriving DecidableEq

namespace Agent

/-- An agent that has done nothing yet. -/
def fresh (localId : String) (timeout : Option Nat) (tracks : List Track) (pool : Pool)
    (now : Nat) : Agent :=
  { localId, timeout, phase := .idle, active := none, registry := .empty, retired := ∅, tracks,
    pool, outbox := ⟨true, []⟩, notices := [], now }

/-! ### Views -/

def session? (a : Agent) (remote : String) : Option Session := a.registry.session? remote

def sessionState? (a : Agent) (remote : String) : Option CallState :=
  (a.session? remote).map Session.state

/-- The state of the session with the active peer, if there is one; the phase otherwise. -/
def state (a : Agent) : CallState := ((a.active.bind a.sessionState?).getD a.phase)

/-- The sessions in increasing order of the peers. -/
def sessions (a : Agent) : List Session :=
  a.registry.entries.entries.map fun e => e.2.session

def transport? (a : Agent) (id : Nat) : Option Scripted := a.pool.transports[id]?

def isRetired (a : Agent) (remote : String) : Bool := a.retired.contains remote

/-! ### Small changes -/

def notify (a : Agent) (n : Notice) : Agent := { a with notices := a.notices ++ [n] }

/-- Puts a message into the outbox; `none` if that is closed. -/
def send? (a : Agent) (m : Message) : Option Agent :=
  if a.outbox.isOpen then some { a with outbox := ⟨true, a.outbox.sent ++ [m]⟩ } else none

/-- The way out is closed: no more messages can be sent. -/
def mute (a : Agent) : Agent := { a with outbox := { a.outbox with isOpen := false } }

/-- Transports created from now on behave so. -/
def behave (a : Agent) (behaviour : Behaviour) : Agent :=
  { a with pool := { a.pool with behaviour } }

def update (a : Agent) (remote : String) (f : Session → Session) : Agent :=
  { a with registry := a.registry.update remote f }

def retire (a : Agent) (remote : String) : Agent :=
  { a with retired := a.retired.insert remote () }

def unretire (a : Agent) (remote : String) : Agent := { a with retired := a.retired.erase remote }

/-- The agent with a live session for a peer. -/
def assign (a : Agent) (remote : String) : Agent :=
  { a with registry := (a.registry.assign (fun _ => false) remote).2 }

/-- Takes out the session with a peer and closes its transport. -/
def release (a : Agent) (remote : String) : Agent :=
  match a.registry.remove remote with
  | (none, _) => a
  | (some e, r) =>
    { a with
      registry := r
      pool := match e.session.transport with
        | some id => a.pool.close id
        | none => a.pool }

/-- Takes out every session and closes the transports. -/
def releaseAll (a : Agent) : Agent :=
  let (es, r) := a.registry.drain
  { a with
    registry := r
    pool := (es.filterMap fun e => e.session.transport).foldl Pool.close a.pool }

/-- Takes out the session with a peer that is gone; its late candidates will be dropped. -/
def closeSession (a : Agent) (remote : String) : Agent := (a.retire remote).release remote

/-- Tears down a session after a failure and reports it. -/
def fail (a : Agent) (remote : String) (f : Failure) : Agent :=
  let a := a.closeSession remote
  let a :=
    if a.active = some remote then
      { a with active := none, phase := if a.phase = .closed then .closed else .failed f.cause }
    else a
  a.notify (.fatal f.error.message)

end Agent

end CallSignaling
