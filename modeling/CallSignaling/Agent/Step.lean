import CallSignaling.Agent.Basic

/-!
# Steps of a negotiation

The parts of which the operations of an agent are made.  A step that fails keeps what happened up to
the failure; the operation then tears the session down.
-/

namespace CallSignaling.Agent

/-- A step: its value and the agent after it, or the failure and the agent as it stood then. -/
abbrev Attempt (α : Type) := Except (Failure × Agent) (α × Agent)

/-- A step without a value. -/
abbrev Advance := Except (Failure × Agent) Agent

/-- Calls a transport of the session with a peer. -/
def request {α : Type} (a : Agent) (remote : String) (id : Nat)
    (op : Scripted → Scripted.Reply α) : Attempt α :=
  match a.pool.request id op with
  | (.ok v, p) => .ok (v, { a with pool := p })
  | (.error e, p) => .error (.rejected remote e, { a with pool := p })

/-- The session's transport, a new one if it has none. -/
def ensureBound (a : Agent) (remote : String) : Attempt Nat :=
  match (a.session? remote).bind Session.transport with
  | some id => .ok (id, a)
  | none =>
    match a.pool.create remote with
    | (.ok id, p) => .ok (id, ({ a with pool := p } : Agent).update remote (Session.bind · id))
    | (.error e, p) => .error (.rejected remote e, { a with pool := p })

/-- Gives the local tracks to the transport, once and only if there are any. -/
def bindTracks (a : Agent) (remote : String) (id : Nat) : Advance :=
  if a.tracks = [] ∨ ((a.session? remote).map Session.tracksBound) = some true then .ok a
  else
    match a.request remote id (Scripted.addTracks · a.tracks) with
    | .ok ((), a) => .ok (a.update remote Session.markTracks)
    | .error e => .error e

/-- Makes a description and applies it as the local one. -/
def describe (a : Agent) (remote : String) (id : Nat)
    (make : Scripted → Scripted.Reply String) : Except (Failure × Agent) (String × Agent) := do
  let (sdp, a) ← a.request remote id make
  let ((), a) ← a.request remote id (Scripted.setLocal · sdp)
  return (sdp, a.update remote Session.markLocal)

/-- Applies a remote description. -/
def applyRemote (a : Agent) (remote : String) (id : Nat) (sdp : String) : Advance := do
  let ((), a) ← a.request remote id (Scripted.setRemote · sdp)
  return a.update remote Session.markRemote

/-- Sends a message that the session depends on. -/
def sendOrFail (a : Agent) (m : Message) : Advance :=
  match a.send? m with
  | some a => .ok a
  | none => .error (.channelLost, a)

/-- Gives one candidate to the transport; a refusal is passed over. -/
def giveCandidate (a : Agent) (id : Nat) (candidate : String) : Agent :=
  { a with pool := (a.pool.request id (Scripted.addCandidate · candidate)).2 }

/-- Gives the waiting candidates to the transport, oldest first; the peers are connected then. -/
def enterConnected (a : Agent) (remote : String) (id : Nat) : Agent :=
  let pending := ((a.session? remote).map Session.pending).getD []
  (pending.foldl (fun a c => a.giveCandidate id c) a).update remote Session.connect

/-- Prepares the session with a newly assigned peer. -/
def bindAssigned (a : Agent) (remote : String) : Advance := do
  let (id, a) ← a.ensureBound remote
  if a.sessionState? remote = some .idle then
    (a.update remote (Session.enter · .assigned)).bindTracks remote id
  else return a

/-- Offers a call. -/
def sendOffer (a : Agent) (remote : String) : Advance := do
  let (id, a) ← a.ensureBound remote
  let a ← a.bindTracks remote id
  let (sdp, a) ← a.describe remote id Scripted.createOffer
  let a ← a.sendOrFail (.offer a.localId remote sdp)
  return a.update remote (Session.start · .offering a.now)

/-- Takes the answer to an offer. -/
def acceptAnswer (a : Agent) (remote sdp : String) : Advance :=
  match (a.session? remote).bind Session.transport with
  | none => .error (.rejected remote .closed, a)
  | some id => do
    let a ← a.applyRemote remote id sdp
    return a.enterConnected remote id

/-- Answers an offer. -/
def answerOffer (a : Agent) (remote sdp : String) : Advance := do
  let (id, a) ← a.ensureBound remote
  let a := a.update remote (Session.start · .answering a.now)
  let a ← a.applyRemote remote id sdp
  let a ← a.bindTracks remote id
  let (answer, a) ← a.describe remote id Scripted.createAnswer
  let a ← a.sendOrFail (.answer (some a.localId) (some remote) answer)
  return a.enterConnected remote id

end CallSignaling.Agent
