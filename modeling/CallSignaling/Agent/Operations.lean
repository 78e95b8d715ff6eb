import CallSignaling.Agent.Step

/-!
# Operations of an agent

Each operation answers whether it succeeded, with the agent after it.  A protocol error leaves the
agent as it was; any other error has torn the session down and was reported by one fatal notice.
-/

namespace CallSignaling.Agent

/-- The answer of an operation. -/
abbrev Outcome := Except CallError Unit

/-- Ends an operation on a peer: a failed step tears the session down. -/
def conclude (remote : String) (r : Advance) (finish : Agent → Agent) : Outcome × Agent :=
  match r with
  | .ok a => (.ok (), finish a)
  | .error (f, a) => (.error f.error, a.fail remote f)

/-- Announces the local identity; possible once. -/
def requestConnect (a : Agent) : Outcome × Agent :=
  if a.phase ≠ .idle then (.error (.invalidState .requestConnect a.phase), a)
  else
    match a.send? (.clientConnect a.localId) with
    | none => (.error .channelClosed, { a with phase := .failed .channelLost })
    | some a => (.ok (), { a with phase := .awaitingAssignment })

/-- The phases in which the server may assign a peer. -/
def acceptsAssignment : CallState → Bool
  | .awaitingAssignment | .assigned | .failed _ => true
  | _ => false

/-- Closes the session with the active peer if it is another one than the one assigned now. -/
def leavePrevious (a : Agent) (remote : String) : Agent :=
  match a.active with
  | some previous => if previous ≠ remote then a.closeSession previous else a
  | none => a

/-- The server assigns a peer. -/
def assigned (a : Agent) (remote : String) : Outcome × Agent :=
  if acceptsAssignment a.phase = false then (.error (.invalidState .assigned a.phase), a)
  else
    let a := { a.leavePrevious remote with active := some remote }
    let a := (a.unretire remote).assign remote
    let new := a.sessionState? remote = some .idle
    conclude remote (a.bindAssigned remote) fun a =>
      let a := { a with phase := .assigned }
      if new then a.notify (.assigned remote) else a

/-- Offers a call to the active peer. -/
def startCall (a : Agent) : Outcome × Agent :=
  match a.active with
  | none =>
    if a.phase.isTerminal then (.error (.invalidState .startCall a.phase), a)
    else (.error .noRemoteAssigned, a)
  | some remote =>
    match a.sessionState? remote with
    | none => (.error (.unknownPeer remote), a)
    | some state =>
      if state = .assigned then conclude remote (a.sendOffer remote) id
      else if state.isNegotiating then (.error (.alreadyNegotiating remote state), a)
      else (.error (.invalidState .startCall state), a)

/-- An answer arrives; without a sender it is the active peer's. -/
def answer (a : Agent) (sender : Option String) (sdp : String) : Outcome × Agent :=
  match sender.or a.active with
  | none => (.error .noRemoteAssigned, a)
  | some remote =>
    match a.sessionState? remote with
    | none => (.error (.unknownPeer remote), a)
    | some state =>
      if state ≠ .offering then (.error (.invalidState .answer state), a)
      else conclude remote (a.acceptAnswer remote sdp) id

/-- A call from an unassigned peer makes it the active one, if there is none. -/
def adopt (remote : String) (a : Agent) : Agent :=
  match a.active with
  | some _ => a
  | none =>
    { a with active := some remote, phase := if a.phase.isTerminal then a.phase else .assigned }

/-- An offer arrives and is answered. -/
def offer (a : Agent) (sender recipient sdp : String) : Outcome × Agent :=
  if recipient ≠ a.localId then (.error (.misaddressed recipient a.localId), a)
  else if a.phase = .closed then (.error (.invalidState .offer a.phase), a)
  else
    let a := (a.unretire sender).assign sender
    match a.sessionState? sender with
    | none => (.error (.unknownPeer sender), a)
    | some state =>
      if state = .idle ∨ state = .assigned then
        conclude sender (a.answerOffer sender sdp) (adopt sender)
      else if state.isNegotiating then (.error (.alreadyNegotiating sender state), a)
      else (.error (.invalidState .offer state), a)

/-- A candidate for a registered session. -/
def takeCandidate (a : Agent) (sender candidate : String) : Outcome × Agent :=
  match a.session? sender with
  | none => (.error (.unknownPeer sender), a)
  | some s =>
    if s.state.buffersCandidates then (.ok (), a.update sender (Session.push · candidate))
    else if s.state = .connected then
      match s.transport with
      | some id => (.ok (), a.giveCandidate id candidate)
      | none => (.ok (), a)
    else (.error (.invalidState .candidate s.state), a)

/-- A candidate arrives.  It waits until the remote description is applied, and is dropped when the
session of its sender was torn down. -/
def candidate (a : Agent) (sender candidate : String) : Outcome × Agent :=
  if a.phase = .closed then (.error (.invalidState .candidate a.phase), a)
  else if (a.session? sender).isSome then a.takeCandidate sender candidate
  else if a.isRetired sender then (.ok (), a)
  else (a.assign sender).takeCandidate sender candidate

/-- A peer has left. -/
def remoteLeft (a : Agent) (remote : String) : Outcome × Agent :=
  if remote = a.localId then (.ok (), a)
  else if (a.session? remote).isNone then (.error (.unknownPeer remote), a)
  else
    let a := a.closeSession remote
    if a.active = some remote then
      (.ok (),
        { a with
          active := none
          phase := if a.phase.isTerminal then a.phase else .awaitingAssignment })
    else (.ok (), a)

/-- The client hangs up; nothing happens once it is closed. -/
def hangUp (a : Agent) : Agent :=
  if a.phase = .closed then a
  else
    let a := (a.send? (.clientDisconnect a.localId)).getD a
    { a.releaseAll with active := none, phase := .closed }

/-- The text of the notice that the channel is gone. -/
def channelClosedText (reason : Option String) : String :=
  match reason with
  | some reason => "signaling channel closed: " ++ reason
  | none => "signaling channel closed"

/-- The signaling channel is gone. -/
def channelLost (a : Agent) (reason : Option String) : Agent :=
  if a.phase = .closed then a
  else
    ({ a.releaseAll with active := none, phase := .closed } : Agent).notify
      (.fatal (channelClosedText reason))

/-- The local media are ready.  A session that waits for a call gets the tracks at once. -/
def mediaReady (a : Agent) (tracks : List Track) : Outcome × Agent :=
  let a := { a with tracks }
  match a.active with
  | none => (.ok (), a)
  | some remote =>
    match a.session? remote with
    | none => (.ok (), a)
    | some s =>
      if s.state ≠ .assigned then (.ok (), a)
      else
        match s.transport with
        | none => (.ok (), a)
        | some id => conclude remote (a.bindTracks remote id) (fun a => a)

/-- The local tracks, which are taken away. -/
def takeTracks (a : Agent) : List Track × Agent := (a.tracks, { a with tracks := [] })

/-- A candidate of this side is passed on to the peer, while there is a session with it. -/
def localCandidate (a : Agent) (remote candidate : String) : Outcome × Agent :=
  if a.phase = .closed ∨ (a.session? remote).isNone then (.ok (), a)
  else
    match a.send? (.iceCandidate a.localId remote candidate) with
    | some a => (.ok (), a)
    | none => (.error .channelClosed, a.fail remote .channelLost)

/-- A stream of the remote peer. -/
def remoteStream (a : Agent) (remote : String) (stream : RemoteStream) : Agent :=
  a.notify (.stream remote stream)

/-- The server reports an error. -/
def serverError (a : Agent) (code : Int) (message : String) : Agent :=
  a.notify (.fatal ("signaling server error " ++ toString code ++ ": " ++ message))

/-- How long the session has been negotiating at `now`, if that is at least `timeout`. -/
def overdue? (timeout now : Nat) (s : Session) : Option Nat :=
  if s.state = .offering ∨ s.state = .answering then
    s.started.bind fun t => if timeout ≤ now - t then some (now - t) else none
  else none

/-- The peers whose negotiation is overdue at `now`, with its length. -/
def stalled (a : Agent) (timeout now : Nat) : List (String × Nat) :=
  a.registry.entries.entries.filterMap fun e =>
    (overdue? timeout now e.2.session).map fun t => (e.1, t)

/-- Fails the overdue negotiations; answers how many there were. -/
def expire (a : Agent) (now : Nat) : Nat × Agent :=
  match a.timeout with
  | none => (0, a)
  | some timeout =>
    let late := a.stalled timeout now
    (late.length, late.foldl (fun a (r, t) => a.fail r (.timedOut r t)) a)

/-- The clock moves on. -/
def advance (a : Agent) (nanoseconds : Nat) : Agent := { a with now := a.now + nanoseconds }

end CallSignaling.Agent
