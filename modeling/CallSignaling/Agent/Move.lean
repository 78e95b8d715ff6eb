import CallSignaling.Agent.Operations

/-!
# Moves — what can happen to an agent

A move is one operation with its arguments or a change of the agent's surroundings.  Every state
that an agent can reach is `run` from a fresh one.
-/

namespace CallSignaling.Agent

inductive Move where
  | requestConnect
  | assigned (remote : String)
  | startCall
  | answer (sender : Option String) (sdp : String)
  | offer (sender recipient sdp : String)
  | candidate (sender candidate : String)
  | remoteLeft (remote : String)
  | localCandidate (remote candidate : String)
  | mediaReady (tracks : List Track)
  | takeTracks
  | hangUp
  | channelLost (reason : Option String)
  | remoteStream (remote : String) (stream : RemoteStream)
  /-- The media connection with a peer changes its state, which is not acted on. -/
  | linkState (remote : String) (state : LinkState)
  | serverError (code : Int) (message : String)
  /-- The negotiations that are overdue at a time fail. -/
  | expire (time : Nat)
  /-- The clock moves on by so many nanoseconds. -/
  | advance (nanoseconds : Nat)
  /-- How transports created from now on behave. -/
  | behave (behaviour : Behaviour)
  /-- The way out closes. -/
  | mute
deriving DecidableEq, Repr

/-- Does a move; one that cannot fail succeeds. -/
def perform (a : Agent) : Move → Outcome × Agent
  | .requestConnect => a.requestConnect
  | .assigned remote => a.assigned remote
  | .startCall => a.startCall
  | .answer sender sdp => a.answer sender sdp
  | .offer sender recipient sdp => a.offer sender recipient sdp
  | .candidate sender candidate => a.candidate sender candidate
  | .remoteLeft remote => a.remoteLeft remote
  | .localCandidate remote candidate => a.localCandidate remote candidate
  | .mediaReady tracks => a.mediaReady tracks
  | .takeTracks => (.ok (), a.takeTracks.2)
  | .hangUp => (.ok (), a.hangUp)
  | .channelLost reason => (.ok (), a.channelLost reason)
  | .remoteStream remote stream => (.ok (), a.remoteStream remote stream)
  | .linkState _ _ => (.ok (), a)
  | .serverError code message => (.ok (), a.serverError code message)
  | .expire time => (.ok (), (a.expire time).2)
  | .advance nanoseconds => (.ok (), a.advance nanoseconds)
  | .behave behaviour => (.ok (), a.behave behaviour)
  | .mute => (.ok (), a.mute)

/-- The agent after a move. -/
def after (a : Agent) (m : Move) : Agent := (a.perform m).2

/-- The agent after a history. -/
def run (a : Agent) (history : List Move) : Agent := history.foldl after a

@[simp] theorem run_nil (a : Agent) : a.run [] = a := rfl

theorem run_concat (a : Agent) (history : List Move) (m : Move) :
    a.run (history ++ [m]) = (a.run history).after m := by
  simp only [run, List.foldl_append, List.foldl_cons, List.foldl_nil]

theorem run_append (a : Agent) (history later : List Move) :
    a.run (history ++ later) = (a.run history).run later := by
  simp only [run, List.foldl_append]

end CallSignaling.Agent
