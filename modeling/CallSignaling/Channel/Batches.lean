import CallSignaling.Channel.Loop

/-!
# Batches — a loop fed by a script

A batch queues all its actions before the loop runs again, or lets time pass at once.  The loop runs
until nothing waits; then the answers to calls are collected.
-/

namespace CallSignaling

/-- A loop under a script. -/
structure Script where
  loop : Loop
  /-- The number of the next call. -/
  calls : Nat
  /-- How many of the loop's answers have been collected. -/
  collected : Nat

namespace Script

inductive Action where
  | item (item : ChannelItem)
  /-- The sender of the channel goes away. -/
  | dropChannel
  | mediaReady (tracks : List Track)
  | startCall
  | hangUp
  /-- The user's handles go away. -/
  | dropHandle
  | emit (remote : String) (event : TransportEvent)
  | peerEvent (event : PeerEvent)
  | behave (behaviour : Behaviour)
  | dropOutbound

/-- Whether an action took effect. -/
inductive Pushed where
  | flag (value : Bool)
  | noTransport
  | refused (error : CallError)

inductive Batch where
  | push (actions : List Action)
  | advance (nanoseconds : Nat)

def fresh (agent : Agent) : Script := ⟨.start agent .fresh .fresh .fresh [], 0, 0⟩

def ended (s : Script) : Bool := s.loop.exit.isSome

def item (s : Script) (x : ChannelItem) : Pushed × Script :=
  if s.ended then (.flag false, s)
  else
    let (b, q) := s.loop.channel.push x
    (.flag b, { s with loop := { s.loop with channel := q } })

def command (s : Script) (c : Command) : Pushed × Script :=
  if s.ended then (.flag false, s)
  else
    let (b, q) := s.loop.commands.push c
    (.flag b, { s with loop := { s.loop with commands := q } })

/-- A call waits for its answer from the moment it is queued. -/
def startCall (s : Script) : Pushed × Script :=
  if s.loop.commands.isOpen = false then (.flag false, s)
  else if s.ended then (.refused .channelClosed, s)
  else
    let (b, q) := s.loop.commands.push (.startCall s.calls)
    (.flag b,
      { s with
        loop := { s.loop with commands := q, callers := s.loop.callers ++ [s.calls] }
        calls := s.calls + 1 })

def raise (s : Script) (e : PeerEvent) : Pushed × Script :=
  if s.ended then (.flag false, s)
  else
    let (b, q) := s.loop.events.push e
    (.flag b, { s with loop := { s.loop with events := q } })

def withAgent (s : Script) (f : Agent → Agent) : Script :=
  { s with loop := { s.loop with agent := f s.loop.agent } }

def act (s : Script) : Action → Pushed × Script
  | .item x => s.item x
  | .dropChannel =>
    (.flag true, { s with loop := { s.loop with channel := s.loop.channel.finish } })
  | .mediaReady tracks => s.command (.mediaReady tracks)
  | .startCall => s.startCall
  | .hangUp => s.command .hangUp
  | .dropHandle =>
    (.flag true, { s with loop := { s.loop with commands := s.loop.commands.finish } })
  | .emit remote event =>
    match s.loop.agent.pool.newestFor? remote with
    | none => (.noTransport, s)
    | some t => s.raise ⟨t.remote, event⟩
  | .peerEvent e => s.raise e
  | .behave b => (.flag true, s.withAgent (Agent.behave · b))
  | .dropOutbound =>
    (.flag true, s.withAgent Agent.mute)

def actAll (s : Script) : List Action → List Pushed × Script
  | [] => ([], s)
  | x :: xs =>
    let (p, s) := s.act x
    let (ps, s) := actAll s xs
    (p :: ps, s)

/-- The calls still queued when the loop has ended find the channel closed. -/
def answerLeftOver (l : Loop) : Loop :=
  if l.exit.isSome then
    let left := l.commands.items.filterMap fun c => match c with
      | .startCall n => some (n, (.error .channelClosed : Agent.Outcome))
      | _ => none
    { l with replies := l.replies ++ left, commands := { l.commands with items := [] } }
  else l

/-- Runs the loop until nothing waits. -/
def settle (s : Script) : Script := { s with loop := answerLeftOver s.loop.settle }

/-- The new answers to calls; who has got one lets its handle go. -/
def collect (s : Script) : List (Nat × Agent.Outcome) × Script :=
  let replies := s.loop.replies.drop s.collected
  let answered := s.loop.replies.map Prod.fst
  (replies,
    { s with
      loop := { s.loop with callers := s.loop.callers.filter fun n => !answered.contains n }
      collected := s.loop.replies.length })

/-- What a batch led to. -/
structure Result where
  pushed : List Pushed
  replies : List (Nat × Agent.Outcome)
  running : Bool

def advance (s : Script) (nanoseconds : Nat) : Script :=
  s.withAgent (Agent.advance · nanoseconds)

def run (s : Script) : Batch → Result × Script
  | .push actions =>
    let (pushed, s) := s.actAll actions
    let (replies, s) := s.settle.collect
    (⟨pushed, replies, !s.ended⟩, s)
  | .advance t =>
    let (replies, s) := ((s.settle.advance t).settle).collect
    (⟨[], replies, !s.ended⟩, s)

end Script

end CallSignaling
