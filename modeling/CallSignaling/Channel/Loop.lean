import CallSignaling.Agent.Dispatch

/-!
# Loop — one connection's worth of signaling

The loop serves four sources one item at a time: the user's commands before the items of the
signaling channel, these before the events of transports, and these before the ticker that looks for
overdue negotiations.  It ends when the user hangs up or the channel closes.
-/

namespace CallSignaling

/-- A wish of the user.  Calls are numbered so that each can be answered. -/
inductive Command where
  | mediaReady (tracks : List Track)
  | startCall (call : Nat)
  | hangUp
deriving DecidableEq, Repr

/-- What comes from the signaling channel. -/
inductive ChannelItem where
  | opened
  | frame (frame : Bytes)
  | closed (reason : Option String)
deriving DecidableEq, Repr

inductive LoopExit where
  | localDisconnect
  | channelClosed
deriving DecidableEq, Repr

def LoopExit.name : LoopExit → String
  | .localDisconnect => "local_disconnect"
  | .channelClosed => "channel_closed"

/-- A ticker with its period and the time of the next tick, in nanoseconds. -/
structure Ticker where
  period : Nat
  due : Nat
deriving DecidableEq, Repr

namespace Ticker

/-- The shortest period. -/
def leastPeriod : Nat := 100000000

/-- A tick that is late by more than this moves the ticks after it. -/
def tolerance : Nat := 5000000

/-- Ticks four times per timeout, the first one at once. -/
def start (timeout now : Nat) : Ticker := ⟨max (timeout / 4) leastPeriod, now⟩

/-- The ticker after a tick at the time `now`. -/
def tick (t : Ticker) (now : Nat) : Ticker :=
  { t with due := if t.due + tolerance < now then now + t.period else t.due + t.period }

end Ticker

/-- The loop with what waits for it. -/
structure Loop where
  agent : Agent
  commands : Queue Command
  channel : Queue ChannelItem
  events : Queue PeerEvent
  ticker : Option Ticker
  /-- The calls that wait for an answer; each keeps the command queue from ending. -/
  callers : List Nat
  /-- The answers given to calls, oldest first. -/
  replies : List (Nat × Agent.Outcome)
  exit : Option LoopExit

namespace Loop

/-- A loop whose ticker, if the agent has a timeout, is due at once. -/
def start (agent : Agent) (commands : Queue Command) (channel : Queue ChannelItem)
    (events : Queue PeerEvent) (callers : List Nat) : Loop :=
  { agent, commands, channel, events, callers, replies := [], exit := none,
    ticker := agent.timeout.map (Ticker.start · agent.now) }

/-- The user hangs up. -/
def leave (l : Loop) : Loop := { l with agent := l.agent.hangUp, exit := some .localDisconnect }

/-- The channel is gone. -/
def lose (l : Loop) (reason : Option String) : Loop :=
  { l with agent := l.agent.channelLost reason, exit := some .channelClosed }

def serveCommand (l : Loop) : Command → Loop
  | .mediaReady tracks => { l with agent := (l.agent.mediaReady tracks).2 }
  | .startCall call =>
    let (o, a) := l.agent.startCall
    { l with agent := a, replies := l.replies ++ [(call, o)] }
  | .hangUp => l.leave

def serveItem (l : Loop) : ChannelItem → Loop
  | .opened => { l with agent := l.agent.requestConnect.2 }
  | .frame f => { l with agent := l.agent.dispatch f }
  | .closed reason => l.lose reason

def serveEvent (l : Loop) (e : PeerEvent) : Loop := { l with agent := (l.agent.applyEvent e).2 }

/-- These commands wait. -/
def withCommands (l : Loop) (cs : List Command) : Loop :=
  { l with commands := { l.commands with items := cs } }

/-- These items of the channel wait. -/
def withItems (l : Loop) (xs : List ChannelItem) : Loop :=
  { l with channel := { l.channel with items := xs } }

/-- These events wait. -/
def withEvents (l : Loop) (es : List PeerEvent) : Loop :=
  { l with events := { l.events with items := es } }

/-- No command waits and none can come. -/
def commandsEnded (l : Loop) : Bool :=
  l.commands.items.isEmpty && !l.commands.isOpen && l.callers.isEmpty

/-- The ticker, if its tick is due. -/
def tickDue? (l : Loop) : Option Ticker := l.ticker.filter fun t => t.due ≤ l.agent.now

/-- Serves one item; `none` if nothing waits or the loop has ended. -/
def serve (l : Loop) : Option Loop :=
  if l.exit.isSome then none
  else
    match l.commands.items with
    | c :: cs => some ((l.withCommands cs).serveCommand c)
    | [] =>
      if l.commandsEnded then some l.leave
      else
        match l.channel.items with
        | x :: xs => some ((l.withItems xs).serveItem x)
        | [] =>
          if l.channel.isOpen = false then some (l.lose none)
          else
            match l.events.items with
            | e :: es => some ((l.withEvents es).serveEvent e)
            | [] =>
              l.tickDue?.map fun t =>
                { l with
                  agent := (l.agent.expire l.agent.now).2
                  ticker := some (t.tick l.agent.now) }

/-- Serves at most so many items. -/
def serveMany : Nat → Loop → Loop
  | 0, l => l
  | n + 1, l =>
    match l.serve with
    | some l => serveMany n l
    | none => l

/-- A bound on the items that the loop can serve before it has to wait: what is queued, a tick and
an end. -/
def backlog (l : Loop) : Nat :=
  l.commands.items.length + l.channel.items.length + l.events.items.length + 2

/-- Serves items until nothing waits or the loop has ended. -/
def settle (l : Loop) : Loop := serveMany l.backlog l

end Loop

end CallSignaling
