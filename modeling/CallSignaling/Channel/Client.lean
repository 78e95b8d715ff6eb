import CallSignaling.Channel.Loop
import CallSignaling.Url.Signaling

/-!
# Client — one connection after another

A client connects, serves the connection until it ends, waits for a while and connects again, until
the user hangs up.  The user's commands, the local tracks and the transports outlive a connection;
sessions do not.  A command is served by the loop of the connection or, while the client waits, by
the client itself; while it connects, commands stay queued.
-/

namespace CallSignaling

/-- A client's settings; times are nanoseconds. -/
structure ClientSettings where
  localId : String
  timeout : Option Nat
  /-- The time between the end of a connection and the next attempt. -/
  delay : Nat
deriving DecidableEq, Repr

/-- How a client ends. -/
inductive ClientExit where
  | hungUp
  | invalidUrl (url : String) (error : Url.SignalingError)
deriving DecidableEq, Repr

/-- What a client keeps from one connection to the next. -/
structure Kept where
  tracks : List Track
  pool : Pool
  notices : List Notice
  commands : Queue Command
  callers : List Nat
  replies : List (Nat × Agent.Outcome)
  now : Nat

namespace Kept

def fresh (pool : Pool) : Kept := ⟨[], pool, [], .fresh, [], [], 0⟩

/-- What is kept of a connection. -/
def ofLoop (l : Loop) : Kept :=
  { tracks := l.agent.tracks, pool := l.agent.pool, notices := l.agent.notices,
    commands := l.commands, callers := l.callers, replies := l.replies, now := l.agent.now }

/-- A new connection, which has just opened. -/
def loop (k : Kept) (s : ClientSettings) : Loop :=
  let agent := { Agent.fresh s.localId s.timeout k.tracks k.pool k.now with notices := k.notices }
  { Loop.start agent k.commands ⟨true, [.opened]⟩ .fresh k.callers with replies := k.replies }

/-- The calls that nobody will serve any more find the channel closed. -/
def refuseCalls (k : Kept) : Kept :=
  let left := k.commands.items.filterMap fun c => match c with
    | .startCall n => some (n, (.error .channelClosed : Agent.Outcome))
    | _ => none
  { k with replies := k.replies ++ left, commands := k.commands.shut }

end Kept

/-- Where a client stands. -/
inductive Stage where
  | connecting (kept : Kept)
  | online (loop : Loop)
  | waiting (resume : Nat) (kept : Kept)
  | ended (exit : ClientExit) (kept : Kept)

structure Client where
  settings : ClientSettings
  stage : Stage

namespace Client

/-- A client for the given address; it ends at once if that is no address of a server. -/
def start (settings : ClientSettings) (url : String) (pool : Pool) : Client where
  settings := settings
  stage := match Url.signaling url with
    | .ok _ => .connecting (.fresh pool)
    | .error e => .ended (.invalidUrl url e) { Kept.fresh pool with commands := Queue.fresh.shut }

/-- What would be kept if the connection ended now. -/
def kept (c : Client) : Kept :=
  match c.stage with
  | .connecting k => k
  | .online l => .ofLoop l
  | .waiting _ k => k
  | .ended _ k => k

def exit? (c : Client) : Option ClientExit :=
  match c.stage with
  | .ended e _ => some e
  | _ => none

/-! ### What the client does -/

/-- The user is gone: nothing is served from now on. -/
def hangUp (c : Client) (k : Kept) : Client := { c with stage := .ended .hungUp k.refuseCalls }

/-- Waits before the next attempt. -/
def pause (c : Client) (k : Kept) : Client :=
  { c with stage := .waiting (k.now + c.settings.delay) k }

/-- Serves an item of the connection, or leaves the connection once it has ended. -/
def serveLoop (c : Client) (l : Loop) : Client :=
  match l.serve with
  | some l => { c with stage := .online l }
  | none =>
    match l.exit with
    | none => c
    | some .localDisconnect => c.hangUp (.ofLoop l)
    | some .channelClosed => c.pause (.ofLoop l)

/-- Serves a command without a connection: tracks are noted and calls refused. -/
def serveWaiting (c : Client) (resume : Nat) (k : Kept) : Client :=
  match k.commands.items with
  | [] => if !k.commands.isOpen && k.callers.isEmpty then c.hangUp k else c
  | command :: rest =>
    let k := { k with commands := { k.commands with items := rest } }
    match command with
    | .mediaReady tracks => { c with stage := .waiting resume { k with tracks := tracks } }
    | .startCall call =>
      let replies := k.replies ++ [(call, .error .channelClosed)]
      { c with stage := .waiting resume { k with replies := replies } }
    | .hangUp => c.hangUp k

/-! ### What happens to the client -/

/-- Something that happens.  What cannot happen at a stage changes nothing there. -/
inductive Happening where
  /-- The attempt to connect succeeds. -/
  | connected
  /-- The attempt to connect fails. -/
  | refused
  /-- The client serves one item. -/
  | turn
  /-- The wait is over, if its time has come. -/
  | awake
  | command (command : Command)
  /-- The user's handles go away. -/
  | dropHandle
  /-- Who got an answer lets its handle go. -/
  | collect
  | item (item : ChannelItem)
  | event (event : PeerEvent)
  /-- The connection takes no more messages. -/
  | mute
  | advance (nanoseconds : Nat)

def mapKept (c : Client) (f : Kept → Kept) (g : Loop → Loop) : Client :=
  { c with stage := match c.stage with
    | .connecting k => .connecting (f k)
    | .online l => .online (g l)
    | .waiting u k => .waiting u (f k)
    | .ended e k => .ended e (f k) }

def mapLoop (c : Client) (g : Loop → Loop) : Client := c.mapKept id g

/-- Queues a command; answers whether somebody will serve it. -/
def submit (c : Client) (command : Command) : Bool × Client :=
  let q := (c.kept.commands.push command).2
  let callers := match command with
    | .startCall n => [n]
    | _ => []
  if c.kept.commands.isOpen && c.exit?.isNone then
    (true, c.mapKept (fun k => { k with commands := q, callers := k.callers ++ callers })
      (fun l => { l with commands := q, callers := l.callers ++ callers }))
  else (false, c)

/-- The callers that still wait. -/
def unanswered (callers : List Nat) (replies : List (Nat × Agent.Outcome)) : List Nat :=
  callers.filter fun n => !(replies.map Prod.fst).contains n

def perform (c : Client) : Happening → Client
  | .connected =>
    match c.stage with
    | .connecting k => { c with stage := .online (k.loop c.settings) }
    | _ => c
  | .refused =>
    match c.stage with
    | .connecting k => c.pause k
    | _ => c
  | .turn =>
    match c.stage with
    | .online l => c.serveLoop l
    | .waiting u k => c.serveWaiting u k
    | _ => c
  | .awake =>
    match c.stage with
    | .waiting u k => if u ≤ k.now then { c with stage := .connecting k } else c
    | _ => c
  | .command x => (c.submit x).2
  | .dropHandle =>
    c.mapKept (fun k => { k with commands := k.commands.finish })
      (fun l => { l with commands := l.commands.finish })
  | .collect =>
    c.mapKept (fun k => { k with callers := unanswered k.callers k.replies })
      (fun l => { l with callers := unanswered l.callers l.replies })
  | .item x => c.mapLoop fun l => { l with channel := (l.channel.push x).2 }
  | .event e => c.mapLoop fun l => { l with events := (l.events.push e).2 }
  | .mute =>
    c.mapLoop fun l => { l with agent := l.agent.mute }
  | .advance t =>
    c.mapKept (fun k => { k with now := k.now + t })
      (fun l => { l with agent := l.agent.advance t })

/-- The client after a history. -/
def run (c : Client) (history : List Happening) : Client := history.foldl perform c

@[simp] theorem run_nil (c : Client) : c.run [] = c := rfl

end Client

def ClientExit.message? : ClientExit → Option String
  | .hungUp => none
  | .invalidUrl url error => some (error.message url)

end CallSignaling
