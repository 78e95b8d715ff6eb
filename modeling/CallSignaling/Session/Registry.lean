import CallSignaling.Session.Basic
import CallSignaling.Session.Roster

/-!
# Registry — the sessions by remote peer

Every session has a handle, a number that is never given out twice.  A peer has at most one session;
one that has settled is replaced on the next `assign`, unless its handle is held.
-/

namespace CallSignaling

/-- A session with its handle. -/
structure Registered where
  handle : Nat
  session : Session
deriving DecidableEq, Repr

/-- The registered sessions; handles below `issued` have been given out. -/
structure Registry where
  entries : Roster Registered
  issued : Nat
deriving DecidableEq

namespace Registry

def empty : Registry := ⟨∅, 0⟩

def lookup? (r : Registry) (remote : String) : Option Registered := r.entries.get? remote

def session? (r : Registry) (remote : String) : Option Session :=
  (r.lookup? remote).map Registered.session

/-- A new session for a peer, in place of the one it had. -/
def enrol (r : Registry) (remote : String) : Nat × Registry :=
  (r.issued, ⟨r.entries.insert remote ⟨r.issued, Session.fresh remote⟩, r.issued + 1⟩)

/-- The handle of the live session with a peer, a new one if there is none.  A session whose handle
is held is in use and therefore live. -/
def assign (held : Nat → Bool) (r : Registry) (remote : String) : Nat × Registry :=
  match r.lookup? remote with
  | some e =>
    if held e.handle || !e.session.state.isTerminal then (e.handle, r) else r.enrol remote
  | none => r.enrol remote

/-- Takes the session with a peer out. -/
def remove (r : Registry) (remote : String) : Option Registered × Registry :=
  (r.lookup? remote, { r with entries := r.entries.erase remote })

/-- Takes every session out, in the order of the peers' names. -/
def drain (r : Registry) : List Registered × Registry :=
  (r.entries.entries.map Prod.snd, { r with entries := ∅ })

/-- Changes the session with a peer, if there is one. -/
def update (r : Registry) (remote : String) (f : Session → Session) : Registry :=
  match r.lookup? remote with
  | some e => { r with entries := r.entries.insert remote { e with session := f e.session } }
  | none => r

/-- The peers in increasing order. -/
def remotes (r : Registry) : List String := r.entries.names

def size (r : Registry) : Nat := r.entries.size

def isEmpty (r : Registry) : Bool := r.entries.isEmpty

end Registry

/-! ### Handles in use -/

/-- A registry some of whose handles are held by users; a handle may be held after its session was
taken out. -/
structure SharedRegistry where
  registry : Registry
  held : List Nat
deriving DecidableEq

/-- The answer to a wish to hold a session. -/
inductive HoldAnswer where
  | held
  | busy
  | absent
deriving DecidableEq, Repr

namespace SharedRegistry

def empty : SharedRegistry := ⟨.empty, []⟩

def isHeld (s : SharedRegistry) (handle : Nat) : Bool := s.held.contains handle

def assign (s : SharedRegistry) (remote : String) : Nat × SharedRegistry :=
  let (h, r) := s.registry.assign s.isHeld remote
  (h, { s with registry := r })

def lookup (s : SharedRegistry) (remote : String) : Option Nat :=
  (s.registry.lookup? remote).map Registered.handle

def remove (s : SharedRegistry) (remote : String) : Option Nat × SharedRegistry :=
  let (e, r) := s.registry.remove remote
  (e.map Registered.handle, { s with registry := r })

/-- The handles of all sessions in increasing order; the registry is empty afterwards. -/
def drain (s : SharedRegistry) : List Nat × SharedRegistry :=
  let (es, r) := s.registry.drain
  ((es.map Registered.handle).mergeSort (· ≤ ·), { s with registry := r })

/-- Holds the session with a peer. -/
def hold (s : SharedRegistry) (remote : String) : HoldAnswer × SharedRegistry :=
  match s.lookup remote with
  | none => (.absent, s)
  | some h => if s.isHeld h then (.busy, s) else (.held, { s with held := h :: s.held })

/-- Lets every held session go; answers how many there were. -/
def release (s : SharedRegistry) : Nat × SharedRegistry := (s.held.length, { s with held := [] })

/-- The session behind a registered handle settles. -/
def settle (s : SharedRegistry) (remote : String) (final : CallState) : SharedRegistry :=
  { s with registry := s.registry.update remote (Session.settle · final) }

end SharedRegistry

end CallSignaling
