import CallSignaling.Proofs.Agent.Ownership
import CallSignaling.Proofs.Agent.Routing

/-!
# Dealings — all that an agent has to do with one peer

The numbers of transports and sessions are given out to all peers in turn.  `Dealings` is what there
is about a peer but for these numbers: its session with the transport, whether it is retired, and
every transport ever made for it, oldest first.  `Does` says what a move about a peer in the
background does: it changes the dealings with that peer, says messages to it and gives notices, and
leaves the rest as it is (`Steady`).
-/

namespace CallSignaling

/-- The session but for the number of its transport. -/
def Session.bare (s : Session) : Session := { s with transport := none }

/-- The transports among these that were made for a peer. -/
def madeFor (r : String) (ts : List Scripted) : List Scripted :=
  ts.filter fun t => decide (t.remote = r)

/-- The transports made for a peer, with this one in the place of the open one, or as the last one
if none is open. -/
def renewed (ts : List Scripted) (u : Scripted) : List Scripted :=
  if ts.all (·.closed) then ts ++ [u] else ts.map fun t => if t.closed then t else u

/-- The transports made for the peer of a line, once the line is torn down. -/
def Line.leaves (L : Line) (ts : List Scripted) : List Scripted :=
  match L.transport with
  | some t => renewed ts t.close
  | none => ts

variable {r q : String} {t u : Scripted} {ts us : List Scripted}

theorem madeFor_append : madeFor r (ts ++ us) = madeFor r ts ++ madeFor r us :=
  List.filter_append ..

theorem madeFor_cons_self (h : t.remote = r) : madeFor r (t :: ts) = t :: madeFor r ts :=
  List.filter_cons_of_pos (by simpa using h)

theorem madeFor_cons_other (h : t.remote ≠ r) : madeFor r (t :: ts) = madeFor r ts :=
  List.filter_cons_of_neg (by simpa using h)

theorem mem_madeFor : t ∈ madeFor r ts ↔ t ∈ ts ∧ t.remote = r := by
  unfold madeFor
  rw [List.mem_filter, decide_eq_true_iff]

/-- Transports that are closed stay. -/
theorem map_of_closed (h : ∀ t ∈ ts, t.closed = true) (u : Scripted) :
    (ts.map fun t => if t.closed then t else u) = ts := by
  have hsame : ∀ t ∈ ts, (if t.closed then t else u) = id t := fun t ht => if_pos (h t ht)
  rw [List.map_congr_left hsame, List.map_id]

theorem renewed_of_closed (h : ∀ t ∈ ts, t.closed = true) (u : Scripted) :
    renewed ts u = ts ++ [u] := if_pos (List.all_eq_true.mpr h)

/-- One open transport between closed ones. -/
theorem renewed_of_open (ht : t.closed = false) (hts : ∀ v ∈ ts, v.closed = true)
    (hus : ∀ v ∈ us, v.closed = true) (u : Scripted) :
    renewed (ts ++ t :: us) u = ts ++ u :: us := by
  have hsome : ¬ (ts ++ t :: us).all (·.closed) = true := by simp [ht]
  unfold renewed
  rw [if_neg hsome, List.map_append, List.map_cons, map_of_closed hts, map_of_closed hus,
    if_neg (by simp [ht])]

namespace Pool

/-- The transports ever made for a peer, oldest first. -/
def made (p : Pool) (r : String) : List Scripted := madeFor r p.transports

variable {p : Pool} {id : Nat}

/-- The place of a transport, and the pool with another one there. -/
theorem put_of_getElem? (ht : p.transports[id]? = some t) (u : Scripted) :
    p.transports = p.transports.take id ++ t :: p.transports.drop (id + 1) ∧
      (p.put id u).transports = p.transports.take id ++ u :: p.transports.drop (id + 1) := by
  obtain ⟨hlt, rfl⟩ := List.getElem?_eq_some_iff.mp ht
  refine ⟨?_, rfl⟩
  rw [List.getElem_cons_drop, List.take_append_drop]

/-- The pool with one transport more. -/
theorem put_of_none (hid : id ≤ p.transports.length) (hn : p.transports[id]? = none)
    (u : Scripted) : (p.put id u).transports = p.transports ++ [u] := by
  have hge := List.getElem?_eq_none_iff.mp hn
  obtain rfl : id = p.transports.length := Nat.le_antisymm hid hge
  unfold put
  rw [List.take_length, List.drop_eq_nil_of_le (Nat.le_succ _)]

/-- A transport of another peer changes nothing. -/
theorem made_put_other (hid : id ≤ p.transports.length) (hu : u.remote ≠ q)
    (hold : ∀ v, p.transports[id]? = some v → v.remote ≠ q) : (p.put id u).made q = p.made q := by
  unfold made
  cases ht : p.transports[id]? with
  | none =>
    rw [put_of_none hid ht, madeFor_append, madeFor_cons_other hu]
    exact List.append_nil _
  | some t =>
    obtain ⟨hsplit, hput⟩ := put_of_getElem? ht u
    have hmade := congrArg (madeFor q) hsplit
    rw [madeFor_append, madeFor_cons_other (hold t ht)] at hmade
    rw [hput, madeFor_append, madeFor_cons_other hu, hmade]

/-- A transport in the place of the only open one of its peer, or as a new one. -/
theorem made_put_self (hid : id ≤ p.transports.length) (hu : u.remote = r)
    (hold : ∀ v, p.transports[id]? = some v → v.remote = r ∧ v.closed = false)
    (hshut : ∀ i v, i ≠ id → p.transports[i]? = some v → v.remote = r → v.closed = true) :
    (p.put id u).made r = renewed (p.made r) u := by
  unfold made
  cases ht : p.transports[id]? with
  | none =>
    have hall : ∀ v ∈ madeFor r p.transports, v.closed = true := by
      intro v hv
      obtain ⟨hmem, hvr⟩ := mem_madeFor.mp hv
      obtain ⟨i, hi⟩ := List.mem_iff_getElem?.mp hmem
      have hne : i ≠ id := fun h => by
        rw [h, ht] at hi
        cases hi
      exact hshut i v hne hi hvr
    rw [put_of_none hid ht, madeFor_append, madeFor_cons_self hu, renewed_of_closed hall]
    rfl
  | some t =>
    obtain ⟨htr, hopen⟩ := hold t ht
    obtain ⟨hsplit, hput⟩ := put_of_getElem? ht u
    have hbefore : ∀ v ∈ madeFor r (p.transports.take id), v.closed = true := by
      intro v hv
      obtain ⟨hmem, hvr⟩ := mem_madeFor.mp hv
      obtain ⟨i, hi⟩ := List.mem_iff_getElem?.mp hmem
      rw [List.getElem?_take] at hi
      split at hi
      next hlt => exact hshut i v (Nat.ne_of_lt hlt) hi hvr
      next => cases hi
    have hafter : ∀ v ∈ madeFor r (p.transports.drop (id + 1)), v.closed = true := by
      intro v hv
      obtain ⟨hmem, hvr⟩ := mem_madeFor.mp hv
      obtain ⟨i, hi⟩ := List.mem_iff_getElem?.mp hmem
      rw [List.getElem?_drop] at hi
      exact hshut _ v (by omega) hi hvr
    have hmade := congrArg (madeFor r) hsplit
    rw [madeFor_append, madeFor_cons_self htr] at hmade
    rw [hput, madeFor_append, madeFor_cons_self hu, hmade, renewed_of_open hopen hbefore hafter]

/-- A transport is closed in its place. -/
theorem close_put (hid : id ≤ p.transports.length) (u : Scripted) :
    (p.put id u).close id = p.put id u.close := by
  refine eq_of_getElem? rfl fun i => ?_
  rw [getElem?_close, getElem?_put hid, getElem?_put hid]
  by_cases hi : i = id
  · simp only [if_pos hi, Option.map_some]
  · simp only [if_neg hi]

end Pool

namespace Agent

/-- All that an agent has to do with a peer, but for the numbers. -/
structure Dealings where
  session : Option (Session × Option Scripted)
  retired : Bool
  made : List Scripted

def dealings (a : Agent) (r : String) : Dealings where
  session := (a.line? r).map fun L => (L.session.bare, L.transport)
  retired := a.isRetired r
  made := a.pool.made r

/-- `b` stands where `a` stands, whatever it has to do with single peers. -/
structure Steady (a b : Agent) : Prop where
  localId : b.localId = a.localId
  timeout : b.timeout = a.timeout
  phase : b.phase = a.phase
  active : b.active = a.active
  tracks : b.tracks = a.tracks
  now : b.now = a.now
  behaviour : b.pool.behaviour = a.pool.behaviour
  isOpen : b.outbox.isOpen = a.outbox.isOpen

/-- What a move about a peer in the background does: its outcome, the dealings with the peer
afterwards, the messages said and the notices given. -/
structure Does (a : Agent) (r : String) (o : Outcome) (d : Dealings) (xs : List Message)
    (ns : List Notice) (z : Outcome × Agent) : Prop where
  outcome : z.1 = o
  steady : Steady a z.2
  dealings : z.2.dealings r = d
  /-- No transport of another peer was made or called. -/
  others : ∀ q, q ≠ r → z.2.pool.made q = a.pool.made q
  sent : z.2.outbox.sent = a.outbox.sent ++ xs
  addressed : ∀ x ∈ xs, x.recipient? = some r
  notices : z.2.notices = a.notices ++ ns

variable {a b c : Agent} {h id : Nat} {s : Session} {L : Line} {o : Outcome} {d : Dealings}
  {xs : List Message} {ns : List Notice} {z : Outcome × Agent}

namespace Steady

theorem refl (a : Agent) : Steady a a := ⟨rfl, rfl, rfl, rfl, rfl, rfl, rfl, rfl⟩

theorem symm (h : Steady a b) : Steady b a :=
  ⟨h.localId.symm, h.timeout.symm, h.phase.symm, h.active.symm, h.tracks.symm, h.now.symm,
    h.behaviour.symm, h.isOpen.symm⟩

theorem trans (hb : Steady a b) (hc : Steady b c) : Steady a c :=
  ⟨hc.localId.trans hb.localId, hc.timeout.trans hb.timeout, hc.phase.trans hb.phase,
    hc.active.trans hb.active, hc.tracks.trans hb.tracks, hc.now.trans hb.now,
    hc.behaviour.trans hb.behaviour, hc.isOpen.trans hb.isOpen⟩

theorem ne_closed (h : Steady a b) (ho : a.phase ≠ .closed) : b.phase ≠ .closed := h.phase ▸ ho

end Steady

/-! ### A session that is taken out -/

/-- What closing a session changes. -/
theorem closeSession_eq (a : Agent) (r : String) :
    a.closeSession r = { a with
      registry := (a.closeSession r).registry
      retired := (a.closeSession r).retired
      pool := match (a.session? r).bind Session.transport with
        | some id => a.pool.close id
        | none => a.pool } := by
  have hsession : a.session? r = (a.registry.lookup? r).map Registered.session := rfl
  have hlookup : (a.retire r).registry.lookup? r = a.registry.lookup? r := rfl
  rw [hsession]
  unfold closeSession release
  simp only [Registry.remove, hlookup]
  cases a.registry.lookup? r with
  | none => rfl
  | some e => rfl

theorem fail_background (hr : a.active ≠ some r) (f : Failure) :
    a.fail r f = { a.closeSession r with notices := a.notices ++ [.fatal f.error.message] } := by
  rw [fail_eq, if_neg hr, if_neg hr, ← phase_closeSession a r, ← active_closeSession a r]

theorem steady_closeSession (a : Agent) (r : String) : Steady a (a.closeSession r) := by
  have hbehaviour : (a.closeSession r).pool.behaviour = a.pool.behaviour :=
    release_behaviour (a.retire r) r
  rw [closeSession_eq] at hbehaviour ⊢
  exact ⟨rfl, rfl, rfl, rfl, rfl, rfl, hbehaviour, rfl⟩

/-! ### What a move does -/

/-- An agent in the middle of an operation, which has said and reported nothing so far. -/
structure Underway (a c : Agent) : Prop where
  steady : Steady a c
  sent : c.outbox.sent = a.outbox.sent
  notices : c.notices = a.notices

theorem does_nothing (a : Agent) (r : String) (o : Outcome) :
    Does a r o (a.dealings r) [] [] (o, a) where
  outcome := rfl
  steady := .refl a
  dealings := rfl
  others := fun _ _ => rfl
  sent := (List.append_nil _).symm
  addressed := nofun
  notices := (List.append_nil _).symm

/-- The session is taken out in the end. -/
theorem Underway.does_closed (hc : Underway a c) (hr : (c.closeSession r).pool.made r = ts)
    (hq : ∀ q, q ≠ r → (c.closeSession r).pool.made q = a.pool.made q) (o : Outcome)
    (ns : List Notice) :
    Does a r o ⟨none, true, ts⟩ [] ns
      (o, { c.closeSession r with notices := a.notices ++ ns }) where
  outcome := rfl
  steady := { hc.steady.trans (steady_closeSession c r) with }
  dealings := by
    have hgone : (c.closeSession r).line? r = none := by
      rw [line?_eq_none_iff, lookup?_closeSession, if_pos rfl]
    have hretired : (c.closeSession r).isRetired r = true := by
      rw [isRetired_closeSession, if_pos rfl]
    show (c.closeSession r).dealings r = _
    unfold dealings
    rw [hgone, hretired, hr]
    rfl
  others := hq
  sent := by
    show (c.closeSession r).outbox.sent = _
    rw [outbox_closeSession, hc.sent, List.append_nil]
  addressed := nofun
  notices := rfl

/-- Another transport on a seat. -/
theorem Seat.made_put (hs : a.Seat r id t) (ha : a.Lines) (hid : id ≤ a.pool.transports.length)
    (hu : u.remote = r) :
    (a.pool.put id u).made r = renewed (a.pool.made r) u ∧
      ∀ q, q ≠ r → (a.pool.put id u).made q = a.pool.made q := by
  have hold : ∀ v, a.pool.transports[id]? = some v → v = t := hs.same
  refine ⟨Pool.made_put_self hid hu (fun v hv => ?_) fun i v hi hv hvr => ?_, fun q hq => ?_⟩
  · rw [hold v hv]
    exact ⟨hs.remote, hs.isOpen⟩
  · obtain ⟨k, hk⟩ := hs.own ha hi hv hvr
    exact hk.closedOnce.1
  · refine Pool.made_put_other hid (fun h => hq (h.symm.trans hu)) fun v hv hvq => ?_
    rw [hold v hv, hs.remote] at hvq
    exact hq hvq.symm

/-- The line is in its place in the end. -/
theorem Seat.does_placed (hs : a.Seat r id t) (ha : a.Lines) (hb : Steady a b)
    (hpool : b.pool = a.pool) (hid : id ≤ a.pool.transports.length) (hnum : s.transport = some id)
    (hu : u.remote = r) (hsent : b.outbox.sent = a.outbox.sent ++ xs)
    (hxs : ∀ x ∈ xs, x.recipient? = some r) (hnotices : b.notices = a.notices) (o : Outcome) :
    Does a r o ⟨some (s.bare, some u), b.isRetired r, renewed (a.pool.made r) u⟩ xs []
      (o, b.withLine r h id s u) := by
  obtain ⟨hmade, hothers⟩ := hs.made_put ha hid hu
  rw [← hpool] at hmade hothers hid
  refine ⟨rfl, { hb with }, ?_, fun q hq => ?_, hsent, hxs, ?_⟩
  · unfold dealings
    rw [line?_withLine hid hnum, ← hpool]
    show (⟨_, b.isRetired r, (b.pool.put id u).made r⟩ : Dealings) = _
    rw [hmade]
    rfl
  · rw [← hpool]
    exact hothers q hq
  · exact hnotices.trans (List.append_nil _).symm

/-- The line is torn down in the end. -/
theorem Seat.does_torn (hs : a.Seat r id t) (ha : a.Lines) (hb : Underway a b)
    (hpool : b.pool = a.pool) (hid : id ≤ a.pool.transports.length) (hnum : s.transport = some id)
    (hu : u.remote = r) (o : Outcome) (ns : List Notice) :
    Does a r o ⟨none, true, renewed (a.pool.made r) u.close⟩ [] ns
      (o, { (b.withLine r h id s u).closeSession r with notices := a.notices ++ ns }) := by
  obtain ⟨hmade, hothers⟩ := hs.made_put (u := u.close) ha hid hu
  have hclose : ((b.withLine r h id s u).closeSession r).pool = a.pool.put id u.close := by
    rw [closeSession_eq, session?_withLine, Option.bind_some, hnum]
    show (b.pool.put id u).close id = _
    rw [hpool, Pool.close_put hid]
  have hway : Underway a (b.withLine r h id s u) := ⟨{ hb.steady with }, hb.sent, hb.notices⟩
  exact hway.does_closed (by rw [hclose, hmade]) (fun q hq => by rw [hclose, hothers q hq]) o ns

/-- The session is taken out without having had a transport. -/
theorem Underway.does_dropped (hc : Underway a c) (hpool : c.pool = a.pool)
    (hn : (c.session? r).bind Session.transport = none) (o : Outcome) (ns : List Notice) :
    Does a r o ⟨none, true, a.pool.made r⟩ [] ns
      (o, { c.closeSession r with notices := a.notices ++ ns }) := by
  have hclose : (c.closeSession r).pool = a.pool := by
    rw [closeSession_eq, hn]
    exact hpool
  exact hc.does_closed (by rw [hclose]) (fun q _ => by rw [hclose]) o ns

/-- A line is torn down at once. -/
theorem Lines.does_closed (ha : a.Lines) (hL : a.line? r = some L) (o : Outcome)
    (ns : List Notice) :
    Does a r o ⟨none, true, L.leaves (a.pool.made r)⟩ [] ns
      (o, { a.closeSession r with notices := a.notices ++ ns }) := by
  obtain ⟨hl, hbind⟩ := lookup_of_line? hL
  have hway : Underway a a := ⟨.refl a, rfl, rfl⟩
  unfold Line.leaves
  cases hi : L.session.transport with
  | none =>
    rw [hi, Option.bind_none] at hbind
    rw [hbind]
    refine hway.does_dropped rfl ?_ o ns
    rw [session?_of_lookup hl, Option.bind_some, hi]
  | some i =>
    obtain ⟨t, ht, htr, -⟩ := ha.transport hl hi
    rw [hi, Option.bind_some, ht] at hbind
    rw [hbind]
    have hh : a.Holds r L.handle i L.session t := ⟨hl, hi, ht⟩
    have htorn := (hh.seat ha).does_torn (h := L.handle) ha hway rfl hh.le hi htr o ns
    rwa [hh.withLine_eq] at htorn

end Agent

end CallSignaling
