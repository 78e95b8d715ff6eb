import CallSignaling.Proofs.Agent.Line

/-!
# Views — what an agent has about a peer, and how the small changes show in it

A `Line` is a session with its handle and its transport.  Beside the lines an agent is seen through
its transports by number (`transport?`) and through the peers it has retired (`isRetired`).
-/

namespace CallSignaling

/-- What an agent has about one peer. -/
structure Line where
  handle : Nat
  session : Session
  transport : Option Scripted

namespace Agent

/-- The line of a peer, if it has a session. -/
def line? (a : Agent) (r : String) : Option Line :=
  (a.registry.lookup? r).map fun e => ⟨e.handle, e.session, e.session.transport.bind a.transport?⟩

variable {a b : Agent} {r q : String} {h id : Nat} {s : Session} {t : Scripted}

theorem line?_eq_none_iff : a.line? r = none ↔ a.registry.lookup? r = none :=
  Option.map_eq_none_iff

theorem line?_of_lookup {e : Registered} (hl : a.registry.lookup? r = some e) :
    a.line? r = some ⟨e.handle, e.session, e.session.transport.bind a.transport?⟩ := by
  unfold line?
  rw [hl]
  rfl

theorem lookup_of_line? {L : Line} (hl : a.line? r = some L) :
    a.registry.lookup? r = some ⟨L.handle, L.session⟩ ∧
      L.transport = L.session.transport.bind a.transport? := by
  obtain ⟨e, he, rfl⟩ := Option.map_eq_some_iff.mp hl
  exact ⟨he, rfl⟩

theorem session?_eq_line? (a : Agent) (r : String) :
    a.session? r = (a.line? r).map Line.session := by
  unfold session? Registry.session? line?
  cases a.registry.lookup? r <;> rfl

theorem sessionState?_eq_line? (a : Agent) (r : String) :
    a.sessionState? r = (a.line? r).map fun L => L.session.state := by
  unfold sessionState?
  rw [session?_eq_line?, Option.map_map]
  rfl

theorem Holds.line? (hb : a.Holds r h id s t) : a.line? r = some ⟨h, s, some t⟩ := by
  rw [line?_of_lookup hb.lookup, hb.number, Option.bind_some, hb.transport]

/-- Peers with the same session and the same transport have the same line. -/
theorem line?_congr (hl : b.registry.lookup? q = a.registry.lookup? q)
    (ht : ∀ e i, a.registry.lookup? q = some e → e.session.transport = some i →
      b.transport? i = a.transport? i) : b.line? q = a.line? q := by
  unfold line?
  rw [hl]
  cases he : a.registry.lookup? q with
  | none => rfl
  | some e =>
    rw [Option.map_some, Option.map_some]
    cases hi : e.session.transport with
    | none => rfl
    | some i => rw [Option.bind_some, Option.bind_some, ht e i he hi]

/-! ### Retired peers -/

theorem isRetired_retire (a : Agent) (r q : String) :
    (a.retire r).isRetired q = if q = r then true else a.isRetired q := by
  unfold isRetired retire Roster.contains
  rw [Roster.get?_insert]
  split <;> rfl

theorem isRetired_unretire (a : Agent) (r q : String) :
    (a.unretire r).isRetired q = if q = r then false else a.isRetired q := by
  unfold isRetired unretire Roster.contains
  rw [Roster.get?_erase]
  split <;> rfl

theorem unretire_eq_self (hr : a.isRetired r = false) : a.unretire r = a := by
  unfold unretire
  rw [Roster.erase_eq_self (by simpa [isRetired, Roster.contains] using hr)]

/-! ### Assignment -/

/-- The agent with a new session for a peer. -/
def enrol (a : Agent) (r : String) : Agent := { a with registry := (a.registry.enrol r).2 }

theorem assign_of_live {e : Registered} (hl : a.registry.lookup? r = some e)
    (ht : e.session.state.isTerminal = false) : a.assign r = a := by
  unfold assign
  rw [Registry.assign_of_live hl ht]

theorem assign_of_none (hl : a.registry.lookup? r = none) : a.assign r = a.enrol r := by
  unfold assign enrol
  rw [Registry.assign_of_none hl]

@[simp] theorem lookup?_enrol (a : Agent) (r q : String) :
    (a.enrol r).registry.lookup? q =
      if q = r then some ⟨a.registry.issued, Session.fresh r⟩ else a.registry.lookup? q :=
  Registry.lookup?_enrol ..

/-! ### A changed session -/

theorem update_eq_put (hl : a.registry.lookup? r = some ⟨h, s⟩) (f : Session → Session) :
    a.update r f = { a with registry := a.registry.put r ⟨h, f s⟩ } := by
  unfold update
  rw [Registry.update_eq_put hl]

theorem lookup?_update (hl : a.registry.lookup? r = some ⟨h, s⟩) (f : Session → Session)
    (q : String) : (a.update r f).registry.lookup? q =
      if q = r then some ⟨h, f s⟩ else a.registry.lookup? q := by
  rw [update_eq_put hl]
  exact Registry.lookup?_put ..

/-- A change that changes nothing. -/
theorem update_eq_self (hl : a.registry.lookup? r = some ⟨h, s⟩) {f : Session → Session}
    (hf : f s = s) : a.update r f = a := by
  rw [update_eq_put hl, hf, Registry.put_eq_self hl]

/-- One change after another. -/
theorem update_update (hl : a.registry.lookup? r = some ⟨h, s⟩) {f g k : Session → Session}
    (hk : k s = g (f s)) : (a.update r f).update r g = a.update r k := by
  have hnew := lookup?_update hl f r
  rw [if_pos rfl] at hnew
  rw [update_eq_put hnew, update_eq_put hl k, hk, update_eq_put hl f]
  exact congrArg (fun R => { a with registry := R }) (Registry.put_put _ _ _ _)

theorem line?_update (hl : a.registry.lookup? r = some ⟨h, s⟩) (f : Session → Session) :
    (a.update r f).line? r = some ⟨h, f s, (f s).transport.bind a.transport?⟩ := by
  have hnew := lookup?_update hl f r
  rw [if_pos rfl] at hnew
  exact line?_of_lookup hnew

/-- A line that was put into its place is the line of its peer. -/
theorem line?_withLine (hid : id ≤ a.pool.transports.length) (hs : s.transport = some id) :
    (a.withLine r h id s t).line? r = some ⟨h, s, some t⟩ := by
  have hl : (a.withLine r h id s t).registry.lookup? r = some ⟨h, s⟩ := by
    rw [lookup?_withLine, if_pos rfl]
  rw [line?_of_lookup hl, hs, Option.bind_some, transport?_withLine hid, if_pos rfl]

@[simp] theorem update_issued (a : Agent) (r : String) (f : Session → Session) :
    (a.update r f).registry.issued = a.registry.issued := by
  unfold update Registry.update
  split <;> rfl

/-! ### Removal -/

theorem lookup?_release (a : Agent) (r q : String) :
    (a.release r).registry.lookup? q = if q = r then none else a.registry.lookup? q := by
  unfold release
  cases he : a.registry.lookup? r with
  | none =>
    simp only [Registry.remove, he]
    split
    next e => rw [e, he]
    next => rfl
  | some e =>
    simp only [Registry.remove, he]
    exact Registry.lookup?_remove a.registry r q

theorem transport?_release (a : Agent) (r : String) (i : Nat) :
    (a.release r).transport? i =
      if (a.session? r).bind Session.transport = some i then (a.transport? i).map Scripted.close
      else a.transport? i := by
  cases he : a.registry.lookup? r with
  | none =>
    have hs : (a.session? r).bind Session.transport = none := by
      unfold session? Registry.session?
      rw [he]
      rfl
    rw [hs, if_neg (by simp)]
    unfold release
    simp only [Registry.remove, he]
  | some e =>
    rw [session?_of_lookup he, Option.bind_some]
    unfold release
    simp only [Registry.remove, he]
    cases e.session.transport with
    | none => rfl
    | some id =>
      show (a.pool.close id).transports[i]? = _
      rw [Pool.getElem?_close]
      simp only [transport?, Option.some.injEq, @eq_comm _ id i]

@[simp] theorem release_retired (a : Agent) (r : String) : (a.release r).retired = a.retired := by
  unfold release
  split <;> rfl

@[simp] theorem release_issued (a : Agent) (r : String) :
    (a.release r).registry.issued = a.registry.issued := by
  unfold release
  split
  · rfl
  next e R he =>
    simp only [Registry.remove, Prod.mk.injEq] at he
    rw [← he.2]

/-- What a release leaves as it is. -/
theorem release_frame (a : Agent) (r : String) :
    (a.release r).phase = a.phase ∧ (a.release r).active = a.active ∧
      (a.release r).tracks = a.tracks ∧ (a.release r).outbox = a.outbox ∧
      (a.release r).notices = a.notices ∧ (a.release r).localId = a.localId := by
  unfold release
  split <;> exact ⟨rfl, rfl, rfl, rfl, rfl, rfl⟩

@[simp] theorem release_behaviour (a : Agent) (r : String) :
    (a.release r).pool.behaviour = a.pool.behaviour := by
  unfold release
  split
  · rfl
  next e R he =>
    cases e.session.transport <;> rfl

/-! ### Tearing down -/

theorem lookup?_closeSession (a : Agent) (r q : String) :
    (a.closeSession r).registry.lookup? q = if q = r then none else a.registry.lookup? q :=
  lookup?_release (a.retire r) r q

theorem transport?_closeSession (a : Agent) (r : String) (i : Nat) :
    (a.closeSession r).transport? i =
      if (a.session? r).bind Session.transport = some i then (a.transport? i).map Scripted.close
      else a.transport? i :=
  transport?_release (a.retire r) r i

theorem isRetired_closeSession (a : Agent) (r q : String) :
    (a.closeSession r).isRetired q = if q = r then true else a.isRetired q := by
  unfold closeSession
  rw [← isRetired_retire]
  unfold isRetired
  rw [release_retired]

/-- A session that is taken out may have changed before, but for its transport. -/
theorem release_update (hl : a.registry.lookup? r = some ⟨h, s⟩) {f : Session → Session}
    (hf : (f s).transport = s.transport) : (a.update r f).release r = a.release r := by
  have hold : a.registry.remove r = (some ⟨h, s⟩, (a.registry.remove r).2) :=
    Prod.ext hl rfl
  rw [update_eq_put hl]
  unfold release
  rw [Registry.remove_put, hold]
  simp only [hf]

theorem fail_update (hl : a.registry.lookup? r = some ⟨h, s⟩) {f : Session → Session}
    (hf : (f s).transport = s.transport) (e : Failure) :
    (a.update r f).fail r e = a.fail r e := by
  have hclose : (a.update r f).closeSession r = a.closeSession r :=
    release_update (a := a.retire r) hl hf
  unfold fail
  rw [hclose]

theorem closeSession_issued (a : Agent) (r : String) :
    (a.closeSession r).registry.issued = a.registry.issued := release_issued (a.retire r) r

/-! What closing a session leaves as it is. -/

@[simp] theorem phase_closeSession (a : Agent) (r : String) :
    (a.closeSession r).phase = a.phase := (release_frame (a.retire r) r).1

@[simp] theorem active_closeSession (a : Agent) (r : String) :
    (a.closeSession r).active = a.active := (release_frame (a.retire r) r).2.1

@[simp] theorem tracks_closeSession (a : Agent) (r : String) :
    (a.closeSession r).tracks = a.tracks := (release_frame (a.retire r) r).2.2.1

@[simp] theorem outbox_closeSession (a : Agent) (r : String) :
    (a.closeSession r).outbox = a.outbox := (release_frame (a.retire r) r).2.2.2.1

@[simp] theorem notices_closeSession (a : Agent) (r : String) :
    (a.closeSession r).notices = a.notices := (release_frame (a.retire r) r).2.2.2.2.1

@[simp] theorem localId_closeSession (a : Agent) (r : String) :
    (a.closeSession r).localId = a.localId := (release_frame (a.retire r) r).2.2.2.2.2

/-! ### Failures -/

/-- A failure closes the session, ends the assignment if the peer was the active one, and is
reported. -/
theorem fail_eq (a : Agent) (r : String) (f : Failure) :
    a.fail r f =
      { a.closeSession r with
        active := if a.active = some r then none else a.active
        phase :=
          if a.active = some r then (if a.phase = .closed then .closed else .failed f.cause)
          else a.phase
        notices := a.notices ++ [.fatal f.error.message] } := by
  unfold fail notify
  by_cases h : a.active = some r
  · simp [h]
  · simp only [active_closeSession, h, notices_closeSession, if_false]
    rw [← phase_closeSession a r]

@[simp] theorem lookup?_fail (a : Agent) (r : String) (f : Failure) (q : String) :
    (a.fail r f).registry.lookup? q = if q = r then none else a.registry.lookup? q := by
  rw [fail_eq]
  exact lookup?_closeSession a r q

theorem session?_fail (a : Agent) (r : String) (f : Failure) (q : String) :
    (a.fail r f).session? q = if q = r then none else a.session? q := by
  unfold session? Registry.session?
  rw [lookup?_fail]
  split <;> rfl

theorem sessionState?_fail (a : Agent) (r : String) (f : Failure) (q : String) :
    (a.fail r f).sessionState? q = if q = r then none else a.sessionState? q := by
  unfold sessionState?
  rw [session?_fail]
  split <;> rfl

@[simp] theorem isRetired_fail (a : Agent) (r : String) (f : Failure) (q : String) :
    (a.fail r f).isRetired q = if q = r then true else a.isRetired q := by
  rw [fail_eq]
  exact isRetired_closeSession a r q

theorem transport?_fail (a : Agent) (r : String) (f : Failure) (i : Nat) :
    (a.fail r f).transport? i =
      if (a.session? r).bind Session.transport = some i then (a.transport? i).map Scripted.close
      else a.transport? i := by
  rw [fail_eq]
  exact transport?_closeSession a r i

@[simp] theorem active_fail (a : Agent) (r : String) (f : Failure) :
    (a.fail r f).active = if a.active = some r then none else a.active := by
  rw [fail_eq]

theorem phase_fail (ho : a.phase ≠ .closed) (r : String) (f : Failure) :
    (a.fail r f).phase = if a.active = some r then .failed f.cause else a.phase := by
  rw [fail_eq]
  show (if a.active = some r then (if a.phase = .closed then _ else _) else _) = _
  rw [if_neg ho]

@[simp] theorem notices_fail (a : Agent) (r : String) (f : Failure) :
    (a.fail r f).notices = a.notices ++ [.fatal f.error.message] := by
  rw [fail_eq]

@[simp] theorem outbox_fail (a : Agent) (r : String) (f : Failure) :
    (a.fail r f).outbox = a.outbox := by
  simp [fail_eq]

@[simp] theorem localId_fail (a : Agent) (r : String) (f : Failure) :
    (a.fail r f).localId = a.localId := by
  simp [fail_eq]

/-! ### The active peer -/

theorem adopt_of_some {p : String} (hact : a.active = some p) : adopt r a = a := by
  unfold adopt
  rw [hact]

theorem adopt_of_none (hact : a.active = none) :
    adopt r a = { a with
      active := some r
      phase := if a.phase.isTerminal then a.phase else .assigned } := by
  unfold adopt
  rw [hact]

/-! Making a peer the active one changes nothing else but the phase. -/

@[simp] theorem registry_adopt (r : String) (a : Agent) : (adopt r a).registry = a.registry := by
  unfold adopt
  split <;> rfl

@[simp] theorem retired_adopt (r : String) (a : Agent) : (adopt r a).retired = a.retired := by
  unfold adopt
  split <;> rfl

@[simp] theorem pool_adopt (r : String) (a : Agent) : (adopt r a).pool = a.pool := by
  unfold adopt
  split <;> rfl

@[simp] theorem outbox_adopt (r : String) (a : Agent) : (adopt r a).outbox = a.outbox := by
  unfold adopt
  split <;> rfl

@[simp] theorem notices_adopt (r : String) (a : Agent) : (adopt r a).notices = a.notices := by
  unfold adopt
  split <;> rfl

@[simp] theorem localId_adopt (r : String) (a : Agent) : (adopt r a).localId = a.localId := by
  unfold adopt
  split <;> rfl

theorem sessionState?_adopt (r q : String) (a : Agent) :
    (adopt r a).sessionState? q = a.sessionState? q :=
  congrArg (fun R => (R.session? q).map Session.state) (registry_adopt r a)

end Agent

end CallSignaling
