import CallSignaling.Proofs.Agent.Disguise
import CallSignaling.Proofs.Agent.Turn

/-!
# Ownership — every transport has one session or was closed once

Main statement: `owned_run`.  Nothing leaks and nothing is closed twice: between two moves a
transport is that of the session of the peer it was created for, or its log ends with its only
closing.
-/

namespace CallSignaling

/-- The log ends with the only closing. -/
def Scripted.ClosedOnce (t : Scripted) : Prop :=
  t.closed = true ∧ ∃ log, t.calls = log ++ [.close] ∧ .close ∉ log

theorem Scripted.Shut.closedOnce {t : Scripted} {k : Bool} (h : t.Shut k) : t.ClosedOnce := by
  obtain ⟨u, hu, rfl⟩ := h
  obtain ⟨more, hm⟩ := hu.course
  exact ⟨rfl, u.calls, rfl, fun hc => hm.not_mem_close (List.mem_append_left more hc)⟩

namespace Agent

/-- The session with a peer has the transport of this number. -/
def Owns (a : Agent) (r : String) (i : Nat) : Prop :=
  ∃ s, a.session? r = some s ∧ s.transport = some i

/-- Every transport is open and has one owner, or was closed and has none. -/
structure Owned (a : Agent) : Prop where
  disposed : ∀ i t, a.transport? i = some t →
    (t.closed = false ∧ .close ∉ t.calls ∧ a.Owns t.remote i ∧ ∀ r, a.Owns r i → r = t.remote) ∨
    (t.ClosedOnce ∧ ∀ r, ¬ a.Owns r i)
  created : ∀ r i, a.Owns r i → ∃ t, a.transport? i = some t ∧ t.remote = r
  unshared : ∀ q r i, a.Owns q i → a.Owns r i → q = r

variable {a b : Agent} {r : String} {i : Nat} {t : Scripted}

theorem owns_iff : a.Owns r i ↔ ∃ L, a.line? r = some L ∧ L.session.transport = some i := by
  unfold Owns
  rw [session?_eq_line?]
  constructor
  · rintro ⟨s, hs, hi⟩
    obtain ⟨L, hL, rfl⟩ := Option.map_eq_some_iff.mp hs
    exact ⟨L, hL, hi⟩
  · rintro ⟨L, hL, hi⟩
    exact ⟨L.session, by rw [hL, Option.map_some], hi⟩

theorem Lines.owns (ha : a.Lines) (ho : a.Owns r i) :
    ∃ t, a.transport? i = some t ∧ t.remote = r ∧ t.closed = false := by
  obtain ⟨L, hL, hi⟩ := owns_iff.mp ho
  exact ha.transport (lookup_of_line? hL).1 hi

theorem Lines.owned (ha : a.Lines) : a.Owned where
  disposed := fun i t ht => by
    have hown : ∀ r, a.Owns r i → r = t.remote ∧ t.closed = false := fun r hr => by
      obtain ⟨u, hu, hur, ho⟩ := ha.owns hr
      obtain rfl : u = t := Option.some.inj (hu.symm.trans ht)
      exact ⟨hur.symm, ho⟩
    rcases ha.owner i t ht with ⟨k, hk⟩ | ⟨L, hL, hi⟩
    · refine .inr ⟨hk.closedOnce, fun r hr => ?_⟩
      have := (hown r hr).2
      simp [hk.closedOnce.1] at this
    · have ho : a.Owns t.remote i := owns_iff.mpr ⟨L, hL, hi⟩
      obtain ⟨u, st, k, hh, hat⟩ := ha.holds (lookup_of_line? hL).1 hi
      obtain rfl : u = t := Option.some.inj (hh.transport.symm.trans ht)
      exact .inl ⟨hat.isOpen, hat.not_mem_close, ho, fun r hr => (hown r hr).1⟩
  created := fun r i hr => by
    obtain ⟨t, ht, htr, -⟩ := ha.owns hr
    exact ⟨t, ht, htr⟩
  unshared := fun q r i hq hr => by
    obtain ⟨t, ht, htq, -⟩ := ha.owns hq
    obtain ⟨u, hu, hur, -⟩ := ha.owns hr
    obtain rfl : t = u := Option.some.inj (ht.symm.trans hu)
    exact htq.symm.trans hur

/-! ### Sessions that stay and sessions that leave -/

/-- A session keeps its transport. -/
theorem LineChange.transport_eq {m : Move} {h h' : Nat} {s s' : Session} {t' : Option Scripted}
    (hc : LineChange a r m (some ⟨h, s, some t⟩) ⟨h', s', t'⟩) : s'.transport = s.transport := by
  cases hc with
  | assign ho => cases ho; rfl
  | accept ho => cases ho; rfl
  | _ => rfl

/-- After a move a session is there with its transport, or its transport was closed. -/
theorem Effect.keeps {m : Move} (he : Effect m a b) (ha : a.Lines) {e : Registered}
    (hl : a.registry.lookup? r = some e) (hi : e.session.transport = some i) :
    (∃ e', b.registry.lookup? r = some e' ∧ e'.handle = e.handle ∧ e'.session.transport = some i) ∨
    ∃ t, b.transport? i = some t ∧ t.remote = r ∧ t.ClosedOnce := by
  obtain ⟨t, st, k, hh, -⟩ := ha.holds hl hi
  have hK := hh.line?
  obtain ⟨u, hu, hur, -⟩ := he.kept i t hh.transport
  cases hL : b.line? r with
  | some L =>
    refine .inl ⟨_, (lookup_of_line? hL).1, (he.handle_eq hL hK).symm, ?_⟩
    rcases he.line r L hL with hsame | hc
    · obtain rfl := Option.some.inj (hK.symm.trans hsame)
      exact hi
    · rw [hK] at hc
      exact hc.transport_eq.trans hi
  | none =>
    obtain ⟨v, hv, hvr, -⟩ := ha.transport hl hi
    obtain rfl : v = t := Option.some.inj (hv.symm.trans hh.transport)
    rcases he.owner i u hu with ⟨k, hk⟩ | ⟨L, hL', -⟩
    · exact .inr ⟨u, hu, hur.trans hvr, hk.closedOnce⟩
    · rw [hur, hvr, hL] at hL'
      simp at hL'

/-- A closed transport stays as it is. -/
theorem Sound.run_closed (ha : a.Sound) (later : List Move) (ht : a.transport? i = some t)
    (hc : t.closed = true) : (a.run later).transport? i = some t := by
  induction later generalizing a with
  | nil => exact ht
  | cons m later ih =>
    obtain ⟨u, hu, -, -, hsame⟩ := (perform_turn ha m).effect.kept i t ht
    obtain rfl := hsame hc
    exact ih (ha.after m) hu

/-- Under this disguise the transports that are closed now take and record calls again. -/
def reopening (a : Agent) : Disguise where
  refused := id
  idle := fun i => (a.transport? i).any Scripted.closed
  relic := fun t => { t with closed := false }

theorem Sound.avoids_reopening (ha : a.Sound) : a.Avoids a.reopening where
  session := fun r e i hl hi => by
    obtain ⟨t, ht, -, ho⟩ := ha.lines.transport hl hi
    show (a.transport? i).any Scripted.closed = false
    rw [ht, Option.any_some, ho]
  new := fun i hi => by
    have hnone : a.transport? i = none := List.getElem?_eq_none hi
    show (a.transport? i).any Scripted.closed = false
    rw [hnone, Option.any_none]

/-- A closed transport would record no call if it took calls again. -/
theorem Sound.run_reopened (ha : a.Sound) (later : List Move) (ht : a.transport? i = some t)
    (hc : t.closed = true) :
    ((a.under a.reopening).run later).transport? i = some { t with closed := false } := by
  have hsame : ∀ m : Move, m.under a.reopening = m := fun m => by cases m <;> rfl
  have hmap : later.map (·.under a.reopening) = later := by
    rw [funext hsame, List.map_id']
  have hrun := (run_under ha.avoids_reopening later).1
  have hidle : a.reopening.idle i = true := by
    show (a.transport? i).any Scripted.closed = true
    rw [ht, Option.any_some, hc]
  rw [hmap] at hrun
  rw [hrun, transport?_under, ha.run_closed later ht hc, Option.map_some]
  unfold Disguise.transport
  rw [if_pos hidle]
  rfl

/-- A session is registered as long as its transport is open. -/
theorem Sound.run_keeps (ha : a.Sound) (later : List Move) {e : Registered}
    (hl : a.registry.lookup? r = some e) (hi : e.session.transport = some i) :
    (∃ e', (a.run later).registry.lookup? r = some e' ∧ e'.handle = e.handle ∧
      e'.session.transport = some i) ∨
    ∃ t, (a.run later).transport? i = some t ∧ t.remote = r ∧ t.ClosedOnce := by
  induction later generalizing a e with
  | nil => exact .inl ⟨e, hl, rfl, hi⟩
  | cons m later ih =>
    rcases (perform_turn ha m).effect.keeps ha.lines hl hi with ⟨e', hl', hh, hi'⟩ | ⟨t, ht, hr, hc⟩
    · rcases ih (ha.after m) hl' hi' with ⟨e'', hl'', hh', hi''⟩ | hclosed
      · exact .inl ⟨e'', hl'', hh'.trans hh, hi''⟩
      · exact .inr hclosed
    · exact .inr ⟨t, (ha.after m).run_closed later ht hc.1, hr, hc⟩

/-- After any moves every transport has its one owner or was closed once, as the last of its calls,
and stays so.  No operation fails because of a closed transport, and none would be recorded on one
if it took calls again.  A session that has left the registry after further moves has had its
transport closed. -/
theorem owned_run (localId : String) (timeout : Option Nat) (tracks : List Track)
    (behaviour : Behaviour) (now : Nat) (history : List Move) :
    let a := (fresh localId timeout tracks (.fresh behaviour) now).run history
    a.Owned ∧
    (∀ m r, (a.perform m).1 ≠ .error (.rejected r .closed)) ∧
    (∀ later i t, a.transport? i = some t → t.closed = true →
      (a.run later).transport? i = some t ∧
      ((a.under a.reopening).run later).transport? i = some { t with closed := false }) ∧
    ∀ later r e i, a.registry.lookup? r = some e → e.session.transport = some i →
      (∀ e', (a.run later).registry.lookup? r = some e' → e'.handle ≠ e.handle) →
      ∃ t, (a.run later).transport? i = some t ∧ t.remote = r ∧ t.ClosedOnce := by
  have ha := sound_run localId timeout tracks behaviour now history
  refine ⟨ha.lines.owned, fun m => (perform_turn ha m).answer, fun later i t ht hc =>
    ⟨ha.run_closed later ht hc, ha.run_reopened later ht hc⟩, fun later r e i hl hi hgone => ?_⟩
  rcases ha.run_keeps later hl hi with ⟨e', hl', hh, -⟩ | hclosed
  · exact absurd hh (hgone e' hl')
  · exact hclosed

/-- A peer is assigned and leaves. -/
theorem owned_run_remoteLeft :
    ∃ t, ((fresh "a" none [] (.fresh {}) 0).run
      [.requestConnect, .assigned "b", .remoteLeft "b"]).transport? 0 = some t ∧
      t.remote = "b" ∧ t.ClosedOnce :=
  (owned_run "a" none [] {} 0 [.requestConnect, .assigned "b"]).2.2.2 [.remoteLeft "b"] "b"
    ⟨0, { Session.fresh "b" with state := .assigned, transport := some 0 }⟩ 0 (by decide) rfl
    (by decide)

end Agent

end CallSignaling
