import CallSignaling.Proofs.Agent.Ownership
import CallSignaling.Proofs.Agent.Resolution

/-!
# Teardown — what a failed negotiation leaves

Main statement: `torn_run`.  Wherever in an operation a transport refuses or a message cannot be
sent, the session of the peer is gone afterwards, its transport is closed, the failure was reported
once, and nobody else is concerned (`TornDown`).
-/

namespace CallSignaling.Agent

/-- What an operation that failed with `e` has made of the session with a peer and of the rest. -/
structure TornDown (a : Agent) (m : Move) (r : String) (e : CallError) (b : Agent) : Prop where
  gone : b.session? r = none
  retired : b.isRetired r = true
  /-- The transport that the peer had. -/
  closed : ∀ i, a.Owns r i → ∃ t, b.transport? i = some t ∧ t.remote = r ∧ t.ClosedOnce
  /-- The transport that the operation has created. -/
  aborted : ∀ i t, a.transport? i = none → b.transport? i = some t → t.ClosedOnce
  reported : b.notices = a.notices ++ [.fatal e.message]
  named : ∀ q source, e = .rejected q source → q = r
  ended : a.active = some r ∨ m = .assigned r →
    b.active = none ∧ b.phase = .failed (if e = .channelClosed then .channelLost else .rejected)
  apart : a.active ≠ some r → m ≠ .assigned r → b.active = a.active ∧ b.phase = a.phase
  unsaid : b.outbox = a.outbox
  others : ∀ q, q ≠ r → (m = .assigned r → a.active ≠ some q) → b.line? q = a.line? q
  /-- An assignment may have taken the place of another peer. -/
  previous : m = .assigned r → ∀ q, q ≠ r → a.active = some q →
    b.session? q = none ∧
    ∀ i, a.Owns q i → ∃ t, b.transport? i = some t ∧ t.remote = q ∧ t.ClosedOnce

variable {a b d : Agent} {r q : String} {m : Move} {e : CallError} {f : Failure} {i : Nat}
  {t : Scripted}

/-- A failure that is no protocol error has torn a session down. -/
theorem Resolved.exists_wreck {x : Outcome × Agent} (hx : Resolved a m x) (he : x.1 = .error e)
    (hp : e.isProtocol = false) (hm : m ≠ .requestConnect) :
    ∃ r f b, Outset a m r b ∧ f.Genuine r ∧ Wreck b r f x.2 ∧ f.error = e := by
  cases hx with
  | done b => simp at he
  | refused h =>
    obtain rfl := Except.error.inj he
    simp [hp] at h
  | torn ho hf hw => exact ⟨_, _, _, ho, hf, hw, Except.error.inj he⟩
  | unannounced h => exact absurd h hm

/-! ### The lines of the others -/

/-- A line whose session is as before has changed only if its peer is the one that the move is
about. -/
theorem LineChange.eq_of_session {K L : Line} (hc : LineChange a q m (some K) L)
    (hs : L.session = K.session) (hr : a.concerned? m = some r) (hq : q ≠ r) : L = K := by
  cases hc with
  | wait => exact absurd (Option.some.inj hr) hq
  | pass => exact absurd (Option.some.inj hr) hq
  | assign => exact absurd (Option.some.inj hr) hq
  | @furnish h s t ts =>
    -- the mark of the tracks is as it was, so none were handed over now
    have hts : ts = [] ∨ s.tracksBound = true := by
      have hb : (s.tracksBound || !ts.isEmpty) = s.tracksBound := congrArg Session.tracksBound hs
      cases ts with
      | nil => exact .inl rfl
      | cons => exact .inr (by simpa using hb.symm)
    rw [Session.handover, if_pos hts]
    show (⟨h, s.given ts, some t⟩ : Line) = _
    rw [show s.given ts = s from hs]
  | @offer h s t hst =>
    have hstate : CallState.offering = s.state := congrArg Session.state hs
    rw [hst] at hstate
    cases hstate
  | settle h => exact absurd (Option.some.inj (h.symm.trans hr)) hq
  | accept => exact absurd (Option.some.inj hr) hq

/-- A peer whose session was left alone has the line it had. -/
theorem Effect.line?_eq (he : Effect m a b) (hl : b.registry.lookup? q = a.registry.lookup? q)
    (hr : a.concerned? m = some r) (hq : q ≠ r) : b.line? q = a.line? q := by
  cases hL : b.line? q with
  | none => exact (line?_eq_none_iff.mpr (hl ▸ line?_eq_none_iff.mp hL)).symm
  | some L =>
    have hlook : a.registry.lookup? q = some ⟨L.handle, L.session⟩ := by
      rw [← hl, (lookup_of_line? hL).1]
    have hK := line?_of_lookup hlook
    rcases he.line q L hL with hsame | hc
    · exact hsame.symm
    · rw [hK] at hc ⊢
      exact congrArg some (hc.eq_of_session rfl hr hq)

/-! ### The transports -/

/-- The transport of a session that is gone after a move was closed. -/
theorem Effect.closed (he : Effect m a b) (ha : a.Lines) (ho : a.Owns r i)
    (hn : b.registry.lookup? r = none) :
    ∃ t, b.transport? i = some t ∧ t.remote = r ∧ t.ClosedOnce := by
  obtain ⟨L, hL, hi⟩ := owns_iff.mp ho
  rcases he.keeps ha (lookup_of_line? hL).1 hi with ⟨e', hl, -⟩ | hclosed
  · rw [hn] at hl
    cases hl
  · exact hclosed

/-- A new transport was closed if every line that there is now was there before. -/
theorem Effect.aborted (he : Effect m a b) (ha : a.Lines)
    (hstay : ∀ q L, b.line? q = some L → a.line? q = some L) (hn : a.transport? i = none)
    (ht : b.transport? i = some t) : t.ClosedOnce := by
  rcases he.owner i t ht with ⟨k, hk⟩ | ⟨L, hL, hi⟩
  · exact hk.closedOnce
  · obtain ⟨u, hu, -⟩ := ha.owns (owns_iff.mpr ⟨L, hstay _ L hL, hi⟩)
    rw [hn] at hu
    cases hu

/-! ### The teardown -/

theorem Wreck.tornDown (ho : Outset a m r b) (hf : f.Genuine r) (hw : Wreck b r f d)
    (he : Effect m a d) (ha : a.Lines) : TornDown a m r f.error d := by
  have hlook : ∀ q, q ≠ r → d.registry.lookup? q = b.registry.lookup? q := fun q hq =>
    (hw.lookup q).trans (if_neg hq)
  have hgone : d.registry.lookup? r = none := (hw.lookup r).trans (if_pos rfl)
  have hothers : ∀ q, q ≠ r → (m = .assigned r → a.active ≠ some q) → d.line? q = a.line? q :=
    fun q hq hact => he.line?_eq ((hlook q hq).trans (ho.others q hq hact))
      (concerned?_of_subject? ho.subject) hq
  have hprevious : m = .assigned r → ∀ q, q ≠ r → a.active = some q →
      d.registry.lookup? q = none := fun hm q hq hact =>
    (hlook q hq).trans (ho.previous q hq hm hact)
  have hstay : ∀ q L, d.line? q = some L → a.line? q = some L := by
    intro q L hL
    -- a line that is there is neither that of the peer nor that of the previous one
    have hl : d.registry.lookup? q ≠ none := by rw [(lookup_of_line? hL).1]; simp
    have hq : q ≠ r := fun h => hl (h ▸ hgone)
    rw [← hL]
    exact (hothers q hq fun hm hact => hl (hprevious hm q hq hact)).symm
  have hsession : ∀ q, d.registry.lookup? q = none → d.session? q = none := fun q hq => by
    unfold session? Registry.session?
    rw [hq, Option.map_none]
  have hphase := hw.phase
  have hactive := hw.active
  rw [ho.active] at hphase hactive
  refine
    { gone := hsession r hgone
      retired := hw.retired
      closed := fun i hi => he.closed ha hi hgone
      aborted := fun i t => he.aborted ha hstay
      reported := by rw [hw.notices, ho.notices]
      named := fun q source => hf.remote_eq
      ended := fun h => ?_
      apart := fun hne hm => ?_
      unsaid := hw.outbox.trans ho.outbox
      others := hothers
      previous := fun hm q hq hact =>
        have hgone := hprevious hm q hq hact
        ⟨hsession q hgone, fun i hi => he.closed ha hi hgone⟩ }
  · have hr : (if m = .assigned r then some r else a.active) = some r := by
      split
      · rfl
      next hm => exact h.resolve_right hm
    rw [if_pos hr] at hphase hactive
    exact ⟨hactive, hphase.trans (congrArg CallState.failed hf.cause_eq)⟩
  · rw [if_neg hm, if_neg hne] at hphase hactive
    exact ⟨hactive, hphase.trans ho.phase⟩

/-- After any moves an operation that a transport or the channel has let down has torn down the
session of the peer it was about, whatever it had done by then. -/
theorem torn_run (localId : String) (timeout : Option Nat) (tracks : List Track)
    (behaviour : Behaviour) (now : Nat) (history : List Move) :
    let a := (fresh localId timeout tracks (.fresh behaviour) now).run history
    ∀ m e, m ≠ .requestConnect → (a.perform m).1 = .error e →
      (e = .channelClosed ∨ ∃ q source, e = .rejected q source) →
      ∃ r, a.subject? m = some r ∧ TornDown a m r e (a.after m) := by
  intro a m e hm he hkind
  have ha : a.Sound := sound_run localId timeout tracks behaviour now history
  have hp : e.isProtocol = false := by
    rcases hkind with rfl | ⟨q, source, rfl⟩ <;> rfl
  obtain ⟨r, f, b, ho, hf, hw, rfl⟩ := (perform_resolved ha m).exists_wreck he hp hm
  exact ⟨r, ho.subject, hw.tornDown ho hf (perform_turn ha m).effect ha.lines⟩

/-- The transport refuses the answer of the active peer. -/
theorem torn_run_answer :
    let a := (fresh "a" none [] (.fresh { rejectRemoteDescription := true }) 0).run
      [.requestConnect, .assigned "b", .startCall]
    let e := CallError.rejected "b" (.rejected "remote description refused")
    (a.perform (.answer none "x")).1 = .error e ∧
      TornDown a (.answer none "x") "b" e (a.after (.answer none "x")) := by
  intro a e
  have he : (a.perform (.answer none "x")).1 = .error e := by rfl
  obtain ⟨r, hr, htorn⟩ := torn_run "a" none [] { rejectRemoteDescription := true } 0
    [.requestConnect, .assigned "b", .startCall] (.answer none "x") e nofun he
    (.inr ⟨_, _, rfl⟩)
  have hactive : a.subject? (.answer none "x") = some "b" := by rfl
  obtain rfl := Option.some.inj (hactive.symm.trans hr)
  exact ⟨he, htorn⟩

end CallSignaling.Agent
