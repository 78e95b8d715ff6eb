import CallSignaling.Proofs.Agent.Seat

/-!
# Posture — the phase, the active peer and the states of the sessions

`Posture` is the invariant that ties them together.  While an operation works on one peer that peer
is left aside (`Aside`); the operation ends with the line of the peer in its place (`Aside.posture`)
or torn down (`Aside.fail`).
-/

namespace CallSignaling.Agent

/-- A phase in which the client as a whole can be, with the peer it is assigned to. -/
inductive Standing : CallState → Option String → Prop
  | idle : Standing .idle none
  | waiting : Standing .awaitingAssignment none
  | assigned (r : String) : Standing .assigned (some r)
  | closed : Standing .closed none
  | failed (cause : FailureCause) (active : Option String) : Standing (.failed cause) active

/-- How the phase, the active peer and the sessions of an agent fit together between two moves. -/
structure Posture (a : Agent) : Prop where
  standing : Standing a.phase a.active
  closed : a.phase = .closed → ∀ r, a.sessionState? r = none
  active : ∀ r, a.active = some r → ∃ s, a.sessionState? r = some s ∧ s ≠ .idle
  solo : ∀ r s, a.sessionState? r = some s → s = .assigned ∨ s = .offering → a.active = some r

/-- The same for all peers but one. -/
structure Aside (a : Agent) (r : String) : Prop where
  standing : a.active ≠ some r → Standing a.phase a.active
  isOpen : a.phase ≠ .closed
  active : ∀ q, q ≠ r → a.active = some q → ∃ s, a.sessionState? q = some s ∧ s ≠ .idle
  solo : ∀ q s, q ≠ r → a.sessionState? q = some s → s = .assigned ∨ s = .offering →
    a.active = some q

variable {a b c : Agent} {r q : String} {id h : Nat} {s : Session} {t : Scripted}

theorem sessionState?_congr (h : b.registry.lookup? q = a.registry.lookup? q) :
    b.sessionState? q = a.sessionState? q := by
  unfold sessionState? session? Registry.session?
  rw [h]

theorem sessionState?_of_lookup {e : Registered} (h : a.registry.lookup? r = some e) :
    a.sessionState? r = some e.session.state := by
  unfold sessionState?
  rw [session?_of_lookup h, Option.map_some]

theorem sessionState?_eq_none_iff : a.sessionState? r = none ↔ a.registry.lookup? r = none := by
  unfold sessionState? session? Registry.session?
  rw [Option.map_eq_none_iff, Option.map_eq_none_iff]

theorem session?_isSome_iff : (a.session? r).isSome ↔ ∃ s, a.sessionState? r = some s := by
  unfold sessionState?
  cases a.session? r <;> simp

theorem sessionState?_withLine (b : Agent) (r : String) (h id : Nat) (s : Session) (t : Scripted) :
    (b.withLine r h id s t).sessionState? r = some s.state := by
  unfold sessionState?
  rw [session?_withLine, Option.map_some]

/-- A phase that is not final becomes another one. -/
theorem Standing.unless_terminal {p : CallState} {x y : Option String} {next : CallState}
    (h : Standing p x) (hp : p ≠ .closed) (hn : Standing next y) :
    Standing (if p.isTerminal then p else next) y := by
  cases h with
  | closed => exact absurd rfl hp
  | failed cause x => exact .failed cause y
  | _ => exact hn

namespace Posture

/-- An agent that has a session is not closed. -/
theorem isOpen (ha : a.Posture) {e : Registered} (hl : a.registry.lookup? r = some e) :
    a.phase ≠ .closed := fun hp => by
  have := sessionState?_eq_none_iff.mp (ha.closed hp r)
  simp [hl] at this

theorem aside (ha : a.Posture) (ho : a.phase ≠ .closed) (r : String) : a.Aside r :=
  ⟨fun _ => ha.standing, ho, fun q _ => ha.active q, fun q s _ => ha.solo q s⟩

/-- Only the phase has changed. -/
theorem congr (ha : a.Posture) (hs : Standing b.phase b.active) (hp : b.phase ≠ .closed)
    (hact : b.active = a.active) (hl : ∀ q, b.sessionState? q = a.sessionState? q) :
    b.Posture where
  standing := hs
  closed := fun h => absurd h hp
  active := fun q hq => by
    rw [hl]
    exact ha.active q (hact ▸ hq)
  solo := fun q s hq hs => by
    rw [hact]
    exact ha.solo q s (hl q ▸ hq) hs

/-- Neither the phase nor the active peer nor the state of a session has changed. -/
theorem same (ha : a.Posture) (hp : b.phase = a.phase) (hact : b.active = a.active)
    (hl : ∀ q, b.sessionState? q = a.sessionState? q) : b.Posture where
  standing := by
    rw [hp, hact]
    exact ha.standing
  closed := fun h q => by
    rw [hl]
    exact ha.closed (hp ▸ h) q
  active := fun q hq => by
    rw [hl]
    exact ha.active q (hact ▸ hq)
  solo := fun q s hq hs => by
    rw [hact]
    exact ha.solo q s (hl q ▸ hq) hs

/-- Every session is gone. -/
theorem of_closed (hp : a.phase = .closed) (hact : a.active = none)
    (hl : ∀ q, a.registry.lookup? q = none) : a.Posture where
  standing := by
    rw [hp, hact]
    exact .closed
  closed := fun _ q => sessionState?_eq_none_iff.mpr (hl q)
  active := fun q hq => by simp [hact] at hq
  solo := fun q s hq => by simp [sessionState?_eq_none_iff.mpr (hl q)] at hq

end Posture

namespace Aside

theorem congr (ha : a.Aside r) (hp : b.phase = a.phase) (hact : b.active = a.active)
    (hl : ∀ q, q ≠ r → b.registry.lookup? q = a.registry.lookup? q) : b.Aside r where
  standing := fun h => by
    rw [hp, hact]
    exact ha.standing (hact ▸ h)
  isOpen := hp ▸ ha.isOpen
  active := fun q hq h => by
    rw [sessionState?_congr (hl q hq)]
    exact ha.active q hq (hact ▸ h)
  solo := fun q s hq h hs => by
    rw [hact]
    exact ha.solo q s hq (sessionState?_congr (hl q hq) ▸ h) hs

/-- The peer that was left aside has its place again. -/
theorem posture (ha : a.Aside r) (hs : Standing b.phase b.active) (hp : b.phase ≠ .closed)
    (hact : ∀ q, q ≠ r → (b.active = some q ↔ a.active = some q))
    (hl : ∀ q, q ≠ r → b.registry.lookup? q = a.registry.lookup? q)
    (hr : b.active = some r → ∃ s, b.sessionState? r = some s ∧ s ≠ .idle)
    (hsolo : ∀ s, b.sessionState? r = some s → s = .assigned ∨ s = .offering →
      b.active = some r) : b.Posture where
  standing := hs
  closed := fun h => absurd h hp
  active := fun q hq => by
    by_cases h : q = r
    · subst h
      exact hr hq
    · rw [sessionState?_congr (hl q h)]
      exact ha.active q h ((hact q h).mp hq)
  solo := fun q s hq hs => by
    by_cases h : q = r
    · subst h
      exact hsolo s hq hs
    · exact (hact q h).mpr (ha.solo q s h (sessionState?_congr (hl q h) ▸ hq) hs)

/-- The line of the peer is torn down; the phase is the one before or a new one if the peer was the
active one. -/
theorem torn (ha : a.Aside r) {p : CallState} (hp : Standing p none) (hc : p ≠ .closed)
    (hact : b.active = if a.active = some r then none else a.active)
    (hphase : b.phase = if a.active = some r then p else a.phase)
    (hl : ∀ q, b.registry.lookup? q = if q = r then none else a.registry.lookup? q) :
    b.Posture := by
  have hnone : b.sessionState? r = none := by
    rw [sessionState?_eq_none_iff, hl, if_pos rfl]
  refine ha.posture ?_ ?_ (fun q hq => ?_) (fun q hq => by rw [hl, if_neg hq]) (fun h => ?_)
    fun s hs => by simp [hnone] at hs
  · rw [hact, hphase]
    split
    · exact hp
    next h => exact ha.standing h
  · rw [hphase]
    split
    · exact hc
    · exact ha.isOpen
  · rw [hact]
    split
    next h => simp [h, Ne.symm hq]
    · exact Iff.rfl
  · rw [hact] at h
    split at h
    · simp at h
    next hne => exact absurd h hne

/-- A failure tears the line of the peer down. -/
theorem fail (ha : a.Aside r) (f : Failure) : (a.fail r f).Posture :=
  ha.torn (.failed f.cause none) (by simp) (active_fail a r f) (phase_fail ha.isOpen r f)
    (lookup?_fail a r f)

end Aside

end CallSignaling.Agent
