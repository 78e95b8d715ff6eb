import CallSignaling.Proofs.Agent.Consistency
import CallSignaling.Proofs.Agent.Isolation

/-!
# Reassignment — a peer that is assigned again

Main statement: `reassigned_run`.  The session with the active peer is in use and has its transport,
so another assignment of that peer only enters the phase of an assigned client; and an assignment
that has succeeded leaves nothing to do for the next one of the same peer.
-/

namespace CallSignaling.Agent

/-- What the assignment of the peer that is the active one already does. -/
structure Reassigned (a : Agent) (r : String) : Prop where
  /-- Nothing but the phase is new: no transport is made or asked, and no notice is given. -/
  kept : a.perform (.assigned r) = (.ok (), { a with phase := .assigned })
  inUse : ∃ s, a.sessionState? r = some s ∧ (s = .assigned ∨ s = .offering ∨ s = .connected)

variable {a b : Agent} {r : String} {x : Outcome × Agent}

theorem depart_of_active (h : a.active = some r) : a.depart (.assigned r) = a := by
  have hstay : a.leavePrevious r = a := by
    unfold leavePrevious
    simp [h]
  show ({ a.leavePrevious r with active := some r } : Agent) = a
  rw [hstay, ← h]

/-- A session that was there before the assignment is neither made nor brought back. -/
theorem Sound.assign_of_active (ha : a.Sound) (h : a.active = some r) :
    ∃ s, (a.unretire r).assign r = a ∧ a.sessionState? r = some s ∧ s ≠ .idle ∧
      a.bindAssigned r = .ok a := by
  obtain ⟨s, hs, hidle⟩ := ha.posture.active r h
  obtain ⟨⟨handle, session⟩, hl, rfl⟩ : ∃ e, a.registry.lookup? r = some e ∧
      e.session.state = s := by
    obtain ⟨session, hsession, rfl⟩ := Option.map_eq_some_iff.mp hs
    obtain ⟨e, he, rfl⟩ := Option.map_eq_some_iff.mp hsession
    exact ⟨e, he, rfl⟩
  have hL := line?_of_lookup hl
  have hlive := (ha.lines.sound r _ hL).isTerminal
  refine ⟨_, ?_, hs, hidle, bindAssigned_of_begun ha.lines hl hidle⟩
  rw [unretire_eq_self (ha.lines.retired r _ hL), assign_of_live hl hlive]

theorem Sound.assigned_of_active (ha : a.Sound) (h : a.active = some r) :
    a.assigned r = (.ok (), { a with phase := .assigned }) := by
  obtain ⟨s, hsame, hs, hidle, hbind⟩ := ha.assign_of_active h
  have haccepts := (h ▸ ha.posture.standing).acceptsAssignment
  have hnew : a.sessionState? r ≠ some .idle := by
    rw [hs]
    simpa using hidle
  rw [assigned_eq haccepts, depart_of_active h, hsame]
  simp only [hbind, conclude, if_neg hnew]

theorem Sound.reassigned (ha : a.Sound) (h : a.active = some r) : Reassigned a r := by
  obtain ⟨s, hs, hstate⟩ := ha.consistent.active r h
  refine ⟨ha.assigned_of_active h, s.state, ?_, hstate⟩
  unfold sessionState?
  rw [hs, Option.map_some]

/-- The peer of an assignment that has succeeded is the active one. -/
theorem Deed.isAssigned (hx : Deed a (.assigned r) x) (hok : x.1 = .ok ()) :
    x.2.active = some r ∧ x.2.phase = .assigned := by
  cases hx with
  | refused => cases hok
  | failed => cases hok
  | echoed hpassive => exact hpassive.elim
  | reassigned hset =>
    have hactive := hset.active
    rw [if_pos rfl] at hactive
    exact ⟨hactive, rfl⟩
  | assigned hset =>
    have hactive := hset.active
    rw [if_pos rfl] at hactive
    exact ⟨hactive, rfl⟩

/-- After any moves, the second of two assignments of a peer changes nothing at all if the first has
succeeded; and an assignment of the active peer succeeds and changes nothing but the phase, whatever
its session has come to. -/
theorem reassigned_run (localId : String) (timeout : Option Nat) (tracks : List Track)
    (behaviour : Behaviour) (now : Nat) (history : List Move) (r : String) :
    let a := (fresh localId timeout tracks (.fresh behaviour) now).run history
    let b := a.after (.assigned r)
    ((a.perform (.assigned r)).1 = .ok () → b.perform (.assigned r) = (.ok (), b)) ∧
      (a.active = some r → Reassigned a r) := by
  intro a b
  have ha : a.Sound := sound_run localId timeout tracks behaviour now history
  refine ⟨fun hok => ?_, ha.reassigned⟩
  have hb : b.Sound := ha.after (.assigned r)
  obtain ⟨hactive, hphase⟩ := (perform_deed ha (.assigned r)).isAssigned hok
  have hself : ({ b with phase := .assigned } : Agent) = b := by
    rw [← show b.phase = .assigned from hphase]
  exact (hb.assigned_of_active hactive).trans (by rw [hself])

/-- A peer called while the client had no peer, as its assignment to another one had failed; then it
is assigned twice. -/
theorem reassigned_run_caller :
    let a := (fresh "a" none [] (.fresh {}) 0).run
      [.requestConnect, .behave { rejectCreate := true }, .assigned "c", .behave {},
        .offer "b" "a" "sdp"]
    let b := a.after (.assigned "b")
    (a.phase = .failed .rejected ∧ a.sessionState? "b" = some .connected) ∧
      (a.active = some "b" ∧ Reassigned a "b") ∧
      (a.perform (.assigned "b")).1 = .ok () ∧ b.perform (.assigned "b") = (.ok (), b) := by
  intro a b
  have hactive : a.active = some "b" := by decide +kernel
  obtain ⟨hagain, hcaller⟩ := reassigned_run "a" none [] {} 0
    [.requestConnect, .behave { rejectCreate := true }, .assigned "c", .behave {},
      .offer "b" "a" "sdp"] "b"
  have hok : (a.perform (.assigned "b")).1 = .ok () := congrArg Prod.fst (hcaller hactive).kept
  exact ⟨by decide +kernel, ⟨hactive, hcaller hactive⟩, hok, hagain hok⟩

end CallSignaling.Agent
