import CallSignaling.Proofs.Agent.Turn

/-!
# Consistency — how the parts of an agent fit together

Main statement: `consistent_run`.  After any moves whatever the phase, the active peer, the
registry, the retired peers and the record of every session agree with each other and with the
transports.
-/

namespace CallSignaling.Agent

/-- The session with a peer agrees with the rest of the agent: it is in one of four states, has an
open transport of its own once it is not idle, and its marks say what was done on that transport. -/
structure InOrder (a : Agent) (r : String) (s : Session) : Prop where
  remote : s.remote = r
  retired : a.isRetired r = false
  state : s.state = .idle ∨ s.state = .assigned ∨ s.state = .offering ∨ s.state = .connected
  solo : s.state = .assigned ∨ s.state = .offering → a.active = some r
  unbound : s.state = .idle → s.transport = none ∧ s.tracksBound = false
  bound : s.state ≠ .idle → ∃ id t, s.transport = some id ∧ a.transport? id = some t ∧
    t.remote = r ∧ t.closed = false ∧ (s.tracksBound = true ↔ ∃ ids, .addTracks ids ∈ t.calls)
  localSet : s.localSet = true ↔ s.state = .offering ∨ s.state = .connected
  remoteSet : s.remoteSet = true ↔ s.state = .connected
  started : s.started.isSome = true ↔ s.state = .offering ∨ s.state = .connected
  pending : s.state = .connected → s.pending = []

/-- The phase, the active peer and the sessions agree with each other. -/
structure Consistent (a : Agent) : Prop where
  phase : a.phase = .idle ∨ a.phase = .awaitingAssignment ∨ a.phase = .assigned ∨
    a.phase = .closed ∨ ∃ cause, a.phase = .failed cause
  unassigned : a.phase = .idle ∨ a.phase = .awaitingAssignment → a.active = none
  assigned : a.phase = .assigned → ∃ r, a.active = some r
  closed : a.phase = .closed → a.active = none ∧ a.registry.isEmpty = true
  active : ∀ r, a.active = some r → ∃ s, a.session? r = some s ∧
    (s.state = .assigned ∨ s.state = .offering ∨ s.state = .connected)
  session : ∀ r s, a.session? r = some s → a.InOrder r s

variable {a : Agent} {r : String} {s : Session}

theorem Standing.cases {p : CallState} {x : Option String} (h : Standing p x) :
    (p = .idle ∨ p = .awaitingAssignment ∨ p = .assigned ∨ p = .closed ∨ ∃ c, p = .failed c) ∧
    (p = .idle ∨ p = .awaitingAssignment → x = none) ∧ (p = .assigned → ∃ r, x = some r) ∧
    (p = .closed → x = none) := by
  cases h <;> simp

theorem isEmpty_of_lookup {R : Registry} (h : ∀ r, R.lookup? r = none) : R.isEmpty = true := by
  unfold Registry.isEmpty Roster.isEmpty
  rw [List.isEmpty_iff, List.eq_nil_iff_forall_not_mem]
  rintro ⟨r, e⟩ hm
  have := (R.mem_entries_iff r e).mp hm
  simp [h r] at this

theorem Sound.inOrder (ha : a.Sound) (hs : a.session? r = some s) : a.InOrder r s := by
  rw [session?_eq_line?] at hs
  obtain ⟨⟨h, s', l⟩, hL, rfl⟩ := Option.map_eq_some_iff.mp hs
  have hsolo := fun hx => ha.posture.solo r _ (sessionState?_of_lookup (lookup_of_line? hL).1) hx
  have hret := ha.lines.retired r _ hL
  have hb := (lookup_of_line? hL).2
  cases ha.lines.sound r _ hL with
  | idle h pending =>
    exact ⟨rfl, hret, .inl rfl, hsolo, fun _ => ⟨rfl, rfl⟩, fun hn => absurd rfl hn,
      by simp [Session.fresh], by simp [Session.fresh], by simp [Session.fresh], nofun⟩
  | @bound _ _ t st k hr htr hat hf hst =>
    obtain ⟨hstate, hloc, hrem, hstart, hlive, hidle⟩ := ExchangeStage.marks hst
    obtain ⟨id, hid, ht⟩ := Option.bind_eq_some_iff.mp hb.symm
    have hx : s'.state = st.state := hf.state
    refine ⟨hr, hret, ?_, hsolo, fun h => ?_, fun _ => ?_, ?_, ?_, ?_, fun h => ?_⟩
    · rw [hx]
      exact .inr hstate
    · exact absurd (hx.symm.trans h) hidle
    · refine ⟨id, t, hid, ht, htr, hat.isOpen, ?_⟩
      rw [hf.tracksBound]
      exact hat.course.tracks_iff
    · rw [hf.localSet, hx]
      exact hloc
    · rw [hf.remoteSet, hx]
      exact hrem
    · rw [hf.started, hx]
      exact hstart
    · exact hf.pending (hlive (hx.symm.trans h))

theorem Sound.consistent (ha : a.Sound) : a.Consistent := by
  obtain ⟨hphase, hun, has, hcl⟩ := ha.posture.standing.cases
  refine ⟨hphase, hun, has, fun h => ⟨hcl h, ?_⟩, fun r hr => ?_, fun r s hs => ha.inOrder hs⟩
  · exact isEmpty_of_lookup fun r => sessionState?_eq_none_iff.mp (ha.posture.closed h r)
  · obtain ⟨x, hx, hidle⟩ := ha.posture.active r hr
    obtain ⟨s, hs, rfl⟩ := Option.map_eq_some_iff.mp hx
    exact ⟨s, hs, (ha.inOrder hs).state.resolve_left hidle⟩

/-- After any moves the parts of an agent fit together, whatever the transports refuse. -/
theorem consistent_run (localId : String) (timeout : Option Nat) (tracks : List Track)
    (behaviour : Behaviour) (now : Nat) (history : List Move) :
    ((fresh localId timeout tracks (.fresh behaviour) now).run history).Consistent :=
  (sound_run localId timeout tracks behaviour now history).consistent

end CallSignaling.Agent
