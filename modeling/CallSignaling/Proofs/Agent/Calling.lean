import CallSignaling.Proofs.Agent.Consistency
import CallSignaling.Proofs.Agent.Utterance

/-!
# Calling — the state that can be seen decides what a call leads to

Main statement: `calling_run`.  The state of an agent is that of the session with the active peer,
or the phase if there is none.  It alone tells how a wish to call is answered; only an assigned
agent acts on it, and then either one offer has gone out or the negotiation has failed without a
message.
-/

namespace CallSignaling.Agent

/-- A call to a peer was placed: the offer that went out is the description that the peer's
transport has just made and applied. -/
structure Placed (a b : Agent) (r sdp : String) : Prop where
  active : a.active = some r
  sent : b.outbox.sent = a.outbox.sent ++ [.offer a.localId r sdp]
  described : Describes a b .startCall r .createOffer Scripted.createOffer sdp
  state : b.state = .offering
  started : (b.session? r).bind Session.started = some b.now
  now : b.now = a.now

/-- How an agent answers the wish to call, and what it has done then. -/
structure Calling (a : Agent) (o : Outcome) (b : Agent) : Prop where
  unassigned : o = .error .noRemoteAssigned ↔ a.state = .idle ∨ a.state = .awaitingAssignment
  busy : ∀ r s, o = .error (.alreadyNegotiating r s) ↔
    a.active = some r ∧ s = a.state ∧ (s = .offering ∨ s = .answering ∨ s = .connected)
  /-- Whoever negotiates does so with the active peer. -/
  partner : a.state = .offering ∨ a.state = .answering ∨ a.state = .connected → a.active.isSome
  terminal : ∀ op s, o = .error (.invalidState op s) ↔
    op = .startCall ∧ s = a.state ∧ s.isTerminal = true
  known : ∀ r, o ≠ .error (.unknownPeer r)
  unchanged : a.state ≠ .assigned → b = a
  assigned : a.state = .assigned → o = .ok () ∨
    (∃ r source, a.active = some r ∧ o = .error (.rejected r source)) ∨ o = .error .channelClosed
  placed : o = .ok () → ∃ r sdp, Placed a b r sdp
  /-- No message goes out but the offer of a call that was placed. -/
  said : o = .ok () ↔ ∃ x, b.outbox.sent = a.outbox.sent ++ [x]
  failed : a.state = .assigned → o ≠ .ok () →
    b.outbox = a.outbox ∧ ∃ cause, b.state = .failed cause

variable {a b : Agent} {r : String} {s : CallState} {f : Failure}

/-! ### The state -/

theorem state_of_unassigned (h : a.active = none) : a.state = a.phase := by
  unfold state
  rw [h]
  rfl

theorem state_of_active (h : a.active = some r) (hs : a.sessionState? r = some s) :
    a.state = s := by
  unfold state
  rw [h, Option.bind_some, hs]
  rfl

/-- The agent whose call with the active peer has failed. -/
theorem state_fail (h : a.active = some r) (ho : a.phase ≠ .closed) :
    (a.fail r f).state = .failed f.cause := by
  rw [state_of_unassigned ((active_fail a r f).trans (if_pos h)), phase_fail ho, if_pos h]

/-! ### The three cases -/

theorem startCall_of_unassigned (h : a.active = none) :
    a.startCall = (.error (if a.phase.isTerminal then .invalidState .startCall a.phase
      else .noRemoteAssigned), a) := by
  unfold startCall
  simp only [h]
  split <;> rfl

theorem startCall_of_negotiating (h : a.active = some r) (hs : a.sessionState? r = some s)
    (hn : s.isNegotiating = true) :
    a.startCall = (.error (.alreadyNegotiating r s), a) := by
  have hne : s ≠ .assigned := by
    rintro rfl
    exact absurd hn (by decide)
  unfold startCall
  simp only [h, hs, if_neg hne, if_pos hn]

/-- The call is placed when the offer has gone out and the session has been opened. -/
theorem Sound.placed (ha : a.Sound) (h : a.active = some r) {n i : Nat} {x : Session} {t : Scripted}
    {m : Message} (hb : a.startCall.2 = (a.said m).withLine r n i (x.start .offering a.now) t) :
    ∃ sdp, Placed a a.startCall.2 r sdp := by
  have hsent : a.startCall.2.outbox.sent = a.outbox.sent ++ [m] := by rw [hb]; rfl
  rcases (perform_utterance ha .startCall).sent with hnone | ⟨-, y, hy, hutters⟩
  · change a.startCall.2.outbox.sent = _ at hnone
    simp [hsent] at hnone
  · cases hutters with
    | @offer q sdp hq _ _ hdescribed =>
      obtain rfl : r = q := Option.some.inj (h.symm.trans hq)
      refine ⟨sdp, h, hy, hdescribed, ?_, ?_, ?_⟩
      · rw [hb]
        exact state_of_active h (sessionState?_withLine ..)
      · rw [hb, session?_withLine]
        rfl
      · rw [hb]
        rfl

/-- A call to an assigned peer is placed, or the negotiation fails. -/
theorem Sound.startCall_of_assigned (ha : a.Sound) (h : a.active = some r)
    (hs : a.sessionState? r = some .assigned) :
    (a.startCall.1 = .ok () ∧ ∃ sdp, Placed a a.startCall.2 r sdp) ∨
    ∃ f : Failure, f.Genuine r ∧ a.startCall.1 = .error f.error ∧
      a.startCall.2.outbox = a.outbox ∧ a.startCall.2.state = .failed f.cause := by
  obtain ⟨n, i, x, t, hh, -, hat⟩ := ha.lines.at_stage .blank hs
  have hopen := ha.posture.isOpen hh.lookup
  have hstart := startCall_eq h hs
  have hends := sendOffer_ends (b := a) (r := r) (h := n) hh.le hat.isOpen hh.number
  rw [hh.withLine_eq] at hends
  cases hy : a.sendOffer r with
  | error e =>
    obtain ⟨f, c⟩ := e
    rw [hy] at hends
    obtain ⟨⟨⟨R, P, rfl⟩, -⟩, hf⟩ := hends.confined
    rw [hstart, hy]
    exact .inr ⟨f, hf, rfl, outbox_fail _ r f, state_fail h hopen⟩
  | ok c =>
    have hdone : a.startCall = (.ok (), c) := by
      rw [hstart, hy]
      rfl
    rw [hy] at hends
    cases hends with
    | done => exact .inl ⟨congrArg Prod.fst hdone, ha.placed h (congrArg Prod.snd hdone)⟩

/-! ### Every state -/

/-- A wish that is refused changes nothing; the error has to fit the state. -/
theorem calling_refused {e : CallError} (hs : a.state ≠ .assigned)
    (hun : e = .noRemoteAssigned ↔ a.state = .idle ∨ a.state = .awaitingAssignment)
    (hbusy : ∀ r s, e = .alreadyNegotiating r s ↔
      a.active = some r ∧ s = a.state ∧ (s = .offering ∨ s = .answering ∨ s = .connected))
    (hpartner : a.state = .offering ∨ a.state = .answering ∨ a.state = .connected →
      a.active.isSome)
    (hterm : ∀ op s, e = .invalidState op s ↔
      op = .startCall ∧ s = a.state ∧ s.isTerminal = true)
    (hknown : ∀ r, e ≠ .unknownPeer r) : Calling a (.error e) a where
  unassigned := by simpa using hun
  busy := by simpa using hbusy
  partner := hpartner
  terminal := by simpa using hterm
  known := by simpa using hknown
  unchanged := fun _ => rfl
  assigned := fun h => absurd h hs
  placed := nofun
  said := by simp
  failed := fun h => absurd h hs

/-- An unassigned agent says that it has no peer, or that its calls are over. -/
theorem Sound.calling_of_unassigned (ha : a.Sound) (h : a.active = none) :
    Calling a a.startCall.1 a.startCall.2 := by
  have hphase := state_of_unassigned h
  have hstate : a.state = .idle ∨ a.state = .awaitingAssignment ∨ a.state.isTerminal = true := by
    have hstanding := ha.posture.standing
    rw [h, ← hphase] at hstanding
    generalize a.state = p at hstanding
    cases hstanding <;> simp [CallState.isTerminal]
  rw [startCall_of_unassigned h, ← hphase]
  by_cases hterm : a.state.isTerminal = true
  · rw [if_pos hterm]
    refine calling_refused ?_ ?_ ?_ ?_ ?_ ?_ <;> generalize a.state = x at hterm ⊢
    · rintro rfl
      cases hterm
    · refine ⟨fun he => (by cases he), ?_⟩
      rintro (rfl | rfl) <;> cases hterm
    · simp [h]
    · rintro (rfl | rfl | rfl) <;> cases hterm
    · intro op s
      simp only [CallError.invalidState.injEq]
      refine ⟨?_, ?_⟩
      · rintro ⟨rfl, rfl⟩
        exact ⟨rfl, rfl, hterm⟩
      · rintro ⟨rfl, rfl, -⟩
        exact ⟨rfl, rfl⟩
    · simp
  · have hwaits := hstate.imp_right fun hw => hw.resolve_right hterm
    rw [if_neg hterm]
    refine calling_refused ?_ ?_ ?_ ?_ ?_ ?_ <;> generalize a.state = x at hterm hwaits ⊢
    · rcases hwaits with rfl | rfl <;> simp
    · simpa using hwaits
    · simp [h]
    · rcases hwaits with rfl | rfl <;> simp
    · intro op s
      refine ⟨fun he => (by cases he), ?_⟩
      rintro ⟨-, rfl, hs⟩
      exact absurd hs hterm
    · simp

/-- Who negotiates already says so. -/
theorem calling_of_negotiating (h : a.active = some r)
    (hs : a.sessionState? r = some s) (hn : s.isNegotiating = true) :
    Calling a a.startCall.1 a.startCall.2 := by
  obtain rfl := state_of_active h hs
  have hbusy : a.state = .offering ∨ a.state = .answering ∨ a.state = .connected := by
    generalize a.state = x at hn
    cases x <;> simp [CallState.isNegotiating] at hn ⊢
  rw [startCall_of_negotiating h hs hn]
  refine calling_refused ?_ ?_ ?_ ?_ ?_ ?_ <;> generalize a.state = x at hbusy ⊢
  · rcases hbusy with rfl | rfl | rfl <;> simp
  · rcases hbusy with rfl | rfl | rfl <;> simp
  · refine fun q p => ⟨?_, ?_⟩
    · rintro ⟨⟩
      exact ⟨h, rfl, hbusy⟩
    · rintro ⟨hq, rfl, -⟩
      rw [Option.some.inj (h.symm.trans hq)]
  · simp [h]
  · intro op p
    refine ⟨nofun, ?_⟩
    rintro ⟨-, rfl, hterm⟩
    rcases hbusy with rfl | rfl | rfl <;> cases hterm
  · simp

/-- An agent that is assigned a peer does not refuse; what is left to show is how its call ended. -/
theorem calling_answered {o : Outcome} (hs : a.state = .assigned)
    (ho : o = .ok () ∨ (∃ r source, a.active = some r ∧ o = .error (.rejected r source)) ∨
      o = .error .channelClosed)
    (hplaced : o = .ok () → ∃ r sdp, Placed a b r sdp)
    (hfailed : o ≠ .ok () → b.outbox = a.outbox ∧ ∃ cause, b.state = .failed cause) :
    Calling a o b := by
  have hprotocol : ∀ e, o = .error e → e.isProtocol = false := by
    rintro e rfl
    rcases ho with ho | ⟨r, source, -, ho⟩ | ho <;> cases ho <;> rfl
  refine ⟨?_, fun r s => ?_, ?_, fun op s => ?_, ?_, ?_, fun _ => ho, hplaced, ?_,
    fun _ => hfailed⟩
  · rw [hs]
    exact ⟨fun h => absurd (hprotocol _ h) nofun, by simp⟩
  · rw [hs]
    refine ⟨fun h => absurd (hprotocol _ h) nofun, ?_⟩
    rintro ⟨-, rfl, hbusy⟩
    simp at hbusy
  · simp [hs]
  · rw [hs]
    refine ⟨fun h => absurd (hprotocol _ h) nofun, ?_⟩
    rintro ⟨-, rfl, hterm⟩
    cases hterm
  · exact fun r h => absurd (hprotocol _ h) nofun
  · exact fun h => absurd hs h
  · refine ⟨fun h => ?_, ?_⟩
    · obtain ⟨r, sdp, hb⟩ := hplaced h
      exact ⟨_, hb.sent⟩
    · rintro ⟨x, hx⟩
      by_cases hok : o = .ok ()
      · exact hok
      · rw [(hfailed hok).1] at hx
        simp at hx

theorem Sound.calling_of_assigned (ha : a.Sound) (h : a.active = some r)
    (hs : a.sessionState? r = some .assigned) : Calling a a.startCall.1 a.startCall.2 := by
  have hstate := state_of_active h hs
  rcases ha.startCall_of_assigned h hs with ⟨hok, sdp, hplaced⟩ | ⟨f, hf, herr, hout, hfailed⟩
  · exact calling_answered hstate (.inl hok) (fun _ => ⟨r, sdp, hplaced⟩) fun hne => absurd hok hne
  · refine calling_answered hstate (.inr ?_) (fun hok => ?_) fun _ => ⟨hout, f.cause, hfailed⟩
    · rw [herr]
      cases hf with
      | rejected source => exact .inl ⟨r, source, h, rfl⟩
      | channelLost => exact .inr rfl
    · rw [herr] at hok
      cases hok

/-- The answer to a wish to call depends on the state of the agent alone. -/
theorem Sound.calling (ha : a.Sound) : Calling a a.startCall.1 a.startCall.2 := by
  cases h : a.active with
  | none => exact ha.calling_of_unassigned h
  | some r =>
    obtain ⟨x, hx, hstate⟩ := ha.consistent.active r h
    have hs : a.sessionState? r = some x.state := by
      unfold sessionState?
      rw [hx, Option.map_some]
    rcases hstate with hassigned | hoffering | hconnected
    · exact ha.calling_of_assigned h (hassigned ▸ hs)
    · exact calling_of_negotiating h hs (by rw [hoffering]; rfl)
    · exact calling_of_negotiating h hs (by rw [hconnected]; rfl)

/-- After any moves whatever, the state that can be seen decides how a wish to call is answered and
what has been done then. -/
theorem calling_run (localId : String) (timeout : Option Nat) (tracks : List Track)
    (behaviour : Behaviour) (now : Nat) (history : List Move) :
    let a := (fresh localId timeout tracks (.fresh behaviour) now).run history
    Calling a (a.perform .startCall).1 (a.after .startCall) :=
  (sound_run localId timeout tracks behaviour now history).calling

end CallSignaling.Agent
