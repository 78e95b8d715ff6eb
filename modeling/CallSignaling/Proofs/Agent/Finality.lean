import CallSignaling.Proofs.Agent.Consistency
import CallSignaling.Proofs.Agent.Ownership

/-!
# Finality — the end of a client is final

Main statement: `closed_run`.  Once the client has hung up or has lost the channel, no further move
brings it back: only the tracks, the notices of streams and of server errors, and the surroundings
still change (`echo`).  Hanging up itself takes out every session and closes each of their
transports once, whether or not the farewell can be sent.
-/

namespace CallSignaling.Agent

variable {a b : Agent} {r : String} {m : Move} {i : Nat}

/-- No peer is assigned, and there is no session. -/
structure Vacant (a : Agent) : Prop where
  active : a.active = none
  lookup : ∀ r, a.registry.lookup? r = none

/-- An agent that has come to its end. -/
structure Ended (a : Agent) : Prop extends Vacant a where
  phase : a.phase = .closed

/-! ### Nothing but an echo -/

/-- The moves that need a session to do more than an echo. -/
def Move.needsSession : Move → Bool
  | .requestConnect | .assigned _ | .offer .. | .candidate .. | .hangUp | .channelLost _ => false
  | _ => true

/-- Without a session there is nothing to be done. -/
theorem Vacant.after (ha : a.Vacant) (hm : m.needsSession = true) : a.after m = a.echo m := by
  have hsession : ∀ r, a.session? r = none := fun r => by
    rw [session?_eq_line?, line?_eq_none_iff.mpr (ha.lookup r)]
    rfl
  have hstate : ∀ r, a.sessionState? r = none := fun r =>
    sessionState?_eq_none_iff.mpr (ha.lookup r)
  cases m with
  | startCall =>
    show a.startCall.2 = a
    unfold startCall
    rw [ha.active]
    show (if a.phase.isTerminal then _ else _ : Outcome × Agent).2 = a
    split <;> rfl
  | answer sender sdp =>
    show (a.answer sender sdp).2 = a
    unfold answer
    cases sender.or a.active with
    | none => rfl
    | some r => simp only [hstate]
  | remoteLeft r =>
    show (a.remoteLeft r).2 = a
    unfold remoteLeft
    rw [hsession r]
    split <;> rfl
  | localCandidate r c =>
    show (a.localCandidate r c).2 = a
    unfold localCandidate
    rw [hsession r, if_pos (.inr rfl)]
  | mediaReady ts =>
    show (a.mediaReady ts).2 = { a with tracks := ts }
    unfold mediaReady
    simp only [ha.active]
  | expire time =>
    show (a.expire time).2 = a
    unfold expire
    cases a.timeout with
    | none => rfl
    | some timeout => simp only [stalled_of_vacant ha.lookup, List.foldl_nil]
  | requestConnect | assigned | offer | candidate | hangUp | channelLost => cases hm
  | _ => rfl

/-- After its end an agent only echoes. -/
theorem Ended.after (ha : a.Ended) (m : Move) : a.after m = a.echo m := by
  cases m with
  | requestConnect =>
    show a.requestConnect.2 = a
    unfold requestConnect
    rw [if_pos (by simp [ha.phase])]
  | assigned r =>
    show (a.assigned r).2 = a
    unfold assigned
    rw [if_pos (by rw [ha.phase]; rfl)]
  | offer sender recipient sdp =>
    show (a.offer sender recipient sdp).2 = a
    unfold offer
    by_cases hrec : recipient = a.localId
    · rw [if_neg (by simp [hrec]), if_pos ha.phase]
    · rw [if_pos hrec]
  | candidate r c =>
    show (a.candidate r c).2 = a
    unfold candidate
    rw [if_pos ha.phase]
  | hangUp => exact if_pos ha.phase
  | channelLost reason => exact if_pos ha.phase
  | _ => exact ha.toVacant.after rfl

theorem Echoes.vacant (hb : Echoes a b) (ha : a.Vacant) : b.Vacant :=
  ⟨hb.active.trans ha.active, fun r => by rw [hb.registry, ha.lookup]⟩

theorem Echoes.ended (hb : Echoes a b) (ha : a.Ended) : b.Ended :=
  ⟨hb.vacant ha.toVacant, hb.phase.trans ha.phase⟩

theorem Ended.run (ha : a.Ended) (later : List Move) :
    a.run later = later.foldl echo a ∧ Echoes a (a.run later) := by
  induction later generalizing a with
  | nil => exact ⟨rfl, .refl a⟩
  | cons m later ih =>
    have hm := echoes a m
    obtain ⟨hrun, hlater⟩ := ih (hm.ended ha)
    have hfirst : a.run (m :: later) = (a.echo m).run later := by
      show (a.after m).run later = _
      rw [ha.after m]
    rw [hfirst]
    exact ⟨hrun, hm.trans hlater⟩

/-! ### Hanging up -/

theorem Posture.ended (ha : a.Posture) (hp : a.phase = .closed) : a.Ended where
  phase := hp
  active := by
    have hs := ha.standing
    rw [hp] at hs
    generalize a.active = x at hs
    cases hs
    rfl
  lookup := fun r => sessionState?_eq_none_iff.mp (ha.closed hp r)

theorem phase_hangUp (a : Agent) : a.hangUp.phase = .closed := by
  unfold hangUp
  by_cases hp : a.phase = .closed
  · rw [if_pos hp, hp]
  · rw [if_neg hp]

theorem phase_channelLost (a : Agent) (reason : Option String) :
    (a.channelLost reason).phase = .closed := by
  unfold channelLost
  by_cases hp : a.phase = .closed
  · rw [if_pos hp, hp]
  · rw [if_neg hp]
    rfl

theorem mem_bound_iff_owns : i ∈ a.bound ↔ ∃ r, a.Owns r i := by
  rw [mem_bound_iff]
  constructor
  · rintro ⟨r, e, hl, hi⟩
    exact ⟨r, owns_iff.mpr ⟨_, line?_of_lookup hl, hi⟩⟩
  · rintro ⟨r, ho⟩
    obtain ⟨L, hL, hi⟩ := owns_iff.mp ho
    exact ⟨r, _, (lookup_of_line? hL).1, hi⟩

/-- What hanging up makes of an agent: no session is left, the transport of each was closed now and
not before, and the farewell was said if that was possible. -/
structure Dissolved (a b : Agent) : Prop where
  phase : b.phase = .closed
  active : b.active = none
  vacant : b.registry.isEmpty = true
  closed : ∀ r i, a.Owns r i → ∃ t, a.transport? i = some t ∧ .close ∉ t.calls ∧
    b.transport? i = some t.close
  others : ∀ i, (∀ r, ¬ a.Owns r i) → b.transport? i = a.transport? i
  farewell : b.outbox.sent =
    a.outbox.sent ++ if a.outbox.isOpen then [.clientDisconnect a.localId] else []

theorem Sound.dissolved (ha : a.Sound) (ho : a.phase ≠ .closed) : Dissolved a a.hangUp := by
  obtain ⟨hpool, hsent⟩ : a.hangUp.pool = a.releaseAll.pool ∧ a.hangUp.outbox.sent =
      a.outbox.sent ++ if a.outbox.isOpen then [.clientDisconnect a.localId] else [] := by
    unfold hangUp
    rw [if_neg ho, send?_eq]
    cases a.outbox.isOpen with
    | true => exact ⟨rfl, rfl⟩
    | false => exact ⟨rfl, (List.append_nil _).symm⟩
  have htransport : ∀ i, a.hangUp.transport? i =
      if i ∈ a.bound then (a.transport? i).map Scripted.close else a.transport? i := fun i => by
    rw [← transport?_releaseAll ha.lines]
    unfold transport?
    rw [hpool]
  have hended := (perform_turn ha .hangUp).posture.ended (phase_hangUp a)
  refine ⟨hended.phase, hended.active, isEmpty_of_lookup hended.lookup, fun r i hi => ?_,
    fun i hi => ?_, hsent⟩
  · obtain ⟨t, ht, -⟩ := ha.lines.owns hi
    have hopen : .close ∉ t.calls := by
      rcases ha.lines.owned.disposed i t ht with ⟨-, hc, -⟩ | ⟨-, hno⟩
      · exact hc
      · exact absurd hi (hno r)
    refine ⟨t, ht, hopen, ?_⟩
    rw [htransport, if_pos (mem_bound_iff_owns.mpr ⟨r, hi⟩), ht]
    rfl
  · rw [htransport, if_neg]
    intro hm
    obtain ⟨r, hr⟩ := mem_bound_iff_owns.mp hm
    exact hi r hr

/-! ### What becomes of the phase -/

/-- The moves that bring an agent to its end. -/
def Move.ends : Move → Bool
  | .hangUp | .channelLost _ => true
  | _ => false

/-- A phase that a move to another phase leads to. -/
def Lands (m : Move) (p : CallState) : Prop := p ≠ .idle ∧ (m.ends = false → p ≠ .closed)

theorem fail_phase (a : Agent) (r : String) (f : Failure) :
    (a.fail r f).phase = a.phase ∨ (a.fail r f).phase = .failed f.cause := by
  rw [fail_eq]
  by_cases hact : a.active = some r
  · by_cases hp : a.phase = .closed <;> simp [hact, hp]
  · simp [hact]

/-- A move keeps the phase or leads to another one, which is never the first; only an end closes
the agent. -/
theorem Deed.phase {x : Outcome × Agent} (hx : Deed a m x) :
    x.2.phase = a.phase ∨ Lands m x.2.phase := by
  have hmoved : ∀ p : CallState, p ≠ .idle → p ≠ .closed → Lands m p := fun p hi hc =>
    ⟨hi, fun _ => hc⟩
  have hunless : ∀ p : CallState, p ≠ .idle → p ≠ .closed →
      (if a.phase.isTerminal then a.phase else p) = a.phase ∨
        Lands m (if a.phase.isTerminal then a.phase else p) := fun p hi hc => by
    split
    · exact .inl rfl
    · exact .inr (hmoved p hi hc)
  cases hx with
  | refused => exact .inl rfl
  | @failed m r f b c hb hc =>
    obtain ⟨⟨R, P, rfl⟩, -⟩ := hc.confined
    rcases fail_phase { b with registry := R, pool := P } r f with hsame | hfailed
    · exact .inl (hsame.trans hb.phase)
    · refine .inr ?_
      show Lands m (fail { b with registry := R, pool := P } r f).phase
      rw [hfailed]
      exact hmoved _ nofun nofun
  | echoed => exact .inl (echoes a m).phase
  | called | settled => exact .inl rfl
  | answered _ _ _ _ hc =>
    subst hc
    unfold adopt
    split
    · exact .inl rfl
    · exact hunless .assigned nofun nofun
  | taken ht =>
    obtain ⟨⟨R, P, rfl⟩, -⟩ := ht.confined
    exact .inl rfl
  | @left r =>
    by_cases hact : a.active = some r
    · simp only [if_pos hact]
      exact hunless .awaitingAssignment nofun nofun
    · exact .inl (if_neg hact)
  | relayed | furnished => exact .inl rfl
  | hungUp | lost => exact .inr ⟨nofun, nofun⟩
  | @expired time timeout =>
    refine fails_induct (P := fun b => b.phase = a.phase ∨ Lands (.expire time) b.phase)
      (fun b r f hb => ?_) _ (.inl rfl)
    rcases fail_phase b r f with hsame | hfailed
    · rwa [hsame]
    · rw [hfailed]
      exact .inr (hmoved _ nofun nofun)
  | _ => exact .inr (hmoved _ nofun nofun)

/-- There is no way back to the first phase. -/
theorem Deed.ne_idle {x : Outcome × Agent} (hx : Deed a m x) (ha : a.phase ≠ .idle) :
    x.2.phase ≠ .idle := by
  rcases hx.phase with hsame | hlands
  · rwa [hsame]
  · exact hlands.1

/-- Only an end closes an agent. -/
theorem Deed.ne_closed {x : Outcome × Agent} (hx : Deed a m x) (hm : m.ends = false)
    (ha : a.phase ≠ .closed) : x.2.phase ≠ .closed := by
  rcases hx.phase with hsame | hlands
  · rwa [hsame]
  · exact hlands.2 hm

theorem Sound.run_ne_idle (ha : a.Sound) (hp : a.phase ≠ .idle) (later : List Move) :
    (a.run later).phase ≠ .idle := by
  induction later generalizing a with
  | nil => exact hp
  | cons m later ih => exact ih (ha.after m) ((perform_deed ha m).ne_idle hp)

/-! ### The end -/

/-- What becomes of an agent that has ended, whatever is done to it. -/
structure Final (a : Agent) (later : List Move) : Prop where
  phase : (a.run later).phase = .closed
  active : (a.run later).active = none
  vacant : (a.run later).registry.isEmpty = true
  transports : (a.run later).pool.transports = a.pool.transports
  /-- No transport is called, be it one that takes calls. -/
  uncalled : ∀ p : Pool, (run { a with pool := p } later).pool.transports = p.transports
  unsaid : (a.run later).outbox.sent = a.outbox.sent
  echoes : a.run later = later.foldl echo a
  /-- Ending again does nothing. -/
  again : ∀ m, m = .hangUp ∨ (∃ reason, m = .channelLost reason) →
    (a.run later).perform m = (.ok (), a.run later)

theorem Ended.final (ha : a.Ended) (later : List Move) : Final a later := by
  obtain ⟨hrun, hsame⟩ := ha.run later
  have hend := hsame.ended ha
  refine ⟨hend.phase, hend.active, isEmpty_of_lookup hend.lookup, hsame.transports, fun p => ?_,
    hsame.sent, hrun, fun m hm => ?_⟩
  · have hp : Ended { a with pool := p } := ⟨⟨ha.active, ha.lookup⟩, ha.phase⟩
    exact (hp.run later).2.transports
  · rcases hm with rfl | ⟨reason, rfl⟩
    · exact congrArg (Prod.mk _) (if_pos hend.phase)
    · exact congrArg (Prod.mk _) (if_pos hend.phase)

/-- Whatever was done before, the client that hangs up or loses the channel is closed for good, and
a client that has left its first phase never comes back to it; hanging up takes every session out
and closes its transport once. -/
theorem closed_run (localId : String) (timeout : Option Nat) (tracks : List Track)
    (behaviour : Behaviour) (now : Nat) (history : List Move) :
    let a := (fresh localId timeout tracks (.fresh behaviour) now).run history
    (∀ m, m = .hangUp ∨ (∃ reason, m = .channelLost reason) →
      ∀ later, Final (a.after m) later) ∧
    (a.phase ≠ .idle → ∀ later, (a.run later).phase ≠ .idle) ∧
    (a.phase ≠ .closed → Dissolved a (a.after .hangUp)) := by
  intro a
  have ha : a.Sound := sound_run localId timeout tracks behaviour now history
  refine ⟨fun m hm later => ?_, ha.run_ne_idle, ha.dissolved⟩
  have hclosed : (a.after m).phase = .closed := by
    rcases hm with rfl | ⟨reason, rfl⟩
    · exact phase_hangUp a
    · exact phase_channelLost a reason
  exact ((ha.after m).posture.ended hclosed).final later

/-- A client that can no longer send hangs up in the middle of a call, and is called once more. -/
theorem closed_run_hangUp :
    let a := (fresh "a" none [] (.fresh {}) 0).run
      [.requestConnect, .assigned "b", .startCall, .mute]
    Dissolved a (a.after .hangUp) ∧ (∀ later, (a.run later).phase ≠ .idle) ∧
      Final (a.after .hangUp) [.assigned "c", .offer "b" "a" "x", .hangUp] := by
  intro a
  obtain ⟨hfinal, hidle, hdissolved⟩ := closed_run "a" none [] {} 0
    [.requestConnect, .assigned "b", .startCall, .mute]
  exact ⟨hdissolved (by decide), hidle (by decide), hfinal .hangUp (.inl rfl) _⟩

end CallSignaling.Agent
