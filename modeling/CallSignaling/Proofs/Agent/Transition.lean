import CallSignaling.Proofs.Agent.Consistency
import CallSignaling.Proofs.Agent.Isolation
import CallSignaling.Proofs.Agent.Utterance

/-!
# Transition — how a session moves through its states

Main statement: `transition_run`.  `Transition` lists what one move can do to the state of the
session with one peer, and `Aims` what a move does to it that is carried out.  A session only
advances (`CallState.progress`), so it enters each state once; it is announced to the user when it
enters `assigned`, and it enters `connected` only when its transport has just taken the remote
description.
-/

namespace CallSignaling

/-- How far a session in this state has come. -/
def CallState.progress : CallState → Nat
  | .assigned => 1
  | .offering | .answering => 2
  | .connected => 3
  | _ => 0

namespace Agent

/-- What one move can do to the state of the session with a peer; `none` is no session. -/
inductive Transition (a : Agent) (r : String) :
    Move → Option CallState → Option CallState → Prop
  | same {m : Move} {x : Option CallState} : Transition a r m x x
  /-- A candidate of a peer that is not retired comes first. -/
  | enrol {c : String} : a.isRetired r = false →
    Transition a r (.candidate r c) none (some .idle)
  | assign {x : Option CallState} : x = none ∨ x = some .idle →
    Transition a r (.assigned r) x (some .assigned)
  | call : a.active = some r → Transition a r .startCall (some .assigned) (some .offering)
  | settle {sender : Option String} {sdp : String} :
    sender = some r ∨ sender = none ∧ a.active = some r →
    Transition a r (.answer sender sdp) (some .offering) (some .connected)
  | accept {x : Option CallState} {sdp : String} :
    x = none ∨ x = some .idle ∨ x = some .assigned →
    Transition a r (.offer r a.localId sdp) x (some .connected)
  | left {x : CallState} : Transition a r (.remoteLeft r) (some x) none
  /-- Another peer is assigned in its place. -/
  | replaced {q : String} {x : CallState} : q ≠ r → a.active = some r →
    Transition a r (.assigned q) (some x) none
  | hungUp {x : CallState} : Transition a r .hangUp (some x) none
  | lost {reason : Option String} {x : CallState} :
    Transition a r (.channelLost reason) (some x) none
  | expired {time : Nat} : Transition a r (.expire time) (some .offering) none
  /-- An operation on the peer has failed, and not because it did not fit the state. -/
  | failed {m : Move} {e : CallError} {x : CallState} : a.subject? m = some r →
    (a.perform m).1 = .error e → e.isProtocol = false → Transition a r m (some x) none

variable {a b c : Agent} {r q : String} {m : Move} {l : Option Line} {L : Line} {x y : CallState}

/-! ### A session that stays or is made -/

/-- A candidate makes a session only for a peer that is not retired. -/
theorem Deed.enrolled {z : Outcome × Agent} {d : String} (hz : Deed a (.candidate r d) z)
    (hn : a.session? r = none) (hs : z.2.session? r ≠ none) : a.isRetired r = false := by
  cases hz with
  | refused => exact absurd hn hs
  | failed hb => exact absurd hb.subject nofun
  | echoed => exact absurd hn hs
  | taken ht => exact ht.retired hn

theorem Opens.state {h : Nat} {s : Session} {t : Scripted} (ho : Opens a r l ⟨h, s, some t⟩) :
    l = none ∧ s.state = .idle ∨ (∃ K, l = some K ∧ K.session.state = s.state) ∧
      (s.state = .idle ∨ s.state = .assigned) := by
  cases ho with
  | new => exact .inl ⟨rfl, rfl⟩
  | bind hs => exact .inr ⟨⟨_, rfl, rfl⟩, .inl hs⟩
  | bound hs => exact .inr ⟨⟨_, rfl, rfl⟩, .inr hs⟩

/-- The state of a line that a move changes. -/
theorem LineChange.transition (hc : LineChange a r m l L) (hl : a.line? r = l) (ha : a.Posture)
    (hret : ∀ d, m = .candidate r d → l = none → a.isRetired r = false) :
    Transition a r m (l.map fun K => K.session.state) (some L.session.state) := by
  cases hc with
  | @enrol h d => exact .enrol (hret d rfl rfl)
  | wait => exact .same
  | pass => exact .same
  | assign ho hs =>
    refine .assign ?_
    rcases ho.state with ⟨rfl, -⟩ | ⟨⟨K, rfl, hK⟩, -⟩
    · exact .inl rfl
    · exact .inr (congrArg some (hK.trans hs))
  | furnish => exact .same
  | @offer h s t hs =>
    have hst : a.sessionState? r = some s.state := by
      rw [sessionState?_eq_line?, hl]
      rfl
    rw [Option.map_some, hs]
    exact .call (ha.solo r _ hst (.inl hs))
  | @settle h s t sender sdp hr hs =>
    rw [Option.map_some, hs]
    refine .settle ?_
    cases sender with
    | none => exact .inr ⟨rfl, hr⟩
    | some p => exact .inl hr
  | accept ho =>
    refine .accept ?_
    rcases ho.state with ⟨rfl, -⟩ | ⟨⟨K, rfl, hK⟩, hs⟩
    · exact .inl rfl
    · rw [Option.map_some, hK]
      exact .inr (hs.imp (congrArg some) (congrArg some))

/-! ### A session that is taken out -/

theorem lookup?_fails (late : List (String × Nat)) (a : Agent) (q : String) :
    (late.foldl (fun a (r, t) => a.fail r (.timedOut r t)) a).registry.lookup? q =
      if q ∈ late.map Prod.fst then none else a.registry.lookup? q := by
  induction late generalizing a with
  | nil => simp
  | cons e late ih =>
    obtain ⟨r, t⟩ := e
    rw [List.foldl_cons, ih, lookup?_fail, List.map_cons]
    by_cases hq : q = r
    · simp [hq]
    · simp only [List.mem_cons, hq, false_or, if_false]

/-- Only a session that offers is overdue between two moves. -/
theorem Sound.state_of_stalled (ha : a.Sound) {timeout now : Nat}
    (hr : r ∈ (a.stalled timeout now).map Prod.fst) : a.sessionState? r = some .offering := by
  obtain ⟨⟨p, t⟩, hm, rfl⟩ := List.mem_map.mp hr
  obtain ⟨s, hs, hover⟩ := mem_stalled_iff.mp hm
  have hstate : s.state = .offering ∨ s.state = .answering := by
    unfold overdue? at hover
    split at hover
    next h => exact h
    next => cases hover
  rw [sessionState?, hs]
  rcases hstate with h | h
  · exact congrArg some h
  · rcases (ha.inOrder hs).state with h' | h' | h' | h' <;> simp [h'] at h

/-- Why the session with a peer is there no more, after a move about this peer or about none. -/
theorem Deed.removed {z : Outcome × Agent} (hz : Deed a m z) (ha : a.Sound)
    (hout : (a.perform m).1 = z.1) (hself : ∀ p, a.concerned? m = some p → p = r)
    (hx : a.sessionState? r = some x) (hgone : z.2.registry.lookup? r = none) :
    Transition a r m (some x) none := by
  have hhere : a.registry.lookup? r ≠ none := fun h => by
    rw [sessionState?_eq_none_iff.mpr h] at hx
    cases hx
  have hput : ∀ (R : Registry) e, (R.put r e).lookup? r ≠ none := fun R e => by simp
  cases hz with
  | refused => exact absurd hgone hhere
  | failed hb hc =>
    obtain rfl := hself _ (concerned?_of_subject? hb.subject)
    exact .failed hb.subject hout hc.genuine.not_isProtocol
  | echoed => exact absurd ((echoes a m).registry ▸ hgone) hhere
  | unannounced => exact absurd hgone hhere
  | announced => exact absurd hgone hhere
  | @reassigned p _ hb =>
    obtain rfl := hself _ (concerned?_of_subject? hb.subject)
    exact absurd ((lookup?_depart a p).symm.trans hgone) hhere
  | assigned hb | called hb | settled hb | furnished hb =>
    obtain rfl := hself _ (concerned?_of_subject? hb.subject)
    exact absurd hgone (hput _ _)
  | @answered p _ _ _ _ _ _ _ c hb _ _ _ hc =>
    obtain rfl := hself _ (concerned?_of_subject? hb.subject)
    have hnone : c.registry.lookup? p = none := by
      rw [← registry_adopt p c]
      exact hgone
    rw [hc] at hnone
    exact absurd hnone (hput _ _)
  | @taken p _ _ ht =>
    obtain rfl := hself p rfl
    obtain ⟨L, hL, -⟩ := ht.line
    exact absurd ((lookup_of_line? hL).1.symm.trans hgone) nofun
  | @left p =>
    obtain rfl := hself p rfl
    exact .left
  | relayed => exact absurd hgone hhere
  | hungUp => exact .hungUp
  | lost => exact .lost
  | @expired time timeout =>
    have hlook := lookup?_fails (a.stalled timeout time) a r
    by_cases hr : r ∈ (a.stalled timeout time).map Prod.fst
    · obtain rfl : CallState.offering = x :=
        Option.some.inj ((ha.state_of_stalled hr).symm.trans hx)
      exact .expired
    · rw [if_neg hr] at hlook
      exact absurd (hlook.symm.trans hgone) hhere

/-- Why the session with a peer is there no more. -/
theorem Sound.removed (ha : a.Sound) (hx : a.sessionState? r = some x)
    (hgone : (a.after m).registry.lookup? r = none) : Transition a r m (some x) none := by
  have hdeed := perform_deed ha m
  by_cases hother : ∃ p, a.concerned? m = some p ∧ p ≠ r
  · -- a session that the move is not about can only have been replaced
    obtain ⟨p, hp, hne⟩ := hother
    by_cases hact : m = .assigned p ∧ a.active = some r
    · obtain ⟨rfl, hact⟩ := hact
      exact .replaced hne hact
    · have hspared := hdeed.spared hp (Ne.symm hne) fun hm h => hact ⟨hm, h⟩
      have hnone := sessionState?_eq_none_iff.mpr (hspared.lookup.symm.trans hgone)
      rw [hnone] at hx
      cases hx
  · refine hdeed.removed ha rfl (fun p hp => ?_) hx hgone
    exact Classical.byContradiction fun hne => hother ⟨p, hp, hne⟩

/-- What a move does to the state of the session with a peer. -/
theorem Sound.transition (ha : a.Sound) (m : Move) (r : String) :
    Transition a r m (a.sessionState? r) ((a.after m).sessionState? r) := by
  cases hL : (a.after m).line? r with
  | some L =>
    have hnew : (a.after m).sessionState? r = some L.session.state := by
      rw [sessionState?_eq_line?, hL]
      rfl
    rw [hnew, sessionState?_eq_line?]
    rcases (perform_turn ha m).effect.line r L hL with hsame | hc
    · rw [hsame]
      exact .same
    · refine hc.transition rfl ha.posture fun d hm hn => ?_
      subst hm
      refine (perform_deed ha _).enrolled (d := d) ?_ ?_
      · rw [session?_eq_line?, hn]
        rfl
      · show (a.after (.candidate r d)).session? r ≠ none
        rw [session?_eq_line?, hL]
        simp
  | none =>
    have hgone := line?_eq_none_iff.mp hL
    rw [sessionState?_eq_none_iff.mpr hgone]
    cases hx : a.sessionState? r with
    | none => exact .same
    | some x => exact ha.removed hx hgone

/-! ### Moves that are carried out -/

/-- What a move that is carried out makes of the session with a peer. -/
inductive Aims (a : Agent) (r : String) : Move → Option CallState → Prop
  | enrol {c : String} : a.session? r = none → a.isRetired r = false →
    Aims a r (.candidate r c) (some .idle)
  | assign : a.sessionState? r = none ∨ a.sessionState? r = some .idle →
    Aims a r (.assigned r) (some .assigned)
  | call : a.active = some r → Aims a r .startCall (some .offering)
  | settle {sender : Option String} {sdp : String} : sender.or a.active = some r →
    Aims a r (.answer sender sdp) (some .connected)
  | accept {recipient sdp : String} : Aims a r (.offer r recipient sdp) (some .connected)
  | left : r ≠ a.localId → Aims a r (.remoteLeft r) none
  | replaced {q : String} : q ≠ r → a.active = some r → Aims a r (.assigned q) none
  | hungUp : Aims a r .hangUp none
  | lost {reason : Option String} : Aims a r (.channelLost reason) none
  | expired {time timeout : Nat} : a.timeout = some timeout →
    r ∈ (a.stalled timeout time).map Prod.fst → Aims a r (.expire time) none

/-- A move that is carried out has its effect. -/
theorem Deed.attains {y : Option CallState} (hb : Deed a m (.ok (), b)) (ha : a.Sound)
    (hmove : Transition a r m (a.sessionState? r) (b.sessionState? r)) (hy : Aims a r m y) :
    b.sessionState? r = y := by
  have hclosed : a.phase = .closed → a.sessionState? r = none := fun hp => ha.posture.closed hp r
  cases hy with
  | enrol hn hret =>
    cases hb with
    | echoed hp => cases hret.symm.trans hp.2
    | taken ht =>
      obtain ⟨x, hx⟩ := session?_isSome_iff.mp ht.session
      have hold : a.sessionState? r = none := by rw [sessionState?, hn]; rfl
      rw [hold, hx] at hmove
      cases hmove
      exact hx
  | assign hx =>
    cases hb with
    | echoed hp => exact hp.elim
    | reassigned _ hs hne =>
      rw [hs] at hx
      exact absurd hx (by simpa using hne)
    | @assigned _ b h id s t =>
      exact sessionState?_withLine b r h id ((s.enter .assigned).given a.tracks) t
  | call hact =>
    cases hb with
    | echoed hp => exact hp.elim
    | @called p h id s t hset =>
      obtain rfl : p = r := Option.some.inj (hset.subject.symm.trans hact)
      exact sessionState?_withLine ..
  | settle hr =>
    cases hb with
    | echoed hp => exact hp.elim
    | @settled _ _ p _ _ _ _ hset =>
      obtain rfl : p = r := Option.some.inj (hset.subject.symm.trans hr)
      exact sessionState?_withLine ..
  | accept =>
    cases hb with
    | echoed hp => exact hp.elim
    | answered _ _ _ _ hc =>
      rw [sessionState?_adopt, hc]
      exact sessionState?_withLine ..
  | left hr =>
    cases hb with
    | echoed hp => exact absurd hp hr
    | left =>
      exact sessionState?_eq_none_iff.mpr ((lookup?_closeSession a r r).trans (if_pos rfl))
  | replaced hq hact =>
    cases hb with
    | echoed hp => exact hp.elim
    | reassigned hset =>
      exact sessionState?_eq_none_iff.mpr (hset.previous r (Ne.symm hq) rfl hact)
    | assigned hset =>
      have hgone := hset.previous r (Ne.symm hq) rfl hact
      exact sessionState?_eq_none_iff.mpr
        ((Registry.lookup?_put ..).trans ((if_neg (Ne.symm hq)).trans hgone))
  | hungUp =>
    cases hb with
    | echoed hp => exact hclosed hp
    | hungUp => exact sessionState?_eq_none_iff.mpr rfl
  | lost =>
    cases hb with
    | echoed hp => exact hclosed hp
    | lost => exact sessionState?_eq_none_iff.mpr rfl
  | expired hto hr =>
    cases hb with
    | echoed hp => cases hto.symm.trans hp
    | expired ht =>
      obtain rfl := Option.some.inj (ht.symm.trans hto)
      exact sessionState?_eq_none_iff.mpr ((lookup?_fails _ a r).trans (if_pos hr))

/-- An operation that fails, and not because it did not fit the state, takes its session out. -/
theorem Deed.torn {e : CallError} (hb : Deed a m (.error e, b)) (hr : a.subject? m = some r)
    (he : e.isProtocol = false) : b.session? r = none := by
  cases hb with
  | refused hp => cases he.symm.trans hp
  | @failed _ p f d c hset =>
    obtain rfl : p = r := Option.some.inj (hset.subject.symm.trans hr)
    exact (session?_fail c p f p).trans (if_pos rfl)
  | unannounced => cases hr

/-! ### A session advances -/

/-- A session that changes its state and stays has come further. -/
theorem Transition.progress_lt (h : Transition a r m (some x) (some y)) (hne : x ≠ y) :
    x.progress < y.progress := by
  cases h with
  | same => exact absurd rfl hne
  | assign hx =>
    obtain rfl : x = .idle := by simpa using hx
    decide
  | call => decide
  | settle => decide
  | accept hx =>
    obtain rfl | rfl : x = .idle ∨ x = .assigned := by simpa using hx
    · decide
    · decide

theorem Transition.progress_le (h : Transition a r m (some x) (some y)) :
    x.progress ≤ y.progress := by
  by_cases hne : x = y
  · exact Nat.le_of_eq (congrArg CallState.progress hne)
  · exact Nat.le_of_lt (h.progress_lt hne)

/-- While its session stays a peer does not fall back. -/
theorem Sound.progress_run (ha : a.Sound) (later : List Move) (hx : a.sessionState? r = some x)
    (hstay : ∀ p, p <+: later → (a.run p).session? r ≠ none) :
    ∃ y, (a.run later).sessionState? r = some y ∧ x.progress ≤ y.progress := by
  induction later generalizing a x with
  | nil => exact ⟨x, hx, Nat.le_refl _⟩
  | cons m later ih =>
    have hnext : (a.after m).session? r ≠ none := hstay [m] (by simp)
    obtain ⟨y, hy⟩ := session?_isSome_iff.mp (Option.isSome_iff_ne_none.mpr hnext)
    have hmove := ha.transition m r
    rw [hx, hy] at hmove
    obtain ⟨z, hz, hle⟩ := ih (ha.after m) hy fun p hp =>
      hstay (m :: p) (List.cons_prefix_cons.mpr ⟨rfl, hp⟩)
    exact ⟨z, hz, Nat.le_trans hmove.progress_le hle⟩

/-- A move brings the session with a peer into a state. -/
def Enters (a : Agent) (m : Move) (r : String) (x : CallState) : Prop :=
  a.sessionState? r ≠ some x ∧ (a.after m).sessionState? r = some x

/-- A session that has come as far as the state that it is to enter was taken out before. -/
theorem Sound.lapsed (ha : a.Sound) (hx : a.sessionState? r = some x) {mid : List Move}
    (hle : y.progress ≤ x.progress) (hy : Enters (a.run mid) m r y) :
    ∃ p, p <+: mid ∧ (a.run p).session? r = none := by
  refine Classical.byContradiction fun hstay => ?_
  obtain ⟨z, hz, hxz⟩ := ha.progress_run mid hx fun p hp hn => hstay ⟨p, hp, hn⟩
  have hmove := (ha.run mid).transition m r
  rw [hz, hy.2] at hmove
  have hlt := hmove.progress_lt fun h => hy.1 (h ▸ hz)
  omega

/-! ### Announcements -/

/-- A move tells the user of one assignment at most, and then a session has entered `assigned`. -/
theorem Deed.notices {z : Outcome × Agent} (hz : Deed a m z) :
    ∃ new, z.2.notices = a.notices ++ new ∧ ∀ q, .assigned q ∈ new →
      a.sessionState? q ≠ some .assigned ∧ z.2.sessionState? q = some .assigned := by
  have hquiet : ∀ b : Agent, b.notices = a.notices → ∃ new, b.notices = a.notices ++ new ∧
      ∀ q, .assigned q ∈ new →
        a.sessionState? q ≠ some .assigned ∧ b.sessionState? q = some .assigned :=
    fun b hb => ⟨[], by rw [hb, List.append_nil], nofun⟩
  cases hz with
  | refused => exact hquiet _ rfl
  | @failed m p f b c hb hc =>
    obtain ⟨⟨R, P, rfl⟩, -⟩ := hc.confined
    exact ⟨[.fatal f.error.message], (notices_fail ..).trans (congrArg (· ++ _) hb.notices),
      by simp⟩
  | echoed =>
    obtain ⟨new, hnew, hno⟩ := (echoes a m).notices
    exact ⟨new, hnew, fun q hq => absurd hq (hno q)⟩
  | unannounced => exact hquiet _ rfl
  | announced => exact hquiet _ rfl
  | reassigned hb => exact hquiet _ hb.notices
  | @assigned r b h id s t hb _ _ _ hold =>
    refine ⟨[.assigned r], congrArg (· ++ _) hb.notices, fun q hq => ?_⟩
    obtain rfl : q = r := by simpa using hq
    refine ⟨fun h => ?_,
      sessionState?_withLine b q h id ((s.enter .assigned).given a.tracks) t⟩
    rcases hold with hn | hi
    · simp [hn] at h
    · simp [hi] at h
  | called | settled => exact hquiet _ rfl
  | @answered r _ _ _ _ _ _ _ c _ _ _ _ hc =>
    refine hquiet _ ((notices_adopt r c).trans ?_)
    rw [hc]
    rfl
  | taken ht =>
    obtain ⟨⟨R, P, rfl⟩, -⟩ := ht.confined
    exact hquiet _ rfl
  | @left r => exact hquiet _ (notices_closeSession a r)
  | relayed | furnished => exact hquiet _ rfl
  | hungUp _ hb =>
    rcases hb with ⟨-, rfl⟩ | ⟨-, rfl⟩
    · exact hquiet _ rfl
    · exact hquiet _ rfl
  | lost => exact ⟨[_], rfl, by simp⟩
  | @expired time timeout =>
    obtain ⟨new, hnew, hno⟩ := fails_induct (a := a)
      (P := fun b => ∃ new, b.notices = a.notices ++ new ∧ ∀ q : String, .assigned q ∉ new)
      (fun b r f hb => by
        obtain ⟨new, hnew, hno⟩ := hb
        refine ⟨new ++ [.fatal f.error.message], ?_, by simpa using hno⟩
        rw [notices_fail, ← List.append_assoc, ← hnew])
      (a.stalled timeout time) ⟨[], by simp, by simp⟩
    exact ⟨new, hnew, fun q hq => absurd hq (hno q)⟩

/-- The move that brings a session into `assigned` tells the user so, and nothing else. -/
theorem Deed.announces {z : Outcome × Agent} (hz : Deed a (.assigned r) z)
    (hold : a.sessionState? r ≠ some .assigned) (hnew : z.2.sessionState? r = some .assigned) :
    z.2.notices = a.notices ++ [.assigned r] := by
  cases hz with
  | refused => exact absurd hnew hold
  | @failed _ p f b c hb =>
    obtain rfl := hb.eq_of_concerned? rfl
    simp [sessionState?_fail] at hnew
  | echoed hno => exact hno.elim
  | reassigned =>
    exact absurd ((sessionState?_congr (lookup?_depart a r)).symm.trans hnew) hold
  | assigned hb => exact congrArg (· ++ _) hb.notices

theorem Transition.assigned_of_enters {z : Option CallState}
    (h : Transition a r m z (some .assigned)) (hz : z ≠ some .assigned) : m = .assigned r := by
  cases h with
  | same => exact absurd rfl hz
  | assign => rfl

theorem Sound.announces (ha : a.Sound) (m : Move) : ∃ new, (a.after m).notices = a.notices ++ new ∧
    ∀ r, (.assigned r ∈ new → Enters a m r .assigned) ∧
      (Enters a m r .assigned → new = [.assigned r]) := by
  obtain ⟨new, hnew, hmem⟩ := (perform_deed ha m).notices
  refine ⟨new, hnew, fun r => ⟨hmem r, fun ⟨hold, henter⟩ => ?_⟩⟩
  have hmove := ha.transition m r
  rw [henter] at hmove
  obtain rfl := hmove.assigned_of_enters hold
  have hone : (a.after (.assigned r)).notices = a.notices ++ [.assigned r] :=
    (perform_deed ha _).announces hold henter
  exact List.append_cancel_left (hnew.symm.trans hone)

/-! ### Connected -/

/-- In a move from `a` to `b` the transport of the session with a peer has taken a remote
description. -/
def TakesRemote (a b : Agent) (r : String) : Prop :=
  ∃ i u sdp post, Makes a b r i u (.setRemote sdp :: post) ∧
    ((u.origin.replay (a.calls i)).setRemote sdp).1 = .ok ()

/-- A remote description that has come into the log of an open session was taken. -/
theorem Makes.takesRemote {i : Nat} {u : Scripted} {sdp : String} {post : List Call}
    (hb : b.Lines) (hm : Makes a b r i u (.setRemote sdp :: post)) : TakesRemote a b r := by
  obtain ⟨L, hL, hi⟩ := owns_iff.mp hm.owns
  obtain ⟨t, st, k, hh, hat⟩ := hb.holds (lookup_of_line? hL).1 hi
  obtain rfl : t = u := Option.some.inj (hh.transport.symm.trans hm.transport)
  refine ⟨i, t, sdp, post, hm, Scripted.setRemote_ok (fun hx => hat.not_mem_close ?_) ?_⟩
  · rw [hm.calls]
    exact List.mem_append_left _ hx
  · refine hat.accepted _ ?_ rfl
    rw [hm.calls]
    simp

theorem Transition.connected_of_enters {z : Option CallState}
    (h : Transition a r m z (some .connected)) (hz : z ≠ some .connected) :
    a.subject? m = some r ∧
      ((∃ sender sdp, m = .answer sender sdp) ∨ ∃ sdp, m = .offer r a.localId sdp) := by
  cases h with
  | same => exact absurd rfl hz
  | @settle sender sdp hr =>
    refine ⟨?_, .inl ⟨sender, sdp, rfl⟩⟩
    rcases hr with rfl | ⟨rfl, hact⟩
    · rfl
    · exact hact
  | accept => exact ⟨rfl, .inr ⟨_, rfl⟩⟩

theorem Deed.takesRemote {z : Outcome × Agent} (hz : Deed a m z) (ha : a.Lines) (hb : z.2.Lines)
    (hr : a.subject? m = some r)
    (hm : (∃ sender sdp, m = .answer sender sdp) ∨ ∃ sdp, m = .offer r a.localId sdp)
    (hold : a.sessionState? r ≠ some .connected) (hnew : z.2.sessionState? r = some .connected) :
    TakesRemote a z.2 r := by
  cases hz with
  | refused => exact absurd hnew hold
  | @failed _ p f b c hset =>
    obtain rfl : p = r := Option.some.inj (hset.subject.symm.trans hr)
    simp [sessionState?_fail] at hnew
  | echoed =>
    have hsame : (a.echo m).sessionState? r = a.sessionState? r :=
      sessionState?_congr (by rw [(echoes a m).registry])
    exact absurd (hsame.symm.trans hnew) hold
  | @settled _ _ p _ _ _ _ hset hh hat =>
    obtain rfl : p = r := Option.some.inj (hset.subject.symm.trans hr)
    exact (hh.makes_settled ha hat _).takesRemote hb
  | @answered p _ _ _ _ _ _ _ _ hset hask _ _ hc =>
    obtain rfl : p = r := Option.some.inj (hset.subject.symm.trans hr)
    exact (hask.makes_answered hc).takesRemote hb
  | _ => rcases hm with ⟨_, _, h⟩ | ⟨_, h⟩ <;> cases h

/-- The peers are connected only by an operation in which the transport has taken the description of
the other side. -/
theorem Sound.takesRemote (ha : a.Sound) (h : Enters a m r .connected) :
    TakesRemote a (a.after m) r := by
  have hmove := ha.transition m r
  rw [h.2] at hmove
  obtain ⟨hr, hm⟩ := hmove.connected_of_enters h.1
  exact (perform_deed ha m).takesRemote ha.lines (ha.after m).lines hr hm h.1 h.2

/-- The session with a peer moves through its states as documented, whatever moves were made. -/
structure Documented (a : Agent) : Prop where
  moves : ∀ m r, Transition a r m (a.sessionState? r) ((a.after m).sessionState? r)
  /-- The moves do happen. -/
  attained : ∀ m r y, (a.perform m).1 = .ok () → Aims a r m y → (a.after m).sessionState? r = y
  torn : ∀ m r e, a.subject? m = some r → (a.perform m).1 = .error e → e.isProtocol = false →
    (a.after m).session? r = none
  /-- A session that enters `assigned` is announced once, and there are no other announcements. -/
  announced : ∀ m, ∃ new, (a.after m).notices = a.notices ++ new ∧
    ∀ r, (.assigned r ∈ new → Enters a m r .assigned) ∧
      (Enters a m r .assigned → new = [.assigned r])
  described : ∀ m r, Enters a m r .connected → TakesRemote a (a.after m) r
  left : ∀ m r, a.sessionState? r = some .connected →
    (a.after m).sessionState? r = some .connected ∨ (a.after m).session? r = none
  /-- Between two entries into a state there was no session. -/
  once : ∀ r x m mid n, Enters a m r x → Enters ((a.after m).run mid) n r x →
    ∃ p, p <+: mid ∧ ((a.after m).run p).session? r = none

theorem Sound.documented (ha : a.Sound) : Documented a where
  moves := fun m r => ha.transition m r
  attained := fun m r _ hout hy => by
    have hdone : a.perform m = (.ok (), a.after m) := Prod.ext hout rfl
    exact Deed.attains (hdone ▸ perform_deed ha m) ha (ha.transition m r) hy
  torn := fun m _ e hr hout he => by
    have hfailed : a.perform m = (.error e, a.after m) := Prod.ext hout rfl
    exact Deed.torn (hfailed ▸ perform_deed ha m) hr he
  announced := ha.announces
  described := fun m r h => ha.takesRemote h
  left := fun m r h => by
    have hmove := ha.transition m r
    rw [h] at hmove
    cases hy : (a.after m).sessionState? r with
    | none => exact .inr (Option.map_eq_none_iff.mp hy)
    | some y =>
      rw [hy] at hmove
      refine .inl ?_
      by_cases hne : CallState.connected = y
      · rw [hne]
      · have hlt := hmove.progress_lt hne
        cases y <;> simp [CallState.progress] at hlt
  once := fun r x m mid n hm hn => (ha.after m).lapsed hm.2 (Nat.le_refl _) hn

/-- In every run the session with each peer makes the documented moves and no other ones: it is
announced once and connected once, after its transport took the remote description, and leaves that
state only when it is taken out. -/
theorem transition_run (localId : String) (timeout : Option Nat) (tracks : List Track)
    (behaviour : Behaviour) (now : Nat) (history : List Move) :
    Documented ((fresh localId timeout tracks (.fresh behaviour) now).run history) :=
  (sound_run localId timeout tracks behaviour now history).documented

/-- The peer that was called answers. -/
theorem transition_run_answer :
    let a := (fresh "a" none [] (.fresh {}) 0).run [.requestConnect, .assigned "b", .startCall]
    let b := a.after (.answer (some "b") "x")
    Enters a (.answer (some "b") "x") "b" .connected ∧ TakesRemote a b "b" := by
  intro a b
  have hall := transition_run "a" none [] {} 0 [.requestConnect, .assigned "b", .startCall]
  have hb : b.sessionState? "b" = some .connected := hall.attained _ "b" _ (by rfl) (.settle rfl)
  have henters : Enters a (.answer (some "b") "x") "b" .connected := ⟨by decide, hb⟩
  exact ⟨henters, hall.described _ "b" henters⟩

end Agent

end CallSignaling
