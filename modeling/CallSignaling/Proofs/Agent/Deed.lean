import CallSignaling.Proofs.Agent.Opening

/-!
# Deed — all that a move can do

`Deed` lists the ways a move of a sound agent can go, with the agent that each of them gives.
`Setting` says from which agent an operation on one peer works, which for an assignment is one that
has left the previous peer, `Breaks` how the operation comes to fail, and `Taken` what becomes of a
candidate that is not dropped.
-/

namespace CallSignaling.Agent

/-- The peer whose session an operation may tear down when it fails. -/
def subject? (a : Agent) : Move → Option String
  | .assigned r | .offer r _ _ | .localCandidate r _ => some r
  | .startCall | .mediaReady _ => a.active
  | .answer sender _ => sender.or a.active
  | _ => none

/-- The peer that a move is about. -/
def concerned? (a : Agent) : Move → Option String
  | .candidate r _ | .remoteLeft r => some r
  | m => a.subject? m

theorem concerned?_of_subject? {a : Agent} {m : Move} {r : String} (h : a.subject? m = some r) :
    a.concerned? m = some r := by
  cases m with
  | candidate => cases h
  | remoteLeft => cases h
  | _ => exact h

/-- The agent `b` with which an operation on a peer sets out; an assignment has taken out the
session with the previous peer by then. -/
structure Outset (a : Agent) (m : Move) (r : String) (b : Agent) : Prop where
  subject : a.subject? m = some r
  isOpen : b.phase ≠ .closed
  phase : b.phase = a.phase
  active : b.active = if m = .assigned r then some r else a.active
  notices : b.notices = a.notices
  outbox : b.outbox = a.outbox
  others : ∀ q, q ≠ r → (m = .assigned r → a.active ≠ some q) →
    b.registry.lookup? q = a.registry.lookup? q
  previous : ∀ q, q ≠ r → m = .assigned r → a.active = some q → b.registry.lookup? q = none

/-- An outset that says also who it is that sets out, and which peers are retired then. -/
structure Setting (a : Agent) (m : Move) (r : String) (b : Agent) : Prop extends
    Outset a m r b where
  localId : b.localId = a.localId
  retired : ∀ q, q ≠ r → (m = .assigned r → a.active ≠ some q) → b.isRetired q = a.isRetired q
  deserted : ∀ q, q ≠ r → m = .assigned r → a.active = some q → b.isRetired q = true

/-- What a move does that concerns no session. -/
def echo (a : Agent) : Move → Agent
  | .mediaReady tracks => { a with tracks }
  | .takeTracks => a.takeTracks.2
  | .remoteStream r stream => a.remoteStream r stream
  | .serverError code text => a.serverError code text
  | .advance nanoseconds => a.advance nanoseconds
  | .behave behaviour => a.behave behaviour
  | .mute => a.mute
  | _ => a

/-- When a move that fits the state concerns no session. -/
def Passive (a : Agent) : Move → Prop
  | .requestConnect | .assigned _ | .startCall | .answer .. | .offer .. => False
  | .candidate r _ => a.session? r = none ∧ a.isRetired r = true
  | .remoteLeft r => r = a.localId
  | .localCandidate r _ => a.session? r = none
  | .mediaReady _ => ∀ r, a.active = some r → a.sessionState? r ≠ some .assigned
  | .hangUp | .channelLost _ => a.phase = .closed
  | .expire _ => a.timeout = none
  | _ => True

/-- `b` is `a` as far as the call is concerned. -/
structure Echoes (a b : Agent) : Prop where
  localId : b.localId = a.localId
  phase : b.phase = a.phase
  active : b.active = a.active
  registry : b.registry = a.registry
  retired : b.retired = a.retired
  transports : b.pool.transports = a.pool.transports
  sent : b.outbox.sent = a.outbox.sent
  isOpen : b.outbox.isOpen = true → a.outbox.isOpen = true
  notices : ∃ new, b.notices = a.notices ++ new ∧ ∀ r, .assigned r ∉ new

theorem Echoes.refl (a : Agent) : Echoes a a :=
  ⟨rfl, rfl, rfl, rfl, rfl, rfl, rfl, id, [], by simp, by simp⟩

theorem Echoes.trans {a b c : Agent} (hb : Echoes a b) (hc : Echoes b c) : Echoes a c where
  localId := hc.localId.trans hb.localId
  phase := hc.phase.trans hb.phase
  active := hc.active.trans hb.active
  registry := hc.registry.trans hb.registry
  retired := hc.retired.trans hb.retired
  transports := hc.transports.trans hb.transports
  sent := hc.sent.trans hb.sent
  isOpen := fun h => hb.isOpen (hc.isOpen h)
  notices := by
    obtain ⟨new, hnew, hno⟩ := hb.notices
    obtain ⟨more, hmore, hno'⟩ := hc.notices
    refine ⟨new ++ more, by rw [hmore, hnew, List.append_assoc], fun r hm => ?_⟩
    rcases List.mem_append.mp hm with h | h
    · exact hno r h
    · exact hno' r h

theorem echoes (a : Agent) (m : Move) : Echoes a (a.echo m) := by
  have hsame := Echoes.refl a
  cases m with
  | remoteStream r stream => exact { hsame with notices := ⟨[.stream r stream], rfl, by simp⟩ }
  | serverError code text => exact { hsame with notices := ⟨[.fatal _], rfl, by simp⟩ }
  | mute => exact { hsame with isOpen := nofun }
  | _ => exact { hsame with }

/-- `b` is `a` with a session for a peer that calls, which has a transport to call. -/
structure Asked (a b : Agent) (r : String) (h id : Nat) (s : Session) (t : Scripted) : Prop extends
    Ready a b r h id s t where
  assign : (a.unretire r).assign r = b
  prepared : ∃ s₀, Prepared a b r h s₀ ∧ (s₀.state = .idle ∨ s₀.state = .assigned)

/-- How an operation of `b`, for which `a` has set out, comes to fail, with the agent as it stands
then. -/
inductive Breaks (a : Agent) (r : String) : Agent → Failure → Agent → Prop
  /-- A transport was needed, and its creation was refused. -/
  | setup {b : Agent} {h : Nat} {s : Session} {reason : String} : Prepared a b r h s → b.Aside r →
    (∀ L, a.line? r = some L → L.session.transport = none) →
    Breaks a r b (.rejected r (.setup reason)) b
  /-- A call was refused, or what the calls were made for could not be sent. -/
  | called {b : Agent} {f : Failure} {h id : Nat} {s : Session} {t u : Scripted} :
    Scene a b r h id t → s.transport = some id → Aborted a.tracks t u → f.Genuine r →
    (∀ q, f.error ≠ .rejected q .closed) → Breaks a r b f (b.withLine r h id s u)
  /-- A message that needs no call could not be sent. -/
  | unsent : a.Aside r → Breaks a r a .channelLost a

/-- What becomes of a candidate that is not dropped. -/
inductive Taken (a : Agent) (r c : String) : Agent → Prop
  | enrolled : a.phase ≠ .closed → a.registry.lookup? r = none → a.isRetired r = false →
    Taken a r c ((a.enrol r).update r (Session.push · c))
  | waits {h : Nat} {s : Session} : a.registry.lookup? r = some ⟨h, s⟩ →
    s.state.buffersCandidates = true → Taken a r c (a.update r (Session.push · c))
  | passed {h id : Nat} {s : Session} {t : Scripted} : a.Holds r h id s t → s.state = .connected →
    Taken a r c (a.withLine r h id s (t.afterCall (.addCandidate c)))

/-- The ways a move can go. -/
inductive Deed (a : Agent) : Move → Outcome × Agent → Prop
  /-- It does not fit the state. -/
  | refused {m : Move} {e : CallError} : e.isProtocol = true →
    (∀ r, m = .assigned r → acceptsAssignment a.phase = false) → Deed a m (.error e, a)
  /-- One of its steps fails, and the session it works on is torn down. -/
  | failed {m : Move} {r : String} {f : Failure} {b c : Agent} : Setting a m r b →
    Breaks (a.depart m) r b f c → Deed a m (.error f.error, c.fail r f)
  /-- It concerns no session. -/
  | echoed {m : Move} : a.Passive m → Deed a m (.ok (), a.echo m)
  | unannounced : a.phase = .idle → a.outbox.isOpen = false →
    Deed a .requestConnect (.error .channelClosed, { a with phase := .failed .channelLost })
  | announced : a.phase = .idle → a.outbox.isOpen = true →
    Deed a .requestConnect
      (.ok (), { a.said (.clientConnect a.localId) with phase := .awaitingAssignment })
  /-- The peer had a session in use. -/
  | reassigned {r : String} {x : CallState} :
    Setting a (.assigned r) r (a.depart (.assigned r)) → a.sessionState? r = some x → x ≠ .idle →
    Deed a (.assigned r) (.ok (), { a.depart (.assigned r) with phase := .assigned })
  | assigned {r : String} {b : Agent} {h id : Nat} {s : Session} {t : Scripted} :
    Setting a (.assigned r) r b → Ready (a.depart (.assigned r)) b r h id s t → s.state = .idle →
    t.refusedIn (s.handover a.tracks) = none →
    a.sessionState? r = none ∨ a.sessionState? r = some .idle →
    Deed a (.assigned r)
      (.ok (), notify { b.withLine r h id ((s.enter .assigned).given a.tracks)
          (t.replay (s.handover a.tracks)) with phase := .assigned } (.assigned r))
  | called {r : String} {h id : Nat} {s : Session} {t : Scripted} :
    Setting a .startCall r a → a.Holds r h id s t → t.At .blank s.tracksBound →
    t.refusedIn (a.offerCalls s t) = none → a.outbox.isOpen = true →
    a.sessionState? r = some .assigned →
    Deed a .startCall
      (.ok (), (a.said (.offer a.localId r (t.descriptionText "offer"))).withLine r h id
        ((s.given a.tracks).markLocal.start .offering a.now) (t.replay (a.offerCalls s t)))
  | settled {sender : Option String} {sdp r : String} {h id : Nat} {s : Session} {t : Scripted} :
    Setting a (.answer sender sdp) r a → a.Holds r h id s t → t.At .offering s.tracksBound →
    t.refusedIn [.setRemote sdp] = none → s.state = .offering →
    Deed a (.answer sender sdp)
      (.ok (), a.withLine r h id s.markRemote.connect
        ((t.replay [.setRemote sdp]).replay (s.pending.map .addCandidate)))
  | answered {r sdp : String} {R : Registry} {S : Roster Unit} {h id : Nat} {s : Session}
    {t : Scripted} {c : Agent} :
    Setting a (.offer r a.localId sdp) r { a with registry := R, retired := S } →
    Asked a { a with registry := R, retired := S } r h id s t →
    t.refusedIn (a.answerCalls s t sdp) = none → a.outbox.isOpen = true →
    c = (said { a with registry := R, retired := S }
        (.answer (some a.localId) (some r) (t.descriptionText "answer"))).withLine r h id
      (((s.start .answering a.now).markRemote.given a.tracks).markLocal.connect)
      ((t.replay (a.answerCalls s t sdp)).replay (s.pending.map .addCandidate)) →
    Deed a (.offer r a.localId sdp) (.ok (), adopt r c)
  /-- A candidate waits or is passed on. -/
  | taken {r c : String} {b : Agent} : Taken a r c b → Deed a (.candidate r c) (.ok (), b)
  | left {r : String} : (a.session? r).isSome →
    Deed a (.remoteLeft r)
      (.ok (), { a.closeSession r with
        active := if a.active = some r then none else a.active
        phase :=
          if a.active = some r then (if a.phase.isTerminal then a.phase else .awaitingAssignment)
          else a.phase })
  | relayed {r c : String} : (a.session? r).isSome → a.outbox.isOpen = true →
    Deed a (.localCandidate r c) (.ok (), a.said (.iceCandidate a.localId r c))
  /-- The tracks reach the transport of a session that waits for its call. -/
  | furnished {ts : List Track} {r : String} {h id : Nat} {s : Session} {t : Scripted} :
    Setting a (.mediaReady ts) r { a with tracks := ts } → a.Holds r h id s t →
    s.state = .assigned → t.refusedIn (s.handover ts) = none →
    Deed a (.mediaReady ts)
      (.ok (), ({ a with tracks := ts } : Agent).withLine r h id (s.given ts)
        (t.replay (s.handover ts)))
  /-- The farewell is said if that is possible. -/
  | hungUp {b : Agent} : a.phase ≠ .closed →
    a.outbox.isOpen = true ∧ b = a.said (.clientDisconnect a.localId) ∨
      a.outbox.isOpen = false ∧ b = a →
    Deed a .hangUp (.ok (), { b.releaseAll with active := none, phase := .closed })
  | lost {reason : Option String} : a.phase ≠ .closed →
    Deed a (.channelLost reason)
      (.ok (), notify { a.releaseAll with active := none, phase := .closed }
        (.fatal (channelClosedText reason)))
  | expired {time timeout : Nat} : a.timeout = some timeout →
    Deed a (.expire time)
      (.ok (), (a.stalled timeout time).foldl (fun a (r, t) => a.fail r (.timedOut r t)) a)

variable {a b c : Agent} {r q : String} {m : Move} {h : Nat} {s : Session}

/-! ### Settings -/

/-- An operation that sets out at once. -/
theorem setting_self (hs : a.subject? m = some r) (ho : a.phase ≠ .closed)
    (hm : m ≠ .assigned r) : Setting a m r a where
  subject := hs
  isOpen := ho
  phase := rfl
  active := by rw [if_neg hm]
  notices := rfl
  outbox := rfl
  others := fun _ _ _ => rfl
  previous := fun _ _ h => absurd h hm
  localId := rfl
  retired := fun _ _ _ => rfl
  deserted := fun _ _ h => absurd h hm

/-- An operation that first makes sure of a session. -/
theorem Prepared.setting (hp : Prepared a b r h s) (hs : a.subject? m = some r)
    (ho : a.phase ≠ .closed) (hm : m ≠ .assigned r) : Setting a m r b := by
  have hbase := hp.base
  obtain ⟨R, S, rfl⟩ : ∃ R S, b = { a with registry := R, retired := S } := ⟨_, _, hp.frame⟩
  exact
    { subject := hs
      isOpen := ho
      phase := rfl
      active := by rw [if_neg hm]
      notices := rfl
      outbox := rfl
      others := fun q hq _ => hbase.lookup q hq
      previous := fun _ _ h => absurd h hm
      localId := rfl
      retired := fun q hq _ => hbase.retired q hq
      deserted := fun _ _ h => absurd h hm }

theorem lookup?_leavePrevious (a : Agent) (r q : String) :
    (a.leavePrevious r).registry.lookup? q =
      if a.active = some q ∧ q ≠ r then none else a.registry.lookup? q := by
  unfold leavePrevious
  cases hact : a.active with
  | none => simp
  | some p =>
    by_cases hp : p = r
    · subst hp
      by_cases hq : q = p <;> simp [hq, eq_comm]
    · simp only [ne_eq, hp, not_false_eq_true, if_true, lookup?_closeSession, Option.some.injEq]
      by_cases hq : q = p
      · subst hq
        simp [hp]
      · rw [if_neg hq, if_neg fun h => hq h.1.symm]

theorem isRetired_leavePrevious (a : Agent) (r q : String) :
    (a.leavePrevious r).isRetired q =
      if a.active = some q ∧ q ≠ r then true else a.isRetired q := by
  unfold leavePrevious
  cases hact : a.active with
  | none => simp
  | some p =>
    by_cases hp : p = r
    · subst hp
      by_cases hq : q = p <;> simp [hq, eq_comm]
    · simp only [ne_eq, hp, not_false_eq_true, if_true, isRetired_closeSession, Option.some.injEq]
      by_cases hq : q = p
      · subst hq
        simp [hp]
      · rw [if_neg hq, if_neg fun h => hq h.1.symm]

/-- What leaving the previous peer leaves as it is. -/
theorem leavePrevious_frame (a : Agent) (r : String) :
    (a.leavePrevious r).phase = a.phase ∧ (a.leavePrevious r).notices = a.notices ∧
      (a.leavePrevious r).outbox = a.outbox ∧ (a.leavePrevious r).localId = a.localId := by
  unfold leavePrevious
  split
  · split
    · simp
    · exact ⟨rfl, rfl, rfl, rfl⟩
  · exact ⟨rfl, rfl, rfl, rfl⟩

/-- An assignment takes the session of the previous peer out, and no other one. -/
theorem assigned_setting (ho : a.phase ≠ .closed)
    (hp : Prepared (a.depart (.assigned r)) b r h s) : Setting a (.assigned r) r b := by
  have hbase := hp.base
  obtain ⟨R, S, rfl⟩ : ∃ R S, b =
    { a.leavePrevious r with active := some r, registry := R, retired := S } := ⟨_, _, hp.frame⟩
  have hlook := lookup?_leavePrevious a r
  have hret := isRetired_leavePrevious a r
  obtain ⟨hphase, hnotices, hout, hid⟩ := leavePrevious_frame a r
  exact
    { subject := rfl
      isOpen := fun hc => ho (hphase.symm.trans hc)
      phase := hphase
      active := by rw [if_pos rfl]
      notices := hnotices
      outbox := hout
      others := fun q hq hact => by
        rw [hbase.lookup q hq]
        exact (hlook q).trans (if_neg fun h => hact rfl h.1)
      previous := fun q hq _ hact => by
        rw [hbase.lookup q hq]
        exact (hlook q).trans (if_pos ⟨hact, hq⟩)
      localId := hid
      retired := fun q hq hact => by
        rw [hbase.retired q hq]
        exact (hret q).trans (if_neg fun h => hact rfl h.1)
      deserted := fun q hq _ hact => by
        rw [hbase.retired q hq]
        exact (hret q).trans (if_pos ⟨hact, hq⟩) }

/-- Leaving the previous peer leaves the one that is assigned alone. -/
theorem lookup?_depart (a : Agent) (r : String) :
    (a.depart (.assigned r)).registry.lookup? r = a.registry.lookup? r :=
  (lookup?_leavePrevious a r r).trans (if_neg fun h => h.2 rfl)

/-! ### Failures -/

/-- What failures keep holds after any number of them. -/
theorem fails_induct {P : Agent → Prop} (hstep : ∀ a r f, P a → P (a.fail r f))
    (late : List (String × Nat)) (ha : P a) :
    P (late.foldl (fun a (r, t) => a.fail r (.timedOut r t)) a) := by
  induction late generalizing a with
  | nil => exact ha
  | cons e late ih => exact ih (hstep a e.1 (.timedOut e.1 e.2) ha)

namespace Breaks

variable {f : Failure}

theorem confined (hb : Breaks a r b f c) : Confined b c r := by
  cases hb with
  | setup | unsent => exact .refl _ r
  | called => exact withLine_confined ..

theorem genuine (hb : Breaks a r b f c) : f.Genuine r := by
  cases hb with
  | setup => exact .rejected _
  | called _ _ _ hf => exact hf
  | unsent => exact .channelLost

end Breaks

/-! ### Candidates -/

namespace Taken

variable {d : String}

theorem confined (ht : Taken a r d b) : Confined a b r := by
  cases ht with
  | enrolled =>
    have hlook : (a.enrol r).registry.lookup? r = some ⟨a.registry.issued, Session.fresh r⟩ := by
      rw [lookup?_enrol, if_pos rfl]
    refine ⟨⟨_, _, rfl⟩, fun q hq => ?_⟩
    rw [lookup?_update hlook, if_neg hq, lookup?_enrol, if_neg hq]
  | waits hl => exact ⟨⟨_, _, rfl⟩, fun q hq => (lookup?_update hl _ q).trans (if_neg hq)⟩
  | passed => exact withLine_confined ..

/-- The peer has a line then, which the candidate has changed. -/
theorem line (ht : Taken a r d b) :
    ∃ L, b.line? r = some L ∧ LineChange a r (.candidate r d) (a.line? r) L := by
  cases ht with
  | enrolled _ hl =>
    have hlook : (a.enrol r).registry.lookup? r = some ⟨a.registry.issued, Session.fresh r⟩ := by
      rw [lookup?_enrol, if_pos rfl]
    rw [line?_eq_none_iff.mpr hl]
    exact ⟨_, line?_update hlook (Session.push · d), .enrol⟩
  | waits hl hs =>
    rw [line?_of_lookup hl]
    exact ⟨_, line?_update hl (Session.push · d), .wait hs⟩
  | passed hh hs =>
    rw [hh.line?]
    exact ⟨_, line?_withLine hh.le hh.number, .pass hs⟩

theorem session (ht : Taken a r d b) : (b.session? r).isSome := by
  obtain ⟨L, hL, -⟩ := ht.line
  rw [session?_eq_line?, hL]
  rfl

/-- A peer that was torn down gets no session by a candidate. -/
theorem retired (ht : Taken a r d b) (hn : a.session? r = none) : a.isRetired r = false := by
  cases ht with
  | enrolled _ _ hret => exact hret
  | waits hl => cases (session?_of_lookup hl).symm.trans hn
  | passed hh => cases (session?_of_lookup hh.lookup).symm.trans hn

end Taken

/-- A candidate of a peer that has a session is taken. -/
theorem Sound.takes (ha : a.Sound) (hl : a.registry.lookup? r = some ⟨h, s⟩) (d : String) :
    ∃ b, a.candidate r d = (.ok (), b) ∧ Taken a r d b := by
  have hsound := ha.lines.sound r _ (line?_of_lookup hl)
  unfold candidate
  rw [if_neg (ha.posture.isOpen hl), session?_of_lookup hl, if_pos Option.isSome_some]
  unfold takeCandidate
  simp only [session?_of_lookup hl]
  by_cases hbuf : s.state.buffersCandidates = true
  · rw [if_pos hbuf]
    exact ⟨_, rfl, .waits hl hbuf⟩
  · have hs : s.state = .connected := connected_of_live hsound hbuf
    obtain ⟨id, t, hh⟩ := ha.lines.begun hl (by simp [hs])
    have hgive := giveCandidate_withLine (b := a) (r := r) (h := h) (s := s) (t := t) hh.le d
    rw [hh.withLine_eq] at hgive
    rw [if_neg hbuf, if_pos hs, hh.number]
    dsimp only
    rw [hgive]
    exact ⟨_, rfl, .passed hh hs⟩

/-- The line of a peer that has a session takes a candidate. -/
theorem Sound.taken (ha : a.Sound) (d : String) (hl : a.registry.lookup? r = some ⟨h, s⟩) :
    ∃ L, (a.after (.candidate r d)).line? r = some L ∧
      LineChange a r (.candidate r d) (a.line? r) L := by
  obtain ⟨b, hb, ht⟩ := ha.takes hl d
  have hafter : a.after (.candidate r d) = b := congrArg Prod.snd hb
  rw [hafter]
  exact ht.line

end CallSignaling.Agent
