import CallSignaling.Proofs.Agent.ArrivalOrder
import CallSignaling.Proofs.Agent.Dealings
import CallSignaling.Proofs.Agent.Isolation

/-!
# Commutation — peers in the background do not get in each other's way

Main statement: `commuted_run`.  What a move about a peer in the background does is settled by where
the agent stands and by its dealings with that peer: two agents that agree in this do alike
(`Sound.alike`).  A move about another peer leaves all of it as it is (`Meets.after`), so two such
moves can be made in either order.
-/

namespace CallSignaling.Agent

/-- The peer of a move that a peer in the background can bring about. -/
def Move.background? : Move → Option String
  | .candidate r _ | .offer r _ _ | .remoteLeft r | .localCandidate r _ => some r
  | _ => none

/-- `b` meets a move about a peer as `a` does. -/
structure Meets (a b : Agent) (r : String) : Prop where
  steady : Steady a b
  line : b.line? r = a.line? r
  retired : b.isRetired r = a.isRetired r
  made : b.pool.made r = a.pool.made r

/-- The same is done to two agents. -/
def Alike (a b : Agent) (r : String) (x y : Outcome × Agent) : Prop :=
  ∃ o d xs ns, Does a r o d xs ns x ∧ Does b r o d xs ns y

variable {a b c d : Agent} {r q : String} {h h' id : Nat} {s s' : Session} {t u : Scripted}
  {L : Line} {m n : Move}

namespace Meets

theorem dealings (hm : Meets a b r) : b.dealings r = a.dealings r := by
  unfold Agent.dealings
  rw [hm.line, hm.retired, hm.made]

theorem session? (hm : Meets a b r) : b.session? r = a.session? r := by
  rw [session?_eq_line?, session?_eq_line?, hm.line]

theorem holds (hm : Meets a b r) (hh : a.Holds r h id s t) : b.Holds r h id s t := by
  have hL : b.line? r = some ⟨h, s, some t⟩ := hm.line.trans hh.line?
  obtain ⟨hl, hbind⟩ := lookup_of_line? hL
  have hnum : s.transport = some id := hh.number
  refine ⟨hl, hnum, ?_⟩
  dsimp only at hbind
  rw [hnum, Option.bind_some] at hbind
  exact hbind.symm

theorem nothing (hm : Meets a b r) (o : Outcome) : Alike a b r (o, a) (o, b) :=
  ⟨o, a.dealings r, [], [], does_nothing a r o, hm.dealings ▸ does_nothing b r o⟩

/-- The line of the peer is torn down in both. -/
theorem closed (hm : Meets a b r) (ha : a.Lines) (hb : b.Lines) (hL : a.line? r = some L)
    (o : Outcome) (ns : List Notice) :
    Alike a b r (o, { a.closeSession r with notices := a.notices ++ ns })
      (o, { b.closeSession r with notices := b.notices ++ ns }) := by
  have hdoes := hb.does_closed (hm.line.trans hL) o ns
  rw [hm.made] at hdoes
  exact ⟨_, _, _, _, ha.does_closed hL o ns, hdoes⟩

/-- Both have made sure of a session for the peer, and have the same one. -/
theorem prepared_eq (hm : Meets a b r) (hp : Prepared a c r h s) (hq : Prepared b d r h' s') :
    s' = s := by
  cases hL : a.line? r with
  | none =>
    obtain ⟨-, -, rfl⟩ := hp.new hL
    obtain ⟨-, -, rfl⟩ := hq.new (hm.line.trans hL)
    rfl
  | some L =>
    obtain rfl := hp.old L hL
    obtain rfl := hq.old L (hm.line.trans hL)
    have hsession := hm.session?
    rw [session?_of_lookup hp.lookup, session?_of_lookup hq.lookup] at hsession
    exact Option.some.inj hsession

end Meets

/-! ### Candidates of a peer -/

/-- The transport of a session that an operation has made sure of. -/
theorem Prepared.transport_eq (hp : Prepared a c r h s) :
    s.transport.bind c.transport? = (a.line? r).bind Line.transport := by
  cases hL : a.line? r with
  | none =>
    obtain ⟨-, -, rfl⟩ := hp.new hL
    rfl
  | some L =>
    obtain rfl := hp.old L hL
    obtain rfl := Option.some.inj (hL.symm.trans (line?_of_lookup hp.lookup))
    rfl

theorem Prepared.underway (hp : Prepared a c r h s) : Underway a c ∧ c.pool = a.pool := by
  rw [hp.frame]
  exact ⟨⟨{ Steady.refl a with }, rfl, rfl⟩, rfl⟩

/-- A candidate waits in the session. -/
theorem Prepared.does_wait (hp : Prepared a c r h s) (x : String) :
    Does a r (.ok ()) ⟨some ((s.push x).bare, (a.line? r).bind Line.transport), false,
      a.pool.made r⟩ [] [] (.ok (), c.update r (Session.push · x)) := by
  obtain ⟨hway, hpool⟩ := hp.underway
  have hpool' : (c.update r (Session.push · x)).pool = a.pool := hpool
  refine ⟨rfl, { hway.steady with }, ?_, fun q _ => by rw [hpool'], ?_, nofun, ?_⟩
  · have htransport : (s.push x).transport.bind c.transport? = (a.line? r).bind Line.transport :=
      hp.transport_eq
    unfold Agent.dealings
    rw [line?_update hp.lookup, hpool', htransport]
    show (⟨_, c.isRetired r, _⟩ : Dealings) = _
    rw [hp.retired]
    rfl
  · exact hway.sent.trans (List.append_nil _).symm
  · exact hway.notices.trans (List.append_nil _).symm

theorem Meets.wait (hm : Meets a b r) (ha : a.Lines) (hb : b.Lines) (ho : a.phase ≠ .closed)
    (hret : a.isRetired r = false)
    (hbuf : ∀ L, a.line? r = some L → L.session.state.buffersCandidates = true) (x : String) :
    Alike a b r (a.candidate r x) (b.candidate r x) := by
  obtain ⟨h, s, hp⟩ := prepared ha r
  obtain ⟨h', s', hq⟩ := prepared hb r
  obtain rfl := hm.prepared_eq hp hq
  have hs : s'.state.buffersCandidates = true := by
    cases hL : a.line? r with
    | none =>
      obtain ⟨-, -, rfl⟩ := hp.new hL
      rfl
    | some L =>
      have hlive := hbuf L hL
      have hold := hp.old L hL
      have hl := hp.lookup
      rw [hold, (lookup_of_line? hL).1] at hl
      obtain rfl : L.session = s' := congrArg Registered.session (Option.some.inj hl)
      exact hlive
  have hopen := hp.underway.1.steady.ne_closed ho
  have hopen' := hq.underway.1.steady.ne_closed (hm.steady.ne_closed ho)
  rw [candidate_assign ha ho hret,
    candidate_assign hb (hm.steady.ne_closed ho) (hm.retired.trans hret),
    candidate_waiting hopen hp.lookup hs, candidate_waiting hopen' hq.lookup hs]
  have hdoes := hq.does_wait x
  rw [hm.line, hm.made] at hdoes
  exact ⟨_, _, _, _, hp.does_wait x, hdoes⟩

theorem Holds.does_live (hh : a.Holds r h id s t) (ha : a.Lines) (x : String) :
    Does a r (.ok ()) ⟨some (s.bare, some (t.afterCall (.addCandidate x))), a.isRetired r,
      renewed (a.pool.made r) (t.afterCall (.addCandidate x))⟩ [] []
      (.ok (), a.withLine r h id s (t.afterCall (.addCandidate x))) :=
  (hh.seat ha).does_placed ha (.refl a) rfl hh.le hh.number
    ((Scripted.afterCall_remote t _).trans (hh.seat ha).remote) (List.append_nil _).symm nofun rfl _

theorem Meets.candidate (hm : Meets a b r) (ha : a.Sound) (hb : b.Sound) (x : String) :
    Alike a b r (a.candidate r x) (b.candidate r x) := by
  by_cases ho : a.phase = .closed
  · have ho' : b.phase = .closed := hm.steady.phase.trans ho
    unfold Agent.candidate
    rw [if_pos ho, if_pos ho', ho, ho']
    exact hm.nothing _
  · cases hL : a.line? r with
    | none =>
      cases hret : a.isRetired r with
      | true =>
        have hl := line?_eq_none_iff.mp hL
        have hl' := line?_eq_none_iff.mp (hm.line.trans hL)
        rw [candidate_late ho hl hret,
          candidate_late (hm.steady.ne_closed ho) hl' (hm.retired.trans hret)]
        exact hm.nothing _
      | false => exact hm.wait ha.lines hb.lines ho hret (fun L h => by simp [hL] at h) x
    | some L =>
      by_cases hbuf : L.session.state.buffersCandidates = true
      · refine hm.wait ha.lines hb.lines ho (ha.lines.retired r L hL) (fun K hK => ?_) x
        obtain rfl := Option.some.inj (hL.symm.trans hK)
        exact hbuf
      · have hs := connected_of_live (ha.lines.sound r L hL) hbuf
        obtain ⟨id, t, hh⟩ := ha.lines.begun (lookup_of_line? hL).1 (by simp [hs])
        have hh' := hm.holds hh
        have hleft := candidate_live (b := a) (t := t) (r := r) (h := L.handle) ho hh.le hs
          hh.number x
        have hright := candidate_live (b := b) (t := t) (r := r) (h := L.handle)
          (hm.steady.ne_closed ho) hh'.le hs hh'.number x
        rw [hh.withLine_eq] at hleft
        rw [hh'.withLine_eq] at hright
        have hdoes := hh'.does_live hb.lines x
        rw [hm.retired, hm.made] at hdoes
        rw [hleft, hright]
        exact ⟨_, _, _, _, hh.does_live ha.lines x, hdoes⟩

/-! ### Offers of a peer -/

/-- The transport that an operation on a peer would call. -/
def opened (a : Agent) (r : String) : Scripted :=
  ((a.line? r).bind Line.transport).getD (Scripted.create r a.pool.behaviour)

theorem Meets.opened (hm : Meets a b r) : b.opened r = a.opened r := by
  unfold Agent.opened
  rw [hm.line, hm.steady.behaviour]

/-- A new transport is needed, and there will be none. -/
def Unavailable (a : Agent) (s : Session) : Prop :=
  s.transport = none ∧ a.pool.behaviour.rejectCreate = true

theorem Prepared.unavailable (hp : Prepared a c r h s) (hn : a.Unavailable s) :
    c.ensureBound r = .error (.rejected r (.setup "mock factory refused"), c) := by
  obtain ⟨-, hpool⟩ := hp.underway
  rw [ensureBound_of_lookup hp.lookup hn.1, hpool, if_pos hn.2]

/-- Otherwise the session has a transport or gets one. -/
theorem Prepared.opening (hp : Prepared a c r h s) (ha : a.Lines) (hn : ¬ a.Unavailable s) :
    ∃ id, id ≤ a.pool.transports.length ∧ a.Seat r id (a.opened r) ∧
      c.ensureBound r = (c.withLine r h id (s.bind id) (a.opened r)).ensureBound r := by
  obtain ⟨-, hpool⟩ := hp.underway
  have htransport := hp.transport_eq
  unfold Agent.opened
  rw [← htransport]
  cases hi : s.transport with
  | none =>
    have hcreate : ¬ a.pool.behaviour.rejectCreate = true := fun h => hn ⟨hi, h⟩
    have hunbound : ∀ L, a.line? r = some L → L.session.transport = none := fun L hL => by
      obtain rfl := hp.old L hL
      obtain rfl := Option.some.inj (hL.symm.trans (line?_of_lookup hp.lookup))
      exact hi
    refine ⟨a.pool.transports.length, Nat.le_refl _, seat_new a r _ hunbound, ?_⟩
    rw [ensureBound_of_lookup hp.lookup hi, hpool, if_neg hcreate, ensureBound_withLine rfl]
    rfl
  | some i =>
    obtain ⟨L, hL⟩ : ∃ L, a.line? r = some L := by
      cases hL : a.line? r with
      | none =>
        obtain ⟨-, -, rfl⟩ := hp.new hL
        cases hi
      | some L => exact ⟨L, rfl⟩
    obtain rfl := hp.old L hL
    obtain ⟨t, ht, -⟩ := ha.transport hp.lookup hi
    have hh : c.Holds r h i s t := ⟨hp.lookup, hi, ht⟩
    have hsame : s.bind i = s := by
      unfold Session.bind
      rw [← hi]
    rw [Option.bind_some, ht, Option.getD_some]
    refine ⟨i, hh.le, hh.seat ha, ?_⟩
    rw [hsame, hh.withLine_eq]

/-- An operation that has torn the session down was about a peer in the background. -/
theorem Underway.fail_eq (hc : Underway a c) (hr : a.active ≠ some r) (f : Failure) :
    c.fail r f = { c.closeSession r with notices := a.notices ++ [.fatal f.error.message] } := by
  have hr' : c.active ≠ some r := fun h => hr (hc.steady.active.symm.trans h)
  rw [fail_background hr', hc.notices]

theorem Underway.said (hc : Underway a c) (ho : c.outbox.isOpen = true) (x : Message) :
    Steady a (c.said x) ∧ (c.said x).outbox.sent = a.outbox.sent ++ [x] := by
  refine ⟨{ hc.steady with isOpen := ho.symm.trans hc.steady.isOpen }, ?_⟩
  show c.outbox.sent ++ [x] = _
  rw [hc.sent]

/-- An offer that is not answered for want of a transport. -/
theorem Prepared.does_unavailable (hp : Prepared a c r h s) (hr : a.active ≠ some r)
    (hn : a.Unavailable s) (sdp : String) :
    Does a r (.error (.rejected r (.setup "mock factory refused")))
      ⟨none, true, a.pool.made r⟩ []
      [.fatal (CallError.rejected r (.setup "mock factory refused")).message]
      (conclude r (c.answerOffer r sdp) (adopt r)) := by
  obtain ⟨hway, hpool⟩ := hp.underway
  have hunbound : (c.session? r).bind Session.transport = none := by
    rw [session?_of_lookup hp.lookup, Option.bind_some, hn.1]
  unfold Agent.answerOffer
  rw [hp.unavailable hn]
  show Does a r _ _ _ _ (_, c.fail r _)
  rw [hway.fail_eq hr]
  exact hway.does_dropped hpool hunbound _ _

/-- An offer that has been answered, whatever the transport was given for that. -/
theorem Prepared.does_answered (hp : Prepared a c r h s) (ha : a.Lines) (hsome : a.active.isSome)
    (hid : id ≤ a.pool.transports.length) (hseat : a.Seat r id t) (hopen : c.outbox.isOpen = true)
    (hnum : s'.transport = some id) (hu : u.remote = r) (text : String) :
    Does a r (.ok ()) ⟨some (s'.bare, some u), false, renewed (a.pool.made r) u⟩
      [.answer (some a.localId) (some r) text] []
      (conclude r
        (.ok ((c.said (.answer (some a.localId) (some r) text)).withLine r h id s' u))
        (adopt r)) := by
  obtain ⟨hway, hpool⟩ := hp.underway
  obtain ⟨p, hact⟩ := Option.isSome_iff_exists.mp hsome
  have hact' : c.active = some p := hway.steady.active.trans hact
  obtain ⟨hsaid, hsent⟩ := hway.said hopen (.answer (some a.localId) (some r) text)
  have hplaced := hseat.does_placed (h := h) ha hsaid hpool hid hnum hu hsent
    (by simp [Message.recipient?]) hway.notices (.ok ())
  have hret : (c.said (.answer (some a.localId) (some r) text)).isRetired r = false := hp.retired
  rw [hret] at hplaced
  unfold conclude
  dsimp only
  rw [adopt_of_some (a := (c.said _).withLine r h id s' u) hact']
  exact hplaced

/-- An offer that was refused, after whatever the transport was given. -/
theorem Prepared.does_refused (hp : Prepared a c r h s) (ha : a.Lines) (hr : a.active ≠ some r)
    (hid : id ≤ a.pool.transports.length) (hseat : a.Seat r id t) (hnum : s'.transport = some id)
    (hu : u.remote = r) (f : Failure) :
    Does a r (.error f.error) ⟨none, true, renewed (a.pool.made r) u.close⟩ []
      [.fatal f.error.message]
      (conclude r (.error (f, c.withLine r h id s' u)) (adopt r)) := by
  obtain ⟨hway, hpool⟩ := hp.underway
  have hline : Underway a (c.withLine r h id s' u) :=
    ⟨{ hway.steady with }, hway.sent, hway.notices⟩
  show Does a r _ _ _ _ (_, (c.withLine r h id s' u).fail r f)
  rw [hline.fail_eq hr]
  exact hseat.does_torn ha hway hpool hid hnum hu _ _

/-- An offer is answered alike. -/
theorem Meets.answerOffer (hm : Meets a b r) (ha : a.Lines) (hb : b.Lines)
    (hsome : a.active.isSome) (hr : a.active ≠ some r) (hp : Prepared a c r h s)
    (hq : Prepared b d r h' s) (sdp : String) :
    Alike a b r (conclude r (c.answerOffer r sdp) (adopt r))
      (conclude r (d.answerOffer r sdp) (adopt r)) := by
  obtain ⟨hway, hpool⟩ := hp.underway
  obtain ⟨hway', hpool'⟩ := hq.underway
  have hr' : b.active ≠ some r := fun h => hr (hm.steady.active.symm.trans h)
  have hsome' : b.active.isSome := hm.steady.active ▸ hsome
  have hsteady : Steady c d := (hway.steady.symm.trans hm.steady).trans hway'.steady
  by_cases hn : a.Unavailable s
  · have hn' : b.Unavailable s := ⟨hn.1, (congrArg _ hm.steady.behaviour).trans hn.2⟩
    have hright := hq.does_unavailable hr' hn' sdp
    rw [hm.made] at hright
    exact ⟨_, _, _, _, hp.does_unavailable hr hn sdp, hright⟩
  · have hn' : ¬ b.Unavailable s := fun h =>
      hn ⟨h.1, (congrArg _ hm.steady.behaviour).symm.trans h.2⟩
    obtain ⟨id, hid, hseat, hen⟩ := hp.opening ha hn
    obtain ⟨id', hid', hseat', hen'⟩ := hq.opening hb hn'
    rw [hm.opened] at hseat' hen'
    generalize a.opened r = t at *
    have hremote : ∀ ds, (t.replay ds).remote = r := fun ds =>
      (Scripted.replay_remote t ds).trans hseat.remote
    have hx := answerOffer_ends (b := c) (r := r) (h := h) (s := s.bind id) (hpool ▸ hid)
      hseat.isOpen rfl sdp
    have hy := answerOffer_ends (b := d) (r := r) (h := h') (s := s.bind id') (hpool' ▸ hid')
      hseat'.isOpen rfl sdp
    have hcalls : d.answerCalls (s.bind id') t sdp = c.answerCalls (s.bind id) t sdp := by
      unfold answerCalls
      rw [hsteady.tracks]
      rfl
    rw [← answerOffer_congr hen, hway.steady.localId] at hx
    rw [← answerOffer_congr hen', hcalls, hway'.steady.localId, hsteady.tracks, hsteady.now] at hy
    -- both take the same steps on the same transport: they fail at the same one or not at all
    rcases hx.agree hy (by rw [hm.steady.localId]) hsteady.isOpen with
      ⟨hopen, hdone, hdone'⟩ | ⟨f, ds, s₁, s₂, hs₁, hs₂, hfail, hfail'⟩
    · have hu := (Scripted.replay_remote (t.replay (c.answerCalls (s.bind id) t sdp))
        (s.pending.map .addCandidate)).trans (hremote _)
      have hnum : (((s.bind id').start .answering c.now).markRemote.given
          c.tracks).markLocal.connect.transport = some id' := rfl
      have hright := hq.does_answered hb hsome' hid' hseat' (hsteady.isOpen.trans (hopen rfl))
        hnum hu (t.descriptionText "answer")
      rw [hm.made, hm.steady.localId] at hright
      rw [hdone, hdone', hm.steady.localId]
      exact ⟨_, _, _, _, hp.does_answered ha hsome hid hseat (hopen rfl) rfl hu _, hright⟩
    · have hright := hq.does_refused hb hr' hid' hseat' hs₂ (hremote ds) f
      rw [hm.made] at hright
      rw [hfail, hfail']
      exact ⟨_, _, _, _, hp.does_refused ha hr hid hseat hs₁ (hremote ds) f, hright⟩

theorem Meets.offer (hm : Meets a b r) (ha : a.Sound) (hb : b.Sound) (hsome : a.active.isSome)
    (hr : a.active ≠ some r) (recipient sdp : String) :
    Alike a b r (a.offer r recipient sdp) (b.offer r recipient sdp) := by
  by_cases hrec : recipient = a.localId
  · have hrec' : recipient = b.localId := hrec.trans hm.steady.localId.symm
    by_cases ho : a.phase = .closed
    · have ho' : b.phase = .closed := hm.steady.phase.trans ho
      unfold Agent.offer
      rw [if_neg (by simp [hrec]), if_pos ho, if_neg (by simp [hrec']), if_pos ho', ho, ho']
      exact hm.nothing _
    · have ho' := hm.steady.ne_closed ho
      obtain ⟨h, s, hp⟩ := prepared ha.lines r
      obtain ⟨h', s', hq⟩ := prepared hb.lines r
      obtain rfl := hm.prepared_eq hp hq
      by_cases hs : s'.state = .idle ∨ s'.state = .assigned
      · have hleft := offer_eq ho rfl hp.sessionState? hs sdp
        have hright := offer_eq ho' rfl hq.sessionState? hs sdp
        rw [← hrec] at hleft
        rw [← hrec'] at hright
        rw [hleft, hright]
        exact hm.answerOffer ha.lines hb.lines hsome hr hp hq sdp
      · have hbegun : s'.state ≠ .idle := fun h => hs (.inl h)
        have hstate := hp.sessionState?
        have hstate' := hq.sessionState?
        rw [hp.eq_of_begun hbegun] at hstate
        rw [hq.eq_of_begun hbegun] at hstate'
        unfold Agent.offer
        rw [if_neg (by simp [hrec]), if_neg ho, if_neg (by simp [hrec']), if_neg ho']
        simp only [hp.eq_of_begun hbegun, hq.eq_of_begun hbegun, hstate, hstate', if_neg hs]
        split <;> exact hm.nothing _
  · have hrec' : recipient ≠ b.localId := fun h => hrec (h.trans hm.steady.localId)
    unfold Agent.offer
    rw [if_pos hrec, if_pos hrec', hm.steady.localId]
    exact hm.nothing _

/-! ### Peers that leave, and candidates for a peer -/

theorem Meets.remoteLeft (hm : Meets a b r) (ha : a.Lines) (hb : b.Lines)
    (hr : a.active ≠ some r) : Alike a b r (a.remoteLeft r) (b.remoteLeft r) := by
  unfold Agent.remoteLeft
  rw [hm.steady.localId, hm.session?]
  by_cases hid : r = a.localId
  · rw [if_pos hid, if_pos hid]
    exact hm.nothing _
  · rw [if_neg hid, if_neg hid]
    cases hL : a.line? r with
    | none =>
      have hnone : a.session? r = none := by
        rw [session?_eq_line?, hL]
        rfl
      rw [hnone]
      exact hm.nothing _
    | some L =>
      have hsome : a.session? r = some L.session := by
        rw [session?_eq_line?, hL]
        rfl
      have hfar : (a.closeSession r).active ≠ some r := by
        rw [active_closeSession]
        exact hr
      have hfar' : (b.closeSession r).active ≠ some r := by
        rw [active_closeSession, hm.steady.active]
        exact hr
      have hquiet : ∀ e : Agent, ({ e.closeSession r with notices := e.notices ++ [] } : Agent) =
          e.closeSession r := fun e => by
        rw [List.append_nil, ← notices_closeSession e r]
      have halike := hm.closed ha hb hL (.ok ()) []
      rw [hquiet, hquiet] at halike
      rw [hsome]
      simp only [Option.isNone_some, Bool.false_eq_true, if_false, if_neg hfar, if_neg hfar']
      exact halike

theorem Meets.localCandidate (hm : Meets a b r) (ha : a.Lines) (hb : b.Lines)
    (hr : a.active ≠ some r) (x : String) :
    Alike a b r (a.localCandidate r x) (b.localCandidate r x) := by
  have hr' : b.active ≠ some r := fun h => hr (hm.steady.active.symm.trans h)
  unfold Agent.localCandidate
  rw [hm.steady.phase, hm.session?]
  by_cases hno : a.phase = .closed ∨ (a.session? r).isNone
  · rw [if_pos hno, if_pos hno]
    exact hm.nothing _
  · rw [if_neg hno, if_neg hno, send?_eq, send?_eq, hm.steady.isOpen, hm.steady.localId]
    cases ho : a.outbox.isOpen with
    | true =>
      have hsays : ∀ {e : Agent}, e.outbox.isOpen = true →
          Does e r (.ok ()) (e.dealings r) [.iceCandidate a.localId r x] []
            (.ok (), e.said (.iceCandidate a.localId r x)) := fun {e} he =>
        { does_nothing e r (.ok ()) with
          steady := { Steady.refl e with isOpen := he.symm }
          sent := rfl
          addressed := by simp [Message.recipient?] }
      have hright := hsays (hm.steady.isOpen.trans ho)
      rw [hm.dealings] at hright
      exact ⟨_, _, _, _, hsays ho, hright⟩
    | false =>
      obtain ⟨L, hL⟩ : ∃ L, a.line? r = some L := by
        cases hL : a.line? r with
        | none =>
          rw [session?_eq_line?, hL] at hno
          exact absurd (.inr rfl) hno
        | some L => exact ⟨L, rfl⟩
      show Alike a b r (_, a.fail r .channelLost) (_, b.fail r .channelLost)
      rw [fail_background hr, fail_background hr']
      exact hm.closed ha hb hL _ _

/-! ### Moves in either order -/

/-- What a move about a peer in the background does is settled by where the agent stands and by its
dealings with the peer. -/
theorem Sound.alike (ha : a.Sound) (hb : b.Sound) (hm : Meets a b r) (hsome : a.active.isSome)
    (hr : a.active ≠ some r) (hmove : m.background? = some r) :
    Alike a b r (a.perform m) (b.perform m) := by
  cases m with
  | candidate p x =>
    obtain rfl := Option.some.inj hmove
    exact hm.candidate ha hb x
  | offer p recipient sdp =>
    obtain rfl := Option.some.inj hmove
    exact hm.offer ha hb hsome hr recipient sdp
  | remoteLeft p =>
    obtain rfl := Option.some.inj hmove
    exact hm.remoteLeft ha.lines hb.lines hr
  | localCandidate p x =>
    obtain rfl := Option.some.inj hmove
    exact hm.localCandidate ha.lines hb.lines hr x
  | _ => cases hmove

theorem Meets.refl (a : Agent) (r : String) : Meets a a r := ⟨.refl a, rfl, rfl, rfl⟩

theorem concerned?_of_background? (hm : m.background? = some r) :
    a.concerned? m = some r ∧ m ≠ .assigned r := by
  cases m with
  | candidate | offer | remoteLeft | localCandidate => exact ⟨hm, nofun⟩
  | _ => cases hm

/-- A move about one peer in the background leaves the dealings with another one as they are. -/
theorem Meets.after (ha : a.Sound) (hsome : a.active.isSome) (hr : a.active ≠ some r)
    (hmove : m.background? = some r) (hq : q ≠ r) : Meets a (a.after m) q := by
  obtain ⟨o, d, xs, ns, hdoes, -⟩ := ha.alike ha (.refl a r) hsome hr hmove
  obtain ⟨hconcerned, hne⟩ := concerned?_of_background? (a := a) hmove
  have huntouched := (ha.isolated hconcerned).others q hq fun h => absurd h hne
  exact ⟨hdoes.steady, huntouched.line, huntouched.retired, hdoes.others q hq⟩

/-- Two agents that are the same but for the numbers of transports and sessions, and for the order
of what was said to different peers and of the notices. -/
structure Resembles (a b : Agent) : Prop where
  steady : Steady a b
  dealings : ∀ q, b.dealings q = a.dealings q
  retired : b.retired = a.retired
  sent : ∀ q, b.outbox.sent.filter (fun x => decide (x.recipient? = q)) =
    a.outbox.sent.filter (fun x => decide (x.recipient? = q))
  notices : b.notices.Perm a.notices

/-- Two moves can be made in either order. -/
structure Commutes (a : Agent) (m n : Move) : Prop where
  first : ((a.after n).perform m).1 = (a.perform m).1
  second : ((a.after m).perform n).1 = (a.perform n).1
  resembles : Resembles ((a.after m).after n) ((a.after n).after m)

/-- Messages for one peer are not messages for another one. -/
theorem filter_recipient {xs ys : List Message} (hxs : ∀ x ∈ xs, x.recipient? = some r)
    (hys : ∀ y ∈ ys, y.recipient? = some q) (hne : q ≠ r) (p : Option String) :
    (xs ++ ys).filter (fun x => decide (x.recipient? = p)) =
      (ys ++ xs).filter (fun x => decide (x.recipient? = p)) := by
  have hnone : ∀ {zs : List Message} {u : String}, (∀ z ∈ zs, z.recipient? = some u) →
      p ≠ some u → zs.filter (fun x => decide (x.recipient? = p)) = [] := fun hzs hu =>
    List.filter_eq_nil_iff.mpr fun z hz => by
      rw [hzs z hz]
      simpa using hu.symm
  rw [List.filter_append, List.filter_append]
  by_cases hp : p = some r
  · have hq : p ≠ some q := fun h => hne (Option.some.inj (h.symm.trans hp))
    rw [hnone hys hq, List.append_nil, List.nil_append]
  · rw [hnone hxs hp, List.append_nil, List.nil_append]

theorem retired_ext (h : ∀ q, b.isRetired q = a.isRetired q) : b.retired = a.retired := by
  refine Roster.ext_get? fun q => ?_
  have hq := h q
  unfold isRetired Roster.contains at hq
  cases hb : b.retired.get? q <;> cases ha : a.retired.get? q <;> simp [hb, ha] at hq ⊢

theorem Sound.commutes (ha : a.Sound) (hsome : a.active.isSome) (hm : m.background? = some r)
    (hn : n.background? = some q) (hne : q ≠ r) (hr : a.active ≠ some r) (hq : a.active ≠ some q) :
    Commutes a m n := by
  -- neither move disturbs a peer of which it is not about, whether it comes first or second
  have hm₁ : ∀ p, p ≠ r → Meets a (a.after m) p := fun p => .after ha hsome hr hm
  have hn₁ : ∀ p, p ≠ q → Meets a (a.after n) p := fun p => .after ha hsome hq hn
  have hmActive : (a.after m).active = a.active := (hm₁ q hne).steady.active
  have hnActive : (a.after n).active = a.active := (hn₁ r hne.symm).steady.active
  have hm₂ : ∀ p, p ≠ r → Meets (a.after n) ((a.after n).after m) p := fun p =>
    .after (ha.after n) (hnActive ▸ hsome) (hnActive ▸ hr) hm
  have hn₂ : ∀ p, p ≠ q → Meets (a.after m) ((a.after m).after n) p := fun p =>
    .after (ha.after m) (hmActive ▸ hsome) (hmActive ▸ hq) hn
  obtain ⟨o, d, xs, ns, hdo, hlate⟩ := ha.alike (ha.after n) (hn₁ r hne.symm) hsome hr hm
  obtain ⟨o', d', ys, ks, hdo', hlate'⟩ := ha.alike (ha.after m) (hm₁ q hne) hsome hq hn
  have hdealings : ∀ p, ((a.after n).after m).dealings p = ((a.after m).after n).dealings p := by
    intro p
    by_cases hpr : p = r
    · subst hpr
      calc ((a.after n).after m).dealings p = (a.after m).dealings p :=
            hlate.dealings.trans hdo.dealings.symm
        _ = ((a.after m).after n).dealings p := (hn₂ p hne.symm).dealings.symm
    · by_cases hpq : p = q
      · subst hpq
        calc ((a.after n).after m).dealings p = (a.after n).dealings p := (hm₂ p hne).dealings
          _ = ((a.after m).after n).dealings p := hdo'.dealings.trans hlate'.dealings.symm
      · rw [(hm₂ p hpr).dealings, (hn₁ p hpq).dealings, (hn₂ p hpq).dealings, (hm₁ p hpr).dealings]
  have hsent : ((a.after m).after n).outbox.sent = a.outbox.sent ++ (xs ++ ys) ∧
      ((a.after n).after m).outbox.sent = a.outbox.sent ++ (ys ++ xs) := by
    rw [← List.append_assoc, ← List.append_assoc, ← hdo.sent, ← hdo'.sent]
    exact ⟨hlate'.sent, hlate.sent⟩
  have hnotices : ((a.after m).after n).notices = a.notices ++ (ns ++ ks) ∧
      ((a.after n).after m).notices = a.notices ++ (ks ++ ns) := by
    rw [← List.append_assoc, ← List.append_assoc, ← hdo.notices, ← hdo'.notices]
    exact ⟨hlate'.notices, hlate.notices⟩
  refine ⟨hlate.outcome.trans hdo.outcome.symm, hlate'.outcome.trans hdo'.outcome.symm, ?_,
    hdealings, retired_ext fun p => congrArg Dealings.retired (hdealings p), fun p => ?_, ?_⟩
  · exact (hdo.steady.trans hlate'.steady).symm.trans (hdo'.steady.trans hlate.steady)
  · have hswap := filter_recipient hdo'.addressed hdo.addressed hne.symm p
    rw [hsent.1, hsent.2, List.filter_append, hswap, ← List.filter_append]
  · rw [hnotices.1, hnotices.2]
    exact List.perm_append_comm.append_left a.notices

/-- After any moves, while a peer is the active one, two moves about two other peers can be made in
either order. -/
theorem commuted_run (localId : String) (timeout : Option Nat) (tracks : List Track)
    (behaviour : Behaviour) (now : Nat) (history : List Move) :
    let a := (fresh localId timeout tracks (.fresh behaviour) now).run history
    ∀ (p r q : String) (m n : Move), a.active = some p → m.background? = some r →
      n.background? = some q → q ≠ r → r ≠ p → q ≠ p → Commutes a m n := by
  intro a p r q m n hp hm hn hne hr hq
  have ha : a.Sound := sound_run localId timeout tracks behaviour now history
  have hfar : ∀ x, x ≠ p → a.active ≠ some x := fun x hx h =>
    hx (Option.some.inj (h.symm.trans hp))
  exact ha.commutes (by rw [hp]; rfl) hm hn hne (hfar r hr) (hfar q hq)

/-- Two peers call at once while a third one is assigned; one of them is refused. -/
theorem commuted_run_calls :
    let a := (fresh "a" none [] (.fresh {}) 0).run [.requestConnect, .assigned "b",
      .candidate "c" "x", .behave { rejectCreate := true }, .candidate "d" "y"]
    Commutes a (.offer "c" "a" "s") (.remoteLeft "d") ∧
      (a.perform (.offer "c" "a" "s")).1 =
        .error (.rejected "c" (.setup "mock factory refused")) := by
  intro a
  have hall := commuted_run "a" none [] {} 0 [.requestConnect, .assigned "b",
    .candidate "c" "x", .behave { rejectCreate := true }, .candidate "d" "y"]
  exact ⟨hall "b" "c" "d" _ _ (by rfl) rfl rfl (by decide) (by decide) (by decide), by rfl⟩

end CallSignaling.Agent
