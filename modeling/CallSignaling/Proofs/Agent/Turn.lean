import CallSignaling.Proofs.Agent.Operations

/-!
# Turn — every deed keeps an agent sound

A `Turn` is a move with its answer and its effect.  Each way a move can go is a turn of a sound
agent (`Deed.turn`): nothing has changed about the peers, or the line of one peer is in its place
(`placed_turn`) or torn down, or all lines are taken out.  So every run of a fresh agent is sound
(`sound_run`).
-/

namespace CallSignaling.Agent

/-- What a move does to a sound agent. -/
structure Turn (m : Move) (a : Agent) (x : Outcome × Agent) : Prop where
  effect : Effect m a x.2
  posture : x.2.Posture
  /-- No transport was asked after it was closed. -/
  answer : ∀ r, x.1 ≠ .error (.rejected r .closed)

variable {a b c : Agent} {r q : String} {m : Move} {h id : Nat} {s : Session} {t u : Scripted}
  {cs : List Call} {f : Failure}

theorem Turn.sound {x : Outcome × Agent} (ht : Turn m a x) (ha : a.Sound) : x.2.Sound :=
  ⟨ht.effect.lines ha.lines, ht.posture⟩

/-- Nothing has changed about the peers. -/
theorem quiet_turn (ha : a.Sound) {o : Outcome} (hr : b.registry = a.registry)
    (hret : b.retired = a.retired) (hp : b.pool.transports = a.pool.transports)
    (hpost : b.Posture) (ho : ∀ r, o ≠ .error (.rejected r .closed)) : Turn m a (o, b) :=
  ⟨(Effect.refl m ha.lines).congr hr hret hp, hpost, ho⟩

/-- A move that was refused has changed nothing. -/
theorem refused_turn (ha : a.Sound) {o : Outcome} (ho : ∀ r, o ≠ .error (.rejected r .closed)) :
    Turn m a (o, a) :=
  quiet_turn ha rfl rfl rfl ha.posture ho

/-! ### A line torn down -/

/-- A failure has the effect of closing the session. -/
theorem Effect.fail (he : Effect m a (b.closeSession r)) (f : Failure) :
    Effect m a (b.fail r f) := by
  rw [fail_eq]
  exact he.congr rfl rfl rfl

/-- A failure between two operations. -/
theorem fail_turn (ha : a.Lines) (hr : a.Aside r) (f : Failure) {o : Outcome}
    (hf : ∀ q, o ≠ .error (.rejected q .closed)) : Turn m a (o, a.fail r f) where
  effect := (closeSession_effect ha r).fail f
  posture := hr.fail f
  answer := hf

/-- A failure in the middle of an operation. -/
theorem broken_turn (hb : Scene a b r h id t) (hnum : s.transport = some id)
    (hu : Aborted a.tracks t u) (hf : ∀ q, f.error ≠ .rejected q .closed) :
    Turn m a (.error f.error, (b.withLine r h id s u).fail r f) where
  effect := (hb.seat.effect_closeSession hb.lines hb.base hb.le hnum hu).fail f
  posture := by
    have hw : (b.withLine r h id s u).Aside r :=
      hb.aside.congr rfl rfl fun q hq => by rw [lookup?_withLine, if_neg hq]
    exact hw.fail f
  answer := fun q => by simpa using hf q

/-- The creation of a transport was refused. -/
theorem setup_turn (hp : Prepared a b r h s) (ha : a.Lines) (hbr : b.Aside r)
    (hn : ∀ L, a.line? r = some L → L.session.transport = none) (reason : String) :
    Turn m a (.error (.rejected r (.setup reason)), b.fail r (.rejected r (.setup reason))) where
  effect := by
    have hb : (b.session? r).bind Session.transport = none := by
      rw [session?_of_lookup hp.lookup, Option.bind_some]
      cases hL : a.line? r with
      | none =>
        obtain ⟨-, -, rfl⟩ := hp.new hL
        rfl
      | some L =>
        obtain rfl := hp.old L hL
        have := hn L hL
        obtain ⟨hl, -⟩ := lookup_of_line? hL
        obtain rfl : L.session = s := by
          have := hp.lookup.symm.trans hl
          simp at this
          exact this.2.symm
        exact this
    have hgone : (b.closeSession r).line? r = none := by
      rw [line?_eq_none_iff, lookup?_closeSession, if_pos rfl]
    have heffect := (hp.base.trans (closeSession_base hb)).effect (m := m) ha hn fun L hL => by
      simp [hgone] at hL
    exact heffect.fail _
  posture := hbr.fail _
  answer := by simp

theorem Breaks.turn (hb : Breaks a r b f c) (ha : a.Lines) :
    Turn m a (.error f.error, c.fail r f) := by
  cases hb with
  | setup hp hbr hn => exact setup_turn hp ha hbr hn _
  | called hscene hnum hu _ hf => exact broken_turn hscene hnum hu hf
  | unsent hr => exact fail_turn ha hr _ (by simp [Failure.channelLost])

/-! ### A line in its place -/

/-- An operation that has put a line into its place, after the calls of a leg and some candidates;
only the phase and the active peer may have changed besides. -/
theorem placed_turn (hb : Scene a b r h id t) (hnum : s.transport = some id)
    (hleg : Leg a.tracks t cs) (ps : List String)
    (hu : u = (t.replay cs).replay (ps.map .addCandidate))
    (hl : LineChange a r m (a.line? r) ⟨h, s, some u⟩)
    (hc : c.registry = (b.withLine r h id s u).registry ∧ c.retired = b.retired ∧
      c.pool.transports = (b.withLine r h id s u).pool.transports)
    (hst : Standing c.phase c.active) (hp : c.phase ≠ .closed)
    (hact : ∀ q, q ≠ r → (c.active = some q ↔ b.active = some q)) (hidle : s.state ≠ .idle)
    (hsolo : s.state = .assigned ∨ s.state = .offering → c.active = some r) :
    Turn m a (.ok (), c) := by
  obtain ⟨hreg, hretd, hpool⟩ := hc
  have hlook : ∀ q, c.registry.lookup? q = if q = r then some ⟨h, s⟩ else b.registry.lookup? q := by
    intro q
    rw [hreg]
    exact lookup?_withLine b r h id s u q
  have hstate : c.sessionState? r = some s.state := by
    have := hlook r
    rw [if_pos rfl] at this
    exact sessionState?_of_lookup this
  have heffect := hb.seat.effect_line hb.lines hb.base hb.le hnum hb.retired hb.fresh
    (by rw [hu]; simp) (by rw [hu]; simp) (hu ▸ hleg.grows_done ps) (.inr hl)
  refine ⟨heffect.congr hreg hretd hpool, hb.aside.posture hst hp hact
    (fun q hq => by rw [hlook, if_neg hq]) (fun _ => ⟨_, hstate, hidle⟩) fun s' hs' h => ?_, nofun⟩
  obtain rfl : s.state = s' := by simpa [hstate] using hs'
  exact hsolo h

/-- A call may make its peer the active one. -/
theorem adopt_spec (r : String) (hs : Standing a.phase a.active) (ho : a.phase ≠ .closed) :
    Standing (adopt r a).phase (adopt r a).active ∧ (adopt r a).phase ≠ .closed ∧
    ∀ q, q ≠ r → ((adopt r a).active = some q ↔ a.active = some q) := by
  cases hact : a.active with
  | some p =>
    rw [adopt_of_some hact]
    exact ⟨hs, ho, fun q hq => by rw [hact]⟩
  | none =>
    rw [adopt_of_none hact]
    refine ⟨hs.unless_terminal ho (.assigned r), ?_, fun q hq => ?_⟩
    · show (if a.phase.isTerminal then a.phase else .assigned) ≠ .closed
      split
      · exact ho
      · simp
    · simp [Ne.symm hq]

/-- An offer was answered: the line is in its place, and its peer may become the active one. -/
theorem adopt_turn (msg : Message) (hb : Scene a b r h id t) (hst : Standing b.phase b.active)
    (hnum : s.transport = some id) (hleg : Leg a.tracks t cs) (ps : List String)
    (hu : u = (t.replay cs).replay (ps.map .addCandidate))
    (hl : LineChange a r m (a.line? r) ⟨h, s, some u⟩) (hconn : s.state = .connected) :
    Turn m a (.ok (), adopt r ((b.said msg).withLine r h id s u)) := by
  obtain ⟨hst', hopen, hact⟩ :=
    adopt_spec (a := (b.said msg).withLine r h id s u) r hst hb.aside.isOpen
  refine placed_turn hb hnum hleg ps hu hl ⟨registry_adopt .., retired_adopt .., ?_⟩ hst' hopen
    hact (by simp [hconn]) (by simp [hconn])
  rw [pool_adopt]
  rfl

/-! ### Candidates -/

/-- A candidate that waits changes nothing but the session it waits in. -/
theorem push_effect {c : String} (ha : a.Lines) (hl : a.registry.lookup? r = some ⟨h, s⟩)
    (hs : s.state.buffersCandidates = true) :
    Effect (.candidate r c) a (a.update r (Session.push · c)) := by
  have hlook := lookup?_update hl (Session.push · c)
  have hline := line?_update hl (Session.push · c)
  have ht : Touch a (a.update r (Session.push · c)) r := by
    refine ⟨fun q hq => by rw [hlook, if_neg hq], fun _ _ => rfl, ?_, fun i t ht => ?_,
      fun i u hu hn => ?_, fun i t ht => ?_, fun i t ht _ => ?_⟩
    · exact Nat.le_of_eq (update_issued a r _).symm
    · exact ⟨t, ht, rfl, rfl, .inl rfl⟩
    · exact absurd (hn.symm.trans hu) (by simp)
    · have ht' : a.transport? i = some t := ht
      rw [calls_of_transport? ht']
      exact .refl _ _
    · have ht' : a.transport? i = some t := ht
      exact (handed_of_transport? ht').symm
  have hL := line?_of_lookup hl
  refine ht.effect ha (fun L hL' => ?_) (fun i t ht hr => ?_)
  · obtain rfl := Option.some.inj (hline.symm.trans hL')
    rw [hL]
    exact ⟨.inr (.wait hs), ha.retired r _ hL, nofun⟩
  · rcases ha.owner i t ht with hk | ⟨L, hL', hi⟩
    · exact .inl hk
    · rw [hr] at hL'
      obtain rfl := Option.some.inj (hL.symm.trans hL')
      exact .inr ⟨_, hline, hi⟩

theorem push_turn {c : String} (ha : a.Sound) (hl : a.registry.lookup? r = some ⟨h, s⟩)
    (hs : s.state.buffersCandidates = true) :
    Turn (.candidate r c) a (.ok (), a.update r (Session.push · c)) := by
  refine ⟨push_effect ha.lines hl hs, ha.posture.same rfl rfl fun q => ?_, nofun⟩
  have hnew := lookup?_update hl (Session.push · c) q
  by_cases hq : q = r
  · subst hq
    rw [if_pos rfl] at hnew
    rw [sessionState?_of_lookup hnew, sessionState?_of_lookup hl]
    rfl
  · rw [if_neg hq] at hnew
    exact sessionState?_congr hnew

/-- The first candidate of an unknown peer. -/
theorem enrol_turn {d : String} (ha : a.Sound) (ho : a.phase ≠ .closed)
    (hl : a.registry.lookup? r = none) (hr : a.isRetired r = false) :
    Turn (.candidate r d) a (.ok (), (a.enrol r).update r (Session.push · d)) := by
  have hlook : (a.enrol r).registry.lookup? r = some ⟨a.registry.issued, Session.fresh r⟩ := by
    rw [lookup?_enrol, if_pos rfl]
  have hnew := lookup?_update hlook (Session.push · d)
  have hissued : ((a.enrol r).update r (Session.push · d)).registry.issued =
      a.registry.issued + 1 := update_issued ..
  have hnone : a.line? r = none := line?_eq_none_iff.mpr hl
  have hline := line?_update hlook (Session.push · d)
  have hbase : Base a ((a.enrol r).update r (Session.push · d)) r :=
    ⟨fun q hq => by rw [hnew, if_neg hq, lookup?_enrol, if_neg hq], fun _ _ => rfl, by omega,
      fun _ => rfl⟩
  refine ⟨hbase.effect ha.lines (fun L hL => by simp [hnone] at hL) fun L hL => ?_, ?_, nofun⟩
  · obtain rfl := Option.some.inj (hline.symm.trans hL)
    rw [hnone]
    exact ⟨.inr .enrol, hr, fun _ => ⟨Nat.le_refl _, by rw [hissued]; exact Nat.lt_succ_self _⟩⟩
  · refine (ha.posture.aside ho r).posture ha.posture.standing ho (fun _ _ => Iff.rfl) hbase.lookup
      (fun h => ?_) fun s hs hx => ?_
    · obtain ⟨s, hs, -⟩ := ha.posture.active r h
      rw [sessionState?_eq_none_iff.mpr hl] at hs
      simp at hs
    · rw [sessionState?_eq_line?, hline] at hs
      obtain rfl : CallState.idle = s := Option.some.inj hs
      simp at hx

theorem Taken.turn {d : String} (ht : Taken a r d b) (ha : a.Sound) :
    Turn (.candidate r d) a (.ok (), b) := by
  cases ht with
  | enrolled ho hl hr => exact enrol_turn ha ho hl hr
  | waits hl hs => exact push_turn ha hl hs
  | passed hh hs =>
    obtain ⟨-, -, hat, -⟩ := (ha.lines.sound r _ hh.line?).at_stage .live hs
    refine placed_turn (hh.scene ha) hh.number (.nil hat _) [d] rfl ?_ ⟨rfl, rfl, rfl⟩
      ha.posture.standing (ha.posture.isOpen hh.lookup) (fun _ _ => Iff.rfl) (by simp [hs])
      (by simp [hs])
    rw [hh.line?]
    exact .pass hs

/-! ### Assignments -/

/-- A move that assigns looks only at the tracks of an agent and at how new transports behave. -/
theorem LineChange.assigned_congr {q : String} {l : Option Line} {L : Line}
    (ht : b.tracks = a.tracks) (hb : b.pool.behaviour = a.pool.behaviour)
    (hc : LineChange b q (.assigned r) l L) : q = r ∧ LineChange a q (.assigned r) l L := by
  cases hc with
  | assign ho hs hr =>
    rw [ht] at hr ⊢
    refine ⟨rfl, .assign ?_ hs hr⟩
    cases ho with
    | new => exact hb ▸ .new
    | bind hs => exact hb ▸ .bind hs
    | bound hs => exact .bound hs

/-- What is done from where the previous peer was left, is done by the move. -/
theorem Turn.depart {x : Outcome × Agent} (hx : Turn m (a.depart m) x) (ha : a.Sound)
    (ho : a.phase ≠ .closed) : Turn m a x := by
  cases m with
  | assigned r =>
    have hleft := left_depart ha ho r
    refine ⟨(hleft.effect _).trans hx.effect hleft.tracks hleft.stay fun q L hL => ?_,
      hx.posture, hx.answer⟩
    obtain ⟨rfl, hc⟩ := hL.assigned_congr hleft.tracks hleft.behaviour
    rwa [hleft.line] at hc
  | _ => exact hx

theorem reassigned_turn (ha : a.Lines) (har : a.Aside r) (hact : a.active = some r) {y : CallState}
    (hs : a.sessionState? r = some y) (hy : y ≠ .idle) :
    Turn m a (.ok (), { a with phase := .assigned }) where
  effect := (Effect.refl m ha).congr rfl rfl rfl
  posture := by
    refine har.posture ?_ nofun (fun _ _ => Iff.rfl) (fun _ _ => rfl) (fun _ => ⟨y, hs, hy⟩)
      fun _ _ _ => hact
    show Standing .assigned a.active
    rw [hact]
    exact .assigned r
  answer := nofun

/-- A session in which nothing had happened has its transport and the tracks. -/
theorem newlyAssigned_turn (hb : Ready a b r h id s t) (hs : s.state = .idle)
    (hact : b.active = some r) (hacc : t.refusedIn (s.handover a.tracks) = none) :
    Turn (.assigned r) a (.ok (), notify { b.withLine r h id ((s.enter .assigned).given a.tracks)
      (t.replay (s.handover a.tracks)) with phase := .assigned } (.assigned r)) := by
  refine placed_turn (s := (s.enter .assigned).given a.tracks) hb.scene hb.number
    (leg_handover hb.blank _ _) [] rfl (.assign hb.opens hs hacc) ⟨rfl, rfl, rfl⟩ ?_ nofun
    (fun _ _ => Iff.rfl) nofun fun _ => hact
  show Standing .assigned b.active
  rw [hact]
  exact .assigned r

/-! ### Sessions taken out -/

theorem left_turn (ha : a.Sound) (hs : (a.session? r).isSome) :
    Turn (.remoteLeft r) a (.ok (), { a.closeSession r with
      active := if a.active = some r then none else a.active
      phase :=
        if a.active = some r then (if a.phase.isTerminal then a.phase else .awaitingAssignment)
        else a.phase }) := by
  have ho : a.phase ≠ .closed := by
    obtain ⟨s, hs⟩ := Option.isSome_iff_exists.mp hs
    rw [session?_eq_line?] at hs
    obtain ⟨L, hL, -⟩ := Option.map_eq_some_iff.mp hs
    exact ha.posture.isOpen (lookup_of_line? hL).1
  have hstand := ha.posture.standing.unless_terminal ho .waiting
  have hopen : (if a.phase.isTerminal then a.phase else .awaitingAssignment) ≠ .closed := by
    split
    · exact ho
    · simp
  exact ⟨(closeSession_effect ha.lines r).congr rfl rfl rfl,
    (ha.posture.aside ho r).torn hstand hopen rfl rfl (lookup?_closeSession a r), nofun⟩

/-- The end of all sessions. -/
theorem released_turn (ha : a.Sound) (hr : b.registry = a.releaseAll.registry)
    (hret : b.retired = a.retired) (hp : b.pool.transports = a.releaseAll.pool.transports)
    (hphase : b.phase = .closed) (hact : b.active = none) : Turn m a (.ok (), b) where
  effect := (releaseAll_effect ha.lines).congr hr hret hp
  posture := .of_closed hphase hact fun q => by
    rw [hr]
    rfl
  answer := nofun

theorem fail_isOpen {f : Failure} (ho : a.phase ≠ .closed) : (a.fail r f).phase ≠ .closed := by
  rw [phase_fail ho]
  split
  · simp
  · exact ho

/-- Failures one after another. -/
theorem fails_turn {time : Nat} (late : List (String × Nat)) (ha : a.Sound)
    (ho : a.phase ≠ .closed) :
    Turn (.expire time) a (.ok (), late.foldl (fun a (r, t) => a.fail r (.timedOut r t)) a) := by
  induction late generalizing a with
  | nil => exact refused_turn ha nofun
  | cons e late ih =>
    obtain ⟨r, n⟩ := e
    have hfirst : Turn (.expire time) a (.ok (), a.fail r (.timedOut r n)) :=
      fail_turn ha.lines (ha.posture.aside ho r) _ nofun
    have hrest := ih (hfirst.sound ha) (fail_isOpen ho)
    refine ⟨hfirst.effect.trans hrest.effect ?_ (fun q L hL => ?_) (fun q L hL => nomatch hL),
      hrest.posture, nofun⟩
    · rw [fail_eq]
      exact tracks_closeSession a r
    · exact (hfirst.effect.line q L hL).resolve_right nofun

theorem mem_stalled_iff {timeout now n : Nat} : (r, n) ∈ a.stalled timeout now ↔
    ∃ s, a.session? r = some s ∧ overdue? timeout now s = some n := by
  unfold stalled
  rw [List.mem_filterMap]
  constructor
  · rintro ⟨⟨q, e⟩, he, hover⟩
    obtain ⟨n', hn, heq⟩ := Option.map_eq_some_iff.mp hover
    cases heq
    exact ⟨e.session, session?_of_lookup ((Registry.mem_entries_iff _ _ _).mp he), hn⟩
  · rintro ⟨s, hs, hn⟩
    obtain ⟨e, he, rfl⟩ := Option.map_eq_some_iff.mp hs
    exact ⟨(r, e), (Registry.mem_entries_iff _ _ _).mpr he, Option.map_eq_some_iff.mpr ⟨n, hn, rfl⟩⟩

/-- Without a session nothing is overdue. -/
theorem stalled_of_vacant (hl : ∀ r, a.registry.lookup? r = none) (timeout now : Nat) :
    a.stalled timeout now = [] := by
  refine List.eq_nil_iff_forall_not_mem.mpr fun ⟨q, n⟩ hm => ?_
  obtain ⟨s, hs, -⟩ := mem_stalled_iff.mp hm
  obtain ⟨e, he, -⟩ := Option.map_eq_some_iff.mp hs
  rw [show a.registry.lookup? q = none from hl q] at he
  cases he

theorem expired_turn (ha : a.Sound) (timeout time : Nat) :
    Turn (.expire time) a
      (.ok (), (a.stalled timeout time).foldl (fun a (r, t) => a.fail r (.timedOut r t)) a) := by
  by_cases ho : a.phase = .closed
  · have hvacant := fun r => sessionState?_eq_none_iff.mp (ha.posture.closed ho r)
    rw [stalled_of_vacant hvacant]
    exact refused_turn ha nofun
  · exact fails_turn _ ha ho

/-! ### All moves -/

theorem Standing.active_of_idle {y : Option String} (hs : Standing .idle y) : y = none := by
  cases hs
  rfl

/-- Each way a move can go is a turn. -/
theorem Deed.turn {x : Outcome × Agent} (hx : Deed a m x) (ha : a.Sound) : Turn m a x := by
  have hstand := ha.posture.standing
  cases hx with
  | @refused _ e he =>
    refine refused_turn ha fun q hq => ?_
    obtain rfl := Except.error.inj hq
    cases he
  | @failed m r f b c hset hb =>
    have ho : a.phase ≠ .closed := hset.phase ▸ hset.isOpen
    exact (hb.turn (ha.lines_depart ho m)).depart ha ho
  | echoed =>
    have hecho := echoes a m
    refine quiet_turn ha hecho.registry hecho.retired hecho.transports
      (ha.posture.same hecho.phase hecho.active fun q => ?_) nofun
    exact sessionState?_congr (by rw [hecho.registry])
  | unannounced hp =>
    rw [hp] at hstand
    refine quiet_turn ha rfl rfl rfl (ha.posture.congr ?_ nofun rfl fun _ => rfl) nofun
    exact .failed _ _
  | announced hp =>
    rw [hp] at hstand
    refine quiet_turn ha rfl rfl rfl (ha.posture.congr ?_ nofun rfl fun _ => rfl) nofun
    show Standing .awaitingAssignment a.active
    rw [hstand.active_of_idle]
    exact .waiting
  | @reassigned r y hset hs hy =>
    have ho : a.phase ≠ .closed := hset.phase ▸ hset.isOpen
    have hleft := left_depart ha ho r
    refine (reassigned_turn (ha.lines_depart ho _) hleft.aside hleft.active ?_ hy).depart ha ho
    rw [sessionState?_congr (lookup?_depart a r), hs]
  | @assigned r b h id s t hset hb hs hacc =>
    have ho : a.phase ≠ .closed := hset.phase ▸ hset.isOpen
    have hact := hset.active
    rw [if_pos rfl] at hact
    rw [← (left_depart ha ho r).tracks] at hacc ⊢
    exact (newlyAssigned_turn hb hs hact hacc).depart ha ho
  | @called r h id s t hset hh hat hacc _ hst =>
    have hs := Option.some.inj ((sessionState?_of_lookup hh.lookup).symm.trans hst)
    exact placed_turn (s := (s.given a.tracks).markLocal.start .offering a.now) (hh.scene ha)
      hh.number (leg_offer hat) [] rfl (hh.line? ▸ .offer hs hacc) ⟨rfl, rfl, rfl⟩ hstand
      hset.isOpen (fun _ _ => Iff.rfl) nofun fun _ => hset.subject
  | @settled _ _ r h id s t hset hh hat hacc hs =>
    exact placed_turn (s := s.markRemote.connect) (hh.scene ha) hh.number (leg_settle hat _ _) _
      rfl (hh.line? ▸ .settle hset.subject hs hacc) ⟨rfl, rfl, rfl⟩ hstand hset.isOpen
      (fun _ _ => Iff.rfl) (by simp [Session.connect]) (by simp [Session.connect])
  | answered hset hask hacc _ hc =>
    rw [hc]
    exact adopt_turn _ hask.scene hstand hask.number (leg_answer hask.blank _) _ rfl
      (.accept hask.opens hacc) rfl
  | taken ht => exact ht.turn ha
  | left hs => exact left_turn ha hs
  | relayed => exact quiet_turn ha rfl rfl rfl (ha.posture.same rfl rfl fun _ => rfl) nofun
  | @furnished ts r h id s t hset hh hs hacc =>
    obtain ⟨-, -, hat, -⟩ := (ha.lines.sound r _ hh.line?).at_stage .blank hs
    exact placed_turn (s := s.given ts) ((hh.scene ha).tracks ts) hh.number
      (leg_handover hat _ _) [] rfl (hh.line? ▸ .furnish hs hacc) ⟨rfl, rfl, rfl⟩ hstand
      hset.isOpen (fun _ _ => Iff.rfl) (by simp [Session.given, hs]) fun _ => hset.subject
  | hungUp _ hsaid =>
    rcases hsaid with ⟨-, rfl⟩ | ⟨-, rfl⟩ <;> exact released_turn ha rfl rfl rfl rfl rfl
  | lost => exact released_turn ha rfl rfl rfl rfl rfl
  | expired => exact expired_turn ha _ _

/-- What a move does to a sound agent. -/
theorem perform_turn (ha : a.Sound) (m : Move) : Turn m a (a.perform m) :=
  (perform_deed ha m).turn ha

theorem Sound.after (ha : a.Sound) (m : Move) : (a.after m).Sound := (perform_turn ha m).sound ha

theorem Sound.run (ha : a.Sound) (history : List Move) : (a.run history).Sound := by
  induction history generalizing a with
  | nil => exact ha
  | cons m history ih => exact ih (ha.after m)

/-- A fresh agent has no lines and no transports. -/
theorem sound_fresh (localId : String) (timeout : Option Nat) (tracks : List Track)
    (behaviour : Behaviour) (now : Nat) :
    (fresh localId timeout tracks (.fresh behaviour) now).Sound := by
  generalize ha : fresh localId timeout tracks (.fresh behaviour) now = a
  have hl : ∀ r, a.registry.lookup? r = none := fun r => by
    subst ha
    rfl
  have hline : ∀ r, a.line? r = none := fun r => line?_eq_none_iff.mpr (hl r)
  have hpool : ∀ i, a.transport? i = none := fun i => by
    subst ha
    rfl
  have hact : a.active = none := by
    subst ha
    rfl
  have hphase : a.phase = .idle := by
    subst ha
    rfl
  refine ⟨⟨fun r L h => ?_, fun r L h => ?_, fun r L h => ?_, fun i t h => ?_⟩,
    ⟨?_, fun _ r => sessionState?_eq_none_iff.mpr (hl r), fun r h => ?_, fun r s h => ?_⟩⟩
  · simp [hline] at h
  · simp [hline] at h
  · simp [hline] at h
  · simp [hpool] at h
  · rw [hphase, hact]
    exact .idle
  · simp [hact] at h
  · simp [sessionState?_eq_none_iff.mpr (hl r)] at h

theorem sound_run (localId : String) (timeout : Option Nat) (tracks : List Track)
    (behaviour : Behaviour) (now : Nat) (history : List Move) :
    ((fresh localId timeout tracks (.fresh behaviour) now).run history).Sound :=
  (sound_fresh localId timeout tracks behaviour now).run history

end CallSignaling.Agent
