import CallSignaling.Proofs.Agent.Closing

/-!
# Opening — what an operation on one peer sets out with

An agent is `Sound` between two moves.  An operation works on the transport of one peer (`Scene`).
An assignment and an offer may find their peer without a session or without a transport: they first
make sure of a live session (`Prepared`), and then they have a transport to call or its creation is
refused (`Prepared.start`).  An assignment has left the previous peer by then (`Left`).
-/

namespace CallSignaling.Agent

/-- An agent as it is between two moves. -/
structure Sound (a : Agent) : Prop where
  lines : a.Lines
  posture : a.Posture

variable {a b c : Agent} {r q : String} {m : Move} {h id : Nat} {s : Session} {t : Scripted}

/-- A session in which something has happened has a transport. -/
theorem Lines.begun (ha : a.Lines) (hl : a.registry.lookup? r = some ⟨h, s⟩)
    (hs : s.state ≠ .idle) : ∃ id t, a.Holds r h id s t := by
  have hsound := ha.sound r _ (line?_of_lookup hl)
  generalize hb : s.transport.bind a.transport? = l at hsound
  cases hsound with
  | idle => exact absurd rfl hs
  | bound =>
    obtain ⟨id, hid, ht⟩ := Option.bind_eq_some_iff.mp hb
    exact ⟨id, _, hl, hid, ht⟩

/-- The transport of such a session stands where the session is. -/
theorem Lines.at_stage (ha : a.Lines) (st : ExchangeStage)
    (hst : a.sessionState? r = some st.state) :
    ∃ h id s t, a.Holds r h id s t ∧ s.state = st.state ∧ t.At st s.tracksBound := by
  rw [sessionState?_eq_line?] at hst
  obtain ⟨L, hL, hs⟩ := Option.map_eq_some_iff.mp hst
  have hidle : L.session.state ≠ .idle := by
    rw [hs]
    cases st <;> simp [ExchangeStage.state]
  obtain ⟨id, t, hh⟩ := ha.begun (lookup_of_line? hL).1 hidle
  obtain ⟨-, -, hat, -⟩ := (ha.sound r _ hh.line?).at_stage st hs
  exact ⟨L.handle, id, L.session, t, hh, hs, hat⟩

/-- A session in which candidates do not wait is connected. -/
theorem connected_of_live {L : Line} (hL : L.Sound r)
    (hb : ¬ L.session.state.buffersCandidates = true) : L.session.state = .connected := by
  have hterm := hL.isTerminal
  cases hx : L.session.state <;>
    simp [hx, CallState.buffersCandidates, CallState.isTerminal] at hb hterm ⊢

/-! ### An operation on one peer -/

/-- An operation of `b` works on the transport `t` of a peer; nothing else is different from `a`. -/
structure Scene (a b : Agent) (r : String) (h id : Nat) (t : Scripted) : Prop where
  lines : a.Lines
  seat : a.Seat r id t
  base : Base a b r
  aside : b.Aside r
  le : id ≤ b.pool.transports.length
  retired : b.isRetired r = false
  fresh : a.line? r = none → a.registry.issued ≤ h ∧ h < b.registry.issued

theorem Holds.scene (hh : a.Holds r h id s t) (ha : a.Sound) : Scene a a r h id t where
  lines := ha.lines
  seat := hh.seat ha.lines
  base := .refl a r
  aside := ha.posture.aside (ha.posture.isOpen hh.lookup) r
  le := hh.le
  retired := ha.lines.retired r _ hh.line?
  fresh := fun hn => by simp [hh.line?] at hn

theorem Base.trans (hb : Base a b r) (hc : Base b c r) : Base a c r :=
  ⟨fun q hq => (hc.lookup q hq).trans (hb.lookup q hq),
    fun q hq => (hc.retired q hq).trans (hb.retired q hq), Nat.le_trans hb.issued hc.issued,
    fun i => (hc.transport i).trans (hb.transport i)⟩

/-! ### A session for the peer -/

/-- `b` is `a` with a session for a peer, which is not retired. -/
structure Prepared (a b : Agent) (r : String) (h : Nat) (s : Session) : Prop where
  base : Base a b r
  frame : b = { a with registry := b.registry, retired := b.retired }
  lookup : b.registry.lookup? r = some ⟨h, s⟩
  retired : b.isRetired r = false
  new : a.line? r = none → h = a.registry.issued ∧ h < b.registry.issued ∧ s = Session.fresh r
  old : ∀ L, a.line? r = some L → b = a

theorem enrol_base (a : Agent) (r : String) : Base a (a.enrol r) r where
  lookup := fun q hq => by rw [lookup?_enrol, if_neg hq]
  retired := fun _ _ => rfl
  issued := Nat.le_succ _
  transport := fun _ => rfl

theorem prepared (ha : a.Lines) (r : String) :
    ∃ h s, Prepared a ((a.unretire r).assign r) r h s := by
  cases hl : a.registry.lookup? r with
  | none =>
    rw [assign_of_none (a := a.unretire r) hl]
    refine ⟨a.registry.issued, Session.fresh r, ?_, rfl, ?_, ?_,
      fun _ => ⟨rfl, Nat.lt_succ_self _, rfl⟩, fun L hL => ?_⟩
    · have hret : Base a (a.unretire r) r :=
        ⟨fun _ _ => rfl, fun q hq => by rw [isRetired_unretire, if_neg hq], Nat.le_refl _,
          fun _ => rfl⟩
      exact hret.trans (enrol_base _ r)
    · rw [lookup?_enrol, if_pos rfl]
      rfl
    · show (a.unretire r).isRetired r = false
      rw [isRetired_unretire, if_pos rfl]
    · simp [line?_eq_none_iff.mpr hl] at hL
  | some e =>
    have hL := line?_of_lookup hl
    have hret := ha.retired r _ hL
    rw [unretire_eq_self hret, assign_of_live hl (ha.sound r _ hL).isTerminal]
    exact ⟨e.handle, e.session, .refl a r, rfl, hl, hret, fun hn => by simp [hL] at hn,
      fun _ _ => rfl⟩

theorem Prepared.scene (hp : Prepared a b r h s) (ha : a.Lines) (hbr : b.Aside r)
    (hs : a.Seat r id t) (hid : id ≤ b.pool.transports.length) : Scene a b r h id t where
  lines := ha
  seat := hs
  base := hp.base
  aside := hbr
  le := hid
  retired := hp.retired
  fresh := fun hn => by
    obtain ⟨rfl, hlt, -⟩ := hp.new hn
    exact ⟨Nat.le_refl _, hlt⟩

theorem Prepared.sessionState? (hp : Prepared a b r h s) : b.sessionState? r = some s.state :=
  sessionState?_of_lookup hp.lookup

/-- A session in which something has happened was there before. -/
theorem Prepared.eq_of_begun (hp : Prepared a b r h s) (hs : s.state ≠ .idle) : b = a := by
  cases hL : a.line? r with
  | none =>
    obtain ⟨-, -, rfl⟩ := hp.new hL
    exact absurd rfl hs
  | some L => exact hp.old L hL

/-- A session that was there before is in the same state. -/
theorem Prepared.state_eq (hp : Prepared a b r h s) {x : CallState}
    (hx : a.sessionState? r = some x) : s.state = x := by
  have hline := hx
  rw [sessionState?_eq_line?] at hline
  obtain ⟨L, hL, -⟩ := Option.map_eq_some_iff.mp hline
  obtain rfl := hp.old L hL
  exact Option.some.inj (hp.sessionState?.symm.trans hx)

/-! ### A transport for the session -/

theorem noTransport_of_idle (ha : a.Lines) {L : Line} (hL : a.line? r = some L)
    (hs : L.session.state = .idle) :
    L.session = { Session.fresh r with pending := L.session.pending } ∧ L.transport = none := by
  have := ha.sound r L hL
  cases this with
  | idle => exact ⟨rfl, rfl⟩
  | @bound h s t st k hr htr hat hf hst =>
    have : st.state = .idle := hf.state.symm.trans hs
    cases st <;> simp [ExchangeStage.state] at this

/-- An operation of `b` on a peer has a transport to call: that of its session or a new one. -/
structure Ready (a b : Agent) (r : String) (h id : Nat) (s : Session) (t : Scripted) : Prop where
  scene : Scene a b r h id t
  number : s.transport = some id
  opens : Opens a r (a.line? r) ⟨h, s, some t⟩
  bound : b.ensureBound r = (b.withLine r h id s t).ensureBound r

/-- Nothing but tracks was called on it. -/
theorem Ready.blank (hb : Ready a b r h id s t) : t.At .blank s.tracksBound := by
  obtain ⟨-, -, -, -, -, hat⟩ := hb.opens.blank (hb.scene.lines.sound r)
  exact hat

/-- What an operation on a prepared peer sets out with: a transport to call, or a refusal. -/
inductive Start (a b : Agent) (r : String) (h : Nat) (x : CallState) : Prop
  | refused (reason : String) : (∀ L, a.line? r = some L → L.session.transport = none) →
    b.ensureBound r = .error (.rejected r (.setup reason), b) → Start a b r h x
  | ready {id : Nat} {s : Session} {t : Scripted} : s.state = x → Ready a b r h id s t →
    Start a b r h x

/-- A session without a transport gets one, unless that is refused. -/
theorem Prepared.start_unbound (hp : Prepared a b r h s) (ha : a.Lines) (hbr : b.Aside r)
    (hs : s.transport = none) (hn : ∀ L, a.line? r = some L → L.session.transport = none)
    (ho : ∀ id, Opens a r (a.line? r) ⟨h, s.bind id, some (Scripted.create r a.pool.behaviour)⟩) :
    Start a b r h s.state := by
  have hpool : b.pool = a.pool := by rw [hp.frame]
  have hen := ensureBound_of_lookup hp.lookup hs
  cases hc : b.pool.behaviour.rejectCreate with
  | true =>
    rw [hc, if_pos rfl] at hen
    exact .refused _ hn hen
  | false =>
    rw [hc, if_neg (by simp), hpool] at hen
    have hid : a.pool.transports.length ≤ b.pool.transports.length := hpool ▸ Nat.le_refl _
    have hscene := hp.scene ha hbr (seat_new a r a.pool.behaviour hn) hid
    exact .ready (s := s.bind a.pool.transports.length) rfl
      ⟨hscene, rfl, ho _, hen.trans (ensureBound_withLine rfl).symm⟩

theorem Prepared.start (hp : Prepared a b r h s) (ha : a.Lines) (hbr : b.Aside r)
    (hs : s.state = .idle ∨ s.state = .assigned) : Start a b r h s.state := by
  cases hL : a.line? r with
  | none =>
    obtain ⟨-, -, rfl⟩ := hp.new hL
    exact hp.start_unbound ha hbr rfl (fun L h => by simp [hL] at h) fun id => hL ▸ .new
  | some L =>
    obtain rfl := hp.old L hL
    have hl := (lookup_of_line? hL).1
    obtain ⟨h', s', l⟩ := L
    obtain ⟨rfl, rfl⟩ : h' = h ∧ s' = s := by simpa [hp.lookup, eq_comm] using hl
    rcases hs with hs | hs
    · obtain ⟨he, rfl⟩ := noTransport_of_idle ha hL hs
      have hn : s'.transport = none := congrArg Session.transport he
      refine hp.start_unbound ha hbr hn (fun L h => ?_) fun id => hL ▸ .bind hs
      obtain rfl : _ = L := Option.some.inj (hL.symm.trans h)
      exact hn
    · have hst : b.sessionState? r = some ExchangeStage.blank.state := by
        rw [hp.sessionState?, hs]
        rfl
      obtain ⟨h'', id, s'', t, hh, -, -⟩ := ha.at_stage .blank hst
      obtain ⟨rfl, rfl⟩ : h'' = h' ∧ s'' = s' := by simpa [hp.lookup, eq_comm] using hh.lookup
      have hscene := hp.scene ha hbr (hh.seat ha) hh.le
      refine .ready rfl ⟨hscene, hh.number, hh.line? ▸ .bound hs, ?_⟩
      rw [hh.withLine_eq]

/-- An operation looks at the session only once it has made sure of the transport. -/
theorem answerOffer_congr (hen : b.ensureBound r = c.ensureBound r) (sdp : String) :
    b.answerOffer r sdp = c.answerOffer r sdp := by
  unfold answerOffer
  rw [hen]

theorem bindAssigned_congr (hen : b.ensureBound r = c.ensureBound r) :
    b.bindAssigned r = c.bindAssigned r := by
  unfold bindAssigned
  rw [hen]

/-- For a session in which something has happened before there is nothing to do. -/
theorem bindAssigned_of_begun (ha : a.Lines) (hl : a.registry.lookup? r = some ⟨h, s⟩)
    (hs : s.state ≠ .idle) : a.bindAssigned r = .ok a := by
  obtain ⟨id, t, hh⟩ := ha.begun hl hs
  have hbound := ensureBound_withLine (b := a) (r := r) (h := h) (t := t) hh.number
  rw [hh.withLine_eq] at hbound
  unfold bindAssigned
  rw [hbound]
  show (if a.sessionState? r = some .idle then _ else _) = _
  rw [sessionState?_of_lookup hl, if_neg (by simpa using hs)]
  rfl

/-! ### Leaving the previous peer -/

/-- The agent from which an operation works: an assignment has left the previous peer by then. -/
def depart (a : Agent) : Move → Agent
  | .assigned r => { a.leavePrevious r with active := some r }
  | _ => a

/-- `b` is `a` with a peer as the active one and without the session of the peer that was it. -/
structure Left (a b : Agent) (r : String) : Prop where
  effect : ∀ m, Effect m a b
  aside : b.Aside r
  active : b.active = some r
  line : b.line? r = a.line? r
  stay : ∀ q L, b.line? q = some L → a.line? q = some L
  tracks : b.tracks = a.tracks
  behaviour : b.pool.behaviour = a.pool.behaviour

theorem left_of_close {p : String} (ha : a.Sound) (ho : a.phase ≠ .closed)
    (hact : a.active = some p) (hp : p ≠ r) :
    Left a { a.closeSession p with active := some r } r := by
  refine ⟨fun m => (closeSession_effect ha.lines p).congr rfl rfl rfl,
    ⟨fun h => absurd rfl h, ?_, fun q hq h => ?_, fun q s hq hs hx => ?_⟩, rfl, ?_,
    fun q L hL => ?_, tracks_closeSession a p, release_behaviour (a.retire p) p⟩
  · show (a.closeSession p).phase ≠ .closed
    rw [phase_closeSession]
    exact ho
  · exact absurd (Option.some.inj h).symm hq
  · have hs' : (a.closeSession p).sessionState? q = some s := hs
    rw [sessionState?_eq_line?, line?_closeSession ha.lines] at hs'
    split at hs'
    · simp at hs'
    next hqp =>
      rw [← sessionState?_eq_line?] at hs'
      rw [ha.posture.solo q s hs' hx] at hact
      exact absurd (Option.some.inj hact) hqp
  · show (a.closeSession p).line? r = _
    rw [line?_closeSession ha.lines, if_neg (Ne.symm hp)]
  · have hL' : (a.closeSession p).line? q = some L := hL
    rw [line?_closeSession ha.lines] at hL'
    split at hL'
    · simp at hL'
    · exact hL'

theorem left_of_keep (ha : a.Sound) (ho : a.phase ≠ .closed)
    (hact : ∀ p, a.active = some p → p = r) : Left a { a with active := some r } r := by
  refine ⟨fun m => (Effect.refl m ha.lines).congr rfl rfl rfl,
    ⟨fun h => absurd rfl h, ho, fun q hq h => absurd (Option.some.inj h).symm hq,
      fun q s hq hs hx => ?_⟩, rfl, rfl, fun _ _ h => h, rfl, rfl⟩
  exact absurd (hact q (ha.posture.solo q s hs hx)) hq

theorem left_depart (ha : a.Sound) (ho : a.phase ≠ .closed) (r : String) :
    Left a (a.depart (.assigned r)) r := by
  show Left a { a.leavePrevious r with active := some r } r
  unfold leavePrevious
  cases hact : a.active with
  | none => exact left_of_keep ha ho (by simp [hact])
  | some p =>
    by_cases hp : p = r
    · simp only [hp, ne_eq, not_true_eq_false, if_false]
      exact left_of_keep ha ho (by simp [hact, hp])
    · simp only [ne_eq, hp, not_false_eq_true, if_true]
      exact left_of_close ha ho hact hp

/-- Whoever has left or stayed, the lines and the transports are in order. -/
theorem Sound.lines_depart (ha : a.Sound) (ho : a.phase ≠ .closed) (m : Move) :
    (a.depart m).Lines := by
  cases m with
  | assigned r => exact ((left_depart ha ho r).effect .hangUp).lines ha.lines
  | _ => exact ha.lines

end CallSignaling.Agent
