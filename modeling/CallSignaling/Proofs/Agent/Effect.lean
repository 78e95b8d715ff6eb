import CallSignaling.Proofs.Agent.Leg

/-!
# Effect — what one move does to the lines and the transports

`Lines` is the invariant of an agent's lines and transports.  `Effect` says what one move does to
them, for all peers at once, and keeps `Lines` (`Effect.lines`).  A move that concerns one peer has
its effect by `Touch.effect`: the lines of the others are as they were.
-/

namespace CallSignaling.Agent

/-- The calls made so far on the transport of this number. -/
def calls (a : Agent) (i : Nat) : List Call := ((a.transport? i).map Scripted.calls).getD []

/-- The candidates handed so far to the transport of this number. -/
def handed (a : Agent) (i : Nat) : List String :=
  ((a.transport? i).map Scripted.candidates).getD []

/-- The lines and the transports of an agent between two moves: every line is sound, and a transport
is either shut or that of the line of the peer it was created for. -/
structure Lines (a : Agent) : Prop where
  sound : ∀ r L, a.line? r = some L → L.Sound r
  handle : ∀ r L, a.line? r = some L → L.handle < a.registry.issued
  retired : ∀ r L, a.line? r = some L → a.isRetired r = false
  owner : ∀ i t, a.transport? i = some t →
    (∃ k, t.Shut k) ∨ ∃ L, a.line? t.remote = some L ∧ L.session.transport = some i

/-- What a move does to the lines and the transports. -/
structure Effect (m : Move) (a b : Agent) : Prop where
  line : ∀ r L, b.line? r = some L → a.line? r = some L ∨ LineChange a r m (a.line? r) L
  fresh : ∀ r L, b.line? r = some L → a.line? r = none →
    a.registry.issued ≤ L.handle ∧ L.handle < b.registry.issued
  issued : a.registry.issued ≤ b.registry.issued
  retired : ∀ r L, b.line? r = some L → b.isRetired r = false
  owner : ∀ i t, b.transport? i = some t →
    (∃ k, t.Shut k) ∨ ∃ L, b.line? t.remote = some L ∧ L.session.transport = some i
  kept : ∀ i t, a.transport? i = some t → ∃ u, b.transport? i = some u ∧ u.remote = t.remote ∧
    u.behaviour = t.behaviour ∧ (t.closed = true → u = t)
  grows : ∀ i t, b.transport? i = some t → Grows a.tracks (a.calls i) t.calls
  /-- A move that closes a transport, and one that finds it closed, hands it no candidate. -/
  withheld : ∀ i t, b.transport? i = some t → t.closed = true → t.candidates = a.handed i

variable {a b : Agent} {r q : String} {m : Move} {id : Nat} {t u : Scripted}

theorem calls_of_transport? {i : Nat} (ht : a.transport? i = some t) : a.calls i = t.calls := by
  unfold Agent.calls
  rw [ht]
  rfl

theorem handed_of_transport? {i : Nat} (ht : a.transport? i = some t) :
    a.handed i = t.candidates := by
  unfold handed
  rw [ht]
  rfl

/-- A line that stays keeps its handle. -/
theorem Effect.handle_eq (he : Effect m a b) {K L : Line} (hL : b.line? r = some L)
    (hK : a.line? r = some K) : K.handle = L.handle := by
  rcases he.line r L hL with h | h
  · rw [Option.some.inj (hK.symm.trans h)]
  · rw [hK] at h
    exact h.handle_eq

theorem Effect.lines (he : Effect m a b) (ha : a.Lines) : b.Lines where
  sound := fun r L hL => by
    rcases he.line r L hL with h | h
    · exact ha.sound r L h
    · exact h.sound (ha.sound r)
  handle := fun r L hL => by
    cases hK : a.line? r with
    | none => exact (he.fresh r L hL hK).2
    | some K =>
      rw [← he.handle_eq hL hK]
      exact Nat.lt_of_lt_of_le (ha.handle r K hK) he.issued
  retired := he.retired
  owner := he.owner

/-! ### Moves that concern one peer -/

/-- `b` differs from `a` in nothing but what concerns one peer. -/
structure Touch (a b : Agent) (r : String) : Prop where
  lookup : ∀ q, q ≠ r → b.registry.lookup? q = a.registry.lookup? q
  retired : ∀ q, q ≠ r → b.isRetired q = a.isRetired q
  issued : a.registry.issued ≤ b.registry.issued
  kept : ∀ i t, a.transport? i = some t → ∃ u, b.transport? i = some u ∧ u.remote = t.remote ∧
    u.behaviour = t.behaviour ∧ (u = t ∨ t.remote = r ∧ t.closed = false)
  born : ∀ i u, b.transport? i = some u → a.transport? i = none → u.remote = r
  grows : ∀ i t, b.transport? i = some t → Grows a.tracks (a.calls i) t.calls
  withheld : ∀ i t, b.transport? i = some t → t.closed = true → t.candidates = a.handed i

/-- The transport of another peer's line is its own. -/
theorem Lines.transport (ha : a.Lines) {e : Registered} {i : Nat}
    (hl : a.registry.lookup? q = some e) (hi : e.session.transport = some i) :
    ∃ t, a.transport? i = some t ∧ t.remote = q ∧ t.closed = false := by
  have hL := line?_of_lookup hl
  have hs := ha.sound q _ hL
  rw [hi, Option.bind_some] at hs
  generalize ht : a.transport? i = t at hs
  obtain ⟨h, s⟩ := e
  cases hs with
  | idle => simp [Session.fresh] at hi
  | bound hr htr hat hf hst => exact ⟨_, rfl, htr, hat.isOpen⟩

theorem Touch.line? (ht : Touch a b r) (ha : a.Lines) (hq : q ≠ r) : b.line? q = a.line? q := by
  refine line?_congr (ht.lookup q hq) fun e i he hi => ?_
  obtain ⟨t, hti, htr, -⟩ := ha.transport he hi
  obtain ⟨u, hu, -, -, rfl | ⟨hr, -⟩⟩ := ht.kept i t hti
  · rw [hu, hti]
  · exact absurd (htr.symm.trans hr) hq

/-- The effect of a move that concerns one peer, by what it does to that peer's line and
transports. -/
theorem Touch.effect (ht : Touch a b r) (ha : a.Lines)
    (hline : ∀ L, b.line? r = some L →
      (a.line? r = some L ∨ LineChange a r m (a.line? r) L) ∧ b.isRetired r = false ∧
      (a.line? r = none → a.registry.issued ≤ L.handle ∧ L.handle < b.registry.issued))
    (hown : ∀ i t, b.transport? i = some t → t.remote = r →
      (∃ k, t.Shut k) ∨ ∃ L, b.line? r = some L ∧ L.session.transport = some i) :
    Effect m a b where
  line := fun q L hL => by
    by_cases hq : q = r
    · subst hq
      exact (hline L hL).1
    · exact .inl (by rw [← ht.line? ha hq, hL])
  fresh := fun q L hL hn => by
    by_cases hq : q = r
    · subst hq
      exact (hline L hL).2.2 hn
    · rw [ht.line? ha hq, hn] at hL
      simp at hL
  issued := ht.issued
  retired := fun q L hL => by
    by_cases hq : q = r
    · subst hq
      exact (hline L hL).2.1
    · rw [ht.retired q hq]
      exact ha.retired q L (by rw [← ht.line? ha hq, hL])
  owner := fun i t hti => by
    by_cases hq : t.remote = r
    · rw [hq]
      exact hown i t hti hq
    · cases hi : a.transport? i with
      | none => exact absurd (ht.born i t hti hi) hq
      | some u =>
        obtain ⟨v, hv, hvr, -, hu⟩ := ht.kept i u hi
        obtain rfl : v = t := by simpa [hv] using hti
        rcases hu with rfl | ⟨hur, -⟩
        · rw [ht.line? ha hq]
          exact ha.owner i v hi
        · exact absurd (hvr.trans hur) hq
  kept := fun i t hti => by
    obtain ⟨u, hu, hur, hub, h⟩ := ht.kept i t hti
    refine ⟨u, hu, hur, hub, fun hc => ?_⟩
    rcases h with rfl | ⟨-, ho⟩
    · rfl
    · simp [ho] at hc
  grows := ht.grows
  withheld := ht.withheld

/-! ### Effects one after another -/

/-- A move without an effect. -/
theorem Effect.refl (m : Move) (ha : a.Lines) : Effect m a a where
  line := fun r L hL => .inl hL
  fresh := fun r L hL hn => by simp [hn] at hL
  issued := Nat.le_refl _
  retired := ha.retired
  owner := ha.owner
  kept := fun i t ht => ⟨t, ht, rfl, rfl, fun _ => rfl⟩
  grows := fun i t ht => by
    rw [calls_of_transport? ht]
    exact .refl _ _
  withheld := fun i t ht _ => (handed_of_transport? ht).symm

/-- The effect is seen in the registry, in the retired peers and in the transports only. -/
theorem Effect.congr {c : Agent} (he : Effect m a b) (hr : c.registry = b.registry)
    (hret : c.retired = b.retired) (hp : c.pool.transports = b.pool.transports) :
    Effect m a c := by
  obtain ⟨_, _, _, _, Rb, Sb, _, ⟨_, Tb⟩, _, _, _⟩ := b
  obtain ⟨_, _, _, _, Rc, Sc, _, ⟨_, Tc⟩, _, _, _⟩ := c
  obtain rfl : Rc = Rb := hr
  obtain rfl : Sc = Sb := hret
  obtain rfl : Tc = Tb := hp
  exact ⟨he.line, he.fresh, he.issued, he.retired, he.owner, he.kept, he.grows,
    he.withheld⟩

/-- No transport is lost. -/
theorem Effect.transport?_eq_none (he : Effect m a b) {i : Nat} (hi : b.transport? i = none) :
    a.transport? i = none := by
  cases ht : a.transport? i with
  | none => rfl
  | some t =>
    obtain ⟨u, hu, -⟩ := he.kept i t ht
    rw [hu] at hi
    cases hi

/-- The effect of a move that first takes some lines out and changes the others then. -/
theorem Effect.trans {c : Agent} (h : Effect m a b) (h' : Effect m b c)
    (hts : b.tracks = a.tracks)
    (hstay : ∀ q L, b.line? q = some L → a.line? q = some L)
    (hline : ∀ q L, LineChange b q m (b.line? q) L → LineChange a q m (a.line? q) L) :
    Effect m a c where
  line := fun q L hL => (h'.line q L hL).imp (hstay q L) (hline q L)
  fresh := fun q L hL hn => by
    have hb : b.line? q = none := by
      cases hK : b.line? q with
      | none => rfl
      | some K => simp [hstay q K hK] at hn
    obtain ⟨hlo, hhi⟩ := h'.fresh q L hL hb
    exact ⟨Nat.le_trans h.issued hlo, hhi⟩
  issued := Nat.le_trans h.issued h'.issued
  retired := h'.retired
  owner := h'.owner
  kept := fun i t ht => by
    obtain ⟨u, hu, hur, hub, huc⟩ := h.kept i t ht
    obtain ⟨v, hv, hvr, hvb, hvc⟩ := h'.kept i u hu
    refine ⟨v, hv, hvr.trans hur, hvb.trans hub, fun hc => ?_⟩
    obtain rfl := huc hc
    exact hvc hc
  grows := fun i v hv => by
    have hv' := h'.grows i v hv
    rw [hts] at hv'
    refine .trans ?_ hv'
    cases hu : b.transport? i with
    | some u =>
      rw [calls_of_transport? hu]
      exact h.grows i u hu
    | none =>
      unfold Agent.calls
      rw [h.transport?_eq_none hu, hu]
      exact .refl _ _
  withheld := fun i v hv hc => by
    rw [h'.withheld i v hv hc]
    cases hu : b.transport? i with
    | none =>
      unfold handed
      rw [h.transport?_eq_none hu, hu]
    | some u =>
      rw [handed_of_transport? hu]
      rcases h.owner i u hu with ⟨k, w, -, rfl⟩ | ⟨L, hL, hi⟩
      · exact h.withheld i _ hu rfl
      · -- a line that has stayed has its transport as it was
        have hnew := (lookup_of_line? hL).2
        have hold := (lookup_of_line? (hstay _ L hL)).2
        rw [hi, Option.bind_some] at hnew hold
        rw [handed_of_transport? (hold.symm.trans (hnew.trans hu))]

end CallSignaling.Agent
