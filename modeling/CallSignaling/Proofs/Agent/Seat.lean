import CallSignaling.Proofs.Agent.Effect

/-!
# Seat — the effects of putting a line into its place and of tearing it down

`Seat` says that a number is free for a peer's transport: it is that of the peer's line, or it is
the next one and the peer has none.  From there the two outcomes of an operation, a line in its
place (`Seat.effect_line`) and a line torn down (`Seat.effect_torn`), have their effects.
-/

namespace CallSignaling.Agent

variable {a b c : Agent} {r q : String} {m : Move} {h id : Nat} {s : Session} {t u : Scripted}

/-- The base of an operation on one peer: nothing but what concerns that peer has changed, and no
transport yet. -/
structure Base (a b : Agent) (r : String) : Prop where
  lookup : ∀ q, q ≠ r → b.registry.lookup? q = a.registry.lookup? q
  retired : ∀ q, q ≠ r → b.isRetired q = a.isRetired q
  issued : a.registry.issued ≤ b.registry.issued
  transport : ∀ i, b.transport? i = a.transport? i

theorem Base.refl (a : Agent) (r : String) : Base a a r :=
  ⟨fun _ _ => rfl, fun _ _ => rfl, Nat.le_refl _, fun _ => rfl⟩

/-- A number under which the transport `t` of a peer stands, or the next one and a new transport. -/
structure Seat (a : Agent) (r : String) (id : Nat) (t : Scripted) : Prop where
  remote : t.remote = r
  isOpen : t.closed = false
  same : ∀ u, a.transport? id = some u → u = t
  blank : a.transport? id = none → t.calls = []
  only : ∀ L i, a.line? r = some L → L.session.transport = some i → i = id

theorem Seat.calls (hs : a.Seat r id t) : a.calls id = t.calls := by
  unfold Agent.calls
  cases hi : a.transport? id with
  | none => exact (hs.blank hi).symm
  | some u => rw [hs.same u hi]; rfl

theorem Seat.handed (hs : a.Seat r id t) : a.handed id = t.candidates := by
  unfold Agent.handed
  cases hi : a.transport? id with
  | none => simp [Scripted.candidates, hs.blank hi]
  | some u => rw [hs.same u hi]; rfl

theorem Holds.seat (hh : a.Holds r h id s t) (ha : a.Lines) : a.Seat r id t := by
  obtain ⟨u, hu, hr, ho⟩ := ha.transport hh.lookup hh.number
  obtain rfl : u = t := by simpa [hh.transport] using hu.symm
  refine ⟨hr, ho, fun v hv => ?_, fun hn => ?_, fun L i hL hi => ?_⟩
  · simpa [hh.transport] using hv.symm
  · simp [hh.transport] at hn
  · obtain rfl : (⟨h, s, some u⟩ : Line) = L := by simpa [hh.line?] using hL
    simpa [hh.number] using hi.symm

/-- The next number is free for a peer without a transport. -/
theorem seat_new (a : Agent) (r : String) (b : Behaviour)
    (hn : ∀ L, a.line? r = some L → L.session.transport = none) :
    a.Seat r a.pool.transports.length (Scripted.create r b) := by
  have hi : a.transport? a.pool.transports.length = none := by simp [transport?]
  refine ⟨rfl, rfl, fun u hu => ?_, fun _ => rfl, fun L i hL hi => ?_⟩
  · simp [hi] at hu
  · simp [hn L hL] at hi

/-- Changing the transport of a seat concerns its peer only. -/
theorem Seat.touch (hs : a.Seat r id t) (hb : Base a b r)
    (hl : ∀ q, q ≠ r → c.registry.lookup? q = b.registry.lookup? q)
    (hr : ∀ q, q ≠ r → c.isRetired q = b.isRetired q)
    (hn : b.registry.issued ≤ c.registry.issued)
    (hi : ∀ i, c.transport? i = if i = id then some u else b.transport? i)
    (hur : u.remote = t.remote) (hub : u.behaviour = t.behaviour)
    (hg : Grows a.tracks t.calls u.calls) (hw : u.closed = true → u.candidates = t.candidates) :
    Touch a c r where
  lookup := fun q hq => (hl q hq).trans (hb.lookup q hq)
  retired := fun q hq => (hr q hq).trans (hb.retired q hq)
  issued := Nat.le_trans hb.issued hn
  kept := fun i v hv => by
    rw [hi, hb.transport]
    by_cases he : i = id
    · subst he
      obtain rfl := hs.same v hv
      exact ⟨u, if_pos rfl, hur, hub, .inr ⟨hs.remote, hs.isOpen⟩⟩
    · exact ⟨v, by rw [if_neg he, hv], rfl, rfl, .inl rfl⟩
  born := fun i v hv hnone => by
    rw [hi, hb.transport] at hv
    split at hv
    · rw [← Option.some.inj hv, hur]
      exact hs.remote
    · rw [hnone] at hv
      simp at hv
  grows := fun i v hv => by
    rw [hi, hb.transport] at hv
    split at hv
    next he =>
      subst he
      rw [hs.calls, ← Option.some.inj hv]
      exact hg
    next =>
      rw [calls_of_transport? hv]
      exact .refl _ _
  withheld := fun i v hv hc => by
    rw [hi, hb.transport] at hv
    split at hv
    next he =>
      subst he
      obtain rfl := Option.some.inj hv
      rw [hs.handed]
      exact hw hc
    next => exact (handed_of_transport? hv).symm

/-- The transports of a seat's peer: that of the seat, and others that are shut. -/
theorem Seat.own (hs : a.Seat r id t) (ha : a.Lines) {i : Nat} (hi : i ≠ id)
    (hu : a.transport? i = some u) (hr : u.remote = r) : ∃ k, u.Shut k := by
  rcases ha.owner i u hu with hk | ⟨L, hL, hLi⟩
  · exact hk
  · exact absurd (hs.only L i (hr ▸ hL) hLi) hi

/-- A line put into its place. -/
theorem Seat.effect_line (hs : a.Seat r id t) (ha : a.Lines) (hb : Base a b r)
    (hid : id ≤ b.pool.transports.length) (hnum : s.transport = some id)
    (hret : b.isRetired r = false)
    (hh : a.line? r = none → a.registry.issued ≤ h ∧ h < b.registry.issued)
    (hur : u.remote = t.remote) (hub : u.behaviour = t.behaviour)
    (hg : Grows a.tracks t.calls u.calls)
    (hc : a.line? r = some ⟨h, s, some u⟩ ∨ LineChange a r m (a.line? r) ⟨h, s, some u⟩) :
    Effect m a (b.withLine r h id s u) := by
  have hi := transport?_withLine (b := b) (r := r) (h := h) (s := s) (t := u) hid
  have hline : (b.withLine r h id s u).line? r = some ⟨h, s, some u⟩ := line?_withLine hid hnum
  have hopen : u.closed = false := (hc.elim (ha.sound r _) fun h => h.sound (ha.sound r)).isOpen
  have ht : Touch a (b.withLine r h id s u) r :=
    hs.touch hb (fun q hq => by rw [lookup?_withLine, if_neg hq]) (fun q hq => rfl)
      (Nat.le_refl _) hi hur hub hg fun h => by simp [hopen] at h
  refine ht.effect ha (fun L hL => ?_) (fun i v hv hr => ?_)
  · obtain rfl : ⟨h, s, some u⟩ = L := by simpa [hline] using hL
    exact ⟨hc, hret, hh⟩
  · by_cases he : i = id
    · exact .inr ⟨_, hline, by rw [he]; exact hnum⟩
    · rw [hi, if_neg he, hb.transport] at hv
      exact .inl (hs.own ha he hv hr)

/-- A line torn down. -/
theorem Seat.effect_torn (hs : a.Seat r id t) (ha : a.Lines) (hb : Base a b r)
    (hl : ∀ q, c.registry.lookup? q = if q = r then none else b.registry.lookup? q)
    (hr : ∀ q, q ≠ r → c.isRetired q = b.isRetired q)
    (hn : b.registry.issued ≤ c.registry.issued)
    (hi : ∀ i, c.transport? i = if i = id then some u.close else b.transport? i)
    (hu : Aborted a.tracks t u) : Effect m a c := by
  have hg : Grows a.tracks t.calls u.close.calls := by
    have : u.close.calls = u.calls ++ [.close] := rfl
    rw [this]
    exact hu.grows.append (by simp [Call.isCreate])
  obtain ⟨k, hk⟩ := hu.broken
  have ht : Touch a c r :=
    hs.touch hb (fun q hq => by rw [hl, if_neg hq]) hr hn hi hu.remote hu.behaviour hg fun _ =>
      u.close_candidates.trans hu.candidates
  refine ht.effect ha (fun L hL => ?_) (fun i v hv hvr => ?_)
  · have : c.line? r = none := line?_eq_none_iff.mpr (by rw [hl, if_pos rfl])
    simp [this] at hL
  · rw [hi, hb.transport] at hv
    split at hv
    · rw [← Option.some.inj hv]
      exact .inl ⟨k, u, hk, rfl⟩
    next he => exact .inl (hs.own ha he hv hvr)

/-! ### Without a transport -/

/-- A base whose peer has no transport, and has a line only as the move gives it one. -/
theorem Base.effect (hb : Base a b r) (ha : a.Lines)
    (hn : ∀ L, a.line? r = some L → L.session.transport = none)
    (hline : ∀ L, b.line? r = some L →
      (a.line? r = some L ∨ LineChange a r m (a.line? r) L) ∧ b.isRetired r = false ∧
      (a.line? r = none → a.registry.issued ≤ L.handle ∧ L.handle < b.registry.issued)) :
    Effect m a b := by
  have ht : Touch a b r := by
    refine ⟨hb.lookup, hb.retired, hb.issued, fun i t hi => ?_, fun i t hi hnone => ?_,
      fun i t hi => ?_, fun i t hi _ => ?_⟩
    · exact ⟨t, by rw [hb.transport, hi], rfl, rfl, .inl rfl⟩
    · rw [hb.transport, hnone] at hi
      simp at hi
    · rw [hb.transport] at hi
      rw [calls_of_transport? hi]
      exact .refl _ _
    · rw [hb.transport] at hi
      exact (handed_of_transport? hi).symm
  refine ht.effect ha hline fun i t hi hr => ?_
  rw [hb.transport] at hi
  rcases ha.owner i t hi with hk | ⟨L, hL, hLi⟩
  · exact .inl hk
  · rw [hr] at hL
    simp [hn L hL] at hLi

end CallSignaling.Agent
