import CallSignaling.Proofs.Agent.Posture

/-!
# Closing — sessions that are taken out

One session is closed when its peer leaves, is replaced or has failed, and all of them when the
client hangs up or the channel is gone.  Each of their transports is closed then, and once.
-/

namespace CallSignaling.Agent

variable {a b : Agent} {r : String} {m : Move} {h id : Nat} {s : Session} {t u : Scripted}

/-- A session that is bound to a transport holds an open one. -/
theorem Lines.holds (ha : a.Lines) (hl : a.registry.lookup? r = some ⟨h, s⟩)
    (hid : s.transport = some id) : ∃ t st k, a.Holds r h id s t ∧ t.At st k := by
  obtain ⟨t, ht, -⟩ := ha.transport hl hid
  have hh : a.Holds r h id s t := ⟨hl, hid, ht⟩
  cases ha.sound r _ hh.line? with
  | bound hr htr hat hf hst => exact ⟨t, _, _, hh, hat⟩

/-! ### One session -/

/-- A session closed in the middle of an operation. -/
theorem Seat.effect_closeSession (hs : a.Seat r id t) (ha : a.Lines) (hb : Base a b r)
    (hid : id ≤ b.pool.transports.length) (hnum : s.transport = some id)
    (hu : Aborted a.tracks t u) : Effect m a ((b.withLine r h id s u).closeSession r) := by
  refine hs.effect_torn ha hb (fun q => ?_) (fun q hq => ?_) ?_ (fun i => ?_) hu
  · rw [lookup?_closeSession, lookup?_withLine]
    split <;> rfl
  · rw [isRetired_closeSession, if_neg hq]
    rfl
  · exact Nat.le_of_eq (closeSession_issued (b.withLine r h id s u) r).symm
  · rw [transport?_closeSession, session?_withLine, Option.bind_some, hnum,
      transport?_withLine hid]
    by_cases hi : i = id
    · rw [if_pos (by rw [hi]), if_pos hi, if_pos hi, Option.map_some]
    · rw [if_neg (by simpa using Ne.symm hi), if_neg hi, if_neg hi]

theorem closeSession_base (hn : (a.session? r).bind Session.transport = none) :
    Base a (a.closeSession r) r where
  lookup := fun q hq => by rw [lookup?_closeSession, if_neg hq]
  retired := fun q hq => by rw [isRetired_closeSession, if_neg hq]
  issued := Nat.le_of_eq (closeSession_issued a r).symm
  transport := fun i => by rw [transport?_closeSession, hn, if_neg (by simp)]

/-- Closing the session with a peer, if there is one. -/
theorem closeSession_effect (ha : a.Lines) (r : String) : Effect m a (a.closeSession r) := by
  cases hn : (a.session? r).bind Session.transport with
  | none =>
    refine (closeSession_base hn).effect ha (fun L hL => ?_) (fun L hL => ?_)
    · rw [session?_eq_line?, hL] at hn
      exact hn
    · have : (a.closeSession r).line? r = none := by
        rw [line?_eq_none_iff, lookup?_closeSession, if_pos rfl]
      simp [this] at hL
  | some id =>
    obtain ⟨s, hs, hid⟩ := Option.bind_eq_some_iff.mp hn
    rw [session?_eq_line?] at hs
    obtain ⟨⟨h, s, l⟩, hL, rfl⟩ := Option.map_eq_some_iff.mp hs
    obtain ⟨t, st, k, hh, hat⟩ := ha.holds (lookup_of_line? hL).1 hid
    have he := (hh.seat ha).effect_closeSession (h := h) (m := m) ha (.refl a r) hh.le hid
      (.refl hat _)
    rwa [hh.withLine_eq] at he

/-- The lines of the other peers stay as they are. -/
theorem line?_closeSession (ha : a.Lines) (r q : String) :
    (a.closeSession r).line? q = if q = r then none else a.line? q := by
  by_cases hq : q = r
  · rw [if_pos hq, line?_eq_none_iff, lookup?_closeSession, if_pos hq]
  · rw [if_neg hq]
    refine line?_congr (by rw [lookup?_closeSession, if_neg hq]) fun e i he hi => ?_
    rw [transport?_closeSession, if_neg]
    intro hr
    obtain ⟨s, hs, hsi⟩ := Option.bind_eq_some_iff.mp hr
    rw [session?_eq_line?] at hs
    obtain ⟨L, hL, rfl⟩ := Option.map_eq_some_iff.mp hs
    obtain ⟨t, ht, htq, -⟩ := ha.transport he hi
    obtain ⟨u, hu, hur, -⟩ := ha.transport (lookup_of_line? hL).1 hsi
    obtain rfl : t = u := by simpa [ht] using hu
    exact hq (htq.symm.trans hur)

/-! ### All sessions -/

theorem transports_foldl_close (ids : List Nat) (hn : ids.Nodup) (p : Pool) (i : Nat) :
    (ids.foldl Pool.close p).transports[i]? =
      if i ∈ ids then p.transports[i]?.map Scripted.close else p.transports[i]? := by
  induction ids generalizing p with
  | nil => simp
  | cons id ids ih =>
    obtain ⟨hid, hn⟩ := List.nodup_cons.mp hn
    rw [List.foldl_cons, ih hn, Pool.getElem?_close]
    by_cases hi : i = id
    · subst hi
      simp [hid]
    · simp [hi]

/-- The numbers of the transports of all sessions. -/
def bound (a : Agent) : List Nat :=
  a.registry.entries.entries.filterMap fun e => e.2.session.transport

theorem mem_bound_iff {i : Nat} : i ∈ a.bound ↔
    ∃ r e, a.registry.lookup? r = some e ∧ e.session.transport = some i := by
  unfold bound
  simp only [List.mem_filterMap, Prod.exists, Registry.mem_entries_iff]

/-- No two sessions share a transport. -/
theorem Lines.nodup_bound (ha : a.Lines) : a.bound.Nodup := by
  refine List.pairwise_filterMap.mpr ?_
  refine List.Pairwise.imp_of_mem ?_ a.registry.entries.sorted
  rintro ⟨q, e⟩ ⟨r, f⟩ he hf hlt i hi j hj hij
  subst hij
  obtain ⟨t, ht, hq, -⟩ := ha.transport ((Registry.mem_entries_iff _ _ _).mp he) hi
  obtain ⟨u, hu, hr, -⟩ := ha.transport ((Registry.mem_entries_iff _ _ _).mp hf) hj
  obtain rfl : t = u := by simpa [ht] using hu
  obtain rfl : q = r := hq.symm.trans hr
  exact String.lt_irrefl q hlt

theorem transport?_releaseAll (ha : a.Lines) (i : Nat) :
    a.releaseAll.transport? i =
      if i ∈ a.bound then (a.transport? i).map Scripted.close else a.transport? i := by
  have hb : ((a.registry.drain).1.filterMap fun e => e.session.transport) = a.bound := by
    unfold bound Registry.drain
    rw [List.filterMap_map]
    rfl
  show (((a.registry.drain).1.filterMap fun e => e.session.transport).foldl Pool.close
    a.pool).transports[i]? = _
  rw [hb, transports_foldl_close _ ha.nodup_bound]
  rfl

/-- A transport that a session is bound to is open, and ends with the session. -/
theorem Lines.shut_close (ha : a.Lines) {i : Nat} (hi : i ∈ a.bound)
    (ht : a.transport? i = some t) : t.closed = false ∧ ∃ k, t.close.Shut k := by
  obtain ⟨r, ⟨h, s⟩, hl, hs⟩ := mem_bound_iff.mp hi
  obtain ⟨u, st, k, hh, hat⟩ := ha.holds hl hs
  obtain rfl : u = t := by simpa [hh.transport] using ht
  exact ⟨hat.isOpen, k, u, hat.broken, rfl⟩

/-- Taking out all sessions. -/
theorem releaseAll_effect (ha : a.Lines) : Effect m a a.releaseAll := by
  have hnone : ∀ r, a.releaseAll.line? r = none := fun r => line?_eq_none_iff.mpr rfl
  refine ⟨fun r L hL => by simp [hnone] at hL, fun r L hL => by simp [hnone] at hL,
    Nat.le_refl _, fun r L hL => by simp [hnone] at hL, fun i u hu => ?_, fun i t ht => ?_,
    fun i u hu => ?_, fun i u hu _ => ?_⟩
  · rw [transport?_releaseAll ha] at hu
    split at hu
    next hi =>
      obtain ⟨t, ht, rfl⟩ := Option.map_eq_some_iff.mp hu
      exact .inl (ha.shut_close hi ht).2
    next hi =>
      rcases ha.owner i u hu with hk | ⟨L, hL, hLi⟩
      · exact .inl hk
      · exact absurd (mem_bound_iff.mpr ⟨_, _, (lookup_of_line? hL).1, hLi⟩) hi
  · rw [transport?_releaseAll ha]
    split
    next hi =>
      refine ⟨t.close, by rw [ht, Option.map_some], rfl, rfl, fun hc => ?_⟩
      simp [(ha.shut_close hi ht).1] at hc
    next => exact ⟨t, ht, rfl, rfl, fun _ => rfl⟩
  · rw [transport?_releaseAll ha] at hu
    split at hu
    · obtain ⟨t, ht, rfl⟩ := Option.map_eq_some_iff.mp hu
      rw [calls_of_transport? ht]
      exact .of_not_isCreate _ _ (by simp [Call.isCreate])
    · rw [calls_of_transport? hu]
      exact .refl _ _
  · rw [transport?_releaseAll ha] at hu
    split at hu
    · obtain ⟨t, ht, rfl⟩ := Option.map_eq_some_iff.mp hu
      rw [handed_of_transport? ht, t.close_candidates]
    · exact (handed_of_transport? hu).symm

end CallSignaling.Agent
