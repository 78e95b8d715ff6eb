import CallSignaling.Proofs.Agent.Consistency
import CallSignaling.Proofs.Agent.Ownership
import CallSignaling.Proofs.Agent.Disguise
import Mathlib.Data.List.Nodup

/-!
# Expiry — offers that are never answered

Main statement: `expiry_run`.  Of all sessions only that with the active peer can be under way with
an offer, so at most one is overdue (`Sound.stalled_eq`).  The expiry takes out exactly that one and
reports it (`Expiry`); whoever looks again at the same time finds nothing left to do.
-/

namespace CallSignaling.Agent

/-- The peer was offered a call at `start` and has not answered yet. -/
structure OfferedAt (a : Agent) (r : String) (start : Nat) : Prop where
  offering : a.sessionState? r = some .offering
  started : (a.session? r).bind Session.started = some start

/-- The offer to a peer, made at `start`, has been waiting for its answer at `time` for as long as
`timeout` or longer.  An offer that is made later than `time` has not waited. -/
structure Overdue (a : Agent) (timeout time : Nat) (r : String) (start : Nat) : Prop extends
    OfferedAt a r start where
  long : timeout ≤ time - start

/-- What the expiry at `time` answers, `n`, and makes of an agent, `b`. -/
structure Expiry (a : Agent) (timeout time n : Nat) (b : Agent) : Prop where
  gone : ∀ r start, a.Overdue timeout time r start → b.session? r = none ∧ b.isRetired r = true
  released : ∀ r start, a.Overdue timeout time r start → ∃ i t, a.Owns r i ∧
    a.transport? i = some t ∧ .close ∉ t.calls ∧ b.transport? i = some t.close
  reported : ∀ r start, a.Overdue timeout time r start →
    b.notices = a.notices ++ [.fatal (CallError.timedOut r (time - start)).message]
  ended : ∀ r start, a.Overdue timeout time r start →
    b.active = none ∧ b.phase = .failed .timeout
  /-- A session that is not overdue stays as it is, and so does its transport. -/
  kept : ∀ r, (∀ start, ¬ a.Overdue timeout time r start) →
    b.line? r = a.line? r ∧ b.isRetired r = a.isRetired r
  untouched : ∀ i, (∀ r start, a.Overdue timeout time r start → ¬ a.Owns r i) →
    b.transport? i = a.transport? i
  unconcerned : (∀ r start, ¬ a.Overdue timeout time r start) → b = a
  unsaid : b.outbox = a.outbox
  count : n = (a.registry.remotes.filter fun r => (b.session? r).isNone).length
  atMostOne : n ≤ 1
  again : b.expire time = (0, b)

variable {a b : Agent} {timeout time start start' n : Nat} {q r : String}

/-! ### Who is overdue -/

theorem offeredAt_congr (h : b.session? r = a.session? r) :
    b.OfferedAt r start ↔ a.OfferedAt r start := by
  have hstate : b.sessionState? r = a.sessionState? r := congrArg (Option.map Session.state) h
  constructor
  · intro hb
    exact ⟨hstate ▸ hb.offering, h ▸ hb.started⟩
  · intro ha
    exact ⟨hstate.trans ha.offering, by rw [h]; exact ha.started⟩

/-- Only the active peer can be overdue, and at one time at most. -/
theorem Sound.overdue_unique (ha : a.Sound) (hq : a.Overdue timeout time q start')
    (hr : a.Overdue timeout time r start) : q = r ∧ start' = start := by
  have hactive : some q = some r :=
    (ha.posture.solo q _ hq.offering (.inr rfl)).symm.trans
      (ha.posture.solo r _ hr.offering (.inr rfl))
  obtain rfl := Option.some.inj hactive
  exact ⟨rfl, Option.some.inj (hq.started.symm.trans hr.started)⟩

theorem Sound.mem_stalled (ha : a.Sound) : (r, n) ∈ a.stalled timeout time ↔
    ∃ start, a.Overdue timeout time r start ∧ n = time - start := by
  rw [mem_stalled_iff]
  constructor
  · rintro ⟨s, hs, hover⟩
    unfold overdue? at hover
    split at hover
    next hstate =>
      obtain ⟨start, hstart, hlong⟩ := Option.bind_eq_some_iff.mp hover
      split at hlong
      next hle =>
        have hoffering : s.state = .offering := by
          rcases hstate with h | h
          · exact h
          · -- no session is found in the middle of an answer
            simpa [h] using (ha.inOrder hs).state
        refine ⟨start, ⟨⟨?_, ?_⟩, hle⟩, (Option.some.inj hlong).symm⟩
        · rw [sessionState?, hs, Option.map_some, hoffering]
        · rw [hs, Option.bind_some, hstart]
      next => cases hlong
    next => cases hover
  · rintro ⟨start, ho, rfl⟩
    obtain ⟨s, hs, hstart⟩ := Option.bind_eq_some_iff.mp ho.started
    have hstate := ho.offering
    rw [sessionState?, hs, Option.map_some] at hstate
    refine ⟨s, hs, ?_⟩
    unfold overdue?
    rw [if_pos (.inl (Option.some.inj hstate)), hstart, Option.bind_some, if_pos ho.long]

theorem Sound.stalled_eq_nil (ha : a.Sound) (hno : ∀ r start, ¬ a.Overdue timeout time r start) :
    a.stalled timeout time = [] := by
  refine List.eq_nil_iff_forall_not_mem.mpr fun ⟨r, n⟩ hm => ?_
  obtain ⟨start, ho, -⟩ := ha.mem_stalled.mp hm
  exact hno r start ho

/-- The peers that are overdue stand in increasing order. -/
theorem sorted_stalled (a : Agent) (timeout time : Nat) :
    (a.stalled timeout time).Pairwise fun x y => x.1 < y.1 := by
  refine List.pairwise_filterMap.mpr (a.registry.entries.sorted.imp ?_)
  rintro ⟨q, e⟩ ⟨r, f⟩ hlt x hx y hy
  obtain ⟨-, -, rfl⟩ := Option.map_eq_some_iff.mp hx
  obtain ⟨-, -, rfl⟩ := Option.map_eq_some_iff.mp hy
  exact hlt

/-- Who is overdue is so alone. -/
theorem Sound.stalled_eq (ha : a.Sound) (ho : a.Overdue timeout time r start) :
    a.stalled timeout time = [(r, time - start)] := by
  have hall : ∀ x ∈ a.stalled timeout time, x = (r, time - start) := by
    rintro ⟨q, n⟩ hm
    obtain ⟨start', ho', rfl⟩ := ha.mem_stalled.mp hm
    obtain ⟨rfl, rfl⟩ := ha.overdue_unique ho' ho
    rfl
  have hone : (r, time - start) ∈ a.stalled timeout time := ha.mem_stalled.mpr ⟨start, ho, rfl⟩
  have hsorted := sorted_stalled a timeout time
  generalize a.stalled timeout time = late at hall hone hsorted
  match late with
  | [] => cases hone
  | [x] => rw [hall x (by simp)]
  | x :: y :: rest =>
    have hlt := (List.pairwise_cons.mp hsorted).1 y List.mem_cons_self
    rw [hall x (by simp), hall y (by simp)] at hlt
    exact absurd hlt (String.lt_irrefl r)

theorem Sound.expire_of_none (ha : a.Sound)
    (hno : ∀ timeout, a.timeout = some timeout → ∀ r start, ¬ a.Overdue timeout time r start) :
    a.expire time = (0, a) := by
  unfold expire
  cases ht : a.timeout with
  | none => rfl
  | some timeout =>
    simp only [ha.stalled_eq_nil (hno timeout ht), List.length_nil, List.foldl_nil]

theorem Sound.expire_of_overdue (ha : a.Sound) (ht : a.timeout = some timeout)
    (ho : a.Overdue timeout time r start) :
    a.expire time = (1, a.fail r (.timedOut r (time - start))) := by
  unfold expire
  simp only [ht, ha.stalled_eq ho, List.length_cons, List.length_nil, List.foldl_cons,
    List.foldl_nil]

/-! ### What the expiry leaves -/

theorem mem_remotes_iff : q ∈ a.registry.remotes ↔ (a.session? q).isSome := by
  show q ∈ a.registry.entries.names ↔ ((a.registry.lookup? q).map Registered.session).isSome
  rw [Roster.mem_names_iff, Option.isSome_map]
  exact Iff.rfl

/-- Where a failure takes out the session with a peer, it is the only one that is missing then. -/
theorem remotes_fail (hr : (a.session? r).isSome) (f : Failure) :
    a.registry.remotes.filter (fun q => ((a.fail r f).session? q).isNone) = [r] := by
  have hmissing : ∀ q ∈ a.registry.remotes,
      ((a.fail r f).session? q).isNone = (q == r) := fun q hq => by
    have hsome := mem_remotes_iff.mp hq
    rw [session?_fail]
    by_cases h : q = r
    · simp [h]
    · simp [h, Option.isNone_eq_false_iff.mpr hsome]
  have hnodup : a.registry.remotes.Nodup := by
    refine List.Pairwise.imp ?_ a.registry.entries.sorted_names
    rintro p q hlt rfl
    exact String.lt_irrefl p hlt
  rw [List.filter_congr hmissing, List.filter_beq,
    List.count_eq_one_of_mem hnodup (mem_remotes_iff.mpr hr)]
  rfl

theorem Sound.expiry_of_none (ha : a.Sound) (hno : ∀ r start, ¬ a.Overdue timeout time r start)
    (ht : a.timeout = some timeout) : Expiry a timeout time 0 a where
  gone := fun r start ho => absurd ho (hno r start)
  released := fun r start ho => absurd ho (hno r start)
  reported := fun r start ho => absurd ho (hno r start)
  ended := fun r start ho => absurd ho (hno r start)
  kept := fun _ _ => ⟨rfl, rfl⟩
  untouched := fun _ _ => rfl
  unconcerned := fun _ => rfl
  unsaid := rfl
  count := by
    have hnone : a.registry.remotes.filter (fun r => (a.session? r).isNone) = [] :=
      List.filter_eq_nil_iff.mpr fun q hq => by
        rw [Option.isNone_eq_false_iff.mpr (mem_remotes_iff.mp hq)]
        exact Bool.false_ne_true
    rw [hnone]
    rfl
  atMostOne := Nat.zero_le 1
  again := ha.expire_of_none fun timeout' ht' => by
    obtain rfl := Option.some.inj (ht.symm.trans ht')
    exact hno

/-- The transport of a session is open; that of a session that fails is closed then. -/
theorem Sound.released_fail (ha : a.Sound) (ho : a.Overdue timeout time r start) (f : Failure) :
    ∃ i t, a.Owns r i ∧ a.transport? i = some t ∧ .close ∉ t.calls ∧
      (a.fail r f).transport? i = some t.close := by
  obtain ⟨s, hs, hstate⟩ := Option.map_eq_some_iff.mp ho.offering
  obtain ⟨i, t, hi, ht, -⟩ := (ha.inOrder hs).bound (by simp [hstate])
  have howns : a.Owns r i := ⟨s, hs, hi⟩
  refine ⟨i, t, howns, ht, ?_, ?_⟩
  · rcases ha.lines.owned.disposed i t ht with ⟨-, hopen, -⟩ | ⟨-, hno⟩
    · exact hopen
    · exact absurd howns (hno r)
  · rw [transport?_fail, hs, Option.bind_some, if_pos hi, ht, Option.map_some]

theorem Sound.expiry_of_overdue (ha : a.Sound) (ht : a.timeout = some timeout)
    (ho : a.Overdue timeout time r start) :
    Expiry a timeout time 1 (a.fail r (.timedOut r (time - start))) := by
  have hactive : a.active = some r := ha.posture.solo r _ ho.offering (.inr rfl)
  obtain ⟨s, hs, -⟩ := Option.map_eq_some_iff.mp ho.offering
  obtain ⟨e, hl, -⟩ := Option.map_eq_some_iff.mp hs
  have hopen := ha.posture.isOpen hl
  have hexpire := ha.expire_of_overdue ht ho
  have hsession := session?_fail a r (.timedOut r (time - start))
  have hreleased := ha.released_fail ho (.timedOut r (time - start))
  have hcount := remotes_fail (by rw [hs]; rfl) (Failure.timedOut r (time - start))
  have hsound : (a.fail r (.timedOut r (time - start))).Sound := by
    have hafter : a.after (.expire time) = a.fail r (.timedOut r (time - start)) :=
      congrArg Prod.snd hexpire
    exact hafter ▸ ha.after (.expire time)
  have htimeout : (a.fail r (.timedOut r (time - start))).timeout = some timeout :=
    (congrArg (fun k => k.2.1) (fail_keeps a r _)).trans ht
  -- whoever is overdue is this peer
  have honly : ∀ q start', a.Overdue timeout time q start' → q = r ∧ start' = start :=
    fun q start' ho' => ha.overdue_unique ho' ho
  have hothers : ∀ q, (∀ start', ¬ a.Overdue timeout time q start') → q ≠ r := fun q hno hq =>
    hno start (hq ▸ ho)
  refine
    { gone := fun q start' ho' => ?_
      released := fun q start' ho' => ?_
      reported := fun q start' ho' => ?_
      ended := fun q start' ho' => ?_
      kept := fun q hno => ?_
      untouched := fun i hno => ?_
      unconcerned := fun hno => absurd ho (hno r start)
      unsaid := ?_
      count := (congrArg List.length hcount).symm
      atMostOne := Nat.le_refl 1
      again := hsound.expire_of_none fun timeout' ht' q start' ho' => ?_ }
  · obtain ⟨rfl, -⟩ := honly q start' ho'
    exact ⟨by rw [hsession, if_pos rfl], by simp⟩
  · obtain ⟨rfl, -⟩ := honly q start' ho'
    exact hreleased
  · obtain ⟨rfl, rfl⟩ := honly q start' ho'
    exact notices_fail ..
  · rw [phase_fail hopen, if_pos hactive, active_fail, if_pos hactive]
    exact ⟨rfl, rfl⟩
  · have hq := hothers q hno
    refine ⟨?_, by simp [hq]⟩
    rw [fail_eq]
    exact (line?_closeSession ha.lines r q).trans (if_neg hq)
  · refine (transport?_fail a r _ i).trans (if_neg fun hi => ?_)
    obtain ⟨s', hs', hsi⟩ := Option.bind_eq_some_iff.mp hi
    exact hno r start ho ⟨s', hs', hsi⟩
  · exact outbox_fail ..
  · obtain rfl := Option.some.inj (htimeout.symm.trans ht')
    by_cases hq : q = r
    · have hgone := ho'.started
      rw [hsession, if_pos hq] at hgone
      cases hgone
    · have hsame := hsession q
      rw [if_neg hq] at hsame
      exact hq (honly q start' ⟨(offeredAt_congr hsame).mp ho'.toOfferedAt, ho'.long⟩).1

theorem Sound.expiry (ha : a.Sound) (ht : a.timeout = some timeout) (time : Nat) :
    Expiry a timeout time (a.expire time).1 (a.expire time).2 := by
  by_cases hex : ∃ r start, a.Overdue timeout time r start
  · obtain ⟨r, start, ho⟩ := hex
    rw [ha.expire_of_overdue ht ho]
    exact ha.expiry_of_overdue ht ho
  · have hno : ∀ r start, ¬ a.Overdue timeout time r start := fun r start ho => hex ⟨r, start, ho⟩
    rw [ha.expire_of_none fun timeout' ht' => by
      obtain rfl := Option.some.inj (ht.symm.trans ht')
      exact hno]
    exact ha.expiry_of_none hno ht

/-- After any moves and at any time, also one that lies before some of the offers, the expiry takes
out the session that is overdue, if there is one, and that one only; without a timeout it does
nothing. -/
theorem expiry_run (localId : String) (timeout : Option Nat) (tracks : List Track)
    (behaviour : Behaviour) (now : Nat) (history : List Move) (time : Nat) :
    let a := (fresh localId timeout tracks (.fresh behaviour) now).run history
    match timeout with
    | none => a.expire time = (0, a)
    | some limit => Expiry a limit time (a.expire time).1 (a.expire time).2 := by
  intro a
  have ha : a.Sound := sound_run localId timeout tracks behaviour now history
  have ht : a.timeout = timeout := timeout_run _ history
  cases timeout with
  | none => exact ha.expire_of_none fun limit hlimit => nomatch ht.symm.trans hlimit
  | some limit => exact ha.expiry ht time

/-- An offer is given up at the moment when it has waited for the whole timeout, not before. -/
example :
    let a := (fresh "a" (some 30) [] (.fresh {}) 7).run [.requestConnect, .assigned "b", .startCall]
    (a.expire 36).1 = 0 ∧ (a.expire 37).1 = 1 := by decide +kernel

end CallSignaling.Agent
