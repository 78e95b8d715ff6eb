import CallSignaling.Proofs.Agent.Expiry
import CallSignaling.Proofs.Channel.Course

/-!
# Punctuality — how long an offer can wait without being noticed

Main statement: `punctual_run`.  The ticker is served after everything else and the clock may jump,
so a tick can come late by any time.  What carries the bound is that each tick leaves behind only
offers younger than the timeout, and that the next one is due a period later at most (`Punctual`).
Of the interval no more is used than that (`Loop.Becomes`).
-/

namespace CallSignaling

namespace Loop

/-! ### A loop with an interval -/

/-- The loop is about to serve a tick. -/
def Ticks (l : Loop) : Prop := ∃ t, l.pick? = some (.tick t)

/-- What a loop can become in one happening, if all that is known of its interval is that after a
tick the next one is due a period later at most. -/
inductive Becomes (l : Loop) : Happening → Loop → Prop
  | plain {h : Happening} : ¬ (h = .serve ∧ l.Ticks) → Becomes l h (l.after h)
  | tick {t : Ticker} {due : Nat} : l.Ticks → l.ticker = some t →
    due ≤ l.agent.now + t.period →
    Becomes l .serve { l.after .serve with ticker := some { t with due } }

/-- What a loop can become in a course of happenings. -/
inductive Passes : Loop → List Happening → Loop → Prop
  | nil {l : Loop} : Passes l [] l
  | cons {l l' l'' : Loop} {h : Happening} {course : List Happening} : Becomes l h l' →
    Passes l' course l'' → Passes l (h :: course) l''

/-- The tick that the loop is about to serve gives up the session with a peer. -/
structure Expires (l : Loop) (r : String) : Prop where
  ticks : l.Ticks
  here : (l.agent.session? r).isSome
  gone : (l.after .serve).agent.session? r = none

/-- The ticker of a loop with a timeout, and the offers that it has to watch. -/
structure Punctual (timeout : Nat) (l : Loop) : Prop where
  sound : l.agent.Sound
  limit : l.agent.timeout = some timeout
  ticker : ∃ due, l.ticker = some ⟨max (timeout / 4) Ticker.leastPeriod, due⟩ ∧
    due ≤ l.agent.now + max (timeout / 4) Ticker.leastPeriod ∧
    ∀ r start, l.agent.OfferedAt r start →
      due ≤ l.agent.now ∨ due ≤ start + (timeout + max (timeout / 4) Ticker.leastPeriod)

end Loop

namespace Agent

variable {a : Agent} {r : String} {start : Nat} {m : Move}

/-! ### The age of an offer -/

theorem offeredAt_iff : a.OfferedAt r start ↔
    ∃ L, a.line? r = some L ∧ L.session.state = .offering ∧ L.session.started = some start := by
  constructor
  · rintro ⟨hstate, hstart⟩
    rw [sessionState?_eq_line?] at hstate
    obtain ⟨L, hL, hoffering⟩ := Option.map_eq_some_iff.mp hstate
    rw [session?_eq_line?, hL] at hstart
    exact ⟨L, hL, hoffering, hstart⟩
  · rintro ⟨L, hL, hstate, hstart⟩
    exact ⟨by rw [sessionState?_eq_line?, hL, ← hstate]; rfl, by
      rw [session?_eq_line?, hL, ← hstart]; rfl⟩

/-- A peer that waits for the answer to an offer has been offered the call now or has waited
before. -/
theorem LineChange.offeredAt {l : Option Line} {L : Line} (hc : LineChange a r m l L)
    (hstate : L.session.state = .offering) (hstart : L.session.started = some start) :
    start = a.now ∨
      ∃ K, l = some K ∧ K.session.state = .offering ∧ K.session.started = some start := by
  cases hc with
  | enrol | assign | settle | accept => cases hstate
  | wait => exact .inr ⟨_, rfl, hstate, hstart⟩
  | pass => exact .inr ⟨_, rfl, hstate, hstart⟩
  | furnish => exact .inr ⟨_, rfl, hstate, hstart⟩
  | offer => exact .inl (Option.some.inj hstart).symm

theorem Sound.offeredAt_after (ha : a.Sound) (ho : (a.after m).OfferedAt r start) :
    start = a.now ∨ a.OfferedAt r start := by
  obtain ⟨L, hL, hstate, hstart⟩ := offeredAt_iff.mp ho
  rcases (perform_turn ha m).effect.line r L hL with hsame | hc
  · exact .inr (offeredAt_iff.mpr ⟨L, hsame, hstate, hstart⟩)
  · rcases hc.offeredAt hstate hstart with hnow | ⟨K, hK, hstate', hstart'⟩
    · exact .inl hnow
    · exact .inr (offeredAt_iff.mpr ⟨K, hK, hstate', hstart'⟩)

theorem now_le_run (a : Agent) (ms : List Move) : a.now ≤ (a.run ms).now := by
  induction ms generalizing a with
  | nil => exact Nat.le_refl _
  | cons m ms ih =>
    have hm := now_after a m
    have hrest := ih (a.after m)
    show a.now ≤ ((a.after m).run ms).now
    omega

/-- An offer that waits after some moves has waited before them or has been made since. -/
theorem Sound.offeredAt_run (ha : a.Sound) (ms : List Move)
    (ho : (a.run ms).OfferedAt r start) : a.now ≤ start ∨ a.OfferedAt r start := by
  induction ms generalizing a with
  | nil => exact .inr ho
  | cons m ms ih =>
    have hm := now_after a m
    rcases ih (ha.after m) ho with hlate | hbefore
    · exact .inl (by omega)
    · rcases ha.offeredAt_after hbefore with hnow | hold
      · exact .inl (Nat.le_of_eq hnow.symm)
      · exact .inr hold

/-- An offer that the expiry leaves waiting is younger than the timeout. -/
theorem Sound.offeredAt_expire (ha : a.Sound) {timeout time : Nat} (ht : a.timeout = some timeout)
    (ho : (a.expire time).2.OfferedAt r start) : time < start + timeout := by
  have hexpiry := ha.expiry ht time
  have hnot : ¬ a.Overdue timeout time r start := fun hover => by
    have hgone := ho.started
    rw [(hexpiry.gone r start hover).1] at hgone
    cases hgone
  have hhere : a.OfferedAt r start := by
    have hkept := hexpiry.kept r fun start' hover => by
      have hgone := ho.started
      rw [(hexpiry.gone r start' hover).1] at hgone
      cases hgone
    obtain ⟨L, hL, hL'⟩ := offeredAt_iff.mp ho
    exact offeredAt_iff.mpr ⟨L, hkept.1 ▸ hL, hL'⟩
  by_contra hlong
  exact hnot ⟨hhere, by omega⟩

/-- What the expiry takes out has waited for the whole timeout. -/
theorem Sound.overdue_of_expire (ha : a.Sound) {timeout time : Nat}
    (ht : a.timeout = some timeout) (hhere : (a.session? r).isSome)
    (hgone : (a.expire time).2.session? r = none) : ∃ start, a.Overdue timeout time r start := by
  by_contra hnone
  have hkept := (ha.expiry ht time).kept r fun start ho => hnone ⟨start, ho⟩
  rw [session?_eq_line?, hkept.1, ← session?_eq_line?] at hgone
  rw [hgone] at hhere
  cases hhere

end Agent

namespace Loop

variable {l l' : Loop} {timeout : Nat} {h : Happening} {course : List Happening} {r : String}

/-! ### One happening -/

/-- What a tick makes of the loop. -/
theorem Ticks.after (hl : l.Ticks) : ∃ t, l.ticker = some t ∧ t.due ≤ l.agent.now ∧
    l.after .serve = { l with
      agent := (l.agent.expire l.agent.now).2, ticker := some (t.tick l.agent.now) } := by
  obtain ⟨t, hp⟩ := hl
  obtain ⟨-, hchooses⟩ := pick?_eq_some_iff.mp hp
  cases hchooses with
  | tick _ _ ht =>
    obtain ⟨hticker, hdue⟩ := Option.filter_eq_some_iff.mp ht
    refine ⟨t, hticker, by simpa using hdue, ?_⟩
    rw [Loop.after, serve_eq, hp]
    rfl

/-- Only a tick moves the ticker. -/
theorem ticker_after (hh : ¬ (h = .serve ∧ l.Ticks)) : (l.after h).ticker = l.ticker := by
  cases h with
  | serve =>
    rw [Loop.after, serve_eq]
    cases hp : l.pick? with
    | none => rfl
    | some p =>
      cases p with
      | command c => cases c <;> rfl
      | item x => cases x <;> rfl
      | tick t => exact absurd ⟨rfl, t, hp⟩ hh
      | _ => rfl
  | _ => rfl

/-- The ticker of a loop goes on as an interval may. -/
theorem becomes_after (l : Loop) (h : Happening) : Becomes l h (l.after h) := by
  by_cases hh : h = .serve ∧ l.Ticks
  · obtain ⟨rfl, hl⟩ := hh
    obtain ⟨t, hticker, hdue, hafter⟩ := hl.after
    have hnext : (t.tick l.agent.now).due ≤ l.agent.now + t.period := by
      unfold Ticker.tick
      dsimp only
      split <;> omega
    have hbecomes := Becomes.tick hl hticker hnext
    rw [hafter] at hbecomes ⊢
    exact hbecomes
  · exact .plain hh

theorem passes_run (l : Loop) (course : List Happening) : Passes l course (l.run course) := by
  induction course generalizing l with
  | nil => exact .nil
  | cons h course ih => exact .cons (becomes_after l h) (ih (l.after h))

theorem punctual_start {a : Agent} (ha : a.Sound) (ht : a.timeout = some timeout)
    (commands : Queue Command) (channel : Queue ChannelItem) (events : Queue PeerEvent)
    (callers : List Nat) : Punctual timeout (.start a commands channel events callers) where
  sound := ha
  limit := ht
  ticker := by
    refine ⟨a.now, ?_, Nat.le_add_right _ _, fun r start _ => .inl (Nat.le_refl _)⟩
    show a.timeout.map (Ticker.start · a.now) = _
    rw [ht]
    rfl

theorem Punctual.plain (hl : Punctual timeout l) (hh : ¬ (h = .serve ∧ l.Ticks)) :
    Punctual timeout (l.after h) := by
  obtain ⟨due, hticker, hnext, hwatch⟩ := hl.ticker
  obtain ⟨ms, hms⟩ := l.exists_moves h
  have hnow := Agent.now_le_run l.agent ms
  rw [← hms] at hnow
  refine ⟨sound_after hl.sound h, ?_, due, (ticker_after hh).trans hticker, by omega,
    fun r start ho => ?_⟩
  · rw [hms, Agent.timeout_run]
    exact hl.limit
  · rw [hms] at ho
    rcases hl.sound.offeredAt_run ms ho with hlate | hbefore
    · exact .inr (by omega)
    · rcases hwatch r start hbefore with hdue | hyoung
      · exact .inl (Nat.le_trans hdue hnow)
      · exact .inr hyoung

theorem Punctual.tick (hl : Punctual timeout l) (hticks : l.Ticks) {t : Ticker} {due : Nat}
    (hticker : l.ticker = some t) (hnext : due ≤ l.agent.now + t.period) :
    Punctual timeout { l.after .serve with ticker := some { t with due } } := by
  obtain ⟨_, hold, -⟩ := hl.ticker
  obtain rfl := Option.some.inj (hticker.symm.trans hold)
  obtain ⟨_, -, -, hafter⟩ := hticks.after
  have hagent : (l.after .serve).agent = (l.agent.expire l.agent.now).2 := by rw [hafter]
  have hnow : (l.agent.expire l.agent.now).2.now = l.agent.now :=
    Agent.now_after l.agent (.expire l.agent.now)
  refine ⟨sound_after hl.sound .serve, ?_, due, rfl, ?_, fun r start ho => .inr ?_⟩
  · show (l.after .serve).agent.timeout = _
    rw [hagent]
    exact (Agent.timeout_after l.agent (.expire l.agent.now)).trans hl.limit
  · show due ≤ (l.after .serve).agent.now + _
    rw [hagent, hnow]
    exact hnext
  · have hyoung : l.agent.now < start + timeout :=
      hl.sound.offeredAt_expire hl.limit (hagent ▸ ho)
    have hnext' : due ≤ l.agent.now + max (timeout / 4) Ticker.leastPeriod := hnext
    omega

theorem Punctual.becomes (hl : Punctual timeout l) (hh : Becomes l h l') : Punctual timeout l' := by
  cases hh with
  | plain hh => exact hl.plain hh
  | tick hticks hticker hnext => exact hl.tick hticks hticker hnext

/-! ### A course -/

theorem Punctual.passes (hl : Punctual timeout l) (hp : Passes l course l') :
    Punctual timeout l' := by
  induction hp with
  | nil => exact hl
  | cons hh _ ih => exact ih (hl.becomes hh)

/-- Where no tick is due no offer has waited for longer than the timeout and a period. -/
theorem Punctual.watched (hl : Punctual timeout l) (hidle : l.tickDue? = none) {start : Nat}
    (ho : l.agent.OfferedAt r start) :
    l.agent.now < start + (timeout + max (timeout / 4) Ticker.leastPeriod) := by
  obtain ⟨due, hticker, -, hwatch⟩ := hl.ticker
  have hlater : ¬ due ≤ l.agent.now := fun hdue => by
    unfold tickDue? at hidle
    rw [hticker] at hidle
    simp [Option.filter, hdue] at hidle
  rcases hwatch r start ho with hdue | hyoung
  · exact absurd hdue hlater
  · omega

theorem Punctual.patient (hl : Punctual timeout l) (he : l.Expires r) :
    ∃ start, l.agent.OfferedAt r start ∧ timeout ≤ l.agent.now - start := by
  obtain ⟨_, -, -, hafter⟩ := he.ticks.after
  have hgone := he.gone
  rw [hafter] at hgone
  obtain ⟨start, ho⟩ := hl.sound.overdue_of_expire hl.limit he.here hgone
  exact ⟨start, ho.toOfferedAt, ho.long⟩

end Loop

/-- Whatever arrives at a loop whose agent has a timeout, and however the clock moves on: where no
tick is due no offer has been waiting for the timeout and one more period, and a session that a
tick gives up is that of an offer which has been waiting for the timeout. -/
theorem punctual_run (localId : String) (timeout : Nat) (tracks : List Track)
    (behaviour : Behaviour) (now : Nat) (history : List Agent.Move) (commands : Queue Command)
    (channel : Queue ChannelItem) (events : Queue PeerEvent) (callers : List Nat)
    (course : List Loop.Happening) (l : Loop) :
    let a := (Agent.fresh localId (some timeout) tracks (.fresh behaviour) now).run history
    Loop.Passes (.start a commands channel events callers) course l →
    (l.tickDue? = none → ∀ r start, l.agent.OfferedAt r start →
      l.agent.now < start + (timeout + max (timeout / 4) Ticker.leastPeriod)) ∧
    ∀ r, l.Expires r → ∃ start, l.agent.OfferedAt r start ∧ timeout ≤ l.agent.now - start := by
  intro a hp
  have ha : a.Sound := Agent.sound_run localId (some timeout) tracks behaviour now history
  have ht : a.timeout = some timeout := Agent.timeout_run _ history
  have hl := (Loop.punctual_start ha ht commands channel events callers).passes hp
  exact ⟨fun hidle r start ho => hl.watched hidle ho, fun r he => hl.patient he⟩

/-- A tick comes when an offer has almost waited for the timeout, so that it is the next one, a
period later, that gives the call up. -/
theorem punctual_run_late :
    let a := (Agent.fresh "a" (some 400000000) [] (.fresh {}) 0).run
      [.requestConnect, .assigned "b"]
    let first := Loop.start a .fresh .fresh .fresh []
    let course : List Loop.Happening :=
      [.serve, .command (.startCall 0), .serve, .advance 399999999, .serve, .advance 99999999]
    let later : List Loop.Happening := course ++ [.advance 1]
    let l := first.run course
    let l' := first.run later
    (l.agent.OfferedAt "b" 0 ∧ l.agent.now = 499999998 ∧ l.agent.now < 500000000) ∧
      l'.Expires "b" ∧
      ∃ start, l'.agent.OfferedAt "b" start ∧ 400000000 ≤ l'.agent.now - start := by
  intro a first course later l l'
  have hpunctual := punctual_run "a" 400000000 [] {} 0 [.requestConnect, .assigned "b"] .fresh
    .fresh .fresh []
  obtain ⟨hwatched, -⟩ := hpunctual course l (first.passes_run course)
  obtain ⟨-, hpatient⟩ := hpunctual later l' (first.passes_run later)
  have hoffered : l.agent.OfferedAt "b" 0 := ⟨by decide +kernel, by decide +kernel⟩
  have hbound := hwatched (by decide +kernel) "b" 0 hoffered
  have hexpires : l'.Expires "b" := by
    refine ⟨⟨⟨100000000, 499999999⟩, ?_⟩, ?_, ?_⟩ <;> decide +kernel
  exact ⟨⟨hoffered, by decide +kernel, Nat.lt_of_lt_of_le hbound (by decide +kernel)⟩, hexpires,
    hpatient "b" hexpires⟩

end CallSignaling
