import CallSignaling.Proofs.Agent.Teardown

/-!
# Isolation — a move about one peer leaves the others alone

Main statement: `isolated_run`.  Whatever becomes of a move about one peer, the sessions of the
others and their transports are as they were; only an assignment takes out the session with the
peer that was the active one before.
-/

namespace CallSignaling.Agent

variable {a b c : Agent} {r q : String} {m : Move} {x : Outcome × Agent}

/-- Nothing about a peer has changed: its session with its transport, whether it is retired, and
every transport that was ever made for it. -/
structure Untouched (a b : Agent) (q : String) : Prop where
  session : b.session? q = a.session? q
  line : b.line? q = a.line? q
  retired : b.isRetired q = a.isRetired q
  transports : ∀ i t, a.transport? i = some t → t.remote = q → b.transport? i = some t

/-- What a move about a peer leaves alone, however it ends. -/
structure Isolated (a : Agent) (m : Move) (r : String) (b : Agent) : Prop where
  others : ∀ q, q ≠ r → (m = .assigned r → a.active ≠ some q) → Untouched a b q
  /-- An assignment takes the place of another peer. -/
  replaced : ∀ q, q ≠ r → m = .assigned r → a.active = some q →
    b.session? q = none ∧ b.isRetired q = true ∧
    ∀ i, a.Owns q i → ∃ t, b.transport? i = some t ∧ t.remote = q ∧ t.ClosedOnce
  /-- A peer in the background does not disturb the call with the active one. -/
  background : a.active.isSome → a.active ≠ some r → m ≠ .assigned r →
    b.phase = a.phase ∧ b.active = a.active

/-! ### Sessions that are spared -/

/-- The registry has the same session for a peer, and it is retired if it was. -/
structure Spared (a b : Agent) (q : String) : Prop where
  lookup : b.registry.lookup? q = a.registry.lookup? q
  retired : b.isRetired q = a.isRetired q

theorem Spared.trans (hb : Spared a b q) (hc : Spared b c q) : Spared a c q :=
  ⟨hc.lookup.trans hb.lookup, hc.retired.trans hb.retired⟩

theorem Spared.congr (hb : Spared a b q) (hr : c.registry = b.registry)
    (hret : c.retired = b.retired) : Spared a c q := by
  refine hb.trans ⟨by rw [hr], ?_⟩
  unfold isRetired
  rw [hret]

theorem Setting.spared (hb : Setting a m r b) (hq : q ≠ r)
    (hact : m = .assigned r → a.active ≠ some q) : Spared a b q :=
  ⟨hb.others q hq hact, hb.retired q hq hact⟩

theorem Confined.spared (hc : Confined b c r) (hq : q ≠ r) : Spared b c q := by
  obtain ⟨⟨R, P, rfl⟩, hlook⟩ := hc
  exact ⟨hlook q hq, rfl⟩

theorem fail_spared (a : Agent) (f : Failure) (hq : q ≠ r) : Spared a (a.fail r f) q :=
  ⟨(lookup?_fail a r f q).trans (if_neg hq), (isRetired_fail a r f q).trans (if_neg hq)⟩

theorem withLine_spared {h id : Nat} {s : Session} {t : Scripted} (hq : q ≠ r) :
    Spared b (b.withLine r h id s t) q :=
  ⟨(lookup?_withLine b r h id s t q).trans (if_neg hq), rfl⟩

/-- The peer of a setting is the one that the move is about. -/
theorem Setting.eq_of_concerned? {p : String} (hb : Setting a m p b)
    (hr : a.concerned? m = some r) : p = r :=
  Option.some.inj ((concerned?_of_subject? hb.subject).symm.trans hr)

theorem Deed.spared (hx : Deed a m x) (hr : a.concerned? m = some r) (hq : q ≠ r)
    (hact : m = .assigned r → a.active ≠ some q) : Spared a x.2 q := by
  have hsame : Spared a a q := ⟨rfl, rfl⟩
  cases hx with
  | refused => exact hsame
  | failed hb hc =>
    obtain rfl := hb.eq_of_concerned? hr
    exact ((hb.spared hq hact).trans (hc.confined.spared hq)).trans (fail_spared _ _ hq)
  | echoed =>
    have hecho := echoes a m
    exact hsame.congr hecho.registry hecho.retired
  | unannounced => exact absurd hr nofun
  | announced => exact absurd hr nofun
  | reassigned hb =>
    obtain rfl := hb.eq_of_concerned? hr
    exact (hb.spared hq hact).congr rfl rfl
  | @assigned p b h id s t hb =>
    obtain rfl := hb.eq_of_concerned? hr
    have hline : Spared b (b.withLine p h id ((s.enter .assigned).given a.tracks) t) q :=
      withLine_spared hq
    exact ((hb.spared hq hact).trans hline).congr rfl rfl
  | called hb =>
    obtain rfl := hb.eq_of_concerned? hr
    have hsaid : ∀ y, Spared a (a.said y) q := fun _ => hsame.congr rfl rfl
    exact (hsaid _).trans (withLine_spared hq)
  | settled hb =>
    obtain rfl := hb.eq_of_concerned? hr
    exact withLine_spared hq
  | @answered p sdp R S h id s t c hb _ _ _ hc =>
    obtain rfl := hb.eq_of_concerned? hr
    have hsaid : ∀ y, Spared a (said { a with registry := R, retired := S } y) q :=
      fun _ => (hb.spared hq hact).congr rfl rfl
    have hline : Spared a c q := by
      rw [hc]
      exact (hsaid _).trans (withLine_spared hq)
    exact hline.congr (registry_adopt p c) (retired_adopt p c)
  | taken ht =>
    obtain rfl := Option.some.inj hr
    exact ht.confined.spared hq
  | @left p =>
    obtain rfl : p = r := Option.some.inj hr
    have hclose : Spared a (a.closeSession p) q :=
      ⟨(lookup?_closeSession a p q).trans (if_neg hq),
        (isRetired_closeSession a p q).trans (if_neg hq)⟩
    exact hclose.congr rfl rfl
  | relayed => exact hsame.congr rfl rfl
  | furnished hb =>
    obtain rfl := hb.eq_of_concerned? hr
    exact (hb.spared hq hact).trans (withLine_spared hq)
  | hungUp => exact absurd hr nofun
  | lost => exact absurd hr nofun
  | expired => exact absurd hr nofun

/-- A transport of a peer that was spared is as it was. -/
theorem Effect.transport?_eq (he : Effect m a b) (ha : a.Lines) (hl : b.line? q = a.line? q)
    {i : Nat} {t : Scripted} (ht : a.transport? i = some t) (hq : t.remote = q) :
    b.transport? i = some t := by
  rcases ha.owner i t ht with ⟨k, hk⟩ | ⟨L, hL, hi⟩
  · obtain ⟨u, hu, -, -, hsame⟩ := he.kept i t ht
    rw [hu, hsame hk.closedOnce.1]
  · rw [hq] at hL
    have hold := (lookup_of_line? hL).2
    have hnew := (lookup_of_line? (hl.trans hL)).2
    rw [hi, Option.bind_some] at hold hnew
    rw [← hnew, hold, ht]

/-! ### The phase and the active peer -/

theorem Deed.background (hx : Deed a m x) (hr : a.concerned? m = some r)
    (hsome : a.active.isSome) (hact : a.active ≠ some r) (hm : m ≠ .assigned r) :
    x.2.phase = a.phase ∧ x.2.active = a.active := by
  cases hx with
  | refused => exact ⟨rfl, rfl⟩
  | @failed m p f b c hb hc =>
    obtain rfl := hb.eq_of_concerned? hr
    obtain ⟨⟨R, P, rfl⟩, -⟩ := hc.confined
    have hactive : b.active = a.active := hb.active.trans (if_neg hm)
    have hne : b.active ≠ some p := fun h => hact (hactive ▸ h)
    show (fail { b with registry := R, pool := P } p f).phase = _ ∧ (fail _ p f).active = _
    rw [phase_fail (a := { b with registry := R, pool := P }) hb.isOpen, active_fail]
    exact ⟨(if_neg hne).trans hb.phase, (if_neg hne).trans hactive⟩
  | echoed => exact ⟨(echoes a m).phase, (echoes a m).active⟩
  | unannounced => exact absurd hr nofun
  | announced => exact absurd hr nofun
  | reassigned hb => exact absurd (congrArg Move.assigned (hb.eq_of_concerned? hr)) hm
  | assigned hb => exact absurd (congrArg Move.assigned (hb.eq_of_concerned? hr)) hm
  | called => exact ⟨rfl, rfl⟩
  | settled => exact ⟨rfl, rfl⟩
  | @answered _ _ R S _ _ _ _ c _ _ _ _ hc =>
    obtain ⟨p, hp⟩ := Option.isSome_iff_exists.mp hsome
    have hactive : c.active = some p := by rw [hc]; exact hp
    rw [adopt_of_some hactive, hc]
    exact ⟨rfl, rfl⟩
  | taken ht =>
    obtain ⟨⟨R, P, rfl⟩, -⟩ := ht.confined
    exact ⟨rfl, rfl⟩
  | left =>
    obtain rfl := Option.some.inj hr
    exact ⟨if_neg hact, if_neg hact⟩
  | relayed | furnished => exact ⟨rfl, rfl⟩
  | hungUp => exact absurd hr nofun
  | lost => exact absurd hr nofun
  | expired => exact absurd hr nofun

/-! ### The peer that is replaced -/

/-- A client with an active peer can be assigned another one. -/
theorem Standing.acceptsAssignment {p : CallState} (hs : Standing p (some q)) :
    Agent.acceptsAssignment p = true := by
  cases hs <;> rfl

theorem Deed.replaced (hx : Deed a (.assigned r) x) (hacc : acceptsAssignment a.phase = true)
    (hq : q ≠ r) (hact : a.active = some q) :
    x.2.registry.lookup? q = none ∧ x.2.isRetired q = true := by
  cases hx with
  | refused _ hno =>
    rw [hno r rfl] at hacc
    cases hacc
  | @failed _ _ f b c hb hc =>
    obtain rfl := hb.eq_of_concerned? rfl
    have hlater := (hc.confined.spared hq).trans (fail_spared c f hq)
    exact ⟨hlater.lookup.trans (hb.previous q hq rfl hact),
      hlater.retired.trans (hb.deserted q hq rfl hact)⟩
  | echoed hno => exact hno.elim
  | reassigned hb => exact ⟨hb.previous q hq rfl hact, hb.deserted q hq rfl hact⟩
  | assigned hb =>
    have hgone := hb.previous q hq rfl hact
    exact ⟨(Registry.lookup?_put ..).trans ((if_neg hq).trans hgone), hb.deserted q hq rfl hact⟩

/-! ### A move about one peer -/

theorem Sound.isolated (ha : a.Sound) (hr : a.concerned? m = some r) :
    Isolated a m r (a.after m) where
  others := fun q hq hact => by
    have hspared := (perform_deed ha m).spared hr hq hact
    have heffect := (perform_turn ha m).effect
    have hline : (a.after m).line? q = a.line? q := heffect.line?_eq hspared.lookup hr hq
    have hsession : (a.after m).session? q = a.session? q := by
      rw [session?_eq_line?, session?_eq_line?, hline]
    exact ⟨hsession, hline, hspared.retired, fun i t => heffect.transport?_eq ha.lines hline⟩
  replaced := fun q hq hm hact => by
    subst hm
    have hacc : acceptsAssignment a.phase = true := (hact ▸ ha.posture.standing).acceptsAssignment
    obtain ⟨hgone, hret⟩ := (perform_deed ha _).replaced hacc hq hact
    refine ⟨?_, hret, fun i hi => (perform_turn ha _).effect.closed ha.lines hi hgone⟩
    rw [session?_eq_line?]
    exact congrArg (Option.map Line.session) (line?_eq_none_iff.mpr hgone)
  background := (perform_deed ha m).background hr

/-- After any moves, a move about one peer leaves every other peer alone, whatever its outcome. -/
theorem isolated_run (localId : String) (timeout : Option Nat) (tracks : List Track)
    (behaviour : Behaviour) (now : Nat) (history : List Move) :
    let a := (fresh localId timeout tracks (.fresh behaviour) now).run history
    ∀ m r, a.concerned? m = some r → Isolated a m r (a.after m) :=
  fun _ _ hr => (sound_run localId timeout tracks behaviour now history).isolated hr

/-- The call of a second peer fails while another one is assigned. -/
theorem isolated_run_offer :
    let a := (fresh "a" none [] (.fresh {}) 0).run
      [.requestConnect, .assigned "b", .behave { rejectCreate := true }]
    let b := a.after (.offer "c" "a" "x")
    (a.perform (.offer "c" "a" "x")).1 =
        .error (.rejected "c" (.setup "mock factory refused")) ∧
      Untouched a b "b" ∧ b.phase = .assigned ∧ b.active = some "b" := by
  intro a b
  have hall := isolated_run "a" none [] {} 0
    [.requestConnect, .assigned "b", .behave { rejectCreate := true }] (.offer "c" "a" "x") "c" rfl
  obtain ⟨hphase, hactive⟩ := hall.background (by decide) (by decide) nofun
  exact ⟨by rfl, hall.others "b" (by decide) nofun, hphase, hactive⟩

end CallSignaling.Agent
