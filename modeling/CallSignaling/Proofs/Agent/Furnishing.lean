import CallSignaling.Proofs.Agent.Ownership
import CallSignaling.Proofs.Agent.Disguise

/-!
# Furnishing — which tracks a call is offered with

Main statement: `furnished_run`.  A transport takes local tracks once.  Tracks that are announced
while the active peer waits for its call reach the peer's transport if that has none yet, and the
offer is made there then; a transport that has tracks keeps them, whatever is announced later
(`furnished_run_again`).
-/

namespace CallSignaling

/-- The ids of the tracks that a call hands over. -/
def Call.tracks? : Call → Option (List String)
  | .addTracks ids => some ids
  | _ => none

/-- The ids of the tracks that were handed over last. -/
def Scripted.furnished? (t : Scripted) : Option (List String) :=
  (t.calls.filterMap Call.tracks?).getLast?

namespace Agent

/-- What the announcement of the tracks `ts` does to an agent whose active peer waits for its call:
`t` is the peer's transport before and `u` after it. -/
structure Furnishing (a : Agent) (r : String) (ts : List Track) (b : Agent) (id : Nat)
    (t u : Scripted) : Prop where
  before : a.Owns r id ∧ a.transport? id = some t
  after : b.Owns r id ∧ b.transport? id = some u
  waiting : b.active = some r ∧ b.sessionState? r = some .assigned
  noted : b.tracks = ts
  first : t.furnished? = none → u.calls = t.calls ++ [.addTracks (ts.map Track.id)]
  kept : t.furnished? ≠ none → u = t
  carried : u.furnished? = some (ts.map Track.id) ↔
    t.furnished? = none ∨ t.furnished? = some (ts.map Track.id)
  /-- A call that follows at once makes its offer on this transport, and hands over nothing more. -/
  offered : ∃ v rest, (b.after .startCall).transport? id = some v ∧
    v.calls = u.calls ++ .createOffer :: rest ∧ v.furnished? = u.furnished?

variable {a b : Agent} {r : String} {ts : List Track} {h id : Nat} {s : Session} {t u : Scripted}

/-! ### What a transport has been handed -/

theorem furnished?_eq_none_iff : t.furnished? = none ↔ ∀ ids, .addTracks ids ∉ t.calls := by
  unfold Scripted.furnished?
  rw [List.getLast?_eq_none_iff, List.filterMap_eq_nil_iff]
  constructor
  · intro hnone ids hm
    cases hnone _ hm
  · intro hno c hc
    cases c with
    | addTracks ids => exact absurd hc (hno ids)
    | _ => rfl

theorem furnished?_append {more : List Call} (hu : u.calls = t.calls ++ more)
    (hno : ∀ c ∈ more, c.tracks? = none) : u.furnished? = t.furnished? := by
  unfold Scripted.furnished?
  rw [hu, List.filterMap_append, List.filterMap_eq_nil_iff.mpr hno, List.append_nil]

theorem furnished?_concat {ids : List String} (hu : u.calls = t.calls ++ [.addTracks ids]) :
    u.furnished? = some ids := by
  unfold Scripted.furnished?
  rw [hu, List.filterMap_append]
  exact List.getLast?_concat

/-- The mark of the session says whether the transport has tracks. -/
theorem furnished?_at {st : ExchangeStage} {k : Bool} (hat : t.At st k) :
    t.furnished? = none ↔ k = false := by
  rw [furnished?_eq_none_iff, ← Bool.not_eq_true, hat.course.tracks_iff, not_exists]

/-! ### A call that sets out -/

/-- A session torn down in the middle of an operation leaves its transport closed. -/
theorem transport?_fail_withLine (hid : id ≤ b.pool.transports.length)
    (hs : s.transport = some id) (f : Failure) :
    ((b.withLine r h id s u).fail r f).transport? id = some u.close := by
  rw [transport?_fail, session?_withLine, Option.bind_some, if_pos hs, transport?_withLine hid,
    if_pos rfl, Option.map_some]

/-- A call to a peer that waits for it makes the calls of an offer, as far as it gets. -/
theorem startCall_replay (hact : a.active = some r) (hh : a.Holds r h id s t)
    (hs : s.state = .assigned) (ho : t.closed = false) :
    ∃ ds v, ds ≠ [] ∧ ds <+: a.offerCalls s t ∧ (a.after .startCall).transport? id = some v ∧
      (v = t.replay ds ∨ v = (t.replay ds).close) := by
  have hst : a.sessionState? r = some .assigned := by rw [sessionState?_of_lookup hh.lookup, ← hs]
  have hstart : a.after .startCall = (conclude r (a.sendOffer r) fun c => c).2 :=
    congrArg Prod.snd (startCall_eq hact hst)
  have hends := sendOffer_ends (b := a) (r := r) (h := h) hh.le ho hh.number
  rw [hh.withLine_eq] at hends
  rw [hstart]
  generalize a.sendOffer r = x at hends
  cases hends with
  | @refused ds reason s' hr hs' =>
    obtain ⟨hp, es, c, rfl, -⟩ := Scripted.refusedIn_some hr
    exact ⟨_, _, by simp, hp, transport?_fail_withLine hh.le hs' _, .inr rfl⟩
  | unsent _ _ _ hs' =>
    exact ⟨_, _, by simp [offerCalls], List.prefix_refl _, transport?_fail_withLine hh.le hs' _,
      .inr rfl⟩
  | done =>
    refine ⟨_, _, by simp [offerCalls], List.prefix_refl _, ?_, .inl rfl⟩
    exact (transport?_withLine (b := a.said _) hh.le id).trans (if_pos rfl)

/-- Where the tracks have been handed over, a call begins with its offer. -/
theorem startCall_furnished (hact : a.active = some r) (hh : a.Holds r h id s t)
    (hs : s.state = .assigned) (ho : t.closed = false) (hb : s.tracksBound = true) :
    ∃ v rest, (a.after .startCall).transport? id = some v ∧
      v.calls = t.calls ++ .createOffer :: rest ∧ v.furnished? = t.furnished? := by
  obtain ⟨ds, v, hne, hp, hv, hcalls⟩ := startCall_replay hact hh hs ho
  have hoffer : a.offerCalls s t = [.createOffer, .setLocal (t.descriptionText "offer")] := by
    rw [offerCalls, Session.handover, if_pos (.inr hb)]
    rfl
  rw [hoffer] at hp
  obtain ⟨rest, rfl, hrest⟩ : ∃ rest, ds = .createOffer :: rest ∧
      rest <+: [.setLocal (t.descriptionText "offer")] := by
    cases ds with
    | nil => exact absurd rfl hne
    | cons c rest =>
      obtain ⟨rfl, hrest⟩ := List.cons_prefix_cons.mp hp
      exact ⟨rest, rfl, hrest⟩
  have hplain : ∀ c ∈ rest, c = .setLocal (t.descriptionText "offer") := fun c hc =>
    List.mem_singleton.mp (hrest.subset hc)
  have hlog : (t.replay (.createOffer :: rest)).calls = t.calls ++ .createOffer :: rest := by
    refine Scripted.replay_calls ho fun hm => ?_
    rcases List.mem_cons.mp hm with hc | hc
    · cases hc
    · cases hplain _ hc
  have hno : ∀ c ∈ rest, c.tracks? = none := fun c hc => by
    rw [hplain c hc]
    rfl
  rcases hcalls with rfl | rfl
  · exact ⟨_, rest, hv, hlog, furnished?_append hlog (by simpa [Call.tracks?] using hno)⟩
  · have hclosed : (t.replay (.createOffer :: rest)).close.calls =
        t.calls ++ .createOffer :: (rest ++ [.close]) := by
      show (t.replay (.createOffer :: rest)).calls ++ [.close] = _
      rw [hlog, List.append_assoc, List.cons_append]
    refine ⟨_, _, hv, hclosed, furnished?_append hclosed ?_⟩
    intro c hc
    simp only [List.mem_cons, List.mem_append, List.not_mem_nil, or_false] at hc
    rcases hc with rfl | hc | rfl
    · rfl
    · exact hno c hc
    · rfl

/-! ### The announcement -/

/-- An announcement to a waiting session that succeeds has handed over the tracks, if none were
before. -/
theorem Deed.furnishes (hx : Deed a (.mediaReady ts) (.ok (), b)) (hact : a.active = some r)
    (hst : a.sessionState? r = some .assigned) :
    ∃ h id s t, a.Holds r h id s t ∧ s.state = .assigned ∧
      b = ({ a with tracks := ts } : Agent).withLine r h id (s.given ts)
        (t.replay (s.handover ts)) := by
  cases hx with
  | echoed hpassive => exact absurd hst (hpassive r hact)
  | @furnished _ p h id s t hset hh hs =>
    obtain rfl : p = r := Option.some.inj (hset.subject.symm.trans hact)
    exact ⟨h, id, s, t, hh, hs, rfl⟩

theorem Sound.furnishing (ha : a.Sound) (hact : a.active = some r)
    (hst : a.sessionState? r = some .assigned) (hts : ts ≠ [])
    (hok : (a.mediaReady ts).1 = .ok ()) :
    ∃ id t u, Furnishing a r ts (a.after (.mediaReady ts)) id t u := by
  have hdone : a.perform (.mediaReady ts) = (.ok (), a.after (.mediaReady ts)) := Prod.ext hok rfl
  obtain ⟨h, id, s, t, hh, hs, hafter⟩ :=
    Deed.furnishes (hdone ▸ perform_deed ha (.mediaReady ts)) hact hst
  obtain ⟨-, -, hat, -⟩ := (ha.lines.sound r _ hh.line?).at_stage .blank hs
  have hle : id ≤ ({ a with tracks := ts } : Agent).pool.transports.length := hh.le
  have hu := transport?_withLine (r := r) (h := h) (s := s.given ts)
    (t := t.replay (s.handover ts)) hle id
  rw [if_pos rfl, ← hafter] at hu
  have hb : (a.after (.mediaReady ts)).Holds r h id (s.given ts) (t.replay (s.handover ts)) := by
    refine ⟨?_, hh.number, hu⟩
    rw [hafter, lookup?_withLine, if_pos rfl]
  have hactive : (a.after (.mediaReady ts)).active = some r := by
    rw [hafter]
    exact hact
  have hbound : (s.given ts).tracksBound = true := by
    cases ts with
    | nil => exact absurd rfl hts
    | cons => simp [Session.given]
  obtain ⟨hopen, -⟩ := replay_handover hat.isOpen s ts
  have hmark := furnished?_at hat
  have hfirst (hnone : t.furnished? = none) :
      (t.replay (s.handover ts)).calls = t.calls ++ [.addTracks (ts.map Track.id)] := by
    rw [Session.handover, if_neg (by simp [hts, hmark.mp hnone])]
    exact Scripted.replay_calls hat.isOpen (by simp)
  have hkept : t.furnished? ≠ none → t.replay (s.handover ts) = t := fun hsome => by
    have hb : s.tracksBound = true := by simpa using fun h => hsome (hmark.mpr h)
    rw [Session.handover, if_pos (.inr hb)]
    rfl
  refine ⟨id, t, t.replay (s.handover ts), ?_⟩
  exact
    { before := ⟨⟨s, session?_of_lookup hh.lookup, hh.number⟩, hh.transport⟩
      after := ⟨⟨s.given ts, session?_of_lookup hb.lookup, hb.number⟩, hu⟩
      waiting := ⟨hactive, by rw [sessionState?_of_lookup hb.lookup]; exact congrArg some hs⟩
      noted := tracks_after a (.mediaReady ts)
      first := hfirst
      kept := hkept
      carried := by
        by_cases hnone : t.furnished? = none
        · simp [furnished?_concat (hfirst hnone), hnone]
        · simp [hkept hnone, hnone]
      offered := startCall_furnished hactive hb hs hopen hbound }

/-- After any moves, an announcement of tracks to an agent whose active peer waits for its call
hands them to the peer's transport exactly if that has none yet; the next offer is made with the
tracks that the transport has then. -/
theorem furnished_run (localId : String) (timeout : Option Nat) (tracks : List Track)
    (behaviour : Behaviour) (now : Nat) (history : List Move) (r : String) (ts : List Track) :
    let a := (fresh localId timeout tracks (.fresh behaviour) now).run history
    a.active = some r → a.sessionState? r = some .assigned → ts ≠ [] →
    (a.perform (.mediaReady ts)).1 = .ok () →
    ∃ id t u, Furnishing a r ts (a.after (.mediaReady ts)) id t u :=
  fun hact hst hts hok =>
    (sound_run localId timeout tracks behaviour now history).furnishing hact hst hts hok

/-- The tracks are announced to a peer that has been assigned without any. -/
theorem furnished_run_late :
    let mic : Track := ⟨"mic", "local", .audio⟩
    let a := (fresh "a" none [] (.fresh {}) 0).run [.requestConnect, .assigned "b"]
    let b := a.after (.mediaReady [mic])
    (a.perform (.mediaReady [mic])).1 = .ok () ∧
      ∃ id t u, Furnishing a "b" [mic] b id t u ∧ u.furnished? = some ["mic"] := by
  intro mic a b
  have hok : (a.perform (.mediaReady [mic])).1 = .ok () := by rfl
  obtain ⟨id, t, u, hf⟩ := furnished_run "a" none [] {} 0 [.requestConnect, .assigned "b"] "b" [mic]
    (by rfl) (by rfl) (by simp) hok
  have hnumber : (a.session? "b").bind Session.transport = some 0 := by rfl
  obtain ⟨⟨s, hs, hid⟩, ht⟩ := hf.before
  rw [hs, Option.bind_some, hid] at hnumber
  obtain rfl := Option.some.inj hnumber
  have hbare : (a.transport? 0).map Scripted.furnished? = some none := by rfl
  rw [ht] at hbare
  exact ⟨hok, 0, t, u, hf, hf.carried.mpr (.inl (Option.some.inj hbare))⟩

/-- Other tracks are announced while the peer waits for its call: the announcement succeeds and is
noted, but the offer is made with the tracks of before. -/
theorem furnished_run_again :
    let mic : Track := ⟨"mic", "local", .audio⟩
    let cam : Track := ⟨"cam", "local", .video⟩
    let a := (fresh "c1" none [] (.fresh {}) 0).run
      [.requestConnect, .assigned "s1", .mediaReady [mic]]
    let b := a.after (.mediaReady [cam])
    a.active = some "s1" ∧ a.sessionState? "s1" = some .assigned ∧
      (a.perform (.mediaReady [cam])).1 = .ok () ∧ b.tracks = [cam] ∧
      (b.session? "s1").bind Session.transport = some 0 ∧
      (b.transport? 0).bind Scripted.furnished? = some ["mic"] ∧
      (b.perform .startCall).1 = .ok () ∧
      ((b.after .startCall).transport? 0).bind Scripted.furnished? = some ["mic"] := by
  refine ⟨by rfl, by rfl, by rfl, by rfl, by rfl, by rfl, by rfl, ?_⟩
  decide +kernel

end Agent

end CallSignaling
