import CallSignaling.Proofs.Agent.Deed

/-!
# Operations — each move is one of the deeds

Main statement: `perform_deed`.  This is where the operations of a sound agent are taken apart;
whatever is said about single moves from here on, first of all that they keep an agent sound, comes
from a case on the deed.
-/

namespace CallSignaling.Agent

variable {a b : Agent} {r : String} {m : Move} {h id : Nat} {s : Session} {t : Scripted}
  {x : Advance} {finish : Agent → Agent}

/-! ### Operations that fit the state -/

/-- An assignment that fits the state works from where the previous peer was left. -/
theorem assigned_eq (hacc : acceptsAssignment a.phase = true) :
    a.assigned r =
      let b := ((a.depart (.assigned r)).unretire r).assign r
      conclude r (b.bindAssigned r) fun d =>
        if b.sessionState? r = some .idle then notify { d with phase := .assigned } (.assigned r)
        else { d with phase := .assigned } := by
  unfold assigned
  rw [if_neg (by simp [hacc])]
  rfl

/-- A call to the active peer, whose session waits for it. -/
theorem startCall_eq (hact : a.active = some r) (hs : a.sessionState? r = some .assigned) :
    a.startCall = conclude r (a.sendOffer r) fun c => c := by
  unfold startCall
  simp only [hact, hs, if_true]
  rfl

/-- An answer to a peer that is being offered a call. -/
theorem answer_eq {sender : Option String} (hr : sender.or a.active = some r)
    (hs : a.sessionState? r = some .offering) (sdp : String) :
    a.answer sender sdp = conclude r (a.acceptAnswer r sdp) fun c => c := by
  unfold answer
  simp only [hr, hs, ne_eq, not_true_eq_false, if_false]
  rfl

/-- An offer of a peer that is not in a call. -/
theorem offer_eq {y : CallState} (ho : a.phase ≠ .closed) (hb : (a.unretire r).assign r = b)
    (hs : b.sessionState? r = some y) (hy : y = .idle ∨ y = .assigned) (sdp : String) :
    a.offer r a.localId sdp = conclude r (b.answerOffer r sdp) (adopt r) := by
  unfold offer
  rw [if_neg (by simp), if_neg ho]
  simp only [hb, hs, if_pos hy]

/-! ### The operations -/

/-- An operation on one peer: it is done, or the session is torn down. -/
theorem conclude_deed {cs : List Call} {msg : Option Message} {done : Agent}
    (hset : Setting a m r b) (hb : Scene (a.depart m) b r h id t)
    (hleg : Leg (a.depart m).tracks t cs) (hx : Ends b r h id t cs msg done x)
    (hdone : t.refusedIn cs = none → (msg.isSome → b.outbox.isOpen = true) →
      Deed a m (.ok (), finish done)) : Deed a m (conclude r x finish) := by
  cases hx with
  | refused hr hnum =>
    have hopen : ∀ q reason, (Failure.rejected r (.rejected reason)).error ≠ .rejected q .closed :=
      fun q reason => by simp [Failure.rejected]
    exact .failed hset (.called hb hnum (hleg.refused hr) (.rejected _) (hopen · _))
  | unsent hr _ _ hnum =>
    have hopen : ∀ q, Failure.channelLost.error ≠ .rejected q .closed := nofun
    exact .failed hset (.called hb hnum (hleg.unsent hr) .channelLost hopen)
  | done hr ho => exact hdone hr ho

theorem requestConnect_deed (a : Agent) : Deed a .requestConnect a.requestConnect := by
  unfold requestConnect
  by_cases hp : a.phase = .idle
  · rw [if_neg (by simp [hp]), send?_eq]
    cases ho : a.outbox.isOpen with
    | true => exact .announced hp ho
    | false => exact .unannounced hp ho
  · rw [if_pos hp]
    exact .refused rfl nofun

/-- A peer whose session nothing has happened in gets its transport and the tracks. -/
theorem newlyAssigned_deed (ha : a.Sound) (ho : a.phase ≠ .closed)
    (hp : Prepared (a.depart (.assigned r)) b r h s) (hs : s.state = .idle)
    (hold : a.sessionState? r = none ∨ a.sessionState? r = some .idle) :
    Deed a (.assigned r) (conclude r (b.bindAssigned r) fun d =>
      notify { d with phase := .assigned } (.assigned r)) := by
  have hset := assigned_setting ho hp
  have hleft := left_depart ha ho r
  have hlines := ha.lines_depart ho (.assigned r)
  have htracks : b.tracks = a.tracks := by
    rw [hp.frame]
    exact hleft.tracks
  have hbr : b.Aside r := by
    rw [hp.frame]
    exact hleft.aside.congr rfl rfl hp.base.lookup
  cases hp.start hlines hbr (.inl hs) with
  | refused reason hn hen =>
    have hx : b.bindAssigned r = .error (.rejected r (.setup reason), b) := by
      unfold bindAssigned
      rw [hen]
      rfl
    rw [hx]
    exact .failed hset (.setup hp hbr hn)
  | ready hs' hready =>
    have hidle := hs'.trans hs
    have hends := bindAssigned_ends (r := r) (h := h) hready.scene.le hready.blank.isOpen
      hready.number hidle
    rw [← bindAssigned_congr hready.bound, htracks] at hends
    exact conclude_deed hset hready.scene (leg_handover hready.blank _ _) hends fun hacc _ =>
      .assigned hset hready hidle hacc hold

theorem assigned_deed (ha : a.Sound) (r : String) : Deed a (.assigned r) (a.assigned r) := by
  cases hacc : acceptsAssignment a.phase with
  | false =>
    unfold assigned
    rw [if_pos hacc]
    exact .refused rfl fun _ _ => hacc
  | true =>
    have ho : a.phase ≠ .closed := by
      intro h
      rw [h] at hacc
      exact absurd hacc (by decide)
    have hlines := ha.lines_depart ho (.assigned r)
    have hlook := lookup?_depart a r
    obtain ⟨h, s, hp⟩ := prepared hlines r
    rw [assigned_eq hacc]
    generalize ((a.depart (.assigned r)).unretire r).assign r = b at hp
    by_cases hs : s.state = .idle
    · have hidle : b.sessionState? r = some .idle := by rw [hp.sessionState?, hs]
      have hold : a.sessionState? r = none ∨ a.sessionState? r = some .idle := by
        rw [← sessionState?_congr hlook]
        cases hx : (a.depart (.assigned r)).sessionState? r with
        | none => exact .inl rfl
        | some x => exact .inr (congrArg some ((hp.state_eq hx).symm.trans hs))
      simp only [if_pos hidle]
      exact newlyAssigned_deed ha ho hp hs hold
    · -- the session was there before, so nothing is done for it now
      have hidle : b.sessionState? r ≠ some .idle := by
        rw [hp.sessionState?]
        simpa using hs
      have hset := assigned_setting ho hp
      obtain rfl := hp.eq_of_begun hs
      simp only [if_neg hidle, bindAssigned_of_begun hlines hp.lookup hs]
      exact .reassigned hset (sessionState?_of_lookup (hlook.symm.trans hp.lookup)) hs

theorem startCall_deed (ha : a.Sound) : Deed a .startCall a.startCall := by
  unfold startCall
  cases hact : a.active with
  | none =>
    show Deed a .startCall (if a.phase.isTerminal then _ else _)
    split <;> exact .refused rfl nofun
  | some r =>
    cases hst : a.sessionState? r with
    | none =>
      simp only [hst]
      exact .refused rfl nofun
    | some state =>
      simp only [hst]
      by_cases hs : state = .assigned
      · subst hs
        obtain ⟨h, id, s, t, hh, -, hat⟩ := ha.lines.at_stage .blank hst
        have hset : Setting a .startCall r a :=
          setting_self hact (ha.posture.isOpen hh.lookup) (by simp)
        have hends := sendOffer_ends (b := a) (r := r) (h := h) hh.le hat.isOpen hh.number
        rw [hh.withLine_eq] at hends
        rw [if_pos rfl]
        exact conclude_deed hset (hh.scene ha) (leg_offer hat) hends fun hacc ho =>
          .called hset hh hat hacc (ho rfl) hst
      · rw [if_neg hs]
        split <;> exact .refused rfl nofun

theorem answer_deed (ha : a.Sound) (sender : Option String) (sdp : String) :
    Deed a (.answer sender sdp) (a.answer sender sdp) := by
  unfold answer
  cases hr : sender.or a.active with
  | none => exact .refused rfl nofun
  | some r =>
    cases hst : a.sessionState? r with
    | none =>
      simp only [hst]
      exact .refused rfl nofun
    | some state =>
      simp only [hst]
      by_cases hs : state = .offering
      · subst hs
        obtain ⟨h, id, s, t, hh, hs, hat⟩ := ha.lines.at_stage .offering hst
        have hset : Setting a (.answer sender sdp) r a :=
          setting_self hr (ha.posture.isOpen hh.lookup) (by simp)
        have hends := acceptAnswer_ends (b := a) (r := r) (h := h) hh.le hat.isOpen hh.number sdp
        rw [hh.withLine_eq] at hends
        rw [if_neg (by simp)]
        exact conclude_deed hset (hh.scene ha) (leg_settle hat _ sdp) hends fun hacc _ =>
          .settled hset hh hat hacc hs
      · rw [if_pos hs]
        exact .refused rfl nofun

/-- A peer that calls, and has no call yet, is answered. -/
theorem answerOffer_deed (ha : a.Sound) (ho : a.phase ≠ .closed) {s₀ : Session}
    (hp : Prepared a ((a.unretire r).assign r) r h s₀)
    (hs : s₀.state = .idle ∨ s₀.state = .assigned) (sdp : String) :
    Deed a (.offer r a.localId sdp)
      (conclude r (((a.unretire r).assign r).answerOffer r sdp) (adopt r)) := by
  have hset : Setting a (.offer r a.localId sdp) r ((a.unretire r).assign r) :=
    hp.setting rfl ho (by simp)
  obtain ⟨R, S, hb⟩ : ∃ R S, (a.unretire r).assign r =
      { a with registry := R, retired := S } := ⟨_, _, hp.frame⟩
  rw [hb] at hp hset ⊢
  have hbr : ({ a with registry := R, retired := S } : Agent).Aside r :=
    (ha.posture.aside ho r).congr rfl rfl hp.base.lookup
  cases hp.start ha.lines hbr hs with
  | refused reason hn hen =>
    have hx : ({ a with registry := R, retired := S } : Agent).answerOffer r sdp =
        .error (.rejected r (.setup reason), { a with registry := R, retired := S }) := by
      unfold answerOffer
      rw [hen]
      rfl
    rw [hx]
    exact .failed hset (.setup hp hbr hn)
  | ready _ hready =>
    have hends := answerOffer_ends (r := r) (h := h) hready.scene.le hready.blank.isOpen
      hready.number sdp
    rw [← answerOffer_congr hready.bound] at hends
    exact conclude_deed hset hready.scene (leg_answer hready.blank sdp) hends fun hacc hout =>
      .answered hset ⟨hready, hb, ⟨s₀, hp, hs⟩⟩ hacc (hout rfl) rfl

theorem offer_deed (ha : a.Sound) (sender recipient sdp : String) :
    Deed a (.offer sender recipient sdp) (a.offer sender recipient sdp) := by
  unfold offer
  by_cases hrec : recipient = a.localId
  · subst hrec
    rw [if_neg (by simp)]
    by_cases ho : a.phase = .closed
    · rw [if_pos ho]
      exact .refused rfl nofun
    · rw [if_neg ho]
      obtain ⟨h, s, hp⟩ := prepared ha.lines sender
      simp only [hp.sessionState?]
      by_cases hs : s.state = .idle ∨ s.state = .assigned
      · rw [if_pos hs]
        exact answerOffer_deed ha ho hp hs sdp
      · have hsame : (a.unretire sender).assign sender = a :=
          hp.eq_of_begun fun h => hs (.inl h)
        rw [if_neg hs, hsame]
        split <;> exact .refused rfl nofun
  · rw [if_pos hrec]
    exact .refused rfl nofun

theorem candidate_deed (ha : a.Sound) (r d : String) :
    Deed a (.candidate r d) (a.candidate r d) := by
  cases hl : a.registry.lookup? r with
  | some e =>
    obtain ⟨b, hb, ht⟩ := ha.takes (h := e.handle) (s := e.session) hl d
    rw [hb]
    exact .taken ht
  | none =>
    have hn : a.session? r = none := by
      rw [session?_eq_line?, line?_eq_none_iff.mpr hl]
      rfl
    unfold candidate
    by_cases ho : a.phase = .closed
    · rw [if_pos ho]
      exact .refused rfl nofun
    · rw [if_neg ho, hn, if_neg (by simp)]
      cases hret : a.isRetired r with
      | true => exact .echoed ⟨hn, hret⟩
      | false =>
        have hlook : (a.enrol r).registry.lookup? r =
            some ⟨a.registry.issued, Session.fresh r⟩ := by
          rw [lookup?_enrol, if_pos rfl]
        rw [assign_of_none hl]
        unfold takeCandidate
        simp only [session?_of_lookup hlook]
        exact .taken (.enrolled ho hl hret)

theorem remoteLeft_deed (a : Agent) (r : String) : Deed a (.remoteLeft r) (a.remoteLeft r) := by
  unfold remoteLeft
  by_cases hid : r = a.localId
  · rw [if_pos hid]
    exact .echoed hid
  · rw [if_neg hid]
    cases hs : a.session? r with
    | none => exact .refused rfl nofun
    | some s =>
      have hleft : Deed a (.remoteLeft r) _ := .left (by rw [hs]; rfl)
      simp only [Option.isNone_some, Bool.false_eq_true, if_false, active_closeSession,
        phase_closeSession]
      by_cases hact : a.active = some r
      · simpa only [hact, if_true] using hleft
      · rw [if_neg hact]
        rw [if_neg hact, if_neg hact] at hleft
        have hsame : ({ a.closeSession r with active := a.active, phase := a.phase } : Agent) =
            a.closeSession r := by
          rw [← active_closeSession a r, ← phase_closeSession a r]
        rwa [hsame] at hleft

theorem localCandidate_deed (ha : a.Sound) (r c : String) :
    Deed a (.localCandidate r c) (a.localCandidate r c) := by
  have hnone : a.phase = .closed → a.session? r = none := fun hc => by
    have := ha.posture.closed hc r
    unfold sessionState? at this
    exact Option.map_eq_none_iff.mp this
  unfold localCandidate
  by_cases hs : a.session? r = none
  · rw [if_pos (.inr (by rw [hs]; rfl))]
    exact .echoed hs
  · have hopen : ¬ (a.phase = .closed ∨ (a.session? r).isNone) := by
      rintro (hc | hn)
      · exact hs (hnone hc)
      · exact hs (Option.isNone_iff_eq_none.mp hn)
    have ho : a.phase ≠ .closed := fun hc => hopen (.inl hc)
    rw [if_neg hopen, send?_eq]
    cases hout : a.outbox.isOpen with
    | true => exact .relayed (Option.isSome_iff_ne_none.mpr hs) hout
    | false =>
      have hset : Setting a (.localCandidate r c) r a := setting_self rfl ho (by simp)
      exact .failed hset (.unsent (ha.posture.aside ho r))

/-- The scene is the same for an agent with other tracks. -/
theorem Scene.tracks (hb : Scene a a r h id t) (ts : List Track) :
    Scene a { a with tracks := ts } r h id t :=
  ⟨hb.lines, hb.seat, ⟨fun _ _ => rfl, fun _ _ => rfl, Nat.le_refl _, fun _ => rfl⟩,
    hb.aside.congr rfl rfl fun _ _ => rfl, hb.le, hb.retired, hb.fresh⟩

theorem mediaReady_deed (ha : a.Sound) (ts : List Track) :
    Deed a (.mediaReady ts) (a.mediaReady ts) := by
  unfold mediaReady
  generalize hb : ({ a with tracks := ts } : Agent) = b
  have hecho : (∀ r, b.active = some r → b.sessionState? r ≠ some .assigned) →
      Deed a (.mediaReady ts) (.ok (), b) := fun h => by
    subst hb
    exact .echoed h
  cases hact : b.active with
  | none =>
    simp only [hact]
    exact hecho (by simp [hact])
  | some r =>
    have hecho' : b.sessionState? r ≠ some .assigned → Deed a (.mediaReady ts) (.ok (), b) :=
      fun h => hecho fun q hq => by
        obtain rfl : r = q := Option.some.inj (hact.symm.trans hq)
        exact h
    cases hse : b.session? r with
    | none =>
      simp only [hact, hse]
      exact hecho' (by simp [sessionState?, hse])
    | some s =>
      simp only [hact, hse]
      by_cases hs : s.state = .assigned
      · have hst : b.sessionState? r = some .assigned := by
          unfold sessionState?
          rw [hse, Option.map_some, hs]
        subst hb
        obtain ⟨h, id, s', t, hh, -, hat⟩ := ha.lines.at_stage .blank hst
        obtain rfl : s' = s := Option.some.inj ((session?_of_lookup hh.lookup).symm.trans hse)
        have hset : Setting a (.mediaReady ts) r { a with tracks := ts } := by
          have hself := setting_self (m := .mediaReady ts) hact (ha.posture.isOpen hh.lookup)
            (by simp)
          exact { hself with }
        have hb : ({ a with tracks := ts } : Agent).Holds r h id s' t :=
          ⟨hh.lookup, hh.number, hh.transport⟩
        have hends := bindTracks_ends (r := r) (h := h) hb.le hat.isOpen hh.number
        rw [hb.withLine_eq] at hends
        simp only [hs, hh.number, ne_eq, not_true_eq_false, if_false]
        exact conclude_deed hset ((hh.scene ha).tracks ts) (leg_handover hat ts _) hends
          fun hacc _ => .furnished hset hh hs hacc
      · rw [if_pos hs]
        exact hecho' (by simpa [sessionState?, hse] using hs)

theorem hangUp_deed (a : Agent) : Deed a .hangUp (.ok (), a.hangUp) := by
  unfold hangUp
  by_cases ho : a.phase = .closed
  · rw [if_pos ho]
    exact .echoed ho
  · rw [if_neg ho, send?_eq]
    cases hout : a.outbox.isOpen with
    | true => exact .hungUp ho (.inl ⟨hout, rfl⟩)
    | false => exact .hungUp ho (.inr ⟨hout, rfl⟩)

theorem channelLost_deed (a : Agent) (reason : Option String) :
    Deed a (.channelLost reason) (.ok (), a.channelLost reason) := by
  unfold channelLost
  by_cases ho : a.phase = .closed
  · rw [if_pos ho]
    exact .echoed ho
  · rw [if_neg ho]
    exact .lost ho

theorem expire_deed (a : Agent) (time : Nat) :
    Deed a (.expire time) (.ok (), (a.expire time).2) := by
  unfold expire
  cases hto : a.timeout with
  | none => exact .echoed hto
  | some timeout => exact .expired hto

/-- What a move of a sound agent does. -/
theorem perform_deed (ha : a.Sound) (m : Move) : Deed a m (a.perform m) := by
  cases m with
  | requestConnect => exact requestConnect_deed a
  | assigned r => exact assigned_deed ha r
  | startCall => exact startCall_deed ha
  | answer sender sdp => exact answer_deed ha sender sdp
  | offer sender recipient sdp => exact offer_deed ha sender recipient sdp
  | candidate sender c => exact candidate_deed ha sender c
  | remoteLeft r => exact remoteLeft_deed a r
  | localCandidate r c => exact localCandidate_deed ha r c
  | mediaReady ts => exact mediaReady_deed ha ts
  | hangUp => exact hangUp_deed a
  | channelLost reason => exact channelLost_deed a reason
  | expire time => exact expire_deed a time
  | _ => exact .echoed trivial

end CallSignaling.Agent
