import CallSignaling.Proofs.Agent.Delivery
import CallSignaling.Proofs.Agent.Isolation
import Mathlib.Data.List.Induction

/-!
# Lateness — candidates that come after the session is gone

Main statement: `lateness_run`.  A peer whose session was taken out has none until it is assigned
again or calls again; its candidates are dropped as long, and nothing of what came before reaches a
transport that is made for it afterwards.
-/

namespace CallSignaling.Agent

/-- The ways in which a move takes out the session with a peer. -/
inductive Removes (a : Agent) (r : String) : Move → Prop
  | left : (a.session? r).isSome → r ≠ a.localId → Removes a r (.remoteLeft r)
  | replaced {q : String} : a.active = some r → q ≠ r → Removes a r (.assigned q)
  | failed {m : Move} {e : CallError} : a.subject? m = some r → (a.perform m).1 = .error e →
    e.isProtocol = false → Removes a r m
  | expired {time timeout elapsed : Nat} : a.timeout = some timeout →
    (r, elapsed) ∈ a.stalled timeout time → Removes a r (.expire time)

/-- The moves that give a peer a session again. -/
def Reopens (a : Agent) (r : String) : Move → Prop
  | .assigned q => q = r ∧ acceptsAssignment a.phase = true
  | .offer sender recipient _ => sender = r ∧ recipient = a.localId ∧ a.phase ≠ .closed
  | _ => False

/-- None of these moves, one after another, gives the peer a session again. -/
def Shuns (a : Agent) (r : String) : List Move → Prop
  | [] => True
  | m :: later => ¬ Reopens a r m ∧ Shuns (a.after m) r later

/-- What there is of a peer whose session was taken out. -/
structure Departed (a : Agent) (r : String) : Prop where
  gone : a.session? r = none
  /-- A late candidate changes nothing at all. -/
  late : a.phase ≠ .closed → ∀ c, a.perform (.candidate r c) = (.ok (), a)
  /-- Once the peer has a session again, a transport made for it since gets only candidates that
  have arrived since, in their order. -/
  renewed : ∀ m later i t, Reopens a r m → a.transport? i = none →
    (a.run (m :: later)).transport? i = some t → t.remote = r →
    t.candidates <:+: received r later

/-- A peer has no session, and its candidates will be dropped. -/
structure Gone (a : Agent) (r : String) : Prop where
  session : a.session? r = none
  retired : a.isRetired r = true

variable {a b : Agent} {r q : String} {m : Move} {i : Nat} {t : Scripted}

/-! ### A peer that is gone -/

theorem session?_eq_none_iff : a.session? r = none ↔ a.registry.lookup? r = none :=
  Option.map_eq_none_iff

theorem Gone.sessionState? (h : Gone a r) : a.sessionState? r = none :=
  sessionState?_eq_none_iff.mpr (session?_eq_none_iff.mp h.session)

theorem Gone.spared (h : Gone a r) (hb : Spared a b r) : Gone b r where
  session := session?_eq_none_iff.mpr (hb.lookup.trans (session?_eq_none_iff.mp h.session))
  retired := hb.retired.trans h.retired

theorem gone_closeSession (a : Agent) (r : String) : Gone (a.closeSession r) r where
  session := session?_eq_none_iff.mpr ((lookup?_closeSession a r r).trans (if_pos rfl))
  retired := (isRetired_closeSession a r r).trans (if_pos rfl)

theorem gone_fail (a : Agent) (r : String) (f : Failure) : Gone (a.fail r f) r where
  session := (session?_fail a r f r).trans (if_pos rfl)
  retired := (isRetired_fail a r f r).trans (if_pos rfl)

theorem Gone.fail (h : Gone a r) (q : String) (f : Failure) : Gone (a.fail q f) r := by
  by_cases hq : r = q
  · subst hq
    exact gone_fail a r f
  · exact h.spared (fail_spared a f hq)

/-- The active peer has a session, so a peer that is gone is not the active one. -/
theorem Gone.inactive (h : Gone a r) (ha : a.Sound) : a.active ≠ some r := by
  intro hact
  obtain ⟨s, hs, -⟩ := ha.posture.active r hact
  rw [h.sessionState?] at hs
  cases hs

theorem Gone.candidate (h : Gone a r) (ho : a.phase ≠ .closed) (c : String) :
    a.candidate r c = (.ok (), a) := by
  unfold Agent.candidate
  rw [if_neg ho, h.session, if_neg (by simp), if_pos h.retired]

/-! ### One move -/

/-- What is about a peer that is gone changes nothing, unless it gives the peer a session again. -/
theorem Gone.unmoved (h : Gone a r) (ha : a.Sound) (hr : a.concerned? m = some r)
    (hm : ¬ Reopens a r m) : a.after m = a := by
  cases m with
  | assigned q =>
    obtain rfl : q = r := Option.some.inj hr
    have hrefused : acceptsAssignment a.phase = false := by simpa [Reopens] using hm
    show (a.assigned q).2 = a
    unfold Agent.assigned
    rw [if_pos hrefused]
  | startCall => exact absurd hr (h.inactive ha)
  | mediaReady => exact absurd hr (h.inactive ha)
  | answer sender sdp =>
    have hwhom : sender.or a.active = some r := hr
    show (a.answer sender sdp).2 = a
    unfold Agent.answer
    simp only [hwhom, h.sessionState?]
  | offer sender recipient sdp =>
    obtain rfl : sender = r := Option.some.inj hr
    show (a.offer sender recipient sdp).2 = a
    unfold Agent.offer
    by_cases hrec : recipient = a.localId
    · have hclosed : a.phase = .closed := by simpa [Reopens, hrec] using hm
      rw [if_neg (by simpa using hrec), if_pos hclosed]
    · rw [if_pos hrec]
  | candidate q c =>
    obtain rfl : q = r := Option.some.inj hr
    show (a.candidate q c).2 = a
    by_cases ho : a.phase = .closed
    · unfold Agent.candidate
      rw [if_pos ho]
    · rw [h.candidate ho]
  | remoteLeft q =>
    obtain rfl : q = r := Option.some.inj hr
    show (a.remoteLeft q).2 = a
    unfold Agent.remoteLeft
    rw [h.session]
    split <;> rfl
  | localCandidate q c =>
    obtain rfl : q = r := Option.some.inj hr
    show (a.localCandidate q c).2 = a
    unfold Agent.localCandidate
    rw [h.session, if_pos (.inr rfl)]
  | _ => cases hr

/-- A move about no peer or about others leaves a peer gone. -/
theorem Gone.aside (h : Gone a r) (ha : a.Sound) (hr : a.concerned? m ≠ some r) :
    Gone (a.after m) r := by
  have hdeed := perform_deed ha m
  cases hq : a.concerned? m with
  | some q =>
    have hne : r ≠ q := fun e => hr (by rw [hq, e])
    exact h.spared (hdeed.spared hq hne fun _ => h.inactive ha)
  | none =>
    have hno : ∀ {p b}, ¬ Setting a m p b := fun hb => by
      rw [concerned?_of_subject? hb.subject] at hq
      cases hq
    show Gone (a.perform m).2 r
    generalize a.perform m = z at hdeed
    cases hdeed with
    | refused => exact h
    | failed hb => exact absurd hb hno
    | echoed =>
      have hecho := echoes a m
      exact h.spared (Spared.congr ⟨rfl, rfl⟩ hecho.registry hecho.retired)
    | unannounced => exact ⟨h.session, h.retired⟩
    | announced => exact ⟨h.session, h.retired⟩
    | reassigned hb => exact absurd hb hno
    | assigned hb => exact absurd hb hno
    | called hb => exact absurd hb hno
    | settled hb => exact absurd hb hno
    | answered hb => exact absurd hb hno
    | taken => cases hq
    | left => cases hq
    | relayed => cases hq
    | furnished hb => exact absurd hb hno
    | hungUp _ hsaid =>
      rcases hsaid with ⟨-, rfl⟩ | ⟨-, rfl⟩ <;> exact ⟨rfl, h.retired⟩
    | lost => exact ⟨rfl, h.retired⟩
    | expired => exact fails_induct (P := (Gone · r)) (fun b p f hb => hb.fail p f) _ h

theorem Gone.after (h : Gone a r) (ha : a.Sound) (hm : ¬ Reopens a r m) : Gone (a.after m) r := by
  by_cases hr : a.concerned? m = some r
  · rw [h.unmoved ha hr hm]
    exact h
  · exact h.aside ha hr

/-- The peer stays gone, whatever else happens. -/
theorem Gone.run (h : Gone a r) (ha : a.Sound) (later : List Move) (hs : Shuns a r later) :
    Gone (a.run later) r := by
  induction later generalizing a with
  | nil => exact h
  | cons m later ih =>
    obtain ⟨hm, hlater⟩ := hs
    exact ih (h.after ha hm) (ha.after m) hlater

/-! ### The removal -/

/-- Of several failures one was that of the peer. -/
theorem gone_fails {late : List (String × Nat)} {n : Nat} (hr : (r, n) ∈ late) (a : Agent) :
    Gone (late.foldl (fun a (q, k) => a.fail q (.timedOut q k)) a) r := by
  induction late generalizing a with
  | nil => cases hr
  | cons e late ih =>
    rcases List.mem_cons.mp hr with rfl | hr
    · exact fails_induct (P := (Gone · r)) (fun b p f hb => hb.fail p f) late (gone_fail a r _)
    · exact ih hr (a.fail e.1 (.timedOut e.1 e.2))

theorem Removes.gone (hm : Removes a r m) (ha : a.Sound) : Gone (a.after m) r := by
  cases hm with
  | left hs hid =>
    have hclosed := gone_closeSession a r
    show Gone (a.remoteLeft r).2 r
    unfold Agent.remoteLeft
    rw [if_neg hid, if_neg (by simpa [Option.isSome_iff_ne_none] using hs)]
    dsimp only
    split
    · exact ⟨hclosed.session, hclosed.retired⟩
    · exact hclosed
  | @replaced q hact hq =>
    have hstanding := ha.posture.standing
    rw [hact] at hstanding
    obtain ⟨hl, hret⟩ := (perform_deed ha (.assigned q)).replaced hstanding.acceptsAssignment
      (Ne.symm hq) hact
    exact ⟨session?_eq_none_iff.mpr hl, hret⟩
  | failed hr he hp =>
    have hne : m ≠ .requestConnect := by
      rintro rfl
      cases hr
    obtain ⟨p, f, b, ho, -, hw, -⟩ := (perform_resolved ha m).exists_wreck he hp hne
    obtain rfl : p = r := Option.some.inj (ho.subject.symm.trans hr)
    exact ⟨session?_eq_none_iff.mpr ((hw.lookup p).trans (if_pos rfl)), hw.retired⟩
  | expired hto hlate =>
    show Gone (a.expire _).2 r
    unfold Agent.expire
    rw [hto]
    exact gone_fails hlate a

/-! ### Afterwards -/

/-- A peer that had no session gets one by a move, and the session takes what comes from then on. -/
theorem Sound.taken_since (ha : a.Sound) (hn : a.session? r = none) (moves : List Move) {L : Line}
    (hL : (a.run moves).line? r = some L) : L.taken <:+ received r moves := by
  rcases ha.taken_run moves hL with ⟨K, hK, -⟩ | ⟨before, m, later, rfl, -, -, htaken⟩
  · rw [session?_eq_line?, hK] at hn
    cases hn
  · rw [htaken, received_append]
    exact List.suffix_append _ _

/-- What the transports that a peer without a session gets later are handed has come since. -/
theorem Sound.candidates_since (ha : a.Sound) (hn : a.session? r = none) (moves : List Move)
    (hi : a.transport? i = none) (ht : (a.run moves).transport? i = some t) (hr : t.remote = r) :
    t.candidates <:+: received r moves := by
  induction moves using List.reverseRecOn generalizing t with
  | nil =>
    rw [run_nil, hi] at ht
    cases ht
  | append_singleton moves m ih =>
    have hb := ha.run moves
    rcases (ha.run (moves ++ [m])).lines.owner i t ht with ⟨k, hk⟩ | ⟨L, hL, hLi⟩
    · -- the transport is closed, so what it got it had before the last move
      rw [run_concat] at ht
      have hsame := (perform_turn hb m).effect.withheld i t ht hk.closedOnce.1
      cases hu : (a.run moves).transport? i with
      | none =>
        have hnone : (a.run moves).handed i = [] := by
          unfold handed
          rw [hu]
          rfl
        rw [hsame, hnone]
        exact List.nil_infix
      | some u =>
        obtain ⟨v, hv, hvr, -⟩ := (perform_turn hb m).effect.kept i u hu
        obtain rfl : v = t := Option.some.inj (hv.symm.trans ht)
        rw [hsame, handed_of_transport? hu, received_append]
        exact (ih hu (hvr.symm.trans hr)).trans (List.prefix_append _ _).isInfix
    · rw [hr] at hL
      have htaken := ha.taken_since hn _ hL
      have hLt : L.transport = some t := by
        rw [(lookup_of_line? hL).2, hLi]
        exact ht
      have hprefix : t.candidates <+: L.taken := by
        unfold Line.taken
        rw [hLt]
        exact List.prefix_append _ _
      exact hprefix.isInfix.trans htaken.isInfix

theorem Gone.departed (h : Gone a r) (ha : a.Sound) : Departed a r where
  gone := h.session
  late := h.candidate
  renewed := by
    intro m later i t hm hi ht hr
    have hsince := ha.candidates_since h.session (m :: later) hi ht hr
    have hnone : received r [m] = [] := by
      refine received_eq_nil fun c e => ?_
      subst e
      exact hm
    have hsplit : received r (m :: later) = received r [m] ++ received r later :=
      received_append r [m] later
    rwa [hsplit, hnone, List.nil_append] at hsince

/-- After any moves a peer whose session is taken out stays without one until it is assigned again
or calls again, whatever else is done. -/
theorem lateness_run (localId : String) (timeout : Option Nat) (tracks : List Track)
    (behaviour : Behaviour) (now : Nat) (history : List Move) (m : Move) (r : String)
    (later : List Move) :
    let a := (fresh localId timeout tracks (.fresh behaviour) now).run history
    Removes a r m → Shuns (a.after m) r later → Departed ((a.after m).run later) r := by
  intro a hm hlater
  have ha : a.Sound := sound_run localId timeout tracks behaviour now history
  have hafter := ha.after m
  exact ((hm.gone ha).run hafter later hlater).departed (hafter.run later)

/-- A peer has left, and its candidate comes late; another one is assigned in its place. -/
theorem lateness_run_left :
    let a := (fresh "a" none [] (.fresh {}) 0).run
      [.requestConnect, .assigned "b", .candidate "b" "old"]
    let later := [Move.candidate "b" "late", .remoteLeft "b", .assigned "c"]
    Removes a "b" (.remoteLeft "b") ∧ Shuns (a.after (.remoteLeft "b")) "b" later ∧
      Departed ((a.after (.remoteLeft "b")).run later) "b" := by
  intro a later
  have hleft : Removes a "b" (.remoteLeft "b") := .left rfl (by decide)
  have hlater : Shuns (a.after (.remoteLeft "b")) "b" later :=
    ⟨id, id, fun h => absurd h.1 (by decide), trivial⟩
  exact ⟨hleft, hlater, lateness_run "a" none [] {} 0 [.requestConnect, .assigned "b",
    .candidate "b" "old"] (.remoteLeft "b") "b" later hleft hlater⟩

end CallSignaling.Agent
