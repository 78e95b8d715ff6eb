import CallSignaling.Proofs.Agent.CallOrder
import CallSignaling.Proofs.Agent.Ownership
import CallSignaling.Proofs.Agent.Unsent

/-!
# Utterance — what a move says

A move says one message at most.  `Utters` lists the messages with the moves that say them and with
what has happened by then: a description that is sent was made by the peer's transport in the same
move and applied to it at once (`Drafts`).
-/

namespace CallSignaling.Agent

/-- In a move from `a` to `b` these calls were made on the transport `u` that the session with a
peer has now. -/
structure Makes (a b : Agent) (r : String) (i : Nat) (u : Scripted) (cs : List Call) : Prop where
  owns : b.Owns r i
  transport : b.transport? i = some u
  calls : u.calls = a.calls i ++ cs

/-- The transport of a peer has made a description in a move, which is what the wish for it was
answered with, and has applied it; only candidates came after that. -/
structure Drafts (a b : Agent) (m : Move) (r : String) (make : Call)
    (wish : Scripted → Scripted.Reply String) (sdp : String) (i : Nat) (u : Scripted)
    (pre : List Call) : Prop where
  calls : ∃ cs : List String,
    Makes a b r i u (pre ++ make :: .setLocal sdp :: cs.map .addCandidate)
  made : (wish (u.origin.replay (a.calls i ++ pre))).1 = .ok sdp
  applied : ((u.origin.replay (a.calls i ++ pre ++ [make])).setLocal sdp).1 = .ok ()
  /-- It is sent at once: were the way out closed, the transport would be closed at this point. -/
  unsent : (a.mute.after m).calls i = a.calls i ++ pre ++ [make, .setLocal sdp, .close]

/-- A description of a peer was made and applied. -/
def Describes (a b : Agent) (m : Move) (r : String) (make : Call)
    (wish : Scripted → Scripted.Reply String) (sdp : String) : Prop :=
  ∃ i u pre, Drafts a b m r make wish sdp i u pre

/-- The messages that a move from `a` to `b` can say. -/
inductive Utters (a b : Agent) : Move → Message → Prop
  | connect : a.phase = .idle → b.phase = .awaitingAssignment →
    Utters a b .requestConnect (.clientConnect a.localId)
  | offer {r sdp : String} : a.active = some r → a.sessionState? r = some .assigned →
    b.sessionState? r = some .offering →
    Describes a b .startCall r .createOffer Scripted.createOffer sdp →
    Utters a b .startCall (.offer a.localId r sdp)
  | answer {r x sdp : String} :
    (∀ y, a.sessionState? r = some y → y = .idle ∨ y = .assigned) →
    b.sessionState? r = some .connected →
    Describes a b (.offer r a.localId x) r .createAnswer Scripted.createAnswer sdp →
    Utters a b (.offer r a.localId x) (.answer (some a.localId) (some r) sdp)
  | candidate {r c : String} : (a.session? r).isSome → b.session? r = a.session? r →
    Utters a b (.localCandidate r c) (.iceCandidate a.localId r c)
  | disconnect : b.phase = .closed → Utters a b .hangUp (.clientDisconnect a.localId)

/-- What a move says, if it says something. -/
structure Utterance (a : Agent) (m : Move) (b : Agent) : Prop where
  localId : b.localId = a.localId
  isOpen : b.outbox.isOpen = true → a.outbox.isOpen = true
  sent : b.outbox.sent = a.outbox.sent ∨
    a.outbox.isOpen = true ∧ ∃ x, b.outbox.sent = a.outbox.sent ++ [x] ∧ Utters a b m x

variable {a b c : Agent} {r : String} {m : Move} {h id i : Nat} {s : Session} {t u : Scripted}
  {cs pre post : List Call} {sdp : String} {x : Message}

/-! ### The calls of a move -/

theorem Makes.congr (hm : Makes a b r i u cs) (hr : c.registry = b.registry)
    (hp : c.pool = b.pool) : Makes a c r i u cs := by
  obtain ⟨⟨s, hs, hi⟩, ht, hcalls⟩ := hm
  refine ⟨⟨s, ?_, hi⟩, ?_, hcalls⟩
  · unfold session? at hs ⊢
    rw [hr, hs]
  · unfold transport? at ht ⊢
    rw [hp, ht]

/-- A line that was put into its place after some calls. -/
theorem makes_withLine (hseat : a.Seat r id t) (hid : id ≤ b.pool.transports.length)
    (hs : s.transport = some id) (hu : u.calls = t.calls ++ cs) :
    Makes a (b.withLine r h id s u) r id u cs where
  owns := ⟨s, session?_withLine .., hs⟩
  transport := (transport?_withLine hid id).trans (if_pos rfl)
  calls := by rw [hu, hseat.calls]

/-- A transport that was called is open. -/
theorem Makes.not_mem_close (hb : b.Lines) (hm : Makes a b r i u cs) :
    .close ∉ a.calls i ++ cs := by
  obtain ⟨L, hL, hi⟩ := owns_iff.mp hm.owns
  obtain ⟨t, st, k, hh, hat⟩ := hb.holds (lookup_of_line? hL).1 hi
  obtain rfl : t = u := Option.some.inj (hh.transport.symm.trans hm.transport)
  rw [← hm.calls]
  exact hat.not_mem_close

/-- The description that is applied is the one that was made. -/
theorem Makes.made {make : Call} (hb : b.Lines)
    (hm : Makes a b r i u (pre ++ make :: .setLocal sdp :: post)) :
    make = .createOffer ∧
      (Scripted.createOffer (u.origin.replay (a.calls i ++ pre))).1 = .ok sdp ∨
    make = .createAnswer ∧
      (Scripted.createAnswer (u.origin.replay (a.calls i ++ pre))).1 = .ok sdp := by
  have hcalls : u.calls = (a.calls i ++ pre ++ [make]) ++ .setLocal sdp :: post := by
    rw [hm.calls]
    simp
  obtain ⟨before, hbefore⟩ := (hb.ordered hm.transport).returned _ _ _ hcalls
  rcases hbefore with ⟨hpre, hok⟩ | ⟨hpre, hok⟩
  · obtain ⟨rfl, hmake⟩ := List.append_inj' hpre rfl
    exact .inl ⟨List.singleton_inj.mp hmake, hok⟩
  · obtain ⟨rfl, hmake⟩ := List.append_inj' hpre rfl
    exact .inr ⟨List.singleton_inj.mp hmake, hok⟩

theorem Makes.applied {make : Call} (hb : b.Lines)
    (hm : Makes a b r i u (pre ++ make :: .setLocal sdp :: post)) :
    ((u.origin.replay (a.calls i ++ pre ++ [make])).setLocal sdp).1 = .ok () := by
  have hclose : .close ∉ a.calls i ++ pre ++ [make] := fun hx => by
    refine hm.not_mem_close hb (List.IsPrefix.subset ?_ hx)
    exact ⟨.setLocal sdp :: post, by simp⟩
  rw [Scripted.setLocal_eq (Scripted.replay_closed rfl hclose)]

theorem Makes.drafts_offer {cs : List String} (hb : b.Lines)
    (hm : Makes a b r i u (pre ++ .createOffer :: .setLocal sdp :: cs.map .addCandidate))
    (hun : (a.mute.after m).calls i = a.calls i ++ pre ++ [.createOffer, .setLocal sdp, .close]) :
    Drafts a b m r .createOffer Scripted.createOffer sdp i u pre where
  calls := ⟨cs, hm⟩
  made := by
    rcases hm.made hb with ⟨-, hok⟩ | ⟨hmake, -⟩
    · exact hok
    · cases hmake
  applied := hm.applied hb
  unsent := hun

theorem Makes.drafts_answer {cs : List String} (hb : b.Lines)
    (hm : Makes a b r i u (pre ++ .createAnswer :: .setLocal sdp :: cs.map .addCandidate))
    (hun : (a.mute.after m).calls i = a.calls i ++ pre ++ [.createAnswer, .setLocal sdp, .close]) :
    Drafts a b m r .createAnswer Scripted.createAnswer sdp i u pre where
  calls := ⟨cs, hm⟩
  made := by
    rcases hm.made hb with ⟨hmake, -⟩ | ⟨-, hok⟩
    · cases hmake
    · exact hok
  applied := hm.applied hb
  unsent := hun

/-- The calls of an operation that calls a peer. -/
theorem Holds.makes_called (hh : a.Holds r h id s t) (ha : a.Lines)
    (hat : t.At .blank s.tracksBound) (x : Message) :
    Makes a ((a.said x).withLine r h id ((s.given a.tracks).markLocal.start .offering a.now)
      (t.replay (a.offerCalls s t))) r id (t.replay (a.offerCalls s t))
      (s.handover a.tracks ++ .createOffer :: .setLocal (t.descriptionText "offer") ::
        [].map .addCandidate) :=
  makes_withLine (hh.seat ha) hh.le hh.number
    (Scripted.replay_calls hat.isOpen (offerCalls_not_mem_close hat rfl))

/-- The calls of an operation that takes an answer. -/
theorem Holds.makes_settled (hh : a.Holds r h id s t) (ha : a.Lines)
    (hat : t.At .offering s.tracksBound) (sdp : String) :
    Makes a (a.withLine r h id s.markRemote.connect
        ((t.replay [.setRemote sdp]).replay (s.pending.map .addCandidate))) r id
      ((t.replay [.setRemote sdp]).replay (s.pending.map .addCandidate))
      (.setRemote sdp :: s.pending.map .addCandidate) := by
  refine makes_withLine (hh.seat ha) hh.le hh.number ?_
  rw [← Scripted.replay_append, Scripted.replay_calls hat.isOpen (by simp)]
  rfl

/-- The calls of an operation that answers an offer. -/
theorem Asked.makes_answered (hb : Asked a b r h id s t)
    (hc : c = (b.said x).withLine r h id
      (((s.start .answering a.now).markRemote.given a.tracks).markLocal.connect)
      ((t.replay (a.answerCalls s t sdp)).replay (s.pending.map .addCandidate))) :
    Makes a (adopt r c) r id
      ((t.replay (a.answerCalls s t sdp)).replay (s.pending.map .addCandidate))
      (.setRemote sdp :: (s.handover a.tracks ++ .createAnswer ::
        .setLocal (t.descriptionText "answer") :: s.pending.map .addCandidate)) := by
  have hat := hb.blank
  have hclose := answerCalls_not_mem_close (a := a) hat rfl sdp s.pending
  have hcalls : ((t.replay (a.answerCalls s t sdp)).replay
      (s.pending.map .addCandidate)).calls = t.calls ++ (.setRemote sdp ::
        (s.handover a.tracks ++ .createAnswer :: .setLocal (t.descriptionText "answer") ::
          s.pending.map .addCandidate)) := by
    rw [← Scripted.replay_append, Scripted.replay_calls hat.isOpen hclose]
    simp [answerCalls]
  have hmakes := makes_withLine (h := h) (b := b.said x)
    (s := ((s.start .answering a.now).markRemote.given a.tracks).markLocal.connect)
    hb.scene.seat hb.scene.le hb.number hcalls
  rw [← hc] at hmakes
  exact hmakes.congr (registry_adopt r c) (pool_adopt r c)

/-! ### Every move -/

theorem Utterance.silent (hid : b.localId = a.localId) (ho : b.outbox = a.outbox) :
    Utterance a m b :=
  ⟨hid, fun h => ho ▸ h, .inl (by rw [ho])⟩

theorem Utterance.said (hid : b.localId = a.localId) (ho : a.outbox.isOpen = true)
    (hs : b.outbox.sent = a.outbox.sent ++ [x]) (hx : Utters a b m x) : Utterance a m b :=
  ⟨hid, fun _ => ho, .inr ⟨ho, x, hs, hx⟩⟩

theorem Deed.utterance {z : Outcome × Agent} (hz : Deed a m z) (ha : a.Sound)
    (hb : z.2.Sound) : Utterance a m z.2 := by
  cases hz with
  | refused => exact .silent rfl rfl
  | @failed m p f b c hset hc =>
    obtain ⟨⟨R, P, rfl⟩, -⟩ := hc.confined
    exact .silent ((localId_fail ..).trans hset.localId) ((outbox_fail ..).trans hset.outbox)
  | echoed =>
    have hsame := echoes a m
    exact ⟨hsame.localId, hsame.isOpen, .inl hsame.sent⟩
  | unannounced => exact .silent rfl rfl
  | announced hp ho => exact .said rfl ho rfl (.connect hp rfl)
  | reassigned hset => exact .silent hset.localId hset.outbox
  | assigned hset => exact .silent hset.localId hset.outbox
  | @called r h id s t hset hh hat hacc ho hst =>
    refine .said rfl ho rfl (.offer hset.subject hst (sessionState?_withLine ..) ?_)
    have hmakes := hh.makes_called ha.lines hat (.offer a.localId r (t.descriptionText "offer"))
    have hun := hh.called_unsent hset.subject hst hat hacc
    rw [← (hh.seat ha.lines).calls] at hun
    refine ⟨id, _, s.handover a.tracks, hmakes.drafts_offer hb.lines ?_⟩
    simpa [offerCalls] using hun
  | settled => exact .silent rfl rfl
  | @answered r sdp R S h id s t c hset hask hacc ho hc =>
    have hmakes := hask.makes_answered hc
    have hnew : (adopt r c).sessionState? r = some .connected := by
      rw [sessionState?_adopt, hc]
      exact sessionState?_withLine ..
    have hun := hask.answered_unsent hset.isOpen sdp hacc
    rw [← hask.scene.seat.calls] at hun
    refine .said ((localId_adopt r c).trans (by rw [hc]; rfl)) ho (by rw [outbox_adopt, hc]; rfl)
      (.answer (fun y hy => hask.state hy) hnew ?_)
    refine ⟨id, _, .setRemote sdp :: s.handover a.tracks, hmakes.drafts_answer hb.lines ?_⟩
    simpa [answerCalls] using hun
  | taken ht =>
    obtain ⟨⟨R, P, rfl⟩, -⟩ := ht.confined
    exact .silent rfl rfl
  | @left r =>
    exact .silent (localId_closeSession a r) (outbox_closeSession a r)
  | relayed hs ho => exact .said rfl ho rfl (.candidate hs rfl)
  | furnished => exact .silent rfl rfl
  | hungUp _ hsaid =>
    rcases hsaid with ⟨ho, rfl⟩ | ⟨-, rfl⟩
    · exact .said rfl ho rfl (.disconnect rfl)
    · exact .silent rfl rfl
  | lost => exact .silent rfl rfl
  | @expired time timeout =>
    obtain ⟨hid, hout⟩ := fails_induct (P := fun b => b.localId = a.localId ∧ b.outbox = a.outbox)
      (fun b r f hb => ⟨(localId_fail b r f).trans hb.1, (outbox_fail b r f).trans hb.2⟩)
      (a.stalled timeout time) ⟨rfl, rfl⟩
    exact .silent hid hout

/-- What a move of a sound agent says. -/
theorem perform_utterance (ha : a.Sound) (m : Move) : Utterance a m (a.after m) :=
  (perform_deed ha m).utterance ha (ha.after m)

end CallSignaling.Agent
