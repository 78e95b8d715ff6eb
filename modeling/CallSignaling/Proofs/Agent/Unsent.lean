import CallSignaling.Proofs.Agent.Operations

/-!
# Unsent — a description that cannot be sent

A description is sent when it has been made and applied, and before anything else is done.  That
shows where the way out is closed: the operation gets as far as that, and the transport is closed
then.
-/

namespace CallSignaling.Agent

variable {a b : Agent} {r : String} {h id i : Nat} {s : Session} {t : Scripted}

/-- A failure closes the transport of the session. -/
theorem calls_fail (f : Failure) (hs : a.session? r = some s) (hi : s.transport = some i)
    (ht : a.transport? i = some t) : (a.fail r f).calls i = t.calls ++ [.close] := by
  have hclose : (a.fail r f).transport? i = some t.close := by
    rw [transport?_fail, hs, Option.bind_some, if_pos hi, ht, Option.map_some]
  exact calls_of_transport? hclose

/-- A step that wants to send a message after its calls, and cannot. -/
theorem Ends.calls_unsent {cs : List Call} {m : Message} {done : Agent} {x : Advance}
    {finish : Agent → Agent} (hx : Ends b r h id t cs (some m) done x)
    (hout : b.outbox.isOpen = false) (hacc : t.refusedIn cs = none) (ho : t.closed = false)
    (hc : .close ∉ cs) (hid : id ≤ b.pool.transports.length) :
    (conclude r x finish).2.calls id = t.calls ++ cs ++ [.close] := by
  cases hx with
  | refused hr =>
    rw [hacc] at hr
    cases hr
  | @unsent s _ _ _ hnum =>
    have ht := (transport?_withLine (r := r) (h := h) (s := s) (t := t.replay cs) hid id).trans
      (if_pos rfl)
    show (fail _ r .channelLost).calls id = _
    rw [calls_fail .channelLost (session?_withLine ..) hnum ht, Scripted.replay_calls ho hc]
  | done _ hsent =>
    rw [hsent rfl] at hout
    cases hout

/-- A call that cannot be offered. -/
theorem Holds.called_unsent (hh : a.Holds r h id s t) (hact : a.active = some r)
    (hst : a.sessionState? r = some .assigned) (hat : t.At .blank s.tracksBound)
    (hacc : t.refusedIn (a.offerCalls s t) = none) :
    (a.mute.after .startCall).calls id = t.calls ++ a.offerCalls s t ++ [.close] := by
  have hactive : a.mute.active = some r := hact
  have hstate : a.mute.sessionState? r = some .assigned := hst
  have hmuted : a.mute.Holds r h id s t := ⟨hh.lookup, hh.number, hh.transport⟩
  have hends := sendOffer_ends (b := a.mute) (r := r) (h := h) hh.le hat.isOpen hh.number
  rw [hmuted.withLine_eq] at hends
  show a.mute.startCall.2.calls id = _
  rw [startCall_eq hactive hstate]
  exact hends.calls_unsent rfl hacc hat.isOpen (offerCalls_not_mem_close hat rfl) hh.le

theorem ensureBound_mute (a : Agent) (r : String) : a.mute.ensureBound r =
    match a.ensureBound r with
    | .ok (id, a) => .ok (id, a.mute)
    | .error (f, a) => .error (f, a.mute) := by
  have hsession : a.mute.session? r = a.session? r := rfl
  have hpool : a.mute.pool = a.pool := rfl
  unfold ensureBound
  rw [hsession, hpool]
  cases (a.session? r).bind Session.transport with
  | some id => rfl
  | none =>
    cases a.pool.create r with
    | mk x p => cases x <;> rfl

/-- A peer that calls has no call yet. -/
theorem Asked.state (hb : Asked a b r h id s t) {x : CallState} (hx : a.sessionState? r = some x) :
    x = .idle ∨ x = .assigned := by
  obtain ⟨s₀, hp, hs₀⟩ := hb.prepared
  rw [← hp.state_eq hx]
  exact hs₀

/-- An offer that cannot be answered. -/
theorem Asked.answered_unsent (hb : Asked a b r h id s t) (ho : a.phase ≠ .closed) (sdp : String)
    (hacc : t.refusedIn (b.answerCalls s t sdp) = none) :
    (a.mute.after (.offer r a.localId sdp)).calls id =
      t.calls ++ b.answerCalls s t sdp ++ [.close] := by
  obtain ⟨s₀, hp, hs₀⟩ := hb.prepared
  have hat := hb.blank
  have hopen : a.mute.phase ≠ .closed := ho
  have hmuted : (a.mute.unretire r).assign r = b.mute := by
    rw [← hb.assign]
    rfl
  have hstate : b.mute.sessionState? r = some s₀.state := hp.sessionState?
  have hoffer : a.mute.offer r a.localId sdp =
      conclude r (b.mute.answerOffer r sdp) (adopt r) := offer_eq hopen hmuted hstate hs₀ sdp
  have hen : b.mute.ensureBound r = (b.mute.withLine r h id s t).ensureBound r := by
    show _ = (b.withLine r h id s t).mute.ensureBound r
    rw [ensureBound_mute, hb.bound, ← ensureBound_mute]
  have hends := answerOffer_ends (b := b.mute) (r := r) (h := h) hb.scene.le hat.isOpen hb.number
    sdp
  rw [← answerOffer_congr hen] at hends
  have hclose : .close ∉ b.answerCalls s t sdp := fun hm =>
    answerCalls_not_mem_close (a := b) hat rfl sdp s.pending (List.mem_append_left _ hm)
  show (a.mute.offer r a.localId sdp).2.calls id = _
  rw [hoffer]
  exact hends.calls_unsent rfl hacc hat.isOpen hclose hb.scene.le

end CallSignaling.Agent
