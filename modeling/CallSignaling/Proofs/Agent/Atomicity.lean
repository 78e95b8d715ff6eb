import CallSignaling.Proofs.Agent.Resolution
import CallSignaling.Proofs.Agent.Routing
import CallSignaling.Proofs.Agent.Turn

/-!
# Atomicity — a protocol error leaves no trace

Main statement: `atomic_run`.  Whatever moves were made before, a move that does not fit the state
changes nothing at all, and neither does a frame that holds no message, or one that does not fit.
-/

namespace CallSignaling.Agent

variable {a : Agent} {e : CallError}

theorem Resolved.unchanged {m : Move} {x : Outcome × Agent} (hx : Resolved a m x)
    (he : x.1 = .error e) (hp : e.isProtocol = true) : x.2 = a := by
  cases hx with
  | done b => simp at he
  | refused => rfl
  | torn ho hf hw =>
    obtain rfl := Except.error.inj he
    simp [hf.not_isProtocol] at hp
  | unannounced =>
    obtain rfl := Except.error.inj he
    simp [CallError.isProtocol] at hp

theorem Sound.route_unchanged (ha : a.Sound) {m : Message} (he : (a.route m).1 = .error e)
    (hp : e.isProtocol = true) : (a.route m).2 = a := by
  by_cases hr : ∀ r, m.recipient? = some r → r = a.localId
  · rw [route_addressed hr] at he ⊢
    cases hm : moveOf? m with
    | none => rfl
    | some v =>
      rw [hm] at he
      exact (perform_resolved ha v).unchanged he hp
  · obtain ⟨r, hr⟩ := Classical.not_forall.mp hr
    obtain ⟨hr, hne⟩ := Classical.not_imp.mp hr
    rw [route_misaddressed hr hne]

theorem dispatch_of_decode {frame : Bytes} {m : Message}
    (hd : Message.decode frame = .ok (some m)) : a.dispatch frame = (a.route m).2 := by
  unfold dispatch
  rw [hd]

theorem dispatch_of_no_message {frame : Bytes}
    (hd : ∀ m, Message.decode frame ≠ .ok (some m)) : a.dispatch frame = a := by
  unfold dispatch
  split
  next m hm => exact absurd hm (hd m)
  next => rfl

/-- After any moves a protocol error has changed nothing, be it the answer of a move or that of a
message in a frame; a frame without a message changes nothing either, and a message to someone else
is such an error. -/
theorem atomic_run (localId : String) (timeout : Option Nat) (tracks : List Track)
    (behaviour : Behaviour) (now : Nat) (history : List Move) :
    let a := (fresh localId timeout tracks (.fresh behaviour) now).run history
    (∀ m e, (a.perform m).1 = .error e → e.isProtocol = true → (a.perform m).2 = a) ∧
    (∀ frame, (∃ e, Message.decode frame = .error e) ∨ Message.decode frame = .ok none ∨
        (∃ m e, Message.decode frame = .ok (some m) ∧ (a.route m).1 = .error e ∧
          e.isProtocol = true) →
      a.dispatch frame = a) ∧
    ∀ m r, m.recipient? = some r → r ≠ a.localId →
      a.route m = (.error (.misaddressed r a.localId), a) := by
  have ha := sound_run localId timeout tracks behaviour now history
  refine ⟨fun m e => (perform_resolved ha m).unchanged, fun frame hframe => ?_,
    fun m r => route_misaddressed⟩
  rcases hframe with ⟨e, hd⟩ | hd | ⟨m, e, hd, he, hp⟩
  · exact dispatch_of_no_message (by simp [hd])
  · exact dispatch_of_no_message (by simp [hd])
  · rw [dispatch_of_decode hd]
    exact ha.route_unchanged he hp

/-- A second call to the peer that has been called already. -/
theorem atomic_run_startCall :
    let a := (fresh "a" none [] (.fresh {}) 0).run [.requestConnect, .assigned "b", .startCall]
    a.perform .startCall = (.error (.alreadyNegotiating "b" .offering), a) := by
  intro a
  have he : (a.perform .startCall).1 = .error (.alreadyNegotiating "b" .offering) := by rfl
  have hsame := (atomic_run "a" none [] {} 0 [.requestConnect, .assigned "b", .startCall]).1
    .startCall _ he rfl
  exact Prod.ext he hsame

end CallSignaling.Agent
