import CallSignaling.Proofs.Agent.Operations

/-!
# Resolution — how a move ends

A move is done, or it did not fit the state and has changed nothing, or a failure has torn down the
session it was about (`perform_resolved`).  `Wreck` says what such a failure leaves of the agent
that set out.
-/

namespace CallSignaling.Agent

/-- What a failure leaves of an agent `b` that worked on a peer. -/
structure Wreck (b : Agent) (r : String) (f : Failure) (d : Agent) : Prop where
  lookup : ∀ q, d.registry.lookup? q = if q = r then none else b.registry.lookup? q
  retired : d.isRetired r = true
  active : d.active = if b.active = some r then none else b.active
  phase : d.phase = if b.active = some r then .failed f.cause else b.phase
  notices : d.notices = b.notices ++ [.fatal f.error.message]
  outbox : d.outbox = b.outbox

/-- How a move ends. -/
inductive Resolved (a : Agent) (m : Move) : Outcome × Agent → Prop
  | done (b : Agent) : Resolved a m (.ok (), b)
  | refused {e : CallError} : e.isProtocol = true → Resolved a m (.error e, a)
  | torn {r : String} {f : Failure} {b d : Agent} : Outset a m r b → f.Genuine r → Wreck b r f d →
    Resolved a m (.error f.error, d)
  /-- The identity could not be announced. -/
  | unannounced : m = .requestConnect →
    Resolved a m (.error .channelClosed, { a with phase := .failed .channelLost })

variable {a b c : Agent} {r : String} {m : Move}

theorem Confined.wreck (hc : Confined b c r) (ho : b.phase ≠ .closed) (f : Failure) :
    Wreck b r f (c.fail r f) := by
  obtain ⟨⟨R, P, rfl⟩, hlook⟩ := hc
  have hphase := phase_fail (a := { b with registry := R, pool := P }) ho r f
  refine ⟨fun q => ?_, by simp, by simp, hphase, by simp, by simp⟩
  rw [lookup?_fail]
  split
  · rfl
  next hq => exact hlook q hq

theorem Deed.resolved {x : Outcome × Agent} (hx : Deed a m x) : Resolved a m x := by
  cases hx with
  | refused he => exact .refused he
  | failed hb hc => exact .torn hb.toOutset hc.genuine (hc.confined.wreck hb.isOpen _)
  | unannounced => exact .unannounced rfl
  | _ => exact .done _

/-- How a move of a sound agent ends. -/
theorem perform_resolved (ha : a.Sound) (m : Move) : Resolved a m (a.perform m) :=
  (perform_deed ha m).resolved

end CallSignaling.Agent
