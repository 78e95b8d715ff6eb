import CallSignaling.Proofs.Relay.Network

/-!
# Agreement — parties that are connected have each other's descriptions

Main statement: `agreement_run`.  Whatever the relay does with the messages, a party that has called
and is connected has the answer of the other one, which has its offer; if both have called, neither
is ever connected.
-/

namespace CallSignaling

namespace Agent

variable {a b : Agent} {r d : String} {f q : Option String} {L : Line} {u : Scripted}

theorem transport?_of_line? (hL : a.line? r = some L) :
    ((a.session? r).bind Session.transport).bind a.transport? = L.transport := by
  rw [session?_eq_line?, hL, (lookup_of_line? hL).2]
  rfl

/-- A session whose transport has made a description waits for the answer or is connected. -/
theorem Sound.made (ha : a.Sound) (hL : a.line? r = some L) (hu : L.transport = some u)
    (hmake : .createOffer ∈ u.calls ∨ .createAnswer ∈ u.calls) :
    (a.sessionState? r = some .offering ∧ ∃ k, u.At .offering k) ∨
    (a.sessionState? r = some .connected ∧ ∃ k, u.At .live k) := by
  have hstate : a.sessionState? r = some L.session.state := by
    rw [sessionState?_eq_line?, hL, Option.map_some]
  rw [hstate]
  cases ha.lines.sound r L hL with
  | idle => cases hu
  | @bound h s t st k _ _ hat hf hst =>
    obtain rfl := Option.some.inj hu
    rw [hf.state]
    cases st with
    | blank =>
      obtain ⟨hoffer, hanswer, -⟩ := hat.blank_roles
      exact (hmake.elim hoffer hanswer).elim
    | asked => exact absurd rfl hst
    | offering => exact .inl ⟨rfl, k, hat⟩
    | live => exact .inr ⟨rfl, k, hat⟩

/-! ### What was said -/

namespace Party

theorem offer_said {f q : String} (hp : a.Party b) (hx : .offer f q d ∈ a.outbox.sent) :
    f = a.localId ∧ q = b.localId ∧ a.Described b.localId .createOffer d := by
  cases hp.spoken _ hx with
  | offer hd =>
    obtain ⟨L, u, hL, h⟩ := hd
    obtain rfl := hp.alone _ L hL
    exact ⟨rfl, rfl, L, u, hL, h⟩

theorem answer_said (hp : a.Party b) (hx : .answer f q d ∈ a.outbox.sent) :
    f = some a.localId ∧ q = some b.localId ∧ a.Described b.localId .createAnswer d := by
  cases hp.spoken _ hx with
  | answer hd =>
    obtain ⟨L, u, hL, h⟩ := hd
    obtain rfl := hp.alone _ L hL
    exact ⟨rfl, rfl, L, u, hL, h⟩

/-- A party that has called and is connected, as the other one sees it. -/
theorem agreed (hp : a.Party b) (hq : b.Party a)
    (hstate : a.sessionState? b.localId = some .connected)
    (hcalled : a.Described b.localId .createOffer d) :
    ∃ K L caller callee answer, a.line? b.localId = some K ∧ K.transport = some caller ∧
      b.line? a.localId = some L ∧ L.transport = some callee ∧
      b.sessionState? a.localId = some .connected ∧
      .createAnswer ∈ callee.calls ∧ .createOffer ∉ callee.calls ∧
      .answer (some b.localId) (some a.localId) answer ∈ b.outbox.sent ∧
      caller.localDescriptions = [d] ∧ callee.remoteDescriptions = [d] ∧
      callee.localDescriptions = [answer] ∧ caller.remoteDescriptions = [answer] := by
  obtain ⟨K, u, hK, hu, hmade, hd⟩ := hcalled
  obtain ⟨k, hat⟩ : ∃ k, u.At .live k := by
    rcases hp.sound.made hK hu (.inl hmade) with ⟨h, -⟩ | ⟨-, hat⟩
    · rw [hstate] at h
      cases h
    · exact hat
  obtain ⟨-, o, w, hlocal, hremote⟩ := hat.live_roles
  obtain rfl : d = o := by simpa [hlocal] using hd
  -- the answer that was applied is one that the other party has sent
  obtain ⟨f, q, hx⟩ := (hp.heard _ K u w hK hu (by simp [hremote])).answer hmade
  obtain ⟨rfl, rfl, L, v, hL, hv, hmade', hw⟩ := hq.answer_said hx
  obtain ⟨hstate', k', hat'⟩ : b.sessionState? a.localId = some .connected ∧ ∃ k, v.At .live k := by
    rcases hq.sound.made hL hv (.inr hmade') with ⟨-, k', hat'⟩ | h
    · exact absurd hmade' hat'.offering_roles.2.1
    · exact h
  obtain ⟨hrole, w', o', hlocal', hremote'⟩ := hat'.live_roles
  obtain rfl : w = w' := by simpa [hlocal'] using hw
  have hnone : .createOffer ∉ v.calls := fun h => hrole.mp h hmade'
  -- and the offer that it answers is the one that the first party has sent
  obtain ⟨f, q, hx'⟩ := (hq.heard _ L v o' hL hv (by simp [hremote'])).offer hnone
  obtain ⟨-, -, K', u', hK', hu', -, ho⟩ := hp.offer_said hx'
  obtain rfl : K = K' := Option.some.inj (hK.symm.trans hK')
  obtain rfl : u = u' := Option.some.inj (hu.symm.trans hu')
  obtain rfl : o' = d := by simpa [hlocal] using ho
  exact ⟨K, L, u, v, w, hK, hu, hL, hv, hstate', hmade', hnone, hx, hlocal, hremote', hlocal',
    hremote⟩

end Party

end Agent

namespace Pair

variable {g g' : Pair} {s : Side}

/-- The state of a party's session with the other one. -/
def sessionState? (g : Pair) (s : Side) : Option CallState :=
  (g s).sessionState? (g s.other).localId

/-- The transport of a party's session with the other one. -/
def transport? (g : Pair) (s : Side) : Option Scripted :=
  (((g s).session? (g s.other).localId).bind Session.transport).bind (g s).transport?

/-- A party has sent an offer to the other one. -/
def Offered (g : Pair) (s : Side) : Prop :=
  ∃ sdp, .offer (g s).localId (g s.other).localId sdp ∈ (g s).outbox.sent

/-- The other party is connected too and has answered the call of this one; the two transports have
each other's description and no other one. -/
structure Agreed (g : Pair) (s : Side) : Prop where
  state : g.sessionState? s.other = some .connected
  descriptions : ∃ caller callee offer answer,
    g.transport? s = some caller ∧ g.transport? s.other = some callee ∧
    .createAnswer ∈ callee.calls ∧ .createOffer ∉ callee.calls ∧
    .answer (some (g s.other).localId) (some (g s).localId) answer ∈ (g s.other).outbox.sent ∧
    caller.localDescriptions = [offer] ∧ callee.remoteDescriptions = [offer] ∧
    callee.localDescriptions = [answer] ∧ caller.remoteDescriptions = [answer]

/-- Two agents that have done nothing yet and have different names. -/
structure Fresh (g : Pair) : Prop where
  distinct : (g .left).localId ≠ (g .right).localId
  blank : ∀ s, ∃ localId timeout tracks behaviour now,
    g s = .fresh localId timeout tracks (.fresh behaviour) now

theorem Fresh.linked (hg : g.Fresh) : g.Linked where
  party := fun s => by
    obtain ⟨localId, timeout, tracks, behaviour, now, h⟩ := hg.blank s
    rw [h]
    exact
      { sound := Agent.sound_fresh localId timeout tracks behaviour now
        alone := fun r L hL => by cases hL
        spoken := fun x hx => by cases hx
        heard := fun r L u d hL => by cases hL }
  distinct := fun s => by
    cases s with
    | left => exact hg.distinct
    | right => exact hg.distinct.symm

theorem Linked.agreed (hg : g.Linked) (hstate : g.sessionState? s = some .connected)
    (ho : g.Offered s) : g.Agreed s := by
  have hback := hg.party s.other
  rw [Side.other_other] at hback
  obtain ⟨o, hx⟩ := ho
  obtain ⟨-, -, hcalled⟩ := (hg.party s).offer_said hx
  obtain ⟨K, L, u, v, w, hK, hu, hL, hv, hstate', h⟩ := (hg.party s).agreed hback hstate hcalled
  refine ⟨?_, u, v, o, w, ?_, ?_, h⟩
  · unfold sessionState?
    rw [Side.other_other]
    exact hstate'
  · exact (Agent.transport?_of_line? hK).trans hu
  · unfold transport?
    rw [Side.other_other]
    exact (Agent.transport?_of_line? hL).trans hv

/-- If both have called, each of them waits for an answer. -/
theorem Linked.glare (hg : g.Linked) (ho : ∀ s, g.Offered s) (s : Side) :
    g.sessionState? s = some .offering := by
  obtain ⟨o, hx⟩ := ho s
  obtain ⟨-, -, L, u, hL, hu, hmade, -⟩ := (hg.party s).offer_said hx
  rcases (hg.party s).sound.made hL hu (.inl hmade) with ⟨h, -⟩ | ⟨h, -⟩
  · exact h
  · obtain ⟨-, caller, callee, _, _, -, hcallee, -, hnone, -⟩ := hg.agreed h (ho s)
    obtain ⟨o', hx'⟩ := ho s.other
    obtain ⟨-, -, L', v, hL', hv, hmade', -⟩ := (hg.party s.other).offer_said hx'
    have hv' : g.transport? s.other = some v := (Agent.transport?_of_line? hL').trans hv
    obtain rfl := Option.some.inj (hcallee.symm.trans hv')
    exact absurd hmade' hnone

/-- What was offered stays offered. -/
theorem Linked.offered_step (hg : g.Linked) (hs : Step g g') {t : Side} (ho : g.Offered t) :
    g'.Offered t := by
  obtain ⟨s, m, -, -, rfl⟩ := hg.exists_move hs
  obtain ⟨hid, new, hsent, -⟩ := Agent.perform_speaks (hg.party s).sound m
  obtain ⟨o, hx⟩ := ho
  refine ⟨o, ?_⟩
  rcases s.eq_or_other t with rfl | rfl
  · rw [put_self, put_other, hid, hsent]
    exact List.mem_append_left new hx
  · rw [Side.other_other, put_self, put_other, hid]
    rw [Side.other_other] at hx
    exact hx

theorem Linked.offered_steps (hg : g.Linked) (hs : Relation.ReflTransGen Step g g') {t : Side}
    (ho : g.Offered t) : g'.Offered t := by
  induction hs with
  | refl => exact ho
  | tail hsteps hstep ih => exact (hg.steps hsteps).offered_step hstep ih

/-- In every state that two fresh agents reach over a relay, a party that has offered a call and is
connected agrees with the other one about the descriptions; once both have offered a call, both wait
for an answer for good. -/
theorem agreement_run (g₀ g : Pair) (hfresh : g₀.Fresh) (hrun : Relation.ReflTransGen Step g₀ g) :
    (∀ s, g.sessionState? s = some .connected → g.Offered s → g.Agreed s) ∧
    ((∀ s, g.Offered s) → ∀ g', Relation.ReflTransGen Step g g' →
      ∀ s, g'.sessionState? s = some .offering) := by
  have hg := hfresh.linked.steps hrun
  refine ⟨fun s => hg.agreed, fun ho g' hlater => ?_⟩
  exact (hg.steps hlater).glare fun s => hg.offered_steps hlater (ho s)

/-- One party calls, the relay hands over the offer and the answer to it. -/
theorem agreement_run_call :
    ∃ g₀ g : Pair, g₀.Fresh ∧ Relation.ReflTransGen Step g₀ g ∧
      g.sessionState? .left = some .connected ∧ g.Offered .left ∧ g.Agreed .left := by
  let callee : Pair := fun _ => .fresh "b" none [] (.fresh {}) 0
  let g₀ := callee.put .left (.fresh "a" none [] (.fresh {}) 0)
  let offer : Message := .offer "a" "b" ((Scripted.create "b" {}).descriptionText "offer")
  let answer : Message :=
    .answer (some "b") (some "a") ((Scripted.create "a" {}).descriptionText "answer")
  let g₁ := g₀.put .left ((g₀ .left).after .requestConnect)
  let g₂ := g₁.put .left ((g₁ .left).after (.assigned "b"))
  let g₃ := g₂.put .left ((g₂ .left).after .startCall)
  let g₄ := g₃.put .right ((g₃ .right).route offer).2
  let g₅ := g₄.put .left ((g₄ .left).route answer).2
  have hfresh : g₀.Fresh := ⟨by decide, fun s => by cases s <;> exact ⟨_, _, _, _, _, rfl⟩⟩
  have h₁ : Step g₀ g₁ := .act (s := .left) trivial (by decide)
  have h₂ : Step g₁ g₂ := .act (s := .left) (m := .assigned "b") rfl (by decide)
  have h₃ : Step g₂ g₃ := .act (s := .left) (m := .startCall) trivial (by decide +kernel)
  have h₄ : Step g₃ g₄ :=
    .deliver (s := .right) (t := .left) (by decide +kernel) rfl (by decide +kernel)
  have h₅ : Step g₄ g₅ :=
    .deliver (s := .left) (t := .right) (by decide +kernel) rfl (by decide +kernel)
  have hrun : Relation.ReflTransGen Step g₀ g₅ :=
    ((((Relation.ReflTransGen.single h₁).tail h₂).tail h₃).tail h₄).tail h₅
  have hstate : g₅.sessionState? .left = some .connected := by decide +kernel
  have hoffered : g₅.Offered .left :=
    ⟨(Scripted.create "b" {}).descriptionText "offer", by decide +kernel⟩
  exact ⟨g₀, g₅, hfresh, hrun, hstate, hoffered,
    (agreement_run g₀ g₅ hfresh hrun).1 .left hstate hoffered⟩

end Pair

end CallSignaling
