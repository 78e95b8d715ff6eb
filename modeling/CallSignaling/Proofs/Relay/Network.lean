import CallSignaling.Proofs.Agent.Hearing
import CallSignaling.Proofs.Agent.Routing
import Mathlib.Logic.Relation

/-!
# Network — two agents and a relay between them

Each of two agents does as it likes and gets the messages that name it, in any order, any number of
times or never (`Step`).  `Party` is what holds of one of them in the company of the other one; a
move of either keeps it (`Party.act`, `Party.listen`), and so does every step of the network
(`Linked.step`).
-/

namespace CallSignaling

/-- The two parties of a call. -/
inductive Side where
  | left
  | right
deriving DecidableEq, Repr

def Side.other : Side → Side
  | .left => .right
  | .right => .left

@[simp] theorem Side.other_other (s : Side) : s.other.other = s := by cases s <;> rfl

@[simp] theorem Side.other_ne (s : Side) : s.other ≠ s := by cases s <;> decide

theorem Side.eq_or_other (s t : Side) : t = s ∨ t = s.other := by
  cases s <;> cases t <;> simp [other]

/-- Two agents. -/
abbrev Pair := Side → Agent

namespace Pair

def put (g : Pair) (s : Side) (a : Agent) : Pair := fun t => if t = s then a else g t

@[simp] theorem put_self (g : Pair) (s : Side) (a : Agent) : g.put s a s = a := if_pos rfl

@[simp] theorem put_other (g : Pair) (s : Side) (a : Agent) : g.put s a s.other = g s.other :=
  if_neg s.other_ne

/-- What an agent does of itself and what the server tells it: no message of the other party comes
this way, and no other peer is assigned. -/
def Own (peer : String) : Agent.Move → Prop
  | .offer .. | .answer .. | .candidate .. => False
  | .assigned r => r = peer
  | _ => True

/-- What can happen to two agents, as long as no session is taken out. -/
inductive Step (g : Pair) : Pair → Prop
  | act {s : Side} {m : Agent.Move} : Own (g s.other).localId m →
    (g s).Retains ((g s).after m) → Step g (g.put s ((g s).after m))
  /-- The relay hands over a message, perhaps not for the first time, to the party it names. -/
  | deliver {s t : Side} {m : Message} : m ∈ (g t).outbox.sent →
    m.recipient? = some (g s).localId → (g s).Retains ((g s).route m).2 →
    Step g (g.put s ((g s).route m).2)

end Pair

namespace Agent

variable {a b c : Agent} {m : Move} {r d : String} {L : Line} {u : Scripted}

/-- What a move can be that happens to an agent whose other party is `b`. -/
inductive Meant (b : Agent) : Move → Prop
  | own {m : Move} : Pair.Own b.localId m → Meant b m
  | offer {q sdp : String} : .offer b.localId q sdp ∈ b.outbox.sent →
    Meant b (.offer b.localId q sdp)
  | answer {f q : Option String} {sdp : String} : .answer f q sdp ∈ b.outbox.sent →
    Meant b (.answer f sdp)
  | candidate {c : String} : Meant b (.candidate b.localId c)

/-- A description that a transport has got from the other side is one that `b` has sent, as an
answer if the transport has made an offer. -/
structure Heard (b : Agent) (u : Scripted) (d : String) : Prop where
  answer : .createOffer ∈ u.calls → ∃ f q, .answer f q d ∈ b.outbox.sent
  offer : .createOffer ∉ u.calls → ∃ f q, .offer f q d ∈ b.outbox.sent

/-- An agent in the company of `b`. -/
structure Party (a b : Agent) : Prop where
  sound : a.Sound
  alone : ∀ r L, a.line? r = some L → r = b.localId
  spoken : ∀ x ∈ a.outbox.sent, a.Spoken x
  heard : ∀ r L u d, a.line? r = some L → L.transport = some u → d ∈ u.remoteDescriptions →
    Heard b u d

namespace Party

/-- A line that a move has made is that of the other party. -/
theorem alone_of_new (hm : Meant b m) (hc : LineChange a r m none L) : r = b.localId := by
  generalize hl : (none : Option Line) = l at hc
  cases hc with
  | enrol =>
    cases hm with
    | own h => exact h.elim
    | candidate => rfl
  | assign =>
    cases hm with
    | own h => exact h
  | accept =>
    cases hm with
    | own h => exact h.elim
    | offer => rfl
  | _ => cases hl

/-- The agent makes a move. -/
theorem act (hp : a.Party b) (hm : Meant b m) (hr : a.Retains (a.after m)) :
    (a.after m).Party b := by
  have heffect := (perform_turn hp.sound m).effect
  obtain ⟨hid, new, hsent, hnew⟩ := perform_speaks hp.sound m
  refine ⟨hp.sound.after m, fun r L hL => ?_, fun x hx => ?_, fun r L u d hL hu hd => ?_⟩
  · rcases heffect.line r L hL with hsame | hc
    · exact hp.alone r L hsame
    · cases hK : a.line? r with
      | some K => exact hp.alone r K hK
      | none =>
        rw [hK] at hc
        exact alone_of_new hm hc
  · rw [hsent] at hx
    rcases List.mem_append.mp hx with hx | hx
    · exact (hp.spoken x hx).after heffect hr hid
    · exact hnew x hx
  · rcases heffect.line r L hL with hsame | hc
    · exact hp.heard r L u d hsame hu hd
    · rcases hc.heard (hp.sound.lines.sound r) hu hd with
        ⟨K, t, hK, ht, hd', hiff⟩ | ⟨sender, rfl, hmade⟩ | ⟨rfl, hmade⟩
      · have hold := hp.heard r K t d hK ht hd'
        exact ⟨fun h => hold.answer (hiff.mp h), fun h => hold.offer fun h' => h (hiff.mpr h')⟩
      · cases hm with
        | own h => exact h.elim
        | answer hx => exact ⟨fun _ => ⟨_, _, hx⟩, fun h => absurd hmade h⟩
      · cases hm with
        | own h => exact h.elim
        | offer hx => exact ⟨fun h => absurd h hmade, fun _ => ⟨_, _, hx⟩⟩

/-- The other party has said more. -/
theorem listen (hp : a.Party b) (hid : c.localId = b.localId)
    (hsent : ∀ x ∈ b.outbox.sent, x ∈ c.outbox.sent) : a.Party c where
  sound := hp.sound
  alone := fun r L hL => (hp.alone r L hL).trans hid.symm
  spoken := hp.spoken
  heard := fun r L u d hL hu hd => by
    have hold := hp.heard r L u d hL hu hd
    refine ⟨fun h => ?_, fun h => ?_⟩
    · obtain ⟨f, q, hx⟩ := hold.answer h
      exact ⟨f, q, hsent _ hx⟩
    · obtain ⟨f, q, hx⟩ := hold.offer h
      exact ⟨f, q, hsent _ hx⟩

end Party

end Agent

namespace Pair

variable {g g' : Pair} {s t : Side} {m : Agent.Move}

/-- Two agents that know of nobody but each other. -/
structure Linked (g : Pair) : Prop where
  party : ∀ s, (g s).Party (g s.other)
  distinct : ∀ s, (g s).localId ≠ (g s.other).localId

/-- One of the agents makes a move. -/
theorem Linked.put (hg : g.Linked) (hm : Agent.Meant (g s.other) m)
    (hr : (g s).Retains ((g s).after m)) : (g.put s ((g s).after m)).Linked := by
  obtain ⟨hid, new, hsent, -⟩ := Agent.perform_speaks (hg.party s).sound m
  have hmore : ∀ x ∈ (g s).outbox.sent, x ∈ ((g s).after m).outbox.sent := fun x hx => by
    rw [hsent]
    exact List.mem_append_left new hx
  have hback := hg.party s.other
  rw [Side.other_other] at hback
  refine ⟨fun t => ?_, fun t => ?_⟩
  · rcases s.eq_or_other t with rfl | rfl
    · rw [put_self, put_other]
      exact (hg.party t).act hm hr
    · rw [Side.other_other, put_self, put_other]
      exact hback.listen hid hmore
  · rcases s.eq_or_other t with rfl | rfl
    · rw [put_self, put_other, hid]
      exact hg.distinct t
    · rw [Side.other_other, put_self, put_other, hid]
      exact (hg.distinct s).symm

/-- A message is handed over to the other party of the one that has sent it, and means a move. -/
theorem Linked.deliver {x : Message} (hg : g.Linked) (hx : x ∈ (g t).outbox.sent)
    (hr : x.recipient? = some (g s).localId) :
    ∃ m, Agent.Meant (g s.other) m ∧ ((g s).route x).2 = (g s).after m := by
  have hroute := Agent.route_addressed (a := g s) (m := x) fun r h =>
    Option.some.inj (h.symm.trans hr)
  -- the recipient is a peer that the sender has a session with, and there is only one such peer
  have hside : ∀ {r L}, (g t).line? r = some L → r = (g s).localId → t = s.other := by
    rintro r L hL rfl
    have hpeer := (hg.party t).alone _ L hL
    rcases s.eq_or_other t with rfl | rfl
    · exact absurd hpeer (hg.distinct t)
    · rfl
  cases (hg.party t).spoken x hx with
  | connect => cases hr
  | disconnect => cases hr
  | offer hd =>
    obtain ⟨L, u, hL, -⟩ := hd
    obtain rfl := hside hL (Option.some.inj hr)
    exact ⟨_, .offer hx, congrArg Prod.snd hroute⟩
  | answer hd =>
    obtain ⟨L, u, hL, -⟩ := hd
    obtain rfl := hside hL (Option.some.inj hr)
    exact ⟨_, .answer hx, congrArg Prod.snd hroute⟩
  | candidate hs =>
    rw [Agent.session?_eq_line?, Option.isSome_map] at hs
    obtain ⟨L, hL⟩ := Option.isSome_iff_exists.mp hs
    obtain rfl := hside hL (Option.some.inj hr)
    exact ⟨_, .candidate, congrArg Prod.snd hroute⟩

/-- A step is a move of one of the agents that the other one accounts for. -/
theorem Linked.exists_move (hg : g.Linked) (hs : Step g g') :
    ∃ s m, Agent.Meant (g s.other) m ∧ (g s).Retains ((g s).after m) ∧
      g' = g.put s ((g s).after m) := by
  cases hs with
  | @act s m hm hr => exact ⟨s, m, .own hm, hr, rfl⟩
  | @deliver s t x hx hrec hr =>
    obtain ⟨m, hm, hafter⟩ := hg.deliver hx hrec
    rw [hafter] at hr ⊢
    exact ⟨s, m, hm, hr, rfl⟩

theorem Linked.step (hg : g.Linked) (hs : Step g g') : g'.Linked := by
  obtain ⟨s, m, hm, hr, rfl⟩ := hg.exists_move hs
  exact hg.put hm hr

theorem Linked.steps (hg : g.Linked) (hs : Relation.ReflTransGen Step g g') : g'.Linked := by
  induction hs with
  | refl => exact hg
  | tail _ hstep ih => exact ih.step hstep

end Pair

end CallSignaling
