import CallSignaling.Proofs.Agent.Utterance
import CallSignaling.Proofs.Transport.Roles

/-!
# Speech — what an agent says, and that it has a reason for it

A message is `Spoken` if the agent as it is now accounts for it: a description in it is the local
one of the peer's transport, made in the role that the message says.  A move adds only such messages
to the outbox (`perform_speaks`).
-/

namespace CallSignaling.Agent

/-- The transport of a peer has made a description by this call and applied it. -/
def Described (a : Agent) (r : String) (make : Call) (sdp : String) : Prop :=
  ∃ L u, a.line? r = some L ∧ L.transport = some u ∧ make ∈ u.calls ∧ sdp ∈ u.localDescriptions

/-- A message that the agent accounts for. -/
inductive Spoken (a : Agent) : Message → Prop
  | connect : Spoken a (.clientConnect a.localId)
  | disconnect : Spoken a (.clientDisconnect a.localId)
  | offer {r sdp : String} : a.Described r .createOffer sdp → Spoken a (.offer a.localId r sdp)
  | answer {r sdp : String} : a.Described r .createAnswer sdp →
    Spoken a (.answer (some a.localId) (some r) sdp)
  | candidate {r c : String} : (a.session? r).isSome → Spoken a (.iceCandidate a.localId r c)

/-- `b` has said what `a` had said, and more that it accounts for. -/
structure Speaks (a b : Agent) : Prop where
  localId : b.localId = a.localId
  sent : ∃ new, b.outbox.sent = a.outbox.sent ++ new ∧ ∀ x ∈ new, b.Spoken x

variable {a b : Agent} {r : String} {m : Move} {x : Message}

/-- A description made in a move is the local one of the peer's transport after it. -/
theorem Describes.described {make : Call} {wish : Scripted → Scripted.Reply String} {sdp : String}
    (hd : Describes a b m r make wish sdp) : b.Described r make sdp := by
  obtain ⟨i, u, pre, ⟨cs, hm⟩, -⟩ := hd
  obtain ⟨L, hL, hi⟩ := owns_iff.mp hm.owns
  refine ⟨L, u, hL, ?_, ?_, Scripted.mem_localDescriptions.mpr ?_⟩
  · rw [(lookup_of_line? hL).2, hi, Option.bind_some, hm.transport]
  · rw [hm.calls]
    simp
  · rw [hm.calls]
    simp

/-- What a move says is accounted for. -/
theorem Utters.spoken (hx : Utters a b m x) (hid : b.localId = a.localId) : b.Spoken x := by
  cases hx with
  | connect => exact hid ▸ .connect
  | offer _ _ _ hd => exact hid ▸ .offer hd.described
  | answer _ _ hd => exact hid ▸ .answer hd.described
  | candidate hs hsame => exact hid ▸ .candidate (by rw [hsame]; exact hs)
  | disconnect => exact hid ▸ .disconnect

/-- What a move adds to the outbox is accounted for. -/
theorem perform_speaks (ha : a.Sound) (m : Move) : Speaks a (a.after m) := by
  obtain ⟨hid, -, hsilent | ⟨-, x, hsent, hx⟩⟩ := perform_utterance ha m
  · exact ⟨hid, [], by rw [hsilent, List.append_nil], by simp⟩
  · exact ⟨hid, [x], hsent, by simpa using hx.spoken hid⟩

end CallSignaling.Agent
