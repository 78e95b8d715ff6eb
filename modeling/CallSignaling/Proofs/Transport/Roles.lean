import CallSignaling.Proofs.Transport.CallOrder

/-!
# Roles — who offers in an exchange, and the descriptions it has

A transport that makes an offer makes no answer.  At the end of an exchange it has one description
of each side; before our offer it has none, and before the answer to that none of the other side.
-/

namespace CallSignaling

variable {text : String → String} {k : Bool} {log : List Call} {t : Scripted}

theorem Handover.cases_eq (h : Handover k log) : log = [] ∨ ∃ ids, log = [.addTracks ids] := by
  cases h with
  | none => exact .inl rfl
  | @tracks ids _ => exact .inr ⟨ids, rfl⟩

namespace Scripted

/-- The texts of one kind of call in a log. -/
theorem mem_texts {f : Call → Option String} {call : String → Call} {d : String}
    (hf : ∀ c, f c = some d ↔ c = call d) : d ∈ log.filterMap f ↔ call d ∈ log := by
  simp only [List.mem_filterMap, hf, exists_eq_right]

theorem mem_localDescriptions {d : String} : d ∈ t.localDescriptions ↔ .setLocal d ∈ t.calls :=
  mem_texts fun c => by cases c <;> simp

theorem mem_remoteDescriptions {d : String} :
    d ∈ t.remoteDescriptions ↔ .setRemote d ∈ t.calls :=
  mem_texts fun c => by cases c <;> simp

/-- Nothing is described before the exchange begins. -/
theorem At.blank_roles (h : t.At .blank k) :
    .createOffer ∉ t.calls ∧ .createAnswer ∉ t.calls ∧ (∀ d, .setLocal d ∉ t.calls) ∧
      ∀ d, .setRemote d ∉ t.calls := by
  have hcourse := h.course
  generalize t.calls = log at hcourse ⊢
  cases hcourse with
  | blank he => rcases he.cases_eq with rfl | ⟨ids, rfl⟩ <;> simp

/-- An offer was made, and nothing has come back. -/
theorem At.offering_roles (h : t.At .offering k) :
    .createOffer ∈ t.calls ∧ .createAnswer ∉ t.calls ∧ ∀ d, .setRemote d ∉ t.calls := by
  have hcourse := h.course
  generalize t.calls = log at hcourse ⊢
  cases hcourse with
  | offering he => rcases he.cases_eq with rfl | ⟨ids, rfl⟩ <;> simp

/-- Both sides are described, and ours was made in one of the two roles. -/
theorem At.live_roles (h : t.At .live k) :
    (.createOffer ∈ t.calls ↔ .createAnswer ∉ t.calls) ∧
      ∃ l r, t.localDescriptions = [l] ∧ t.remoteDescriptions = [r] := by
  have hcourse := h.course
  unfold localDescriptions remoteDescriptions
  generalize t.calls = log at hcourse ⊢
  cases hcourse with
  | called sdp cs he =>
    rcases he.cases_eq with rfl | ⟨ids, rfl⟩ <;> simp
  | joined sdp cs he hl =>
    rcases he.cases_eq with rfl | ⟨ids, rfl⟩ <;> rcases hl.cases_eq with rfl | ⟨ids, rfl⟩ <;>
      simp

end Scripted

end CallSignaling
