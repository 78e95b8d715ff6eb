import CallSignaling.Proofs.Agent.Ownership
import CallSignaling.Proofs.Agent.Speech

/-!
# Hearing — where a remote description comes from

While no session is taken out (`Retains`) the log of a peer's transport only grows, so what was said
stays accounted for (`Spoken.after`).  A description that a peer's transport has got from the other
side came with an answer if the transport had made an offer, and with an offer if it had not
(`LineChange.heard`).
-/

namespace CallSignaling.Agent

/-- Every peer that `a` has a session with has one in `b`. -/
def Retains (a b : Agent) : Prop := ∀ r ∈ a.registry.remotes, (b.session? r).isSome

instance (a b : Agent) : Decidable (a.Retains b) := by
  unfold Retains
  infer_instance

variable {a b : Agent} {m : Move} {r d : String} {K L : Line} {l : Option Line} {t u : Scripted}

/-! ### What is retained -/

theorem Retains.line? (hr : a.Retains b) (hK : a.line? r = some K) : ∃ L, b.line? r = some L := by
  have hmem : r ∈ a.registry.remotes := by
    refine (Roster.mem_names_iff _ _).mpr ?_
    show (a.registry.lookup? r).isSome
    rw [(lookup_of_line? hK).1]
    rfl
  have hsome := hr r hmem
  rw [session?_eq_line?, Option.isSome_map] at hsome
  exact Option.isSome_iff_exists.mp hsome

/-- The transport of a line that stays is the same, and its log has grown. -/
theorem Effect.log_grows (he : Effect m a b) (hK : a.line? r = some K) (ht : K.transport = some t)
    (hL : b.line? r = some L) : ∃ u more, L.transport = some u ∧ u.calls = t.calls ++ more := by
  obtain ⟨hl, hbind⟩ := lookup_of_line? hK
  rw [ht] at hbind
  obtain ⟨i, hi, hti⟩ := Option.bind_eq_some_iff.mp hbind.symm
  have hi' : L.session.transport = some i := by
    rcases he.line r L hL with hsame | hc
    · obtain rfl := Option.some.inj (hK.symm.trans hsame)
      exact hi
    · obtain ⟨h, s, _⟩ := K
      obtain rfl := ht
      rw [hK] at hc
      exact hc.transport_eq.trans hi
  obtain ⟨u, hu, -⟩ := he.kept i t hti
  obtain ⟨more, hmore, -⟩ := he.grows i u hu
  refine ⟨u, more, ?_, ?_⟩
  · rw [(lookup_of_line? hL).2, hi', Option.bind_some, hu]
  · rw [hmore, calls_of_transport? hti]

theorem Described.after {make : Call} (he : Effect m a b) (hr : a.Retains b)
    (hd : a.Described r make d) : b.Described r make d := by
  obtain ⟨K, t, hK, ht, hmake, hlocal⟩ := hd
  obtain ⟨L, hL⟩ := hr.line? hK
  obtain ⟨u, more, hu, hcalls⟩ := he.log_grows hK ht hL
  refine ⟨L, u, hL, hu, ?_, Scripted.mem_localDescriptions.mpr ?_⟩
  · rw [hcalls]
    exact List.mem_append_left _ hmake
  · rw [hcalls]
    exact List.mem_append_left _ (Scripted.mem_localDescriptions.mp hlocal)

theorem Spoken.after {x : Message} (he : Effect m a b) (hr : a.Retains b)
    (hid : b.localId = a.localId) (hx : a.Spoken x) : b.Spoken x := by
  cases hx with
  | connect => exact hid ▸ .connect
  | disconnect => exact hid ▸ .disconnect
  | offer hd => exact hid ▸ .offer (hd.after he hr)
  | answer hd => exact hid ▸ .answer (hd.after he hr)
  | @candidate r c hs =>
    rw [session?_eq_line?, Option.isSome_map] at hs
    obtain ⟨K, hK⟩ := Option.isSome_iff_exists.mp hs
    obtain ⟨L, hL⟩ := hr.line? hK
    refine hid ▸ .candidate ?_
    rw [session?_eq_line?, hL]
    rfl

/-! ### What is heard -/

theorem LineChange.heard (hc : LineChange a r m l L) (hl : ∀ K, l = some K → K.Sound r)
    (hu : L.transport = some u) (hd : d ∈ u.remoteDescriptions) :
    (∃ K t, l = some K ∧ K.transport = some t ∧ d ∈ t.remoteDescriptions ∧
      (.createOffer ∈ u.calls ↔ .createOffer ∈ t.calls)) ∨
    (∃ sender, m = .answer sender d ∧ .createOffer ∈ u.calls) ∨
    (m = .offer r a.localId d ∧ .createOffer ∉ u.calls) := by
  have hsound := hc.sound hl
  rw [Scripted.mem_remoteDescriptions] at hd
  cases hc with
  | enrol => cases hu
  | @wait h s t => exact .inl ⟨_, u, rfl, hu, Scripted.mem_remoteDescriptions.mpr hd, Iff.rfl⟩
  | @pass h s t c hs =>
    obtain rfl := Option.some.inj hu
    obtain ⟨-, -, hat, -⟩ := (hl _ rfl).at_stage .live hs
    have hclose : .close ∉ [Call.addCandidate c] := by simp
    have hcalls := Scripted.replay_calls hat.isOpen hclose
    rw [hcalls] at hd ⊢
    refine .inl ⟨_, t, rfl, rfl, Scripted.mem_remoteDescriptions.mpr ?_, ?_⟩
    · simpa using hd
    · simp
  -- before the other side is heard there is no remote description at all
  | assign =>
    obtain rfl := Option.some.inj hu
    obtain ⟨-, -, hat, -⟩ := hsound.at_stage .blank rfl
    exact absurd hd (hat.blank_roles.2.2.2 d)
  | furnish hs =>
    obtain rfl := Option.some.inj hu
    obtain ⟨-, -, hat, -⟩ := hsound.at_stage .blank hs
    exact absurd hd (hat.blank_roles.2.2.2 d)
  | offer =>
    obtain rfl := Option.some.inj hu
    obtain ⟨-, -, hat, -⟩ := hsound.at_stage .offering rfl
    exact absurd hd (hat.offering_roles.2.2 d)
  | @settle h s t sender sdp _ hs =>
    obtain rfl := Option.some.inj hu
    obtain ⟨-, -, hat, -⟩ := (hl _ rfl).at_stage .offering hs
    obtain ⟨hmade, -, hnone⟩ := hat.offering_roles
    have hclose : .close ∉ [Call.setRemote sdp] ++ s.pending.map .addCandidate := by simp
    have hcalls := Scripted.replay_calls hat.isOpen hclose
    rw [← Scripted.replay_append] at hd ⊢
    rw [hcalls] at hd ⊢
    -- the offer was made before, and nothing had come back to it
    obtain rfl : d = sdp := by simpa [hnone d] using hd
    exact .inr (.inl ⟨sender, rfl, List.mem_append_left _ hmade⟩)
  | @accept _ h s t sdp ho hacc =>
    obtain rfl := Option.some.inj hu
    obtain ⟨-, -, -, -, -, hat⟩ := ho.blank hl
    obtain ⟨hmade, -, -, hnone⟩ := hat.blank_roles
    have hclose := answerCalls_not_mem_close (a := a) hat rfl sdp s.pending
    have hcalls : ∀ c, c ∈ t.calls ++ (a.answerCalls s t sdp ++ s.pending.map .addCandidate) →
        c ∈ t.calls ∨ c = .setRemote sdp ∨ c = .addTracks (a.tracks.map Track.id) ∨
          c = .createAnswer ∨ (∃ x, c = .setLocal x) ∨ ∃ x, c = .addCandidate x := by
      intro c hm
      simp only [answerCalls, List.mem_append, List.mem_cons, List.mem_map, List.not_mem_nil,
        or_false] at hm
      rcases hm with hm | ((rfl | hm) | rfl | rfl) | ⟨x, -, rfl⟩
      · exact .inl hm
      · exact .inr (.inl rfl)
      · exact .inr (.inr (.inl (Session.eq_of_mem_handover hm)))
      · simp
      · simp
      · simp
    rw [← Scripted.replay_append] at hd ⊢
    rw [Scripted.replay_calls hat.isOpen hclose] at hd ⊢
    have hsdp := (hcalls _ hd).resolve_left (hnone d)
    simp only [Call.setRemote.injEq, reduceCtorEq, exists_false, or_false] at hsdp
    subst hsdp
    refine .inr (.inr ⟨rfl, fun hm => ?_⟩)
    have := (hcalls _ hm).resolve_left hmade
    simp at this

end CallSignaling.Agent
