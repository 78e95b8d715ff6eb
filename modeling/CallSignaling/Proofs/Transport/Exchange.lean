import CallSignaling.Proofs.Transport.Replay

/-!
# Exchange — the order of the calls of one negotiation

A transport is called in one of two orders, according to who offers.  Local tracks may be handed
over once: before the offer is made, or before or after the remote offer is applied.  `Exchange`
lists the logs of an exchange by how far it has come, `Scripted.At` says that an open transport
stands there, `Scripted.Broken` that it got no further than some part of an exchange, its last call
perhaps refused, and `Scripted.Shut` that it was closed then.
-/

namespace CallSignaling

/-- Nothing, or one list of tracks. -/
inductive Handover : Bool → List Call → Prop
  | none : Handover false []
  | tracks {ids : List String} : ids ≠ [] → Handover true [.addTracks ids]

/-- How far an exchange has come. -/
inductive ExchangeStage where
  | blank
  /-- Our offer is applied. -/
  | offering
  /-- A remote offer is applied. -/
  | asked
  /-- Both descriptions are applied. -/
  | live
deriving DecidableEq, Repr

/-- The logs of an exchange; the Boolean says whether tracks were handed over, and `text` is what
the first description of a kind reads. -/
inductive Exchange (text : String → String) : ExchangeStage → Bool → List Call → Prop
  | blank {k early} : Handover k early → Exchange text .blank k early
  | offering {k early} : Handover k early →
    Exchange text .offering k (early ++ [.createOffer, .setLocal (text "offer")])
  | asked {j k early late} (sdp : String) : Handover j early → Handover k late →
    (j && k) = false → Exchange text .asked (j || k) (early ++ .setRemote sdp :: late)
  | called {k early} (sdp : String) (cs : List String) : Handover k early →
    Exchange text .live k ((early ++ [.createOffer, .setLocal (text "offer"), .setRemote sdp])
      ++ cs.map .addCandidate)
  | joined {j k early late} (sdp : String) (cs : List String) : Handover j early → Handover k late →
    (j && k) = false →
    Exchange text .live (j || k) ((early ++ .setRemote sdp :: late
      ++ [.createAnswer, .setLocal (text "answer")]) ++ cs.map .addCandidate)

variable {text : String → String} {st : ExchangeStage} {k : Bool} {log : List Call}

/-! ### The next calls -/

namespace Exchange

theorem tracks (h : Exchange text .blank false log) {ids : List String} (hi : ids ≠ []) :
    Exchange text .blank true (log ++ [.addTracks ids]) := by
  cases h with
  | blank he => cases he; exact .blank (.tracks hi)

theorem lateTracks (h : Exchange text .asked false log) {ids : List String} (hi : ids ≠ []) :
    Exchange text .asked true (log ++ [.addTracks ids]) := by
  generalize hk : false = k at h
  cases h with
  | @asked i j early late sdp he hl hij =>
    obtain ⟨rfl, rfl⟩ : i = false ∧ j = false := by simpa using hk.symm
    cases hl
    simpa using Exchange.asked sdp he (.tracks hi) rfl

theorem offer (h : Exchange text .blank k log) :
    Exchange text .offering k (log ++ [.createOffer, .setLocal (text "offer")]) := by
  cases h with
  | blank he => exact .offering he

theorem ask (h : Exchange text .blank k log) (sdp : String) :
    Exchange text .asked k (log ++ [.setRemote sdp]) := by
  cases h with
  | blank he =>
    have hnone : Exchange text .asked (k || false) (log ++ [.setRemote sdp]) :=
      .asked sdp he .none (by simp)
    simpa using hnone

theorem answer (h : Exchange text .asked k log) :
    Exchange text .live k (log ++ [.createAnswer, .setLocal (text "answer")]) := by
  cases h with
  | asked sdp he hl hij => simpa using Exchange.joined sdp [] he hl hij

theorem settle (h : Exchange text .offering k log) (sdp : String) :
    Exchange text .live k (log ++ [.setRemote sdp]) := by
  cases h with
  | offering he => simpa using Exchange.called sdp [] he

theorem candidates (h : Exchange text .live k log) (ds : List String) :
    Exchange text .live k (log ++ ds.map .addCandidate) := by
  cases h with
  | called sdp cs he => simpa using Exchange.called sdp (cs ++ ds) he
  | joined sdp cs he hl hjk => simpa using Exchange.joined sdp (cs ++ ds) he hl hjk

/-- Every exchange can be brought to its end. -/
theorem exists_live (h : Exchange text st k log) : ∃ more, Exchange text .live k (log ++ more) := by
  cases st with
  | blank => exact ⟨_, by simpa using (h.offer.settle "")⟩
  | offering => exact ⟨_, h.settle ""⟩
  | asked => exact ⟨_, h.answer⟩
  | live => exact ⟨[], by simpa using h⟩

end Exchange

/-! ### Where descriptions and candidates stand -/

/-- Two ways of cutting a list at its only element of a kind are the same. -/
theorem eq_of_append_cons {α : Type} {p : α → Prop} {a b pre post : List α} {c d : α}
    (h : pre ++ c :: post = a ++ d :: b) (hc : p c) (ha : ∀ x ∈ a, ¬ p x) (hb : ∀ x ∈ b, ¬ p x) :
    pre = a ∧ c = d ∧ post = b := by
  rcases List.append_eq_append_iff.mp h with ⟨m, rfl, hm⟩ | ⟨m, rfl, hm⟩
  · cases m with
    | nil => simpa using hm
    | cons x m =>
      simp only [List.cons_append, List.cons.injEq] at hm
      exact absurd hc (ha c (by simp [hm.1]))
  · cases m with
    | nil => simpa [eq_comm] using hm
    | cons x m =>
      simp only [List.cons_append, List.cons.injEq] at hm
      exact absurd hc (hb c (by simp [hm.2]))

/-- A place in a list that lies in none of the elements of its first part lies behind that part. -/
theorem append_of_not_mem {α : Type} {a b pre post : List α} {c : α}
    (h : pre ++ c :: post = a ++ b) (hc : c ∉ a) : ∃ m, pre = a ++ m := by
  rcases List.append_eq_append_iff.mp h with ⟨m, rfl, hm⟩ | ⟨m, rfl, hm⟩
  · cases m with
    | nil => exact ⟨[], by simp⟩
    | cons x m =>
      simp only [List.cons_append, List.cons.injEq] at hm
      exact absurd (by simp [hm.1]) hc
  · exact ⟨m, rfl⟩

namespace Handover

theorem eq_tracks {c : Call} (h : Handover k log) (hc : c ∈ log) :
    k = true ∧ ∃ ids, ids ≠ [] ∧ c = .addTracks ids := by
  cases h with
  | none => simp at hc
  | @tracks ids hi =>
    exact ⟨rfl, ids, hi, by simpa using hc⟩

theorem exists_mem (h : Handover true log) : ∃ ids, ids ≠ [] ∧ .addTracks ids ∈ log := by
  cases h with
  | @tracks ids hi => exact ⟨ids, hi, by simp⟩

theorem tracks_iff (h : Handover k log) : k = true ↔ ∃ ids, .addTracks ids ∈ log := by
  cases h with
  | none => simp
  | tracks => simp

end Handover

namespace Exchange

/-- The descriptions of a finished exchange: where ours was made and applied, what it reads, and
that nothing before or after it makes or applies another. -/
theorem exists_create (h : Exchange text .live k log) :
    ∃ a b c d, log = a ++ c :: .setLocal d :: b ∧
      (c = .createOffer ∧ d = text "offer" ∨ c = .createAnswer ∧ d = text "answer") ∧
      (∀ x ∈ a ++ b, x.isCreate = false ∧ x ≠ .close ∧ ∀ d, x ≠ .setLocal d) ∧
      (k = true → ∃ ids, ids ≠ [] ∧ .addTracks ids ∈ a) := by
  have plain : ∀ {k early} {x : Call}, Handover k early → x ∈ early →
      x.isCreate = false ∧ x ≠ .close ∧ ∀ d, x ≠ .setLocal d := by
    intro k early x he hx
    obtain ⟨-, ids, -, rfl⟩ := he.eq_tracks hx
    exact ⟨rfl, by simp, by simp⟩
  cases h with
  | @called k early sdp cs he =>
    refine ⟨early, .setRemote sdp :: cs.map .addCandidate, .createOffer, text "offer", by simp,
      .inl ⟨rfl, rfl⟩, fun x hx => ?_, ?_⟩
    · simp only [List.mem_append, List.mem_cons, List.mem_map] at hx
      rcases hx with hx | rfl | ⟨c, -, rfl⟩
      · exact plain he hx
      all_goals exact ⟨rfl, by simp, by simp⟩
    · rintro rfl
      exact he.exists_mem
  | @joined i j early late sdp cs he hl hij =>
    refine ⟨early ++ .setRemote sdp :: late, cs.map .addCandidate, .createAnswer, text "answer",
      by simp, .inr ⟨rfl, rfl⟩, fun x hx => ?_, fun hk => ?_⟩
    · simp only [List.mem_append, List.mem_cons, List.mem_map] at hx
      rcases hx with (hx | rfl | hx) | ⟨c, -, rfl⟩
      · exact plain he hx
      · exact ⟨rfl, by simp, by simp⟩
      · exact plain hl hx
      · exact ⟨rfl, by simp, by simp⟩
    · rcases Bool.or_eq_true_iff.mp hk with rfl | rfl
      · obtain ⟨ids, hi, hm⟩ := he.exists_mem
        exact ⟨ids, hi, by simp [hm]⟩
      · obtain ⟨ids, hi, hm⟩ := hl.exists_mem
        exact ⟨ids, hi, by simp [hm]⟩

/-- Candidates come last, after a remote description. -/
theorem exists_tail (h : Exchange text .live k log) :
    ∃ (a : List Call) (cs : List String), log = a ++ cs.map .addCandidate ∧
      (∀ x ∈ a, x.isCandidate = false) ∧ ∃ sdp, .setRemote sdp ∈ a := by
  cases h with
  | @called k early sdp cs he =>
    refine ⟨_, cs, rfl, fun x hx => ?_, sdp, by simp⟩
    simp only [List.mem_append, List.mem_cons, List.not_mem_nil, or_false] at hx
    rcases hx with hx | rfl | rfl | rfl
    · obtain ⟨-, ids, -, rfl⟩ := he.eq_tracks hx
      rfl
    all_goals rfl
  | @joined i j early late sdp cs he hl hij =>
    refine ⟨_, cs, rfl, fun x hx => ?_, sdp, by simp⟩
    simp only [List.mem_append, List.mem_cons, List.not_mem_nil, or_false] at hx
    rcases hx with (hx | rfl | hx) | rfl | rfl
    · obtain ⟨-, ids, -, rfl⟩ := he.eq_tracks hx
      rfl
    · rfl
    · obtain ⟨-, ids, -, rfl⟩ := hl.eq_tracks hx
      rfl
    all_goals rfl

/-- Nothing is made before the exchange begins. -/
theorem not_isCreate (h : Exchange text .blank k log) : ∀ c ∈ log, c.isCreate = false := by
  intro c hc
  cases h with
  | blank he =>
    obtain ⟨-, ids, -, rfl⟩ := he.eq_tracks hc
    rfl

/-- No candidate is applied before both descriptions are. -/
theorem not_isCandidate (h : Exchange text st k log) (hs : st ≠ .live) :
    ∀ c ∈ log, c.isCandidate = false := by
  have early : ∀ {k log c}, Handover k log → c ∈ log → c.isCandidate = false := by
    intro k log c he hc
    obtain ⟨-, ids, -, rfl⟩ := he.eq_tracks hc
    rfl
  intro c hc
  cases h with
  | blank he => exact early he hc
  | offering he =>
    simp only [List.mem_append, List.mem_cons, List.not_mem_nil, or_false] at hc
    rcases hc with hc | rfl | rfl
    · exact early he hc
    all_goals rfl
  | asked sdp he hl =>
    simp only [List.mem_append, List.mem_cons] at hc
    rcases hc with hc | rfl | hc
    · exact early he hc
    · rfl
    · exact early hl hc
  | called => exact absurd rfl hs
  | joined => exact absurd rfl hs

theorem not_mem_close (h : Exchange text st k log) : .close ∉ log := by
  intro hm
  obtain ⟨more, hl⟩ := h.exists_live
  obtain ⟨a, b, c, d, he, hcd, hab, -⟩ := hl.exists_create
  have hm' : .close ∈ a ++ c :: .setLocal d :: b := he ▸ List.mem_append_left more hm
  simp only [List.mem_append, List.mem_cons, reduceCtorEq, false_or] at hm'
  rcases hm' with hm' | rfl | hm'
  · exact (hab _ (List.mem_append_left b hm')).2.1 rfl
  · simp at hcd
  · exact (hab _ (List.mem_append_right a hm')).2.1 rfl

/-- Tracks were handed over if the log says so. -/
theorem tracks_iff (h : Exchange text st k log) : k = true ↔ ∃ ids, .addTracks ids ∈ log := by
  cases h with
  | blank he => exact he.tracks_iff
  | offering he => simpa using he.tracks_iff
  | asked sdp he hl => simp [he.tracks_iff, hl.tracks_iff, exists_or]
  | called sdp cs he => simpa using he.tracks_iff
  | joined sdp cs he hl => simp [he.tracks_iff, hl.tracks_iff, exists_or]

/-- Reading off the texts of one kind of call that an exchange has only once. -/
theorem length_filterMap_le {f : Call → Option String} (h : Exchange text .live k log)
    (ht : ∀ ids, f (.addTracks ids) = none) (hc : ∀ c, f (.addCandidate c) = none)
    (ho : f .createOffer = none) (ha : f .createAnswer = none)
    (hs : (∀ d, f (.setLocal d) = none) ∨ ∀ d, f (.setRemote d) = none) :
    (log.filterMap f).length ≤ 1 := by
  have early : ∀ {k log}, Handover k log → log.filterMap f = [] := by
    intro k log h
    cases h <;> simp [ht]
  have last : ∀ cs : List String, (cs.map Call.addCandidate).filterMap f = [] := by
    intro cs
    refine List.filterMap_eq_nil_iff.mpr fun x hx => ?_
    obtain ⟨c, -, rfl⟩ := List.mem_map.mp hx
    exact hc c
  have one : ∀ c, log.filterMap f = [c].filterMap f → (log.filterMap f).length ≤ 1 := by
    intro c hl
    rw [hl]
    exact List.length_filterMap_le f [c]
  cases h with
  | @called k e sdp cs he =>
    rcases hs with hs | hs
    · refine one (.setRemote sdp) ?_
      simp only [List.filterMap_append, List.filterMap_cons, List.filterMap_nil, early he, ho, hs,
        last, List.nil_append, List.append_nil]
    · refine one (.setLocal (text "offer")) ?_
      simp only [List.filterMap_append, List.filterMap_cons, List.filterMap_nil, early he, ho, hs,
        last, List.nil_append, List.append_nil]
  | @joined i j e l sdp cs he hl hij =>
    rcases hs with hs | hs
    · refine one (.setRemote sdp) ?_
      simp only [List.filterMap_append, List.filterMap_cons, List.filterMap_nil, early he, early hl,
        ha, hs, last, List.nil_append, List.append_nil]
    · refine one (.setLocal (text "answer")) ?_
      simp only [List.filterMap_append, List.filterMap_cons, List.filterMap_nil, early he, early hl,
        ha, hs, last, List.nil_append, List.append_nil]

end Exchange

/-! ### Transports in an exchange -/

namespace Scripted

/-- An open transport that stands at a stage; no call but candidates was refused. -/
structure At (t : Scripted) (st : ExchangeStage) (k : Bool) : Prop where
  isOpen : t.closed = false
  course : Exchange t.origin.descriptionText st k t.calls
  accepted : ∀ c ∈ t.calls, c.isCandidate = false → t.refusal c = none
  replayed : t = t.origin.replay t.calls

/-- An open transport whose exchange is over at some point, perhaps because its last call was
refused. -/
structure Broken (t : Scripted) (k : Bool) : Prop where
  isOpen : t.closed = false
  course : ∃ more, Exchange t.origin.descriptionText .live k (t.calls ++ more)
  accepted : ∀ c ∈ t.calls.dropLast, c.isCandidate = false → t.refusal c = none
  replayed : t = t.origin.replay t.calls

/-- A transport that was closed once, at the end. -/
def Shut (t : Scripted) (k : Bool) : Prop := ∃ u : Scripted, u.Broken k ∧ t = u.close

variable {t : Scripted} {st st' : ExchangeStage} {k k' : Bool}

theorem create_at (remote : String) (b : Behaviour) : (create remote b).At .blank false where
  isOpen := rfl
  course := .blank .none
  accepted := by simp [create]
  replayed := rfl

namespace At

theorem broken (h : t.At st k) : t.Broken k where
  isOpen := h.isOpen
  course := h.course.exists_live
  accepted := fun c hc => h.accepted c (List.dropLast_subset _ hc)
  replayed := h.replayed

theorem replay_eq (h : t.At st k) (cs : List Call) :
    t.replay cs = t.origin.replay (t.calls ++ cs) := by
  rw [replay_append, ← h.replayed]

theorem not_mem_close (h : t.At st k) : .close ∉ t.calls := h.course.not_mem_close

/-- A transport on which no description was made yet makes the first one. -/
theorem descriptionText_eq (h : t.At st k) (hc : ∀ c ∈ t.calls, c.isCreate = false)
    (kind : String) : t.descriptionText kind = t.origin.descriptionText kind := by
  have hd : t.descriptions = 0 := by
    rw [h.replayed]
    exact replay_descriptions rfl h.not_mem_close hc
  simp only [descriptionText, hd, origin, create]

/-- After accepted calls that belong to an exchange a transport stands where they lead. -/
theorem replay (h : t.At st k) {cs : List Call} (ha : t.refusedIn cs = none)
    (hc : Exchange t.origin.descriptionText st' k' (t.calls ++ cs)) : (t.replay cs).At st' k' := by
  have hx : .close ∉ cs := fun hm => hc.not_mem_close (List.mem_append_right _ hm)
  have hcalls := replay_calls h.isOpen hx
  refine ⟨replay_closed h.isOpen hx, ?_, ?_, ?_⟩
  · rw [replay_origin, hcalls]
    exact hc
  · rw [hcalls]
    intro c hm hn
    rw [replay_refusal]
    rcases List.mem_append.mp hm with hm | hm
    · exact h.accepted c hm hn
    · exact accepted_of_refusedIn ha c hm
  · rw [replay_origin, hcalls]
    exact h.replay_eq _

/-- After calls of which the last was refused a transport is at the end of its exchange. -/
theorem replay_refused (h : t.At st k) {cs ds : List Call} {reason : String}
    (hr : t.refusedIn cs = some (ds, reason))
    (hc : Exchange t.origin.descriptionText st' k' (t.calls ++ cs)) : (t.replay ds).Broken k' := by
  obtain ⟨⟨rest, rfl⟩, es, c, rfl, hes, -⟩ := refusedIn_some hr
  have hx : .close ∉ es ++ [c] := fun hm =>
    hc.not_mem_close (List.mem_append_right _ (List.mem_append_left _ hm))
  have hcalls := replay_calls h.isOpen hx
  refine ⟨replay_closed h.isOpen hx, ?_, ?_, ?_⟩
  · obtain ⟨more, hm⟩ := hc.exists_live
    rw [replay_origin, hcalls]
    exact ⟨rest ++ more, by simpa using hm⟩
  · rw [hcalls, ← List.append_assoc, List.dropLast_concat]
    intro d hm hn
    rw [replay_refusal]
    rcases List.mem_append.mp hm with hm | hm
    · exact h.accepted d hm hn
    · exact hes d hm
  · rw [replay_origin, hcalls]
    exact h.replay_eq _

/-- Candidates, refused or not, leave a live transport live. -/
theorem candidates (h : t.At .live k) (cs : List String) :
    (t.replay (cs.map .addCandidate)).At .live k := by
  have hx : .close ∉ cs.map Call.addCandidate := by simp
  have hcalls := replay_calls h.isOpen hx
  refine ⟨replay_closed h.isOpen hx, ?_, ?_, ?_⟩
  · rw [replay_origin, hcalls]
    exact h.course.candidates cs
  · rw [hcalls]
    intro c hm hn
    rw [replay_refusal]
    rcases List.mem_append.mp hm with hm | hm
    · exact h.accepted c hm hn
    · obtain ⟨d, -, rfl⟩ := List.mem_map.mp hm
      simp [Call.isCandidate] at hn
  · rw [replay_origin, hcalls]
    exact h.replay_eq _

end At

end Scripted

end CallSignaling
