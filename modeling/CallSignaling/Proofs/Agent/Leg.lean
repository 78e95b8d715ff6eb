import CallSignaling.Proofs.Agent.LineChange

/-!
# Leg — the calls of one operation on a transport

An operation takes the transport of its peer a leg further in the exchange (`Leg`).  It makes all
calls of the leg, or it fails: then it has made those up to the refused one, or could not send what
they were made for (`Aborted`).  A log that grows makes a description only where the local tracks,
if there are any, came first (`Grows`).
-/

namespace CallSignaling.Agent

/-- A log that grows, with a description only made where tracks, if there are any, came first. -/
def Grows (ts : List Track) (old new : List Call) : Prop :=
  ∃ more, new = old ++ more ∧ ∀ pre c post, more = pre ++ c :: post → c.isCreate = true → ts ≠ [] →
    ∃ ids, ids ≠ [] ∧ .addTracks ids ∈ old ++ pre

/-- What an operation that fails has made of a transport `t` when the session is torn down. -/
structure Aborted (ts : List Track) (t u : Scripted) : Prop where
  remote : u.remote = t.remote
  behaviour : u.behaviour = t.behaviour
  broken : ∃ k, u.Broken k
  grows : Grows ts t.calls u.calls
  candidates : u.candidates = t.candidates

/-- The calls of an operation belong to the exchange in which a transport stands. -/
structure Leg (ts : List Track) (t : Scripted) (cs : List Call) : Prop where
  stands : ∃ st k, t.At st k
  course : ∃ st k, Exchange t.origin.descriptionText st k (t.calls ++ cs)
  grows : ∀ ds, ds <+: cs → Grows ts t.calls (t.calls ++ ds)
  plain : ∀ c ∈ cs, c.isCandidate = false

variable {a : Agent} {ts us : List Track} {s : Session} {t : Scripted} {st : ExchangeStage}
  {k : Bool} {cs : List Call}

/-! ### Growing logs -/

theorem Grows.refl (ts : List Track) (log : List Call) : Grows ts log log :=
  ⟨[], by simp, fun pre c post h => by simp at h⟩

theorem Grows.of_not_isCreate (ts : List Track) (old : List Call) {more : List Call}
    (h : ∀ c ∈ more, c.isCreate = false) : Grows ts old (old ++ more) := by
  refine ⟨more, rfl, fun pre c post he hc => ?_⟩
  have := h c (by simp [he])
  simp [hc] at this

/-- The first calls of an exchange in which tracks, if any, come before the description. -/
theorem Grows.of_course {text : String → String} {ts : List Track} {st : ExchangeStage} {k : Bool}
    {old cs more : List Call} (hc : Exchange text st k (old ++ cs)) (hk : ts ≠ [] → k = true)
    (hm : more <+: cs) : Grows ts old (old ++ more) := by
  obtain ⟨rest, rfl⟩ := hm
  obtain ⟨last, hl⟩ := hc.exists_live
  refine ⟨more, rfl, fun pre c post he hcr hts => ?_⟩
  obtain ⟨x, y, d, txt, hlog, -, hxy, htr⟩ := hl.exists_create
  obtain ⟨ids, hi, hm⟩ := htr (hk hts)
  have hcut : (old ++ pre) ++ c :: (post ++ (rest ++ last)) = x ++ d :: .setLocal txt :: y := by
    rw [← hlog, he]
    simp
  obtain ⟨hpre, -, -⟩ := eq_of_append_cons (p := fun c => c.isCreate = true) hcut hcr
    (fun z hz => by simp [(hxy z (List.mem_append_left y hz)).1])
    (fun z hz => by
      rcases List.mem_cons.mp hz with rfl | hz
      · simp [Call.isCreate]
      · simp [(hxy z (List.mem_append_right x hz)).1])
  exact ⟨ids, hi, hpre ▸ hm⟩

/-- Calls without a description may follow. -/
theorem Grows.append {ts : List Track} {old new : List Call} (h : Grows ts old new)
    {more : List Call} (hm : ∀ c ∈ more, c.isCreate = false) : Grows ts old (new ++ more) := by
  obtain ⟨mid, rfl, hg⟩ := h
  refine ⟨mid ++ more, by simp, fun pre c post he hc hts => ?_⟩
  have hn : c ∉ more := fun hx => by simp [hm c hx] at hc
  rcases List.append_eq_append_iff.mp he.symm with ⟨x, hx, hy⟩ | ⟨x, hx, hy⟩
  · cases x with
    | nil =>
      refine absurd ?_ hn
      rw [List.nil_append] at hy
      rw [← hy]
      exact List.mem_cons_self
    | cons z x =>
      simp only [List.cons_append, List.cons.injEq] at hy
      exact hg pre c x (by rw [hx, hy.1]) hc hts
  · exact absurd (by rw [hy]; simp) hn

/-- What came first may also have made descriptions; each has its tracks before it. -/
theorem Grows.trans {ts : List Track} {old mid new : List Call} (h : Grows ts old mid)
    (h' : Grows ts mid new) : Grows ts old new := by
  obtain ⟨x, rfl, hx⟩ := h
  obtain ⟨y, rfl, hy⟩ := h'
  refine ⟨x ++ y, by simp, fun pre c post he hc hts => ?_⟩
  rcases List.append_eq_append_iff.mp he.symm with ⟨z, rfl, hz⟩ | ⟨z, rfl, hz⟩
  · cases z with
    | nil =>
      obtain ⟨ids, hi, hm⟩ := hy [] c post (by simpa using hz.symm) hc hts
      exact ⟨ids, hi, by simpa using hm⟩
    | cons d z =>
      simp only [List.cons_append, List.cons.injEq] at hz
      exact hx pre c z (by rw [hz.1]) hc hts
  · obtain ⟨ids, hi, hm⟩ := hy z c post hz hc hts
    exact ⟨ids, hi, by simpa using hm⟩

/-! ### A leg of the exchange -/

/-- A transport on which nothing was called. -/
theorem Aborted.refl (ht : t.At st k) (ts : List Track) : Aborted ts t t :=
  ⟨rfl, rfl, ⟨k, ht.broken⟩, .refl _ _, rfl⟩

namespace Leg

theorem isOpen (hl : Leg ts t cs) : t.closed = false := by
  obtain ⟨_, _, ht⟩ := hl.stands
  exact ht.isOpen

theorem not_mem_close (hl : Leg ts t cs) : .close ∉ cs := fun hm => by
  obtain ⟨_, _, hc⟩ := hl.course
  exact hc.not_mem_close (List.mem_append_right _ hm)

/-- What was called of a leg. -/
theorem calls_replay (hl : Leg ts t cs) {ds : List Call} (hd : ds <+: cs) :
    (t.replay ds).calls = t.calls ++ ds :=
  Scripted.replay_calls hl.isOpen fun hm => hl.not_mem_close (hd.subset hm)

theorem aborted (hl : Leg ts t cs) {ds : List Call} (hd : ds <+: cs)
    (hb : ∃ k, (t.replay ds).Broken k) : Aborted ts t (t.replay ds) where
  remote := Scripted.replay_remote t ds
  behaviour := Scripted.replay_behaviour t ds
  broken := hb
  grows := by
    rw [hl.calls_replay hd]
    exact hl.grows ds hd
  candidates := Scripted.replay_candidates hl.isOpen (fun hm => hl.not_mem_close (hd.subset hm))
    fun c hm => hl.plain c (hd.subset hm)

theorem refused (hl : Leg ts t cs) {ds : List Call} {reason : String}
    (hr : t.refusedIn cs = some (ds, reason)) : Aborted ts t (t.replay ds) := by
  obtain ⟨_, _, ht⟩ := hl.stands
  obtain ⟨_, k, hc⟩ := hl.course
  exact hl.aborted (Scripted.refusedIn_some hr).1 ⟨k, ht.replay_refused hr hc⟩

theorem unsent (hl : Leg ts t cs) (hr : t.refusedIn cs = none) : Aborted ts t (t.replay cs) := by
  obtain ⟨_, _, ht⟩ := hl.stands
  obtain ⟨_, k, hc⟩ := hl.course
  exact hl.aborted (List.prefix_refl cs) ⟨k, (ht.replay hr hc).broken⟩

/-- All calls were made, and candidates have followed them. -/
theorem grows_done (hl : Leg ts t cs) (ps : List String) :
    Grows ts t.calls ((t.replay cs).replay (ps.map .addCandidate)).calls := by
  have hopen := Scripted.replay_closed hl.isOpen hl.not_mem_close
  rw [Scripted.replay_calls hopen (by simp), hl.calls_replay (List.prefix_refl cs)]
  exact (hl.grows cs (List.prefix_refl cs)).append (by simp [Call.isCreate])

/-- Nothing is called. -/
theorem nil (ht : t.At st k) (ts : List Track) : Leg ts t [] where
  stands := ⟨st, k, ht⟩
  course := ⟨st, k, by rw [List.append_nil]; exact ht.course⟩
  grows := fun ds hd => by
    rw [List.prefix_nil.mp hd, List.append_nil]
    exact .refl _ _
  plain := nofun

/-- A leg in which no description is made. -/
theorem of_not_isCreate (ht : t.At st k) {st' : ExchangeStage} {k' : Bool}
    (hc : Exchange t.origin.descriptionText st' k' (t.calls ++ cs))
    (hn : ∀ c ∈ cs, c.isCreate = false ∧ c.isCandidate = false) : Leg ts t cs where
  stands := ⟨st, k, ht⟩
  course := ⟨st', k', hc⟩
  grows := fun _ hd => .of_not_isCreate _ _ fun c hm => (hn c (hd.subset hm)).1
  plain := fun c hm => (hn c hm).2

/-- A leg in which a description is made. -/
theorem of_course (ht : t.At st k) {st' : ExchangeStage} {k' : Bool}
    (hc : Exchange t.origin.descriptionText st' (k' || !ts.isEmpty) (t.calls ++ cs))
    (hn : ∀ c ∈ cs, c.isCandidate = false) : Leg ts t cs where
  stands := ⟨st, k, ht⟩
  course := ⟨st', _, hc⟩
  grows := fun _ hd => .of_course hc (fun hts => by simp [hts]) hd
  plain := hn

end Leg

theorem handover_not_isCandidate (s : Session) (ts : List Track) :
    ∀ c ∈ s.handover ts, c.isCandidate = false := fun c hm => by
  rw [Session.eq_of_mem_handover hm]
  rfl

/-- Handing over tracks. -/
theorem leg_handover (ht : t.At .blank s.tracksBound) (ts us : List Track) :
    Leg us t (s.handover ts) :=
  .of_not_isCreate ht ((handover_course ts rfl).1 ht.course) fun c hm => by
    rw [Session.eq_of_mem_handover hm]
    exact ⟨rfl, rfl⟩

/-- Offering a call. -/
theorem leg_offer (ht : t.At .blank s.tracksBound) : Leg a.tracks t (a.offerCalls s t) :=
  .of_course ht (offerCalls_course ht rfl) fun c hm => by
    rcases List.mem_append.mp hm with hm | hm
    · exact handover_not_isCandidate s _ c hm
    · obtain rfl | rfl : c = .createOffer ∨ c = .setLocal _ := by simpa using hm
      all_goals rfl

/-- Taking an answer. -/
theorem leg_settle (ht : t.At .offering k) (ts : List Track) (sdp : String) :
    Leg ts t [.setRemote sdp] :=
  .of_not_isCreate ht (ht.course.settle sdp) (by simp [Call.isCreate, Call.isCandidate])

/-- Answering an offer. -/
theorem leg_answer (ht : t.At .blank s.tracksBound) (sdp : String) :
    Leg a.tracks t (a.answerCalls s t sdp) :=
  .of_course ht (answerCalls_course ht rfl sdp) fun c hm => by
    rcases List.mem_cons.mp hm with rfl | hm
    · rfl
    · rcases List.mem_append.mp hm with hm | hm
      · exact handover_not_isCandidate s _ c hm
      · obtain rfl | rfl : c = .createAnswer ∨ c = .setLocal _ := by simpa using hm
        all_goals rfl

end CallSignaling.Agent
