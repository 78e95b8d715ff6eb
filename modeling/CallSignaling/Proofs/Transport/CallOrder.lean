import CallSignaling.Proofs.Transport.Exchange

/-!
# CallOrder — what the log of a transport tells

`Scripted.Ordered` gathers what holds of the log of a transport that stands in an exchange or was
closed after a part of one (`At.ordered`, `Shut.ordered`).
-/

namespace CallSignaling.Scripted

/-- The local descriptions applied on the transport. -/
def localDescriptions (t : Scripted) : List String :=
  t.calls.filterMap fun c => match c with
    | .setLocal s => some s
    | _ => none

/-- The log of a transport is what was done on it: the first part of an exchange, perhaps with a
closing after it.  The description that is applied is the one that was made, and only a closing
follows a refused call that is no candidate. -/
structure Ordered (t : Scripted) : Prop where
  course : ∃ log more k, (t.calls = log ∨ t.calls = log ++ [.close]) ∧
    Exchange t.origin.descriptionText .live k (log ++ more)
  replayed : t = t.origin.replay t.calls
  returned : ∀ pre d post, t.calls = pre ++ .setLocal d :: post → ∃ before,
    pre = before ++ [.createOffer] ∧ (t.origin.replay before).createOffer.1 = .ok d ∨
    pre = before ++ [.createAnswer] ∧ (t.origin.replay before).createAnswer.1 = .ok d
  refused : ∀ pre c post reason, t.calls = pre ++ c :: post → c.isCandidate = false →
    t.refusal c = some reason → post = [.close]
  remoteDescriptions : t.remoteDescriptions.length ≤ 1
  localDescriptions : t.localDescriptions.length ≤ 1

variable {t u : Scripted} {st : ExchangeStage} {k : Bool}

/-- The description that is applied is the one that was made. -/
theorem Broken.returned (h : t.Broken k) {pre post : List Call} {d : String}
    (hc : t.calls = pre ++ .setLocal d :: post) : ∃ before,
      pre = before ++ [.createOffer] ∧ (t.origin.replay before).createOffer.1 = .ok d ∨
      pre = before ++ [.createAnswer] ∧ (t.origin.replay before).createAnswer.1 = .ok d := by
  obtain ⟨more, hm⟩ := h.course
  obtain ⟨a, b, c, txt, hlog, hcd, hab, -⟩ := hm.exists_create
  have hcut : pre ++ .setLocal d :: (post ++ more) = (a ++ [c]) ++ .setLocal txt :: b := by
    have : pre ++ .setLocal d :: (post ++ more) = t.calls ++ more := by simp [hc]
    rw [this, hlog]
    simp
  obtain ⟨rfl, hd, -⟩ := eq_of_append_cons (p := fun x => ∃ d, x = .setLocal d) hcut ⟨d, rfl⟩
    (fun x hx => by
      rintro ⟨e, rfl⟩
      rcases List.mem_append.mp hx with hx | hx
      · exact (hab _ (List.mem_append_left b hx)).2.2 e rfl
      · rcases hcd with ⟨rfl, -⟩ | ⟨rfl, -⟩ <;> simp at hx)
    (fun x hx => by
      rintro ⟨e, rfl⟩
      exact (hab _ (List.mem_append_right a hx)).2.2 e rfl)
  obtain rfl : d = txt := by simpa using hd
  have hclose : .close ∉ a := fun hx => (hab _ (List.mem_append_left b hx)).2.1 rfl
  have hopen : (t.origin.replay a).closed = false := replay_closed rfl hclose
  have htext := replay_descriptionText (t := t.origin) rfl hclose
    fun x hx => (hab x (List.mem_append_left b hx)).1
  have hacc : t.refusal c = none := by
    refine h.accepted c ?_ ?_
    · rw [hc, List.dropLast_append_of_ne_nil (by simp)]
      simp
    · rcases hcd with ⟨rfl, -⟩ | ⟨rfl, -⟩ <;> rfl
  refine ⟨a, ?_⟩
  rcases hcd with ⟨rfl, rfl⟩ | ⟨rfl, rfl⟩
  · refine .inl ⟨rfl, ?_⟩
    rw [createOffer_eq hopen, refusal_origin_replay, hacc, ← htext]
    rfl
  · refine .inr ⟨rfl, ?_⟩
    rw [createAnswer_eq hopen, refusal_origin_replay, hacc, ← htext]
    rfl

/-- A remote description that is not refused is taken wherever it comes in a log. -/
theorem setRemote_ok {before : List Call} {sdp : String} (hx : .close ∉ before)
    (ha : t.refusal (.setRemote sdp) = none) :
    ((t.origin.replay before).setRemote sdp).1 = .ok () := by
  rw [setRemote_eq (replay_closed rfl hx), refusal_origin_replay, ha]
  rfl

/-- Before a candidate a remote description was applied. -/
theorem Broken.described (h : t.Broken k) {pre post : List Call} {c : String}
    (hc : t.calls = pre ++ .addCandidate c :: post) : ∃ before sdp after,
      pre = before ++ .setRemote sdp :: after ∧
      ((t.origin.replay before).setRemote sdp).1 = .ok () := by
  obtain ⟨more, hm⟩ := h.course
  have hclose := hm.not_mem_close
  obtain ⟨a, cs, hlog, hnot, sdp, hsdp⟩ := hm.exists_tail
  have hcut : pre ++ .addCandidate c :: (post ++ more) = a ++ cs.map .addCandidate := by
    rw [← hlog, hc]
    simp
  obtain ⟨mid, rfl⟩ := append_of_not_mem hcut fun hx =>
    absurd (hnot _ hx) (by simp [Call.isCandidate])
  obtain ⟨before, after, rfl⟩ := List.append_of_mem hsdp
  have hacc : t.refusal (.setRemote sdp) = none := by
    refine h.accepted _ ?_ rfl
    rw [hc, List.dropLast_append_of_ne_nil (by simp)]
    simp
  have hopen : .close ∉ before := fun hx => hclose (by simp [hc, hx])
  exact ⟨before, sdp, after ++ mid, by simp, setRemote_ok hopen hacc⟩

/-- No more than one text of a kind that an exchange has once. -/
theorem Broken.length_filterMap_le {f : Call → Option String} (h : t.Broken k)
    (ht : ∀ ids, f (.addTracks ids) = none) (hc : ∀ c, f (.addCandidate c) = none)
    (ho : f .createOffer = none) (ha : f .createAnswer = none)
    (hs : (∀ d, f (.setLocal d) = none) ∨ ∀ d, f (.setRemote d) = none) :
    (t.calls.filterMap f).length ≤ 1 := by
  obtain ⟨more, hm⟩ := h.course
  have := hm.length_filterMap_le ht hc ho ha hs
  rw [List.filterMap_append, List.length_append] at this
  omega

theorem Broken.remoteDescriptions_le (h : t.Broken k) : t.remoteDescriptions.length ≤ 1 :=
  h.length_filterMap_le (fun _ => rfl) (fun _ => rfl) rfl rfl (.inl fun _ => rfl)

theorem Broken.localDescriptions_le (h : t.Broken k) : t.localDescriptions.length ≤ 1 :=
  h.length_filterMap_le (fun _ => rfl) (fun _ => rfl) rfl rfl (.inr fun _ => rfl)

theorem At.ordered (h : t.At st k) : t.Ordered where
  course := by
    obtain ⟨more, hm⟩ := h.broken.course
    exact ⟨t.calls, more, k, .inl rfl, hm⟩
  replayed := h.replayed
  returned := fun pre d post hc => h.broken.returned hc
  refused := fun pre c post reason hc hn hr => by
    rw [h.accepted c (by simp [hc]) hn] at hr
    simp at hr
  remoteDescriptions := h.broken.remoteDescriptions_le
  localDescriptions := h.broken.localDescriptions_le

theorem close_calls (t : Scripted) : t.close.calls = t.calls ++ [.close] := rfl

/-- A call in the log of a closed transport that is not its closing stands in the log before. -/
theorem cut_close {pre post : List Call} {c : Call} (h : u.close.calls = pre ++ c :: post)
    (hc : c ≠ .close) : ∃ rest, u.calls = pre ++ c :: rest ∧ post = rest ++ [.close] := by
  rw [close_calls] at h
  rcases List.append_eq_append_iff.mp h with ⟨x, rfl, hx⟩ | ⟨x, hx, hy⟩
  · cases x with
    | nil => exact absurd (by simpa using hx : Call.close = c ∧ [] = post).1.symm hc
    | cons d x => simp at hx
  · cases x with
    | nil => exact absurd (by simpa using hy : c = Call.close ∧ post = []).1 hc
    | cons d x =>
      simp only [List.cons_append, List.cons.injEq] at hy
      obtain ⟨rfl, rfl⟩ := hy
      exact ⟨x, hx, rfl⟩

theorem Shut.ordered (h : t.Shut k) : t.Ordered := by
  obtain ⟨u, hu, rfl⟩ := h
  refine ⟨?_, ?_, fun pre d post hc => ?_, fun pre c post reason hc hn hr => ?_, ?_, ?_⟩
  · obtain ⟨more, hm⟩ := hu.course
    exact ⟨u.calls, more, k, .inr rfl, hm⟩
  · rw [close_calls, replay_append]
    exact congrArg close hu.replayed
  · obtain ⟨rest, hrest, -⟩ := cut_close hc (by simp)
    exact hu.returned hrest
  · have hne : c ≠ .close := by
      rintro rfl
      simp [refusal] at hr
    obtain ⟨rest, hrest, rfl⟩ := cut_close hc hne
    cases rest with
    | nil => rfl
    | cons d rest =>
      have hr' : u.refusal c = some reason := hr
      have hm : c ∈ u.calls.dropLast := by
        rw [hrest, List.dropLast_append_of_ne_nil (by simp)]
        simp
      rw [hu.accepted c hm hn] at hr'
      simp at hr'
  · have : u.close.remoteDescriptions = u.remoteDescriptions := by
      simp [Scripted.remoteDescriptions, close_calls]
    rw [this]
    exact hu.remoteDescriptions_le
  · have : u.close.localDescriptions = u.localDescriptions := by
      simp [Scripted.localDescriptions, close_calls]
    rw [this]
    exact hu.localDescriptions_le

end CallSignaling.Scripted
