import CallSignaling.Transport.Scripted

/-!
# Replay — a scripted transport as the outcome of its log

What a scripted transport answers to a call is settled by its behaviour, and what it becomes is
settled by the call.  `replay` runs a list of calls; `refusedIn` finds the first of them that is
refused.  Every operation on an open transport is one step of `replay`.
-/

namespace CallSignaling

namespace Call

/-- A call that makes a description. -/
def isCreate : Call → Bool
  | .createOffer | .createAnswer => true
  | _ => false

def isCandidate : Call → Bool
  | .addCandidate _ => true
  | _ => false

end Call

namespace Scripted

/-- Why a call is refused, if it is. -/
def refusal (t : Scripted) : Call → Option String
  | .addTracks _ => refuse t.behaviour.rejectTracks "tracks refused"
  | .createOffer => refuse t.behaviour.rejectOffer "offer refused"
  | .createAnswer => refuse t.behaviour.rejectAnswer "answer refused"
  | .setLocal _ => none
  | .setRemote _ => refuse t.behaviour.rejectRemoteDescription "remote description refused"
  | .addCandidate c =>
    refuse (t.behaviour.rejectCandidates.contains c) ("candidate " ++ c ++ " refused")
  | .close => none

/-- The transport after a call. -/
def afterCall (t : Scripted) : Call → Scripted
  | .createOffer => t.createOffer.2
  | .createAnswer => t.createAnswer.2
  | .close => t.close
  | c => (t.attempt c (t.refusal c)).2

/-- The transport after some calls. -/
def replay (t : Scripted) (calls : List Call) : Scripted := calls.foldl afterCall t

/-- The transport as it was created. -/
def origin (t : Scripted) : Scripted := create t.remote t.behaviour

/-- The calls up to the first one that is refused, with the reason. -/
def refusedIn (t : Scripted) : List Call → Option (List Call × String)
  | [] => none
  | c :: cs =>
    match t.refusal c with
    | some reason => some ([c], reason)
    | none => (t.refusedIn cs).map fun r => (c :: r.1, r.2)

@[simp] theorem replay_nil (t : Scripted) : t.replay [] = t := rfl

@[simp] theorem replay_cons (t : Scripted) (c : Call) (cs : List Call) :
    t.replay (c :: cs) = (t.afterCall c).replay cs := rfl

theorem replay_append (t : Scripted) (cs ds : List Call) :
    t.replay (cs ++ ds) = (t.replay cs).replay ds := by
  simp only [replay, List.foldl_append]

/-! ### Operations as calls -/

/-- The answer to a call that was refused for a reason or not at all. -/
def verdict : Option String → Except TransportError Unit
  | some reason => .error (.rejected reason)
  | none => .ok ()

variable {t : Scripted}

theorem attempt_eq (h : t.closed = false) (c : Call) (reason : Option String) :
    t.attempt c reason = (verdict reason, t.record c) := by
  unfold attempt
  rw [if_neg (by simp [h])]
  cases reason <;> rfl

theorem addTracks_eq (h : t.closed = false) (ts : List Track) :
    t.addTracks ts = (verdict (t.refusal (.addTracks (ts.map Track.id))),
      t.afterCall (.addTracks (ts.map Track.id))) := by
  simp only [addTracks, afterCall, refusal, attempt_eq h]

theorem setLocal_eq (h : t.closed = false) (sdp : String) :
    t.setLocal sdp = (.ok (), t.afterCall (.setLocal sdp)) := by
  simp only [setLocal, afterCall, refusal, attempt_eq h, verdict]

theorem setRemote_eq (h : t.closed = false) (sdp : String) :
    t.setRemote sdp = (verdict (t.refusal (.setRemote sdp)), t.afterCall (.setRemote sdp)) := by
  simp only [setRemote, afterCall, refusal, attempt_eq h]

theorem addCandidate_snd (t : Scripted) (c : String) :
    (t.addCandidate c).2 = t.afterCall (.addCandidate c) := rfl

/-- The answer to the wish for a description. -/
def text (t : Scripted) (kind : String) : Option String → Except TransportError String
  | some reason => .error (.rejected reason)
  | none => .ok (t.descriptionText kind)

theorem describe_eq (h : t.closed = false) (c : Call) (kind : String) (reason : Option String) :
    t.describe c kind reason = (t.text kind reason, (t.describe c kind reason).2) := by
  unfold describe
  rw [attempt_eq h]
  cases reason <;> rfl

theorem createOffer_eq (h : t.closed = false) :
    t.createOffer = (t.text "offer" (t.refusal .createOffer), t.afterCall .createOffer) :=
  describe_eq h _ _ _

theorem createAnswer_eq (h : t.closed = false) :
    t.createAnswer = (t.text "answer" (t.refusal .createAnswer), t.afterCall .createAnswer) :=
  describe_eq h _ _ _

/-! ### What a call leaves as it is -/

theorem attempt_snd (t : Scripted) (c : Call) (reason : Option String) :
    (t.attempt c reason).2 = if t.closed then t else t.record c := by
  unfold attempt
  split
  · rfl
  · cases reason <;> rfl

theorem attempt_remote (t : Scripted) (c : Call) (reason : Option String) :
    (t.attempt c reason).2.remote = t.remote ∧ (t.attempt c reason).2.behaviour = t.behaviour := by
  rw [attempt_snd]
  split <;> exact ⟨rfl, rfl⟩

theorem describe_remote (t : Scripted) (c : Call) (kind : String) (reason : Option String) :
    (t.describe c kind reason).2.remote = t.remote ∧
      (t.describe c kind reason).2.behaviour = t.behaviour := by
  have h := attempt_remote t c reason
  unfold describe
  split <;> simp_all

@[simp] theorem afterCall_remote (t : Scripted) (c : Call) : (t.afterCall c).remote = t.remote := by
  cases c <;> first
    | exact (attempt_remote t _ _).1
    | exact (describe_remote t _ _ _).1
    | rfl

@[simp] theorem afterCall_behaviour (t : Scripted) (c : Call) :
    (t.afterCall c).behaviour = t.behaviour := by
  cases c <;> first
    | exact (attempt_remote t _ _).2
    | exact (describe_remote t _ _ _).2
    | rfl

@[simp] theorem replay_remote (t : Scripted) (cs : List Call) :
    (t.replay cs).remote = t.remote := by
  induction cs generalizing t with
  | nil => rfl
  | cons c cs ih => rw [replay_cons, ih, afterCall_remote]

@[simp] theorem replay_behaviour (t : Scripted) (cs : List Call) :
    (t.replay cs).behaviour = t.behaviour := by
  induction cs generalizing t with
  | nil => rfl
  | cons c cs ih => rw [replay_cons, ih, afterCall_behaviour]

theorem refusal_congr {t u : Scripted} (h : u.behaviour = t.behaviour) (c : Call) :
    u.refusal c = t.refusal c := by
  cases c <;> simp only [refusal, h]

theorem origin_congr {t u : Scripted} (hr : u.remote = t.remote) (hb : u.behaviour = t.behaviour) :
    u.origin = t.origin := by
  simp only [origin, hr, hb]

@[simp] theorem replay_origin (t : Scripted) (cs : List Call) : (t.replay cs).origin = t.origin :=
  origin_congr (replay_remote t cs) (replay_behaviour t cs)

@[simp] theorem replay_refusal (t : Scripted) (cs : List Call) (c : Call) :
    (t.replay cs).refusal c = t.refusal c := refusal_congr (replay_behaviour t cs) c

theorem refusal_origin_replay (t : Scripted) (cs : List Call) (c : Call) :
    (t.origin.replay cs).refusal c = t.refusal c := refusal_congr (replay_behaviour t.origin cs) c

/-! ### The log of an open transport -/

theorem afterCall_calls (h : t.closed = false) (c : Call) :
    (t.afterCall c).calls = t.calls ++ [c] := by
  cases c <;> simp only [afterCall, createOffer, createAnswer, describe, attempt_eq h, close] <;>
    first
    | rfl
    | (cases refuse _ _ <;> rfl)

theorem afterCall_closed (h : t.closed = false) {c : Call} (hc : c ≠ .close) :
    (t.afterCall c).closed = false := by
  cases c <;> simp only [afterCall, createOffer, createAnswer, describe, attempt_eq h] <;>
    first
    | exact h
    | exact absurd rfl hc
    | (cases refuse _ _ <;> exact h)

theorem afterCall_descriptions (h : t.closed = false) {c : Call} (hc : c.isCreate = false) :
    (t.afterCall c).descriptions = t.descriptions := by
  cases c <;> simp only [afterCall, attempt_eq h, close] <;> first
    | rfl
    | exact absurd hc (by decide)

theorem replay_closed (h : t.closed = false) {cs : List Call} (hc : .close ∉ cs) :
    (t.replay cs).closed = false := by
  induction cs generalizing t with
  | nil => exact h
  | cons c cs ih =>
    rw [List.mem_cons, not_or] at hc
    obtain ⟨hne, hcs⟩ := hc
    exact ih (afterCall_closed h (Ne.symm hne)) hcs

theorem replay_calls (h : t.closed = false) {cs : List Call} (hc : .close ∉ cs) :
    (t.replay cs).calls = t.calls ++ cs := by
  induction cs generalizing t with
  | nil => simp
  | cons c cs ih =>
    rw [List.mem_cons, not_or] at hc
    obtain ⟨hne, hcs⟩ := hc
    rw [replay_cons, ih (afterCall_closed h (Ne.symm hne)) hcs, afterCall_calls h]
    simp

theorem replay_descriptions (h : t.closed = false) {cs : List Call} (hc : .close ∉ cs)
    (hd : ∀ c ∈ cs, c.isCreate = false) : (t.replay cs).descriptions = t.descriptions := by
  induction cs generalizing t with
  | nil => rfl
  | cons c cs ih =>
    rw [List.mem_cons, not_or] at hc
    obtain ⟨hne, hcs⟩ := hc
    rw [replay_cons, ih (afterCall_closed h (Ne.symm hne)) hcs fun d hd' => hd d (by simp [hd']),
      afterCall_descriptions h (hd c (by simp))]

/-- Only a call with a candidate hands one over. -/
theorem replay_candidates (h : t.closed = false) {cs : List Call} (hc : .close ∉ cs)
    (hn : ∀ c ∈ cs, c.isCandidate = false) : (t.replay cs).candidates = t.candidates := by
  unfold candidates
  rw [replay_calls h hc, List.filterMap_append, List.append_right_eq_self]
  refine List.filterMap_eq_nil_iff.mpr fun c hm => ?_
  have hno := hn c hm
  cases c with
  | addCandidate => cases hno
  | _ => rfl

theorem close_candidates (t : Scripted) : t.close.candidates = t.candidates := by
  simp [candidates, close, record]

/-- Calls that make no description leave the next one as it is. -/
theorem replay_descriptionText (h : t.closed = false) {cs : List Call} (hc : .close ∉ cs)
    (hd : ∀ c ∈ cs, c.isCreate = false) (kind : String) :
    (t.replay cs).descriptionText kind = t.descriptionText kind := by
  simp only [descriptionText, replay_descriptions h hc hd, replay_remote]

/-! ### Refused calls -/

theorem refusedIn_congr {t u : Scripted} (h : u.behaviour = t.behaviour) (cs : List Call) :
    u.refusedIn cs = t.refusedIn cs := by
  induction cs with
  | nil => rfl
  | cons c cs ih => simp only [refusedIn, refusal_congr h c, ih]

@[simp] theorem replay_refusedIn (t : Scripted) (cs ds : List Call) :
    (t.replay cs).refusedIn ds = t.refusedIn ds := refusedIn_congr (replay_behaviour t cs) ds

theorem refusedIn_singleton (t : Scripted) (c : Call) :
    t.refusedIn [c] = (t.refusal c).map fun reason => ([c], reason) := by
  unfold refusedIn
  cases t.refusal c <;> rfl

theorem refusedIn_append_of_none {cs : List Call} (h : t.refusedIn cs = none) (ds : List Call) :
    t.refusedIn (cs ++ ds) = (t.refusedIn ds).map fun r => (cs ++ r.1, r.2) := by
  induction cs with
  | nil => simp
  | cons c cs ih =>
    unfold refusedIn at h
    cases hc : t.refusal c with
    | some reason => rw [hc] at h; simp at h
    | none =>
      rw [hc] at h
      simp only [Option.map_eq_none_iff] at h
      rw [List.cons_append, refusedIn, hc, ih h]
      simp [Function.comp_def]

theorem refusedIn_append_of_some {cs : List Call} {r : List Call × String}
    (h : t.refusedIn cs = some r) (ds : List Call) : t.refusedIn (cs ++ ds) = some r := by
  induction cs generalizing r with
  | nil => simp [refusedIn] at h
  | cons c cs ih =>
    unfold refusedIn at h
    cases hc : t.refusal c with
    | some reason =>
      rw [hc] at h
      rw [List.cons_append, refusedIn, hc]
      exact h
    | none =>
      rw [hc] at h
      obtain ⟨q, hq, rfl⟩ := Option.map_eq_some_iff.mp h
      rw [List.cons_append, refusedIn, hc, ih hq]
      rfl

/-- Calls of which none is refused. -/
theorem accepted_of_refusedIn {cs : List Call} (h : t.refusedIn cs = none) :
    ∀ c ∈ cs, t.refusal c = none := by
  induction cs with
  | nil => simp
  | cons c cs ih =>
    unfold refusedIn at h
    cases hc : t.refusal c with
    | some reason => rw [hc] at h; simp at h
    | none =>
      rw [hc] at h
      simp only [Option.map_eq_none_iff] at h
      exact List.forall_mem_cons.mpr ⟨hc, ih h⟩

/-- What was called when a call was refused: a part of what was to be called, of which all but the
last were accepted. -/
theorem refusedIn_some {cs ds : List Call} {reason : String}
    (h : t.refusedIn cs = some (ds, reason)) :
    ds <+: cs ∧ ∃ es c, ds = es ++ [c] ∧ (∀ d ∈ es, t.refusal d = none) ∧
      t.refusal c = some reason := by
  induction cs generalizing ds with
  | nil => simp [refusedIn] at h
  | cons c cs ih =>
    unfold refusedIn at h
    cases hc : t.refusal c with
    | some r =>
      rw [hc] at h
      simp only [Option.some.injEq, Prod.mk.injEq] at h
      obtain ⟨rfl, rfl⟩ := h
      exact ⟨by simp, [], c, rfl, by simp, hc⟩
    | none =>
      rw [hc] at h
      obtain ⟨⟨ds', r⟩, hr, he⟩ := Option.map_eq_some_iff.mp h
      simp only [Prod.mk.injEq] at he
      obtain ⟨rfl, rfl⟩ := he
      obtain ⟨hp, es, d, rfl, hes, hd⟩ := ih hr
      exact ⟨by simpa using hp, c :: es, d, rfl, List.forall_mem_cons.mpr ⟨hc, hes⟩, hd⟩

end Scripted

end CallSignaling
