import CallSignaling.Agent.Move
import CallSignaling.Proofs.Agent.Views
import CallSignaling.Proofs.Transport.Exchange

/-!
# LineChange — how a peer's line may change in one move

Between two moves a line is either a session without a transport, in which candidates wait, or a
session whose record agrees with the stage of its transport (`Line.Sound`).  `LineChange` lists what
a move can do to a line that stays; it keeps `Line.Sound`.
-/

namespace CallSignaling

/-- The state of a session whose transport stands at a stage. -/
def ExchangeStage.state : ExchangeStage → CallState
  | .blank => .assigned
  | .offering => .offering
  | .asked => .answering
  | .live => .connected

/-- What the marks of a session read at the stages between two moves. -/
theorem ExchangeStage.marks {st : ExchangeStage} (h : st ≠ .asked) :
    (st.state = .assigned ∨ st.state = .offering ∨ st.state = .connected) ∧
    ((st == .offering || st == .live) = true ↔ st.state = .offering ∨ st.state = .connected) ∧
    ((st == .asked || st == .live) = true ↔ st.state = .connected) ∧
    ((st != .blank) = true ↔ st.state = .offering ∨ st.state = .connected) ∧
    (st.state = .connected → st = .live) ∧ st.state ≠ .idle := by
  cases st with
  | asked => exact absurd rfl h
  | _ => decide

/-- A session's record agrees with the stage of its transport. -/
structure Session.Fits (s : Session) (st : ExchangeStage) (k : Bool) : Prop where
  state : s.state = st.state
  tracksBound : s.tracksBound = k
  localSet : s.localSet = (st == .offering || st == .live)
  remoteSet : s.remoteSet = (st == .asked || st == .live)
  started : s.started.isSome = (st != .blank)
  pending : st = .live → s.pending = []

/-- The line of a peer between two moves. -/
inductive Line.Sound (r : String) : Line → Prop
  | idle (h : Nat) (pending : List String) :
    Line.Sound r ⟨h, { Session.fresh r with pending }, none⟩
  | bound {h : Nat} {s : Session} {t : Scripted} {st : ExchangeStage} {k : Bool} : s.remote = r →
    t.remote = r → t.At st k → s.Fits st k → st ≠ .asked → Line.Sound r ⟨h, s, some t⟩

namespace Agent

/-- The session and the transport with which an operation sets out that makes sure of both. -/
inductive Opens (a : Agent) (r : String) : Option Line → Line → Prop
  | new {h id : Nat} :
    Opens a r none ⟨h, (Session.fresh r).bind id, some (Scripted.create r a.pool.behaviour)⟩
  | bind {h id : Nat} {s : Session} : s.state = .idle →
    Opens a r (some ⟨h, s, none⟩)
      ⟨h, s.bind id, some (Scripted.create r a.pool.behaviour)⟩
  | bound {h : Nat} {s : Session} {t : Scripted} : s.state = .assigned →
    Opens a r (some ⟨h, s, some t⟩) ⟨h, s, some t⟩

/-- What a move can do to the line of a peer that has one afterwards. -/
inductive LineChange (a : Agent) (r : String) : Move → Option Line → Line → Prop
  /-- The first candidate of an unknown peer waits. -/
  | enrol {h : Nat} {c : String} :
    LineChange a r (.candidate r c) none ⟨h, (Session.fresh r).push c, none⟩
  | wait {h : Nat} {s : Session} {t : Option Scripted} {c : String} :
    s.state.buffersCandidates = true →
    LineChange a r (.candidate r c) (some ⟨h, s, t⟩) ⟨h, s.push c, t⟩
  | pass {h : Nat} {s : Session} {t : Scripted} {c : String} : s.state = .connected →
    LineChange a r (.candidate r c) (some ⟨h, s, some t⟩)
      ⟨h, s, some (t.replay [.addCandidate c])⟩
  | assign {l : Option Line} {h : Nat} {s : Session} {t : Scripted} :
    Opens a r l ⟨h, s, some t⟩ → s.state = .idle → t.refusedIn (s.handover a.tracks) = none →
    LineChange a r (.assigned r) l
      ⟨h, (s.enter .assigned).given a.tracks, some (t.replay (s.handover a.tracks))⟩
  | furnish {h : Nat} {s : Session} {t : Scripted} {ts : List Track} : s.state = .assigned →
    t.refusedIn (s.handover ts) = none →
    LineChange a r (.mediaReady ts) (some ⟨h, s, some t⟩)
      ⟨h, s.given ts, some (t.replay (s.handover ts))⟩
  | offer {h : Nat} {s : Session} {t : Scripted} : s.state = .assigned →
    t.refusedIn (a.offerCalls s t) = none →
    LineChange a r .startCall (some ⟨h, s, some t⟩)
      ⟨h, (s.given a.tracks).markLocal.start .offering a.now, some (t.replay (a.offerCalls s t))⟩
  | settle {h : Nat} {s : Session} {t : Scripted} {sender : Option String} {sdp : String} :
    sender.or a.active = some r → s.state = .offering → t.refusedIn [.setRemote sdp] = none →
    LineChange a r (.answer sender sdp) (some ⟨h, s, some t⟩)
      ⟨h, s.markRemote.connect,
        some ((t.replay [.setRemote sdp]).replay (s.pending.map .addCandidate))⟩
  | accept {l : Option Line} {h : Nat} {s : Session} {t : Scripted} {sdp : String} :
    Opens a r l ⟨h, s, some t⟩ → t.refusedIn (a.answerCalls s t sdp) = none →
    LineChange a r (.offer r a.localId sdp) l
      ⟨h, ((s.start .answering a.now).markRemote.given a.tracks).markLocal.connect,
        some ((t.replay (a.answerCalls s t sdp)).replay (s.pending.map .addCandidate))⟩

/-- A line that stays keeps its handle. -/
theorem LineChange.handle_eq {a : Agent} {r : String} {m : Move} {K L : Line}
    (hc : LineChange a r m (some K) L) : K.handle = L.handle := by
  cases hc with
  | assign ho => cases ho <;> rfl
  | accept ho => cases ho <;> rfl
  | _ => rfl

/-! ### The courses of the operations -/

variable {a : Agent} {r : String} {s : Session} {t : Scripted} {k : Bool} {ts : List Track}

theorem handover_course {text : String → String} {log : List Call} (ts : List Track)
    (hb : s.tracksBound = k) :
    (Exchange text .blank k log →
      Exchange text .blank (k || !ts.isEmpty) (log ++ s.handover ts)) ∧
    (Exchange text .asked k log →
      Exchange text .asked (k || !ts.isEmpty) (log ++ s.handover ts)) := by
  unfold Session.handover
  by_cases hn : ts = [] ∨ s.tracksBound = true
  · rw [if_pos hn, List.append_nil]
    have hk : (k || !ts.isEmpty) = k := by
      rcases hn with rfl | hn
      · simp
      · simp [← hb, hn]
    rw [hk]
    exact ⟨id, id⟩
  · rw [not_or] at hn
    obtain rfl : k = false := by simpa [hb] using hn.2
    have hk : (false || !ts.isEmpty) = true := by simpa using hn.1
    rw [if_neg (by simp [hn]), hk]
    have hi : ts.map Track.id ≠ [] := by simpa using hn.1
    exact ⟨fun he => he.tracks hi, fun he => he.lateTracks hi⟩

/-- Whether the transport has tracks once they were offered to it. -/
theorem handover_at (ts : List Track) (ht : t.At .blank k) (hb : s.tracksBound = k)
    (ha : t.refusedIn (s.handover ts) = none) :
    (t.replay (s.handover ts)).At .blank (k || !ts.isEmpty) :=
  ht.replay ha ((handover_course ts hb).1 ht.course)

theorem offerCalls_course (ht : t.At .blank k) (hb : s.tracksBound = k) :
    Exchange t.origin.descriptionText .offering (k || !a.tracks.isEmpty)
      (t.calls ++ a.offerCalls s t) := by
  rw [offerCalls, ht.descriptionText_eq ht.course.not_isCreate, ← List.append_assoc]
  exact ((handover_course a.tracks hb).1 ht.course).offer

theorem answerCalls_course (ht : t.At .blank k) (hb : s.tracksBound = k) (sdp : String) :
    Exchange t.origin.descriptionText .live (k || !a.tracks.isEmpty)
      (t.calls ++ a.answerCalls s t sdp) := by
  have hask := (handover_course a.tracks hb).2 (ht.course.ask sdp)
  rw [answerCalls, ht.descriptionText_eq ht.course.not_isCreate]
  simpa using hask.answer

/-- Calling and answering close nothing. -/
theorem offerCalls_not_mem_close (ht : t.At .blank k) (hb : s.tracksBound = k) :
    .close ∉ a.offerCalls s t := fun hm =>
  (offerCalls_course ht hb).not_mem_close (List.mem_append_right _ hm)

theorem answerCalls_not_mem_close (ht : t.At .blank k) (hb : s.tracksBound = k) (sdp : String)
    (cs : List String) : .close ∉ a.answerCalls s t sdp ++ cs.map .addCandidate := by
  intro hm
  rcases List.mem_append.mp hm with hm | hm
  · exact (answerCalls_course ht hb sdp).not_mem_close (List.mem_append_right _ hm)
  · simp at hm

/-! ### Sound lines stay sound -/

/-- What a line looks like when an operation sets out. -/
theorem Opens.blank {l : Option Line} {h : Nat} (ho : Opens a r l ⟨h, s, some t⟩)
    (hl : ∀ L, l = some L → L.Sound r) :
    s.remote = r ∧ t.remote = r ∧ s.localSet = false ∧ s.remoteSet = false ∧ s.started = none ∧
      t.At .blank s.tracksBound := by
  cases ho with
  | new => exact ⟨rfl, rfl, rfl, rfl, rfl, Scripted.create_at _ _⟩
  | bind hs =>
    cases hl _ rfl with
    | idle => exact ⟨rfl, rfl, rfl, rfl, rfl, Scripted.create_at _ _⟩
  | bound hs =>
    cases hl _ rfl with
    | @bound _ _ _ st k hr htr ht hf hst =>
      obtain rfl : st = .blank := by
        have := hf.state.symm.trans hs
        cases st <;> first | rfl | simp [ExchangeStage.state] at this
      refine ⟨hr, htr, hf.localSet, hf.remoteSet, ?_, ?_⟩
      · simpa using hf.started
      · rw [hf.tracksBound]
        exact ht

end Agent

/-- A sound line with a transport stands at the stage that its session tells. -/
theorem Line.Sound.at_stage {r : String} {h : Nat} {s : Session} {t : Scripted}
    (hL : Line.Sound r ⟨h, s, some t⟩) (st : ExchangeStage) (hs : s.state = st.state) :
    s.remote = r ∧ t.remote = r ∧ t.At st s.tracksBound ∧ s.Fits st s.tracksBound := by
  cases hL with
  | @bound _ _ _ st' k hr htr ht hf hst' =>
    obtain rfl : st' = st := by
      have := hf.state.symm.trans hs
      cases st <;> cases st' <;> first | rfl | simp [ExchangeStage.state] at this
    obtain rfl := hf.tracksBound
    exact ⟨hr, htr, ht, hf⟩

/-- The transport of a sound line is open. -/
theorem Line.Sound.isOpen {r : String} {h : Nat} {s : Session} {t : Scripted}
    (hL : Line.Sound r ⟨h, s, some t⟩) : t.closed = false := by
  cases hL with
  | bound _ _ ht => exact ht.isOpen

/-- The state of a sound line is not final. -/
theorem Line.Sound.isTerminal {r : String} {L : Line} (hL : L.Sound r) :
    L.session.state.isTerminal = false := by
  cases hL with
  | idle => rfl
  | @bound h s t st k hr htr ht hf hst =>
    show s.state.isTerminal = false
    rw [hf.state]
    cases st <;> rfl

namespace Agent

/-- A sound line that a move changes is sound again. -/
theorem LineChange.sound {a : Agent} {r : String} {m : Move} {l : Option Line} {L : Line}
    (hc : LineChange a r m l L) (hl : ∀ L, l = some L → L.Sound r) : L.Sound r := by
  cases hc with
  | @enrol h c => exact .idle h [c]
  | @wait h s t c hs =>
    cases hl _ rfl with
    | idle _ pending => exact .idle h (pending ++ [c])
    | @bound _ _ _ st k hr htr ht hf hst =>
      refine .bound hr htr ht
        ⟨hf.state, hf.tracksBound, hf.localSet, hf.remoteSet, hf.started, ?_⟩ hst
      rintro rfl
      rw [hf.state] at hs
      exact absurd hs (by decide)
  | @pass h s t c hs =>
    obtain ⟨hr, htr, ht, hf⟩ := (hl _ rfl).at_stage .live hs
    exact .bound hr (by simpa using htr) (ht.candidates [c]) hf (by decide)
  | @assign _ h s t ho hs ha =>
    obtain ⟨hr, htr, hls, hrs, hst, ht⟩ := ho.blank hl
    refine .bound hr (by simpa using htr) (handover_at a.tracks ht rfl ha)
      ⟨rfl, rfl, hls, hrs, ?_, nofun⟩ (by decide)
    show s.started.isSome = false
    rw [hst]
    rfl
  | @furnish h s t ts hs ha =>
    obtain ⟨hr, htr, ht, hf⟩ := (hl _ rfl).at_stage .blank hs
    exact .bound hr (by simpa using htr) (handover_at ts ht rfl ha)
      ⟨hf.state, rfl, hf.localSet, hf.remoteSet, hf.started, nofun⟩ (by decide)
  | @offer h s t hs ha =>
    obtain ⟨hr, htr, ht, hf⟩ := (hl _ rfl).at_stage .blank hs
    exact .bound hr (by simpa using htr) (ht.replay ha (offerCalls_course ht rfl))
      ⟨rfl, rfl, rfl, hf.remoteSet, rfl, nofun⟩ (by decide)
  | @settle h s t sender sdp hq hs ha =>
    obtain ⟨hr, htr, ht, hf⟩ := (hl _ rfl).at_stage .offering hs
    exact .bound hr (by simpa using htr)
      ((ht.replay ha (ht.course.settle sdp)).candidates s.pending)
      ⟨rfl, rfl, hf.localSet, rfl, hf.started, fun _ => rfl⟩ (by decide)
  | @accept _ h s t sdp ho ha =>
    obtain ⟨hr, htr, hls, hrs, hst, ht⟩ := ho.blank hl
    exact .bound hr (by simpa using htr)
      ((ht.replay ha (answerCalls_course ht rfl sdp)).candidates s.pending)
      ⟨rfl, rfl, rfl, rfl, rfl, fun _ => rfl⟩ (by decide)

end Agent

end CallSignaling
