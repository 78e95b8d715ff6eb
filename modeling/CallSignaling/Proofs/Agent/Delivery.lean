import CallSignaling.Proofs.Agent.Disguise
import CallSignaling.Proofs.Agent.Turn
import CallSignaling.Proofs.Transport.CallOrder

/-!
# Delivery — no candidate is lost, doubled or overtaken

Main statement: `delivery_run`.  What a session has taken, on its transport and waiting, is what
arrived for its peer since the session was made, in the order of arrival.
-/

namespace CallSignaling

/-! ### Candidates in a log -/

namespace Scripted

variable {t : Scripted}

theorem candidates_replay (ho : t.closed = false) {cs : List Call} (hx : .close ∉ cs)
    (hc : ∀ c ∈ cs, c.isCandidate = false) : (t.replay cs).candidates = t.candidates := by
  have hnil : ({ t with calls := cs } : Scripted).candidates = [] := by
    refine List.filterMap_eq_nil_iff.mpr fun c hm => ?_
    have := hc c hm
    cases c <;> simp [Call.isCandidate] at this ⊢
  unfold candidates at hnil ⊢
  rw [replay_calls ho hx, List.filterMap_append, hnil, List.append_nil]

theorem candidates_replay_map (ho : t.closed = false) (ds : List String) :
    (t.replay (ds.map .addCandidate)).candidates = t.candidates ++ ds := by
  unfold candidates
  rw [replay_calls ho (by simp), List.filterMap_append, List.filterMap_map]
  exact congrArg _ List.filterMap_some

end Scripted

/-- The candidates that a line has given to its transport, and then those that wait. -/
def Line.taken (L : Line) : List String :=
  (L.transport.map Scripted.candidates).getD [] ++ L.session.pending

theorem Line.taken_some (h : Nat) (s : Session) (t : Scripted) :
    (⟨h, s, some t⟩ : Line).taken = t.candidates ++ s.pending := rfl

namespace Agent

/-- The candidates that moves bring from a peer. -/
def received (r : String) (moves : List Move) : List String :=
  moves.filterMap fun m => match m with
    | .candidate q c => if q = r then some c else none
    | _ => none

theorem received_append (r : String) (ms ns : List Move) :
    received r (ms ++ ns) = received r ms ++ received r ns := List.filterMap_append ..

theorem received_candidate (r c : String) : received r [.candidate r c] = [c] := by
  simp [received]

variable {a : Agent} {r : String} {m : Move} {h : Nat} {s : Session} {t : Scripted}
  {l : Option Line} {K L : Line}

/-! ### One move -/

theorem Opens.taken (ho : Opens a r l ⟨h, s, some t⟩) :
    t.candidates ++ s.pending = (l.map Line.taken).getD [] := by
  cases ho <;> rfl

theorem received_eq_nil (hm : ∀ c, m ≠ .candidate r c) : received r [m] = [] := by
  cases m with
  | candidate q c =>
    have hq : q ≠ r := fun e => hm c (by rw [e])
    simp [received, hq]
  | _ => rfl

/-- What a line has taken grows by the candidate that arrives. -/
theorem LineChange.taken (hc : LineChange a r m l L) (hl : ∀ K, l = some K → K.Sound r) :
    L.taken = (l.map Line.taken).getD [] ++ received r [m] := by
  cases hc with
  | @enrol h c =>
    rw [received_candidate]
    rfl
  | @wait h s t c hs =>
    rw [received_candidate, Option.map_some, Option.getD_some]
    unfold Line.taken
    exact (List.append_assoc ..).symm
  | @pass h s t c hs =>
    obtain ⟨-, -, ht, hf⟩ := (hl _ rfl).at_stage .live hs
    have hnew := Scripted.candidates_replay_map ht.isOpen [c]
    rw [received_candidate]
    simp only [Option.map_some, Option.getD_some, Line.taken_some, hf.pending rfl, List.append_nil]
    exact hnew
  | @assign _ h s t ho hs ha =>
    obtain ⟨-, -, -, -, -, ht⟩ := ho.blank hl
    have hclose := fun hm => ((handover_course a.tracks rfl).1 ht.course).not_mem_close
      (List.mem_append_right _ hm)
    rw [received_eq_nil (by simp), List.append_nil, ← ho.taken, Line.taken_some]
    rw [Scripted.candidates_replay ht.isOpen hclose (handover_not_isCandidate _ _)]
    rfl
  | @furnish h s t ts hs ha =>
    obtain ⟨-, -, ht, -⟩ := (hl _ rfl).at_stage .blank hs
    have hclose := fun hm => ((handover_course ts rfl).1 ht.course).not_mem_close
      (List.mem_append_right _ hm)
    rw [received_eq_nil (by simp), List.append_nil]
    simp only [Option.map_some, Option.getD_some, Line.taken_some]
    rw [Scripted.candidates_replay ht.isOpen hclose (handover_not_isCandidate _ _)]
    rfl
  | @offer h s t hs ha =>
    obtain ⟨-, -, ht, -⟩ := (hl _ rfl).at_stage .blank hs
    have hcourse := offerCalls_course (a := a) ht rfl
    rw [received_eq_nil (by simp), List.append_nil]
    simp only [Option.map_some, Option.getD_some, Line.taken_some]
    rw [Scripted.candidates_replay ht.isOpen
      (fun hm => hcourse.not_mem_close (List.mem_append_right _ hm))
      fun c hm => hcourse.not_isCandidate (by simp) c (List.mem_append_right _ hm)]
    rfl
  | @settle h s t sender sdp hq hs ha =>
    obtain ⟨-, -, ht, -⟩ := (hl _ rfl).at_stage .offering hs
    rw [received_eq_nil (by simp), List.append_nil]
    simp only [Option.map_some, Option.getD_some, Line.taken_some]
    rw [Scripted.candidates_replay_map (Scripted.replay_closed ht.isOpen (by simp)),
      Scripted.candidates_replay ht.isOpen (by simp) (by simp [Call.isCandidate])]
    exact List.append_nil _
  | @accept _ h s t sdp ho ha =>
    obtain ⟨-, -, -, -, -, ht⟩ := ho.blank hl
    have hcourse := answerCalls_course (a := a) ht rfl sdp
    have hclose := fun hm => hcourse.not_mem_close (List.mem_append_right _ hm)
    have hnot : ∀ c ∈ a.answerCalls s t sdp, c.isCandidate = false := by
      intro c hm
      simp only [answerCalls, List.mem_append, List.mem_cons, List.not_mem_nil, or_false] at hm
      rcases hm with (rfl | hm) | rfl | rfl
      · rfl
      · exact handover_not_isCandidate _ _ c hm
      all_goals rfl
    rw [received_eq_nil (by simp), List.append_nil, ← ho.taken, Line.taken_some]
    rw [Scripted.candidates_replay_map (Scripted.replay_closed ht.isOpen hclose),
      Scripted.candidates_replay ht.isOpen hclose hnot]
    exact List.append_nil _

/-- What a line has taken after a move. -/
theorem Sound.taken_after (ha : a.Sound) (hL : (a.after m).line? r = some L) :
    L.taken = ((a.line? r).map Line.taken).getD [] ++ received r [m] := by
  rcases (perform_turn ha m).effect.line r L hL with hsame | hc
  · by_cases hm : ∃ c, m = .candidate r c
    · obtain ⟨c, rfl⟩ := hm
      obtain ⟨L', hL', hc⟩ := ha.taken c (lookup_of_line? hsame).1
      obtain rfl := Option.some.inj (hL'.symm.trans hL)
      exact hc.taken (ha.lines.sound r)
    · rw [received_eq_nil fun c e => hm ⟨c, e⟩, hsame, List.append_nil]
      rfl
  · exact hc.taken (ha.lines.sound r)

/-! ### A run -/

/-- The session of this handle is registered for a peer. -/
def HasSession (a : Agent) (r : String) (h : Nat) : Prop :=
  ∃ e, a.registry.lookup? r = some e ∧ e.handle = h

theorem hasSession_of_line? (hL : a.line? r = some L) : a.HasSession r L.handle :=
  ⟨_, (lookup_of_line? hL).1, rfl⟩

/-- The session with a peer was there from the beginning, or was made by a move; since then it has
taken what has arrived. -/
theorem Sound.taken_run (ha : a.Sound) (history : List Move)
    (hL : (a.run history).line? r = some L) :
    (∃ K, a.line? r = some K ∧ K.handle = L.handle ∧
      (∀ p, p <+: history → (a.run p).HasSession r L.handle) ∧
      L.taken = K.taken ++ received r history) ∨
    ∃ before m later, history = before ++ m :: later ∧
      (∀ q, ¬ (a.run before).HasSession q L.handle) ∧
      (∀ p, p <+: later → (a.run (before ++ m :: p)).HasSession r L.handle) ∧
      L.taken = received r (m :: later) := by
  induction history generalizing a with
  | nil =>
    refine .inl ⟨L, hL, rfl, fun p hp => ?_, by simp [received]⟩
    obtain rfl := List.prefix_nil.mp hp
    exact hasSession_of_line? hL
  | cons m history ih =>
    have hsplit : received r (m :: history) = received r [m] ++ received r history :=
      received_append r [m] history
    rcases ih (ha.after m) hL with
      ⟨K', hK', hh, hall, htaken⟩ | ⟨before, n, later, rfl, hno, hall, htaken⟩
    · have hgrown := ha.taken_after hK'
      have heffect := (perform_turn ha m).effect
      cases hK : a.line? r with
      | some K =>
        have hKh : K.handle = L.handle := (heffect.handle_eq hK' hK).trans hh
        refine .inl ⟨K, rfl, hKh, fun p hp => ?_, ?_⟩
        · cases p with
          | nil => exact hKh ▸ hasSession_of_line? hK
          | cons n p =>
            obtain ⟨rfl, hp'⟩ := List.cons_prefix_cons.mp hp
            exact hall p hp'
        · rw [hK, Option.map_some, Option.getD_some] at hgrown
          rw [htaken, hgrown, hsplit, List.append_assoc]
      | none =>
        refine .inr ⟨[], m, history, rfl, ?_, hall, ?_⟩
        · rintro q ⟨e, he, heh⟩
          have hnew := (heffect.fresh r K' hK' hK).1
          have hold : e.handle < a.registry.issued := ha.lines.handle q _ (line?_of_lookup he)
          omega
        · rw [hK, Option.map_none, Option.getD_none, List.nil_append] at hgrown
          rw [htaken, hgrown, hsplit]
    · exact .inr ⟨m :: before, n, later, rfl, hno, hall, htaken⟩

/-- Before a candidate a transport has taken a remote description. -/
theorem Lines.described (ha : a.Lines) {i : Nat} (ht : a.transport? i = some t)
    {pre post : List Call} {c : String} (hc : t.calls = pre ++ .addCandidate c :: post) :
    ∃ before sdp after, pre = before ++ .setRemote sdp :: after ∧
      ((t.origin.replay before).setRemote sdp).1 = .ok () := by
  rcases ha.owner i t ht with ⟨k, u, hu, rfl⟩ | ⟨L, hL, hi⟩
  · obtain ⟨rest, hrest, -⟩ := Scripted.cut_close hc (by simp)
    exact hu.described hrest
  · obtain ⟨u, st, k, hh, hat⟩ := ha.holds (lookup_of_line? hL).1 hi
    obtain rfl : u = t := Option.some.inj (hh.transport.symm.trans ht)
    exact hat.broken.described hc

/-- The candidates that a session has given to its transport. -/
def delivered (a : Agent) (s : Session) : List String :=
  ((s.transport.bind a.transport?).map Scripted.candidates).getD []

/-- What becomes of the candidates in a run: what arrived for a session since it was made is what it
has delivered and what waits, a transport gets them after a remote description, none waits once the
peers are connected, and a refused one makes no difference. -/
structure Delivery (start : Agent) (history : List Move) : Prop where
  arrived : ∀ r e, (start.run history).registry.lookup? r = some e →
    ∃ before m later, history = before ++ m :: later ∧
      (∀ q, ¬ (start.run before).HasSession q e.handle) ∧
      (∀ p, p <+: later → (start.run (before ++ m :: p)).HasSession r e.handle) ∧
      received r (m :: later) = (start.run history).delivered e.session ++ e.session.pending
  described : ∀ i t pre c post, (start.run history).transport? i = some t →
    t.calls = pre ++ .addCandidate c :: post →
    ∃ before sdp after, pre = before ++ .setRemote sdp :: after ∧
      ((t.origin.replay before).setRemote sdp).1 = .ok ()
  drained : ∀ r s, (start.run history).session? r = some s → s.state = .connected → s.pending = []
  unaffected : (start.under lenient).run (history.map (·.under lenient)) =
    (start.run history).under lenient
  answered : ∀ m, (((start.run history).under lenient).perform (m.under lenient)).1 =
    ((start.run history).perform m).1

/-- No candidate is lost, doubled or overtaken in a run, whichever of them the transports refuse. -/
theorem delivery_run (localId : String) (timeout : Option Nat) (tracks : List Track)
    (behaviour : Behaviour) (now : Nat) (history : List Move) :
    Delivery (fresh localId timeout tracks (.fresh behaviour) now) history := by
  have hfresh := sound_fresh localId timeout tracks behaviour now
  have ha := hfresh.run history
  refine ⟨fun r e he => ?_, fun i t pre c post ht hc => ha.lines.described ht hc,
    fun r s hs hconn => ?_, (run_under (avoids_lenient _) history).1,
    fun m => (perform_under (avoids_lenient _) m).answer⟩
  · rcases hfresh.taken_run history (line?_of_lookup he) with ⟨K, hK, -⟩ | h
    · have hnone : (fresh localId timeout tracks (.fresh behaviour) now).line? r = none := rfl
      simp [hnone] at hK
    · obtain ⟨before, m, later, hsplit, hno, hall, htaken⟩ := h
      exact ⟨before, m, later, hsplit, hno, hall, htaken.symm⟩
  · rw [session?_eq_line?] at hs
    obtain ⟨L, hL, rfl⟩ := Option.map_eq_some_iff.mp hs
    obtain ⟨id, t, hh⟩ := ha.lines.begun (lookup_of_line? hL).1 (by simp [hconn])
    obtain ⟨-, -, -, hf⟩ := (ha.lines.sound r _ hh.line?).at_stage .live hconn
    exact hf.pending rfl

end Agent

end CallSignaling
