import CallSignaling.Proofs.Agent.Finality
import CallSignaling.Proofs.Agent.Transition

/-!
# Outbound — the messages of a run

Main statement: `Sound.outbound`.  Every message in the outbox was said by one move
(`Sound.exists_said`), so whatever holds of the messages of a run comes from `Utters` and from what
becomes of the agent between two of these moves.
-/

namespace CallSignaling

/-- The peer that a message brings a description. -/
def Message.describesTo? : Message → Option String
  | .offer _ r _ => some r
  | .answer _ r _ => r
  | _ => none

/-- The candidate that a message brings a peer. -/
def Message.candidateTo? (r : String) : Message → Option String
  | .iceCandidate _ q c => if q = r then some c else none
  | _ => none

namespace Agent

/-- The candidates for a peer that a move passes on, if there is a session with it and the way out
is open. -/
def passes (a : Agent) (r : String) : Move → List String
  | .localCandidate q c =>
    if q = r ∧ (a.session? r).isSome ∧ a.outbox.isOpen = true then [c] else []
  | _ => []

/-- The candidates for a peer that a run passes on. -/
def relayed (r : String) (a : Agent) : List Move → List String
  | [] => []
  | m :: later => a.passes r m ++ relayed r (a.after m) later

/-- The messages of a run of a client that has said nothing before. -/
structure Outbound (a : Agent) (history : List Move) : Prop where
  /-- Each message was said by one move, and in the name of the client. -/
  said : ∀ pre x post, (a.run history).outbox.sent = pre ++ x :: post →
    ∃ before m later, history = before ++ m :: later ∧
      (a.run before).localId = a.localId ∧ (a.run before).outbox.sent = pre ∧
      ((a.run before).after m).outbox.sent = pre ++ [x] ∧
      Utters (a.run before) ((a.run before).after m) m x
  /-- The client announces itself once. -/
  connect : ((a.run history).outbox.sent.map Message.tag).count .clientConnect ≤ 1
  /-- The farewell is the last message. -/
  disconnect : ∀ pre d post,
    (a.run history).outbox.sent = pre ++ .clientDisconnect d :: post → post = []
  /-- Between the moves that say two descriptions for a peer its session was taken out. -/
  once : ∀ r pre x mid y post, (a.run history).outbox.sent = pre ++ x :: (mid ++ y :: post) →
    x.describesTo? = some r → y.describesTo? = some r →
    ∃ before m between n later, history = before ++ m :: (between ++ n :: later) ∧
      (a.run before).outbox.sent = pre ∧
      ((a.run before).after m).outbox.sent = pre ++ [x] ∧
      (((a.run before).after m).run between).outbox.sent = pre ++ x :: mid ∧
      ((((a.run before).after m).run between).after n).outbox.sent = pre ++ x :: (mid ++ [y]) ∧
      ∃ p, p <+: between ∧ (((a.run before).after m).run p).session? r = none
  candidates : ∀ r, (a.run history).outbox.sent.filterMap (Message.candidateTo? r) =
    relayed r a history

variable {a b : Agent} {r : String} {m : Move} {x : Message} {pre post : List Message}

/-! ### Where a message comes from -/

theorem Sound.sent_grows (ha : a.Sound) (history : List Move) :
    a.outbox.sent <+: (a.run history).outbox.sent := by
  induction history generalizing a with
  | nil => exact List.prefix_refl _
  | cons m history ih =>
    obtain ⟨-, -, hsilent | ⟨-, x, hsent, -⟩⟩ := perform_utterance ha m
    · rw [← hsilent]
      exact ih (ha.after m)
    · have hfirst : a.outbox.sent <+: (a.after m).outbox.sent := ⟨[x], hsent.symm⟩
      exact hfirst.trans (ih (ha.after m))

theorem Sound.run_localId (ha : a.Sound) (history : List Move) :
    (a.run history).localId = a.localId := by
  induction history generalizing a with
  | nil => rfl
  | cons m history ih => exact (ih (ha.after m)).trans (perform_utterance ha m).localId

/-- A message that was not there at the beginning was said by a move. -/
theorem Sound.exists_said (ha : a.Sound) (history : List Move)
    (hsent : (a.run history).outbox.sent = pre ++ x :: post)
    (hnew : a.outbox.sent.length ≤ pre.length) :
    ∃ before m later, history = before ++ m :: later ∧ (a.run before).outbox.sent = pre ∧
      ((a.run before).after m).outbox.sent = pre ++ [x] ∧
      Utters (a.run before) ((a.run before).after m) m x := by
  induction history generalizing a with
  | nil =>
    have hlength := congrArg List.length hsent
    rw [run_nil, List.length_append, List.length_cons] at hlength
    omega
  | cons m history ih =>
    by_cases hle : (a.after m).outbox.sent.length ≤ pre.length
    · obtain ⟨before, n, later, rfl, hrest⟩ := ih (ha.after m) hsent hle
      exact ⟨m :: before, n, later, rfl, hrest⟩
    · -- the message is the one that this move says
      obtain ⟨-, -, hsilent | ⟨-, y, hsaid, hy⟩⟩ := perform_utterance ha m
      · rw [hsilent] at hle
        exact absurd hnew hle
      · obtain ⟨rest, hrest⟩ := (ha.after m).sent_grows history
        have hcut : a.outbox.sent ++ y :: rest = pre ++ x :: post := by
          rw [← hsent, ← List.singleton_append, ← List.append_assoc, ← hsaid]
          exact hrest
        have hlength : a.outbox.sent.length = pre.length := by
          rw [hsaid, List.length_append, List.length_singleton] at hle
          omega
        obtain ⟨hpre, htail⟩ := List.append_inj hcut hlength
        obtain ⟨rfl, -⟩ := List.cons.inj htail
        exact ⟨[], m, history, rfl, hpre, hpre ▸ hsaid, hy⟩

/-! ### Announcement and farewell -/

/-- The announcement was made at most once, and not before the first phase was left. -/
def Announced (a : Agent) : Prop :=
  (a.outbox.sent.map Message.tag).count .clientConnect ≤ if a.phase = .idle then 0 else 1

theorem Announced.after (h : a.Announced) (ha : a.Sound) (m : Move) : (a.after m).Announced := by
  have hkeep : (((a.after m).outbox.sent.map Message.tag).count .clientConnect =
      (a.outbox.sent.map Message.tag).count .clientConnect) → (a.after m).Announced := fun hc => by
    unfold Announced at h ⊢
    rw [hc]
    by_cases hp : a.phase = .idle
    · rw [if_pos hp] at h
      omega
    · have hnext : (a.after m).phase ≠ .idle := (perform_deed ha m).ne_idle hp
      rw [if_neg hp] at h
      rwa [if_neg hnext]
  obtain ⟨-, -, hsilent | ⟨-, x, hsent, hx⟩⟩ := perform_utterance ha m
  · exact hkeep (by rw [hsilent])
  · have hcount : ((a.after m).outbox.sent.map Message.tag).count .clientConnect =
        (a.outbox.sent.map Message.tag).count .clientConnect +
          [x.tag].count .clientConnect := by
      rw [hsent, List.map_append, List.count_append]
      rfl
    cases hx with
    | connect hp hnext =>
      unfold Announced at h ⊢
      rw [hcount, hnext, if_neg (by simp)]
      rw [if_pos hp] at h
      simpa [Message.tag] using h
    | _ => exact hkeep (hcount.trans (by simp [Message.tag]))

theorem Announced.run (h : a.Announced) (ha : a.Sound) (history : List Move) :
    (a.run history).Announced := by
  induction history generalizing a with
  | nil => exact h
  | cons m history ih => exact ih (h.after ha m) (ha.after m)

/-- After the farewell nothing is said. -/
theorem Sound.last_of_disconnect (ha : a.Sound) (hnone : a.outbox.sent = [])
    (history : List Move) {d : String}
    (hsent : (a.run history).outbox.sent = pre ++ .clientDisconnect d :: post) : post = [] := by
  obtain ⟨before, m, later, rfl, -, hsaid, hx⟩ := ha.exists_said history hsent (by simp [hnone])
  have hb := (ha.run before).after m
  have hclosed : ((a.run before).after m).phase = .closed := by
    cases hx with
    | disconnect h => exact h
  have hlater := ((hb.posture.ended hclosed).run later).2.sent
  rw [run_append] at hsent
  have hsame : pre ++ .clientDisconnect d :: post = pre ++ [.clientDisconnect d] :=
    hsent.symm.trans (hlater.trans hsaid)
  simpa using List.append_cancel_left hsame

/-! ### Descriptions -/

/-- Who is sent a description has no call yet, and has one then. -/
theorem Utters.describes (hx : Utters a b m x) (hr : x.describesTo? = some r) :
    (∀ y, a.sessionState? r = some y → y.progress ≤ 1) ∧
      ∃ y, b.sessionState? r = some y ∧ 2 ≤ y.progress := by
  cases hx with
  | offer _ hold hnew =>
    obtain rfl := Option.some.inj hr
    refine ⟨fun y hy => ?_, .offering, hnew, Nat.le_refl 2⟩
    obtain rfl := Option.some.inj (hold.symm.trans hy)
    exact Nat.le_refl 1
  | answer hold hnew =>
    obtain rfl := Option.some.inj hr
    refine ⟨fun y hy => ?_, .connected, hnew, by decide⟩
    rcases hold y hy with rfl | rfl <;> decide
  | _ => cases hr

theorem Sound.described_once (ha : a.Sound) (hnone : a.outbox.sent = []) (history : List Move)
    {y : Message} {mid : List Message}
    (hsent : (a.run history).outbox.sent = pre ++ x :: (mid ++ y :: post))
    (hx : x.describesTo? = some r) (hy : y.describesTo? = some r) :
    ∃ before m between n later, history = before ++ m :: (between ++ n :: later) ∧
      (a.run before).outbox.sent = pre ∧
      ((a.run before).after m).outbox.sent = pre ++ [x] ∧
      (((a.run before).after m).run between).outbox.sent = pre ++ x :: mid ∧
      ((((a.run before).after m).run between).after n).outbox.sent = pre ++ x :: (mid ++ [y]) ∧
      ∃ p, p <+: between ∧ (((a.run before).after m).run p).session? r = none := by
  obtain ⟨before, m, rest, rfl, hbefore, hsaid, hm⟩ :=
    ha.exists_said history hsent (by simp [hnone])
  have hb := (ha.run before).after m
  have hcut : (((a.run before).after m).run rest).outbox.sent = (pre ++ x :: mid) ++ y :: post := by
    rw [run_append] at hsent
    rw [List.append_assoc]
    exact hsent
  obtain ⟨between, n, later, rfl, hbetween, hsecond, hn⟩ :=
    hb.exists_said rest hcut (by simp [hsaid])
  rw [List.append_assoc, List.cons_append] at hsecond
  refine ⟨before, m, between, n, later, rfl, hbefore, hsaid, hbetween, hsecond, ?_⟩
  -- a session that had stayed would have come too far for the second description
  refine Classical.byContradiction fun hstay => ?_
  obtain ⟨-, z, hz, htwo⟩ := hm.describes hx
  obtain ⟨w, hw, hle⟩ := hb.progress_run between hz fun p hp hgone => hstay ⟨p, hp, hgone⟩
  have hone := (hn.describes hy).1 w hw
  omega

/-! ### Candidates -/

theorem Sound.sent_localCandidate (ha : a.Sound) {c : String} (hs : (a.session? r).isSome)
    (ho : a.outbox.isOpen = true) :
    (a.after (.localCandidate r c)).outbox.sent =
      a.outbox.sent ++ [.iceCandidate a.localId r c] := by
  have hopen : a.phase ≠ .closed := fun hp => by
    obtain ⟨s, hs⟩ := session?_isSome_iff.mp hs
    rw [ha.posture.closed hp r] at hs
    cases hs
  have hgo : ¬ (a.phase = .closed ∨ (a.session? r).isNone) := by
    rintro (hp | hn)
    · exact hopen hp
    · rw [Option.isNone_iff_eq_none.mp hn] at hs
      cases hs
  show (a.localCandidate r c).2.outbox.sent = _
  unfold localCandidate
  rw [if_neg hgo, send?_eq, if_pos ho]
  rfl

theorem Sound.candidates_after (ha : a.Sound) (m : Move) (r : String) :
    (a.after m).outbox.sent.filterMap (Message.candidateTo? r) =
      a.outbox.sent.filterMap (Message.candidateTo? r) ++ a.passes r m := by
  by_cases hpass : ∃ c, m = .localCandidate r c ∧ (a.session? r).isSome ∧ a.outbox.isOpen = true
  · obtain ⟨c, rfl, hs, ho⟩ := hpass
    rw [ha.sent_localCandidate hs ho, List.filterMap_append]
    simp [Message.candidateTo?, passes, hs, ho]
  · have hnone : a.passes r m = [] := by
      cases m with
      | localCandidate q c => exact if_neg fun ⟨hq, h⟩ => hpass ⟨c, by rw [hq], h⟩
      | _ => rfl
    rw [hnone, List.append_nil]
    obtain ⟨-, -, hsilent | ⟨ho, x, hsent, hx⟩⟩ := perform_utterance ha m
    · rw [hsilent]
    · have hother : x.candidateTo? r = none := by
        cases hx with
        | @candidate q c hs =>
          refine if_neg fun hq => hpass ⟨c, ?_⟩
          subst hq
          exact ⟨rfl, hs, ho⟩
        | _ => rfl
      rw [hsent, List.filterMap_append]
      simp [hother]

theorem Sound.candidates_run (ha : a.Sound) (history : List Move) (r : String) :
    (a.run history).outbox.sent.filterMap (Message.candidateTo? r) =
      a.outbox.sent.filterMap (Message.candidateTo? r) ++ relayed r a history := by
  induction history generalizing a with
  | nil => exact (List.append_nil _).symm
  | cons m history ih =>
    show ((a.after m).run history).outbox.sent.filterMap _ = _ ++ (a.passes r m ++ _)
    rw [ih (ha.after m), ha.candidates_after m r, List.append_assoc]

/-! ### The whole run -/

/-- What a client says in a run. -/
theorem Sound.outbound (ha : a.Sound) (hnone : a.outbox.sent = []) (history : List Move) :
    Outbound a history where
  said := fun pre x post hsent => by
    obtain ⟨before, m, later, heq, hbefore, hsaid, hx⟩ :=
      ha.exists_said history hsent (by simp [hnone])
    exact ⟨before, m, later, heq, ha.run_localId before, hbefore, hsaid, hx⟩
  connect := by
    have hstart : a.Announced := by simp [Announced, hnone]
    have hrun := hstart.run ha history
    unfold Announced at hrun
    split at hrun
    · omega
    · exact hrun
  disconnect := fun pre d post => ha.last_of_disconnect hnone history
  once := fun r pre x mid y post => ha.described_once hnone history
  candidates := fun r => by
    rw [ha.candidates_run history r, hnone]
    rfl

end Agent

end CallSignaling
