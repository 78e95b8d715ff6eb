import CallSignaling.Proofs.Agent.Turn

/-!
# ArrivalOrder — candidates before and after the description

Main statement: `reordered_run`.  A candidate that comes before the description waits in the session
and is given to the transport when the description has been applied; one that comes after it is
given to the transport at once; and when the description is refused both are dropped.  So a step
that takes the description finds more candidates waiting or has them follow (`Catches`), and what
comes of it is the same.
-/

namespace CallSignaling

/-- The session with more candidates waiting. -/
def Session.await (s : Session) (cs : List String) : Session :=
  { s with pending := s.pending ++ cs }

namespace Agent

/-- It makes no difference to a move how many of a peer's candidates come before it and how many
after it. -/
structure Reorders (a : Agent) (r : String) (m : Move) (pre post : List String) : Prop where
  outcome : ((a.run (pre.map (.candidate r))).perform m).1 = (a.perform m).1
  agent : a.run (pre.map (.candidate r) ++ m :: post.map (.candidate r)) =
    a.run (m :: (pre ++ post).map (.candidate r))

variable {a b c : Agent} {r sdp : String} {h id : Nat} {s : Session} {t u : Scripted}
  {cs : List String} {x : CallState} {finish : Agent → Agent}

/-! ### Candidates in a row -/

/-- A candidate waits for the description. -/
theorem candidate_waiting (ho : a.phase ≠ .closed) (hl : a.registry.lookup? r = some ⟨h, s⟩)
    (hs : s.state.buffersCandidates = true) (c : String) :
    a.candidate r c = (.ok (), a.update r (Session.push · c)) := by
  unfold candidate
  rw [if_neg ho, session?_of_lookup hl, if_pos Option.isSome_some]
  unfold takeCandidate
  simp only [session?_of_lookup hl, if_pos hs]

theorem run_waiting (ho : a.phase ≠ .closed) (hl : a.registry.lookup? r = some ⟨h, s⟩)
    (hs : s.state.buffersCandidates = true) (cs : List String) :
    a.run (cs.map (.candidate r)) = a.update r (Session.await · cs) := by
  induction cs generalizing a s with
  | nil =>
    have hnone : s.await [] = s := by simp [Session.await]
    exact (update_eq_self hl hnone).symm
  | cons c cs ih =>
    have hnew := lookup?_update hl (Session.push · c) r
    rw [if_pos rfl] at hnew
    have hfirst : a.after (.candidate r c) = a.update r (Session.push · c) :=
      congrArg Prod.snd (candidate_waiting ho hl hs c)
    have hboth : s.await (c :: cs) = (s.push c).await cs := by
      simp [Session.await, Session.push]
    calc a.run ((c :: cs).map (.candidate r))
        = (a.after (.candidate r c)).run (cs.map (.candidate r)) := rfl
      _ = (a.update r (Session.push · c)).run (cs.map (.candidate r)) := by rw [hfirst]
      _ = (a.update r (Session.push · c)).update r (Session.await · cs) := ih ho hnew hs
      _ = a.update r (Session.await · (c :: cs)) := update_update hl hboth

/-- A connected session passes a candidate on. -/
theorem candidate_live (ho : b.phase ≠ .closed) (hid : id ≤ b.pool.transports.length)
    (hs : s.state = .connected) (hnum : s.transport = some id) (c : String) :
    (b.withLine r h id s t).candidate r c =
      (.ok (), b.withLine r h id s (t.afterCall (.addCandidate c))) := by
  have ho' : (b.withLine r h id s t).phase ≠ .closed := ho
  unfold candidate
  rw [if_neg ho', session?_withLine, if_pos Option.isSome_some]
  unfold takeCandidate
  simp only [session?_withLine, hs, hnum, CallState.buffersCandidates, Bool.false_eq_true, if_false,
    if_true, giveCandidate_withLine hid]

theorem run_live (ho : b.phase ≠ .closed) (hid : id ≤ b.pool.transports.length)
    (hs : s.state = .connected) (hnum : s.transport = some id) (cs : List String) :
    (b.withLine r h id s t).run (cs.map (.candidate r)) =
      b.withLine r h id s (t.replay (cs.map .addCandidate)) := by
  induction cs generalizing t with
  | nil => rfl
  | cons c cs ih =>
    have hfirst : (b.withLine r h id s t).after (.candidate r c) =
        b.withLine r h id s (t.afterCall (.addCandidate c)) :=
      congrArg Prod.snd (candidate_live ho hid hs hnum c)
    show ((b.withLine r h id s t).after (.candidate r c)).run (cs.map (.candidate r)) = _
    rw [hfirst, ih, List.map_cons, Scripted.replay_cons]

/-- A candidate of a peer whose session was torn down is dropped. -/
theorem candidate_late (ho : a.phase ≠ .closed) (hl : a.registry.lookup? r = none)
    (hret : a.isRetired r = true) (c : String) : a.candidate r c = (.ok (), a) := by
  have hnone : a.session? r = none := by
    rw [session?_eq_line?, line?_eq_none_iff.mpr hl]
    rfl
  unfold candidate
  rw [if_neg ho, hnone, if_neg (by simp), if_pos hret]

theorem run_late (ho : a.phase ≠ .closed) (hl : a.registry.lookup? r = none)
    (hret : a.isRetired r = true) (cs : List String) : a.run (cs.map (.candidate r)) = a := by
  induction cs with
  | nil => rfl
  | cons c cs ih =>
    have hfirst : a.after (.candidate r c) = a :=
      congrArg Prod.snd (candidate_late ho hl hret c)
    show (a.after (.candidate r c)).run (cs.map (.candidate r)) = a
    rw [hfirst, ih]

/-- After a failure the candidates of the peer come too late. -/
theorem run_fail (ho : a.phase ≠ .closed) (f : Failure) (cs : List String) :
    (a.fail r f).run (cs.map (.candidate r)) = a.fail r f :=
  run_late (fail_isOpen ho) (by simp) (by simp) cs

/-! ### A step that finds candidates waiting -/

/-- Two ends of a step that takes a description, the second one with these candidates in addition
among those that have waited. -/
inductive Catches (r : String) (cs : List String) : Advance → Advance → Prop
  | failed {f : Failure} {b c : Agent} : b.phase ≠ .closed → c.fail r f = b.fail r f →
    Catches r cs (.error (f, b)) (.error (f, c))
  | done {b : Agent} {h id : Nat} {s : Session} {t : Scripted} : b.phase ≠ .closed →
    id ≤ b.pool.transports.length → s.state = .connected → s.transport = some id →
    Catches r cs (.ok (b.withLine r h id s t))
      (.ok (b.withLine r h id s (t.replay (cs.map .addCandidate))))

/-- What follows an operation on a peer does not look at its line. -/
structure Sequel (r : String) (finish : Agent → Agent) : Prop where
  withLine : ∀ b h id s t, finish (b.withLine r h id s t) = (finish b).withLine r h id s t
  isOpen : ∀ b, b.phase ≠ .closed → (finish b).phase ≠ .closed
  pool : ∀ b, (finish b).pool = b.pool

theorem sequel_self (r : String) : Sequel r fun a => a :=
  ⟨fun _ _ _ _ _ => rfl, fun _ h => h, fun _ => rfl⟩

theorem sequel_adopt (r : String) : Sequel r (adopt r) where
  withLine := fun b h id s t => by
    cases hact : b.active with
    | some p =>
      have hact' : (b.withLine r h id s t).active = some p := hact
      rw [adopt_of_some hact, adopt_of_some hact']
    | none =>
      have hact' : (b.withLine r h id s t).active = none := hact
      rw [adopt_of_none hact, adopt_of_none hact']
      rfl
  isOpen := fun b ho => by
    unfold adopt
    split
    · exact ho
    · show (if b.phase.isTerminal then b.phase else .assigned) ≠ .closed
      split
      · exact ho
      · simp
  pool := pool_adopt r

/-- The candidates that the first end did not find waiting follow it. -/
theorem Catches.conclude {x y : Advance} (hxy : Catches r cs x y) (hf : Sequel r finish)
    (post : List String) :
    (conclude r y finish).1 = (conclude r x finish).1 ∧
      (conclude r y finish).2.run (post.map (.candidate r)) =
        (conclude r x finish).2.run ((cs ++ post).map (.candidate r)) := by
  cases hxy with
  | @failed f b c ho heq =>
    refine ⟨rfl, ?_⟩
    show (c.fail r f).run _ = (b.fail r f).run _
    rw [heq, run_fail ho, run_fail ho]
  | @done b h id s t ho hid hs hnum =>
    refine ⟨rfl, ?_⟩
    have ho' := hf.isOpen b ho
    have hid' : id ≤ (finish b).pool.transports.length := (hf.pool b).symm ▸ hid
    have hsplit : t.replay ((cs ++ post).map .addCandidate) =
        (t.replay (cs.map .addCandidate)).replay (post.map .addCandidate) := by
      rw [List.map_append, Scripted.replay_append]
    show (finish (b.withLine r h id s _)).run _ = (finish (b.withLine r h id s t)).run _
    rw [hf.withLine, hf.withLine, run_live ho' hid' hs hnum, run_live ho' hid' hs hnum, hsplit]

/-- Two ends of the same calls, after which the candidates that have waited are passed on. -/
theorem Ends.catches {ds : List Call} {m : Option Message} {w : Session} {x y : Advance}
    {pending : List String} (ho : b.phase ≠ .closed) (hc : c.phase ≠ .closed)
    (hid : id ≤ c.pool.transports.length) (hs : w.state = .connected)
    (hnum : w.transport = some id)
    (hx : Ends b r h id t ds m (c.withLine r h id w (u.replay (pending.map .addCandidate))) x)
    (hy : Ends b r h id t ds m
      (c.withLine r h id w (u.replay ((pending ++ cs).map .addCandidate))) y) :
    Catches r cs x y := by
  rcases hx.agree hy rfl rfl with ⟨-, rfl, rfl⟩ | ⟨f, ds, s₁, s₂, hs₁, hs₂, rfl, rfl⟩
  · rw [List.map_append, Scripted.replay_append]
    exact .done hc hid hs hnum
  · refine .failed ho ?_
    have hl : (b.withLine r h id s₁ (t.replay ds)).registry.lookup? r = some ⟨h, s₁⟩ := by
      rw [lookup?_withLine, if_pos rfl]
    rw [← fail_update (f := fun _ => s₂) hl (hs₂.trans hs₁.symm), update_withLine]

/-! ### Answers -/

theorem acceptAnswer_catches (ho : b.phase ≠ .closed) (hid : id ≤ b.pool.transports.length)
    (hopen : t.closed = false) (hnum : s.transport = some id) (sdp : String) (cs : List String) :
    Catches r cs ((b.withLine r h id s t).acceptAnswer r sdp)
      ((b.withLine r h id (s.await cs) t).acceptAnswer r sdp) :=
  Ends.catches (w := s.markRemote.connect) ho ho hid rfl hnum
    (acceptAnswer_ends hid hopen hnum sdp) (acceptAnswer_ends (s := s.await cs) hid hopen hnum sdp)

theorem Sound.answer_reordered (ha : a.Sound) {sender : Option String}
    (hr : sender.or a.active = some r) (hs : a.sessionState? r = some .offering) (sdp : String)
    (pre post : List String) : Reorders a r (.answer sender sdp) pre post := by
  obtain ⟨h, id, s, t, hh, hst, hat⟩ := ha.lines.at_stage .offering hs
  have hopen := ha.posture.isOpen hh.lookup
  have hbuffers : s.state.buffersCandidates = true := by
    rw [hst]
    rfl
  have hwait := run_waiting hopen hh.lookup hbuffers pre
  have hcatch := acceptAnswer_catches (b := a) (r := r) (h := h) hopen hh.le hat.isOpen hh.number
    sdp pre
  rw [← update_withLine (f := (Session.await · pre)), hh.withLine_eq] at hcatch
  have hs' : (a.update r (Session.await · pre)).sessionState? r = some .offering := by
    have hnew := lookup?_update hh.lookup (Session.await · pre) r
    rw [if_pos rfl] at hnew
    rw [sessionState?_of_lookup hnew]
    exact congrArg some hst
  have hearly : a.perform (.answer sender sdp) = conclude r (a.acceptAnswer r sdp) fun a => a :=
    answer_eq hr hs sdp
  have hlate : (a.update r (Session.await · pre)).perform (.answer sender sdp) =
      conclude r ((a.update r (Session.await · pre)).acceptAnswer r sdp) fun a => a :=
    answer_eq (a := a.update r (Session.await · pre)) hr hs' sdp
  obtain ⟨hout, hrun⟩ := hcatch.conclude (sequel_self r) post
  refine ⟨by rw [hwait, hlate, hearly, hout], ?_⟩
  rw [run_append, hwait]
  show ((a.update r (Session.await · pre)).perform (.answer sender sdp)).2.run _ =
    (a.perform (.answer sender sdp)).2.run _
  rw [hlate, hearly, hrun]

/-! ### Offers -/

theorem withLine_update (hl : b.registry.lookup? r = some ⟨h, s⟩) (f : Session → Session)
    (id : Nat) (s' : Session) (t : Scripted) :
    (b.update r f).withLine r h id s' t = b.withLine r h id s' t := by
  rw [update_eq_put hl]
  unfold withLine
  dsimp only
  rw [Registry.put_put]

/-- Making sure of a transport does not look at the candidates that wait. -/
theorem ensureBound_await (hl : b.registry.lookup? r = some ⟨h, s⟩) (cs : List String) :
    (b.update r (Session.await · cs)).ensureBound r =
      match b.ensureBound r with
      | .ok (id, c) => .ok (id, c.update r (Session.await · cs))
      | .error (e, c) => .error (e, c.update r (Session.await · cs)) := by
  have hnew := lookup?_update hl (Session.await · cs) r
  rw [if_pos rfl] at hnew
  cases hs : s.transport with
  | some id =>
    have hs' : (s.await cs).transport = some id := hs
    unfold ensureBound
    simp only [session?_of_lookup hl, session?_of_lookup hnew, Option.bind_some, hs, hs']
  | none =>
    rw [ensureBound_of_lookup hl hs, ensureBound_of_lookup hnew hs]
    show (if b.pool.behaviour.rejectCreate then _ else _) = _
    cases b.pool.behaviour.rejectCreate with
    | true => rfl
    | false =>
      simp only [Bool.false_eq_true, if_false, update_withLine, withLine_update hl]
      rfl

theorem Prepared.answerOffer_catches (hp : Prepared a b r h s) (ha : a.Lines) (hbr : b.Aside r)
    (hs : s.state = .idle ∨ s.state = .assigned) (sdp : String) (cs : List String) :
    Catches r cs (b.answerOffer r sdp) ((b.update r (Session.await · cs)).answerOffer r sdp) := by
  have hawait := ensureBound_await hp.lookup cs
  have ho := hbr.isOpen
  cases hp.start ha hbr hs with
  | refused reason _ hen =>
    rw [hen] at hawait
    unfold answerOffer
    rw [hawait, hen]
    exact .failed ho (fail_update hp.lookup rfl _)
  | @ready id s' t _ hready =>
    have hid := hready.scene.le
    have hopen := hready.blank.isOpen
    have hnum := hready.number
    have hnum' : (s'.await cs).transport = some id := hnum
    have hen' : (b.update r (Session.await · cs)).ensureBound r =
        (b.withLine r h id (s'.await cs) t).ensureBound r := by
      rw [hawait, hready.bound, ensureBound_withLine hnum, ensureBound_withLine hnum']
      dsimp only
      rw [update_withLine]
    rw [answerOffer_congr hready.bound, answerOffer_congr hen']
    exact Ends.catches
      (w := ((s'.start .answering b.now).markRemote.given b.tracks).markLocal.connect)
      ho (c := b.said (.answer (some b.localId) (some r) (t.descriptionText "answer"))) ho hid rfl
      hnum (answerOffer_ends hid hopen hnum sdp)
      (answerOffer_ends (s := s'.await cs) hid hopen hnum' sdp)

/-- A peer that is not retired gets its session with its first candidate. -/
theorem candidate_assign (ha : a.Lines) (ho : a.phase ≠ .closed) (hret : a.isRetired r = false)
    (c : String) : a.candidate r c = ((a.unretire r).assign r).candidate r c := by
  rw [unretire_eq_self hret]
  cases hl : a.registry.lookup? r with
  | some e =>
    have hlive := (ha.sound r _ (line?_of_lookup hl)).isTerminal
    rw [assign_of_live hl hlive]
  | none =>
    have hnone : a.session? r = none := by
      rw [session?_eq_line?, line?_eq_none_iff.mpr hl]
      rfl
    have hnew : ((a.assign r).session? r).isSome := by
      rw [assign_of_none hl, session?_of_lookup (e := ⟨a.registry.issued, .fresh r⟩)]
      · rfl
      · rw [lookup?_enrol, if_pos rfl]
    unfold candidate
    rw [if_neg ho, hnone, if_neg (by simp), if_neg (by simp [hret]), if_neg, if_pos hnew]
    exact ho

/-- Candidates that come before the offer wait in a session that is made for them. -/
theorem Prepared.run_waiting (hp : Prepared a b r h s) (hb : (a.unretire r).assign r = b)
    (ha : a.Lines) (ho : a.phase ≠ .closed) (hret : a.isRetired r = false)
    (hs : s.state.buffersCandidates = true) {cs : List String} (hcs : cs ≠ []) :
    a.run (cs.map (.candidate r)) = b.update r (Session.await · cs) := by
  cases cs with
  | nil => exact absurd rfl hcs
  | cons c cs =>
    have ho' : b.phase ≠ .closed := by
      rw [hp.frame]
      exact ho
    have hfirst : a.after (.candidate r c) = b.after (.candidate r c) := by
      rw [← hb]
      exact congrArg Prod.snd (candidate_assign ha ho hret c)
    calc a.run ((c :: cs).map (.candidate r))
        = (a.after (.candidate r c)).run (cs.map (.candidate r)) := rfl
      _ = b.run ((c :: cs).map (.candidate r)) := by rw [hfirst]; rfl
      _ = b.update r (Session.await · (c :: cs)) := Agent.run_waiting ho' hp.lookup hs (c :: cs)

/-- An offer that comes after some of the peer's candidates finds them waiting. -/
theorem Prepared.offer_run (hp : Prepared a b r h s) (hb : (a.unretire r).assign r = b)
    (ha : a.Lines) (ho : a.phase ≠ .closed) (hret : a.isRetired r = false)
    (hs : s.state = .idle ∨ s.state = .assigned) (sdp : String) (pre : List String) :
    (a.run (pre.map (.candidate r))).perform (.offer r a.localId sdp) =
      conclude r ((b.update r (Session.await · pre)).answerOffer r sdp) (adopt r) := by
  -- the first candidate would make the session; without one the offer makes it
  by_cases hpre : pre = []
  · have hnone : s.await pre = s := by simp [Session.await, hpre]
    rw [update_eq_self hp.lookup hnone, hpre]
    exact offer_eq ho hb hp.sessionState? hs sdp
  · have hbuffers : s.state.buffersCandidates = true := by
      rcases hs with h | h <;> rw [h] <;> rfl
    have hlive : (s.await pre).state.isTerminal = false := by
      show s.state.isTerminal = false
      rcases hs with h | h <;> rw [h] <;> rfl
    have hnew := lookup?_update hp.lookup (Session.await · pre) r
    rw [if_pos rfl] at hnew
    have hsame : ((b.update r (Session.await · pre)).unretire r).assign r =
        b.update r (Session.await · pre) := by
      rw [unretire_eq_self (a := b.update r (Session.await · pre)) hp.retired,
        assign_of_live hnew hlive]
    have hframe := hp.frame
    have hid : b.localId = a.localId := by rw [hframe]
    have ho' : b.phase ≠ .closed := by
      rw [hframe]
      exact ho
    rw [hp.run_waiting hb ha ho hret hbuffers hpre, ← hid]
    exact offer_eq (a := b.update r (Session.await · pre)) ho' hsame
      (sessionState?_of_lookup hnew) hs sdp

theorem Sound.offer_reordered (ha : a.Sound) (ho : a.phase ≠ .closed)
    (hret : a.isRetired r = false)
    (hs : ∀ x, a.sessionState? r = some x → x = .idle ∨ x = .assigned) (sdp : String)
    (pre post : List String) : Reorders a r (.offer r a.localId sdp) pre post := by
  obtain ⟨h, s, hp⟩ := prepared ha.lines r
  generalize hb : (a.unretire r).assign r = b at hp
  have hstate : s.state = .idle ∨ s.state = .assigned := by
    cases hx : a.sessionState? r with
    | none =>
      have hnone : a.line? r = none := line?_eq_none_iff.mpr (sessionState?_eq_none_iff.mp hx)
      obtain ⟨-, -, rfl⟩ := hp.new hnone
      exact .inl rfl
    | some x =>
      rw [hp.state_eq hx]
      exact hs x hx
  have hbr : b.Aside r := by
    rw [hp.frame]
    exact (ha.posture.aside ho r).congr rfl rfl hp.base.lookup
  have hearly : a.perform (.offer r a.localId sdp) =
      conclude r (b.answerOffer r sdp) (adopt r) := offer_eq ho hb hp.sessionState? hstate sdp
  have hlate := hp.offer_run hb ha.lines ho hret hstate sdp pre
  obtain ⟨hout, hrun⟩ :=
    (hp.answerOffer_catches ha.lines hbr hstate sdp pre).conclude (sequel_adopt r) post
  refine ⟨by rw [hlate, hearly, hout], ?_⟩
  rw [run_append]
  show ((a.run (pre.map (.candidate r))).perform (.offer r a.localId sdp)).2.run _ =
    (a.perform (.offer r a.localId sdp)).2.run _
  rw [hlate, hearly, hrun]

/-- After any moves it makes no difference how many of a peer's candidates come before its answer or
its offer and how many after it, whatever the transport refuses. -/
theorem reordered_run (localId : String) (timeout : Option Nat) (tracks : List Track)
    (behaviour : Behaviour) (now : Nat) (history : List Move) :
    let a := (fresh localId timeout tracks (.fresh behaviour) now).run history
    ∀ (r sdp : String) (pre post : List String),
      (∀ sender : Option String, sender.or a.active = some r →
        a.sessionState? r = some .offering → Reorders a r (.answer sender sdp) pre post) ∧
      (a.phase ≠ .closed → a.isRetired r = false →
        (∀ x, a.sessionState? r = some x → x = .idle ∨ x = .assigned) →
        Reorders a r (.offer r a.localId sdp) pre post) := by
  intro a r sdp pre post
  have ha : a.Sound := sound_run localId timeout tracks behaviour now history
  exact ⟨fun sender hr hs => ha.answer_reordered hr hs sdp pre post,
    fun ho hret hs => ha.offer_reordered ho hret hs sdp pre post⟩

/-- A peer that is called answers between its candidates, one of which is refused; another peer
calls between its own. -/
theorem reordered_run_between :
    let a := (fresh "a" none [] (.fresh { rejectCandidates := ["y"] }) 0).run
      [.requestConnect, .assigned "b", .startCall]
    a.run [.candidate "b" "x", .answer none "s", .candidate "b" "y"] =
        a.run [.answer none "s", .candidate "b" "x", .candidate "b" "y"] ∧
      a.run [.candidate "c" "y", .offer "c" "a" "s", .candidate "c" "x"] =
        a.run [.offer "c" "a" "s", .candidate "c" "y", .candidate "c" "x"] := by
  intro a
  have hall := reordered_run "a" none [] { rejectCandidates := ["y"] } 0
    [.requestConnect, .assigned "b", .startCall]
  have hnone : ∀ x, a.sessionState? "c" = some x → x = .idle ∨ x = .assigned := nofun
  exact ⟨((hall "b" "s" ["x"] ["y"]).1 none rfl rfl).agent,
    ((hall "c" "s" ["y"] ["x"]).2 nofun rfl hnone).agent⟩

end Agent

end CallSignaling
