import CallSignaling.Agent.Rehearsal
import CallSignaling.Proofs.Agent.Outbound
import CallSignaling.Proofs.Agent.Routing
import Mathlib.Data.List.Induction

/-!
# Provenance — whose transport has found a candidate that is relayed

Main statement: `provenance_run`.  What a transport has found waits under the name of the peer, and
is relayed if that peer has a session when its turn comes.  The transport is the one of that session
exactly if it was when the event was raised and the peer has had a session ever since; one that was
released meanwhile still speaks for the session that came after (`provenance_run_reassigned`).
-/

namespace CallSignaling

namespace Agent

/-- The transport of this number is open and the one of the session with a peer. -/
structure Current (a : Agent) (r : String) (i : Nat) : Prop where
  owns : a.Owns r i
  isOpen : ∃ t, a.transport? i = some t ∧ t.remote = r ∧ t.closed = false

/-- Applying the event that a transport of a peer has found a candidate sends the candidate. -/
def Relays (a : Agent) (r c : String) : Prop :=
  (a.applyEvent ⟨r, .candidate c⟩).2.outbox.sent = a.outbox.sent ++ [.iceCandidate a.localId r c]

variable {a b : Agent} {r : String} {m : Move} {i : Nat} {t : Scripted}

theorem Sound.relays_iff (ha : a.Sound) (r c : String) :
    Relays a r c ↔ (a.session? r).isSome ∧ a.outbox.isOpen = true := by
  constructor
  · intro h
    change (a.after (.localCandidate r c)).outbox.sent = _ at h
    rcases (perform_utterance ha (.localCandidate r c)).sent with hsilent | ⟨ho, x, -, hx⟩
    · simp [hsilent] at h
    · cases hx with
      | candidate hs => exact ⟨hs, ho⟩
  · rintro ⟨hs, ho⟩
    exact ha.sent_localCandidate hs ho

/-! ### The transport of a session -/

/-- A session that stays keeps its transport. -/
theorem Effect.owns (he : Effect m a b) (ha : a.Lines) (ho : a.Owns r i)
    (hs : (b.session? r).isSome) : b.Owns r i := by
  obtain ⟨K, hK, hi⟩ := owns_iff.mp ho
  obtain ⟨t, st, k, hh, -⟩ := ha.holds (lookup_of_line? hK).1 hi
  rw [session?_eq_line?, Option.isSome_map] at hs
  obtain ⟨L, hL⟩ := Option.isSome_iff_exists.mp hs
  refine owns_iff.mpr ⟨L, hL, ?_⟩
  rcases he.line r L hL with hsame | hc
  · rw [← hi, ← Option.some.inj (hK.symm.trans hsame)]
  · rw [hh.line?] at hc
    exact hc.transport_eq.trans hi

theorem Sound.owns_run (ha : a.Sound) (ho : a.Owns r i) (moves : List Move)
    (hs : ∀ p, p <+: moves → ((a.run p).session? r).isSome) : (a.run moves).Owns r i := by
  induction moves generalizing a with
  | nil => exact ho
  | cons m moves ih =>
    have hfirst := (perform_turn ha m).effect.owns ha.lines ho (hs [m] ⟨moves, rfl⟩)
    refine ih (ha.after m) hfirst fun p hp => ?_
    exact hs (m :: p) (List.cons_prefix_cons.mpr ⟨rfl, hp⟩)

/-- A transport does not come back to a session. -/
theorem Sound.owns_of_run (ha : a.Sound) (ht : a.transport? i = some t) (hr : t.remote = r)
    (moves : List Move) (ho : (a.run moves).Owns r i) : a.Owns r i := by
  rcases ha.lines.owner i t ht with ⟨k, hk⟩ | ⟨L, hL, hi⟩
  · obtain ⟨u, hu, -, hopen⟩ := (ha.run moves).lines.owns ho
    have hclosed := ha.run_closed moves ht hk.closedOnce.1
    obtain rfl : u = t := Option.some.inj (hu.symm.trans hclosed)
    rw [hk.closedOnce.1] at hopen
    cases hopen
  · rw [hr] at hL
    exact owns_iff.mpr ⟨L, hL, hi⟩

/-- A transport is that of the session as long as the session stays. -/
theorem Sound.current_iff (ha : a.Sound) (ht : a.transport? i = some t) (hr : t.remote = r)
    (moves : List Move) : (a.run moves).Current r i ↔
      a.Owns r i ∧ ∀ p, p <+: moves → ((a.run p).session? r).isSome := by
  constructor
  · rintro ⟨howns, u, hu, -, hopen⟩
    have hold := ha.owns_of_run ht hr moves howns
    refine ⟨hold, ?_⟩
    rintro p ⟨q, rfl⟩
    obtain ⟨L, hL, hi⟩ := owns_iff.mp hold
    rcases ha.run_keeps p (lookup_of_line? hL).1 hi with ⟨e, he, -⟩ | ⟨v, hv, -, hclosed⟩
    · rw [session?_of_lookup he]
      rfl
    · have hlater := (ha.run p).run_closed q hv hclosed.1
      rw [← run_append, hu] at hlater
      rw [Option.some.inj hlater, hclosed.1] at hopen
      cases hopen
  · rintro ⟨howns, hs⟩
    have hlater := ha.owns_run howns moves hs
    exact ⟨hlater, (ha.run moves).lines.owns hlater⟩

/-! ### What messages and events move -/

/-- The moves that a message makes. -/
def movesOf (a : Agent) (m : Message) : List Move :=
  if m.recipient?.all (· == a.localId) then (moveOf? m).toList else []

theorem route_run (a : Agent) (m : Message) : (a.route m).2 = a.run (a.movesOf m) := by
  unfold movesOf
  cases hall : m.recipient?.all (· == a.localId) with
  | true =>
    have hr : ∀ r, m.recipient? = some r → r = a.localId := by
      intro r hr
      rw [hr] at hall
      exact eq_of_beq hall
    rw [route_addressed hr, if_pos rfl]
    cases moveOf? m <;> rfl
  | false =>
    obtain ⟨r, hr, hne⟩ : ∃ r, m.recipient? = some r ∧ r ≠ a.localId := by
      cases hr : m.recipient? with
      | none => simp [hr] at hall
      | some r => exact ⟨r, rfl, by simpa [hr] using hall⟩
    rw [route_misaddressed hr hne, if_neg (by simp)]
    rfl

/-- The moves that a frame makes. -/
def movesOfFrame (a : Agent) (frame : Bytes) : List Move :=
  match Message.decode frame with
  | .ok (some m) => a.movesOf m
  | _ => []

theorem dispatch_run (a : Agent) (frame : Bytes) :
    a.dispatch frame = a.run (a.movesOfFrame frame) := by
  unfold dispatch movesOfFrame
  cases Message.decode frame with
  | error => rfl
  | ok m =>
    cases m with
    | none => rfl
    | some m => exact a.route_run m

end Agent

/-- The move that an event makes. -/
def PeerEvent.move (e : PeerEvent) : Agent.Move :=
  match e.event with
  | .candidate c => .localCandidate e.remote c
  | .track s => .remoteStream e.remote s
  | .link s => .linkState e.remote s

namespace Rehearsal

open Agent (Move)

/-- No event waits yet. -/
def start (a : Agent) : Rehearsal := ⟨a, .fresh⟩

def after (R : Rehearsal) (s : Step) : Rehearsal := (R.perform s).2

def run (R : Rehearsal) (steps : List Step) : Rehearsal := steps.foldl after R

/-- The moves that a step makes. -/
def Step.moves (R : Rehearsal) : Step → List Move
  | .move m => [m]
  | .expire ahead => [.expire (R.agent.now + ahead)]
  | .frame f => R.agent.movesOfFrame f
  | .route m => R.agent.movesOf m
  | .pump => R.events.items.map PeerEvent.move
  | .dropOutbound => [.mute]
  | .takeTracks => [.takeTracks]
  | _ => []

/-- The moves that several steps make. -/
def moves (R : Rehearsal) : List Step → List Move
  | [] => []
  | s :: steps => s.moves R ++ (R.after s).moves steps

/-- The step puts the event into the queue. -/
inductive Step.Queues (e : PeerEvent) : Step → Prop
  | emit : Queues e (.emit e.remote e.event)
  | peerEvent : Queues e (.peerEvent e)

/-- The step puts the event behind those that wait, where it stays through the steps that follow. -/
structure Queued (R : Rehearsal) (s : Step) (rest : List Step) (es : List PeerEvent)
    (e : PeerEvent) : Prop where
  queues : s.Queues e
  before : R.events.items = es
  after : (R.after s).events.items = es ++ [e]
  stays : ∀ p, p <+: rest → es ++ [e] <+: ((R.after s).run p).events.items

variable {R : Rehearsal} {e : PeerEvent} {es fs : List PeerEvent}

theorem applyAll_run (a : Agent) (es : List PeerEvent) :
    (applyAll a es).2 = a.run (es.map PeerEvent.move) := by
  induction es generalizing a with
  | nil => rfl
  | cons e es ih =>
    have hone : (a.applyEvent e).2 = a.after e.move := by
      obtain ⟨r, x⟩ := e
      cases x <;> rfl
    show (applyAll (a.applyEvent e).2 es).2 = (a.after e.move).run (es.map PeerEvent.move)
    rw [ih, hone]

theorem agent_after (R : Rehearsal) (s : Step) :
    (R.after s).agent = R.agent.run (s.moves R) := by
  cases s with
  | frame f => exact R.agent.dispatch_run f
  | route m => exact R.agent.route_run m
  | emit r x =>
    show (R.perform (.emit r x)).2.agent = R.agent
    simp only [perform]
    split <;> rfl
  | pump => exact applyAll_run R.agent R.events.items
  | _ => rfl

theorem agent_run (R : Rehearsal) (steps : List Step) :
    (R.run steps).agent = R.agent.run (R.moves steps) := by
  induction steps generalizing R with
  | nil => rfl
  | cons s steps ih =>
    show ((R.after s).run steps).agent = R.agent.run (s.moves R ++ (R.after s).moves steps)
    rw [ih, agent_after, Agent.run_append]

/-! ### The queue -/

/-- A step puts an event behind those that wait, or leaves the queue as it is, or empty. -/
theorem items_after (R : Rehearsal) (s : Step) :
    (∃ d, s.Queues d ∧ (R.after s).events.items = R.events.items ++ [d]) ∨
      (R.after s).events.items = R.events.items ∨ (R.after s).events.items = [] := by
  have hraise : ∀ d, (R.raise d).2.events.items = R.events.items ++ [d] ∨
      (R.raise d).2.events.items = R.events.items := fun d => by
    unfold raise Queue.push
    cases R.events.isOpen
    · exact .inr rfl
    · exact .inl rfl
  cases s with
  | emit r x =>
    show (∃ d, _ ∧ (R.perform (.emit r x)).2.events.items = _) ∨
      (R.perform (.emit r x)).2.events.items = _ ∨ (R.perform (.emit r x)).2.events.items = []
    simp only [perform]
    split
    · exact .inr (.inl rfl)
    next t ht =>
      obtain rfl : t.remote = r := by simpa using List.find?_some ht
      rcases hraise ⟨t.remote, x⟩ with h | h
      · exact .inl ⟨_, .emit, h⟩
      · exact .inr (.inl h)
  | peerEvent d =>
    rcases hraise d with h | h
    · exact .inl ⟨d, .peerEvent, h⟩
    · exact .inr (.inl h)
  | pump => exact .inr (.inr rfl)
  | dropEvents => exact .inr (.inr rfl)
  | _ => exact .inr (.inl rfl)

theorem Queued.concat {s : Step} {rest : List Step} (h : R.Queued s rest es e) {x : Step}
    (hx : es ++ [e] <+: ((R.run (s :: rest)).after x).events.items) :
    R.Queued s (rest ++ [x]) es e where
  queues := h.queues
  before := h.before
  after := h.after
  stays := fun p hp => by
    rcases List.prefix_concat_iff.mp hp with rfl | hp
    · have hend : (R.after s).run (rest ++ [x]) = (R.run (s :: rest)).after x := by
        simp [run, List.foldl_append]
      rwa [hend]
    · exact h.stays p hp

/-- What waits was put behind the events before it by one step, and has waited ever since. -/
theorem exists_queued (steps : List Step) (hstart : R.events.items = [])
    (hitems : (R.run steps).events.items = es ++ e :: fs) :
    ∃ before s rest, steps = before ++ s :: rest ∧ (R.run before).Queued s rest es e := by
  -- induction on the end of the run: an event that was there before the last step came earlier
  induction steps using List.reverseRecOn generalizing fs with
  | nil => simp [run, hstart] at hitems
  | append_singleton steps s ih =>
    rw [run, List.foldl_append] at hitems
    change ((R.run steps).after s).events.items = _ at hitems
    have hearlier : ∀ gs, (R.run steps).events.items = es ++ e :: gs →
        ∃ before x rest, steps ++ [s] = before ++ x :: rest ∧
          (R.run before).Queued x rest es e := by
      intro gs hgs
      obtain ⟨before, x, rest, rfl, hx⟩ := ih hgs
      refine ⟨before, x, rest ++ [s], by simp, hx.concat ?_⟩
      rw [run, List.foldl_append] at hitems
      exact ⟨fs, by simpa [run] using hitems.symm⟩
    rcases items_after (R.run steps) s with ⟨d, hd, hpush⟩ | hsame | hempty
    · rw [hitems] at hpush
      rcases List.eq_nil_or_concat fs with rfl | ⟨gs, g, rfl⟩
      · -- the step that queues the event itself
        obtain ⟨hes, hed⟩ := List.append_inj' hpush rfl
        obtain rfl : e = d := (List.cons.inj hed).1
        refine ⟨steps, s, [], rfl, hd, hes.symm, hitems, fun p hp => ?_⟩
        rw [List.prefix_nil.mp hp]
        exact hitems ▸ List.prefix_refl _
      · have hcut : (es ++ e :: gs) ++ [g] = (R.run steps).events.items ++ [d] := by
          rw [← hpush]
          simp
        exact hearlier gs (List.append_inj' hcut rfl).1.symm
    · exact hearlier fs (hsame.symm.trans hitems)
    · simp [hempty] at hitems

/-! ### The whole run -/

/-- In any run of an agent and its queue, a candidate whose turn comes is relayed exactly if its
peer has a session and the way out is open.  One step put it behind the events that are still before
it, where it has waited ever since; of the transports that the peer had by then, the one of its
session now is the one of its session then, if the peer has had a session ever since, and else
none. -/
theorem provenance_run (localId : String) (timeout : Option Nat) (tracks : List Track)
    (behaviour : Behaviour) (now : Nat) (steps : List Step) (es fs : List PeerEvent)
    (r c : String) :
    let first := start (.fresh localId timeout tracks (.fresh behaviour) now)
    let b := (applyAll (first.run steps).agent es).2
    (first.run steps).events.items = es ++ ⟨r, .candidate c⟩ :: fs →
    (b.Relays r c ↔ (b.session? r).isSome ∧ b.outbox.isOpen = true) ∧
    ∃ before s rest, steps = before ++ s :: rest ∧
      let Q := first.run before
      let moves := Q.moves (s :: rest) ++ es.map PeerEvent.move
      Q.Queued s rest es ⟨r, .candidate c⟩ ∧ b = Q.agent.run moves ∧
      ∀ i t, Q.agent.transport? i = some t → t.remote = r →
        (b.Current r i ↔
          Q.agent.Owns r i ∧ ∀ p, p <+: moves → ((Q.agent.run p).session? r).isSome) := by
  intro first b hitems
  have hsound : ∀ before, (first.run before).agent.Sound := by
    intro before
    rw [agent_run]
    exact Agent.sound_run localId timeout tracks behaviour now _
  have hb : b.Sound := by
    show (applyAll (first.run steps).agent es).2.Sound
    rw [applyAll_run]
    exact (hsound steps).run _
  refine ⟨hb.relays_iff r c, ?_⟩
  obtain ⟨before, s, rest, rfl, hqueued⟩ := exists_queued steps rfl hitems
  have hagent : b = (first.run before).agent.run
      ((first.run before).moves (s :: rest) ++ es.map PeerEvent.move) := by
    have hsplit : first.run (before ++ s :: rest) = (first.run before).run (s :: rest) :=
      List.foldl_append
    show (applyAll (first.run (before ++ s :: rest)).agent es).2 = _
    rw [applyAll_run, hsplit, agent_run, Agent.run_append]
  refine ⟨before, s, rest, rfl, hqueued, hagent, fun i t ht hr => ?_⟩
  rw [hagent]
  exact (hsound before).current_iff ht hr _

/-- A transport finds a candidate for the session that it has. -/
theorem provenance_run_found :
    let R := (start (.fresh "c1" none [] (.fresh {}) 0)).run
      [.move .requestConnect, .move (.assigned "s1"), .emit "s1" (.candidate "found")]
    R.events.items = [] ++ ⟨"s1", .candidate "found"⟩ :: [] ∧ R.agent.Relays "s1" "found" := by
  intro R
  have hitems : R.events.items = [] ++ ⟨"s1", .candidate "found"⟩ :: [] := by rfl
  obtain ⟨hrelays, -⟩ := provenance_run "c1" none [] {} 0
    [.move .requestConnect, .move (.assigned "s1"), .emit "s1" (.candidate "found")] [] []
    "s1" "found" hitems
  exact ⟨hitems, hrelays.mpr ⟨by rfl, by rfl⟩⟩

/-- The peer leaves and is assigned again while a candidate waits: the candidate is relayed,
although the transport that has found it is closed and the session has another one. -/
theorem provenance_run_reassigned :
    let first := start (.fresh "c1" none [] (.fresh {}) 0)
    let Q := first.run [.move .requestConnect, .move (.assigned "s1")]
    let R := Q.run [.emit "s1" (.candidate "old"), .move (.remoteLeft "s1"), .move (.assigned "s1")]
    Q.agent.pool.newestFor? "s1" = Q.agent.transport? 0 ∧
      R.events.items = [⟨"s1", .candidate "old"⟩] ∧
      (R.after .pump).agent.outbox.sent =
        R.agent.outbox.sent ++ [.iceCandidate "c1" "s1" "old"] ∧
      (R.agent.session? "s1").bind Session.transport = some 1 ∧
      (R.agent.transport? 0).map Scripted.closed = some true ∧ ¬ R.agent.Current "s1" 0 := by
  intro first Q R
  have hclosed : (R.agent.transport? 0).map Scripted.closed = some true := by decide +kernel
  refine ⟨by decide +kernel, by decide +kernel, by decide +kernel, by decide +kernel, hclosed, ?_⟩
  rintro ⟨-, t, ht, -, ho⟩
  rw [ht, Option.map_some, ho] at hclosed
  cases hclosed

end Rehearsal

end CallSignaling
