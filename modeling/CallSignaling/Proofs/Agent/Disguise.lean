import CallSignaling.Agent.Move
import CallSignaling.Proofs.Agent.Views
import CallSignaling.Proofs.Transport.Disguise

/-!
# Disguise — an agent goes on the same over other transports

Main statements: `run_under`, `tracks_after`, `timeout_after`, `now_after`.  An agent none of whose
sessions has a transport out of use answers every move and ends up under a disguise as it does
without.  What no step of an operation touches is noted on the way (`Ongoing`): the tracks are the
ones that were given last, or none once they have been taken away, the clock moves on only by
itself, and nothing changes the timeout.  Nothing else is assumed of the agent, which need not be
sound: the operations are followed step by step here, and this once.
-/

namespace CallSignaling.Agent

def under (a : Agent) (D : Disguise) : Agent := { a with pool := a.pool.under D }

/-- No session has a transport out of use, and no transport to come is one. -/
structure Avoids (a : Agent) (D : Disguise) : Prop where
  session : ∀ r e i, a.registry.lookup? r = some e → e.session.transport = some i → D.idle i = false
  new : ∀ i, a.pool.transports.length ≤ i → D.idle i = false

/-- Under this disguise no candidate is refused. -/
def lenient : Disguise where
  refused := fun _ => []
  idle := fun _ => false
  relic := id

theorem avoids_lenient (a : Agent) : a.Avoids lenient := ⟨fun _ _ _ _ _ => rfl, fun _ _ => rfl⟩

/-- `b` has the tracks, the timeout and the clock that `a` has. -/
def Keeps (a b : Agent) : Prop := (b.tracks, b.timeout, b.now) = (a.tracks, a.timeout, a.now)

/-- An agent to which the steps of an operation have led from `o`. -/
structure Ongoing (D : Disguise) (o a : Agent) : Prop extends Avoids a D where
  keeps : Keeps o a

variable {D : Disguise} {o a b : Agent} {r : String} {id : Nat}

/-! ### Views -/

@[simp] theorem localId_under (a : Agent) : (a.under D).localId = a.localId := rfl

@[simp] theorem timeout_under (a : Agent) : (a.under D).timeout = a.timeout := rfl

@[simp] theorem phase_under (a : Agent) : (a.under D).phase = a.phase := rfl

@[simp] theorem active_under (a : Agent) : (a.under D).active = a.active := rfl

@[simp] theorem tracks_under (a : Agent) : (a.under D).tracks = a.tracks := rfl

@[simp] theorem outbox_under (a : Agent) : (a.under D).outbox = a.outbox := rfl

@[simp] theorem registry_under (a : Agent) : (a.under D).registry = a.registry := rfl

@[simp] theorem pool_under (a : Agent) : (a.under D).pool = a.pool.under D := rfl

@[simp] theorem session?_under (a : Agent) (r : String) :
    (a.under D).session? r = a.session? r := rfl

@[simp] theorem sessionState?_under (a : Agent) (r : String) :
    (a.under D).sessionState? r = a.sessionState? r := rfl

theorem transport?_under (a : Agent) (i : Nat) :
    (a.under D).transport? i = (a.transport? i).map (D.transport i) := Pool.getElem?_under ..

/-! ### Small changes -/

theorem Ongoing.congr (ha : Ongoing D o a) (hr : b.registry = a.registry)
    (hl : a.pool.transports.length ≤ b.pool.transports.length) (hk : Keeps a b) :
    Ongoing D o b where
  session := by
    rw [hr]
    exact ha.session
  new := fun i hi => ha.new i (Nat.le_trans hl hi)
  keeps := hk.trans ha.keeps

theorem Ongoing.update (ha : Ongoing D o a) (r : String) {f : Session → Session}
    (hf : ∀ s i, (f s).transport = some i → s.transport = some i ∨ D.idle i = false) :
    Ongoing D o (a.update r f) := by
  cases hl : a.registry.lookup? r with
  | none =>
    have hsame : (a.update r f).registry = a.registry := by
      unfold Agent.update Registry.update
      rw [hl]
    exact ha.congr hsame (Nat.le_refl _) rfl
  | some e =>
    refine ⟨⟨fun q e' i hq hi => ?_, ha.new⟩, ha.keeps⟩
    rw [lookup?_update hl] at hq
    by_cases hqr : q = r
    · rw [if_pos hqr] at hq
      obtain rfl := Option.some.inj hq
      exact (hf _ i hi).elim (ha.session r e i hl) fun h => h
    · rw [if_neg hqr] at hq
      exact ha.session q e' i hq hi

/-- A change of a session that leaves it its transport. -/
theorem Ongoing.touch (ha : Ongoing D o a) (r : String) {f : Session → Session}
    (hf : ∀ s, (f s).transport = s.transport) : Ongoing D o (a.update r f) :=
  ha.update r fun s _ hi => .inl ((hf s).symm.trans hi)

/-- A new session has no transport. -/
theorem Ongoing.assign (ha : Ongoing D o a) (r : String) : Ongoing D o (a.assign r) := by
  have henrol : Ongoing D o (a.enrol r) := by
    refine ⟨⟨fun q e i hq hi => ?_, ha.new⟩, ha.keeps⟩
    rw [lookup?_enrol] at hq
    split at hq
    · obtain rfl := Option.some.inj hq
      simp [Session.fresh] at hi
    · exact ha.session q e i hq hi
  unfold Agent.assign Registry.assign
  split
  · split
    · exact ha.congr rfl (Nat.le_refl _) rfl
    · exact henrol
  · exact henrol

/-! ### Steps -/

/-- A step that ends under a disguise as it does without, with what it gives changed by `f`. -/
inductive Parallel (D : Disguise) (o : Agent) {α : Type} (f : α → α) (p : α → Prop) :
    Except (Failure × Agent) α → Except (Failure × Agent) α → Prop
  | ok {v} : p v → Parallel D o f p (.ok (f v)) (.ok v)
  | error {e b} : Ongoing D o b → Parallel D o f p (.error (e, b.under D)) (.error (e, b))

theorem Parallel.bind {α β : Type} {f : α → α} {g : β → β} {p : α → Prop} {q : β → Prop}
    {x' x : Except (Failure × Agent) α} {k' k : α → Except (Failure × Agent) β}
    (h : Parallel D o f p x' x) (hk : ∀ v, p v → Parallel D o g q (k' (f v)) (k v)) :
    Parallel D o g q (x' >>= k') (x >>= k) := by
  cases h with
  | ok hv => exact hk _ hv
  | error hb => exact .error hb

/-- The same advance. -/
abbrev Advances (D : Disguise) (o : Agent) : Advance → Advance → Prop :=
  Parallel D o (·.under D) (Ongoing D o)

/-- The same value and the same advance. -/
abbrev Yields (D : Disguise) (o : Agent) {α : Type} : Attempt α → Attempt α → Prop :=
  Parallel D o (fun x => (x.1, x.2.under D)) fun x => Ongoing D o x.2

theorem advances_ok (hb : Ongoing D o b) : Advances D o (.ok (b.under D)) (.ok b) := Parallel.ok hb

/-- The session gets on, with its transport. -/
theorem update_advances (hb : Ongoing D o b) (r : String) (f : Session → Session)
    (hf : ∀ s, (f s).transport = s.transport) :
    Advances D o (.ok ((b.under D).update r f)) (.ok (b.update r f)) :=
  advances_ok (hb.touch r hf)

theorem yields_ok {α : Type} (v : α) (hb : Ongoing D o b) :
    Yields D o (.ok (v, b.under D)) (.ok (v, b)) := Parallel.ok (v := (v, b)) hb

theorem request_yields {α : Type} {op : Scripted → Scripted.Reply α} (ha : Ongoing D o a)
    (hid : D.idle id = false) (hop : Scripted.Steady D op) (r : String) :
    Yields D o ((a.under D).request r id op) (a.request r id op) := by
  have hnext : Ongoing D o ({ a with pool := (a.pool.request id op).2 } : Agent) :=
    ha.congr rfl (Nat.le_of_eq (Pool.length_request ..).symm) rfl
  unfold request
  rw [pool_under, Pool.request_under hid hop]
  generalize a.pool.request id op = x at hnext
  rcases x with ⟨e | v, p⟩
  · exact .error hnext
  · exact yields_ok v hnext

theorem ensureBound_yields (ha : Ongoing D o a) (r : String) :
    Parallel D o (fun x => (x.1, x.2.under D)) (fun x => Ongoing D o x.2 ∧ D.idle x.1 = false)
      ((a.under D).ensureBound r) (a.ensureBound r) := by
  unfold ensureBound
  rw [session?_under]
  cases hi : (a.session? r).bind Session.transport with
  | some id =>
    obtain ⟨s, hs, hid⟩ := Option.bind_eq_some_iff.mp hi
    obtain ⟨e, he, rfl⟩ := Option.map_eq_some_iff.mp hs
    exact .ok (v := (id, a)) ⟨ha, ha.session r e id he hid⟩
  | none =>
    dsimp only
    rw [pool_under, Pool.create_under (ha.new _ (Nat.le_refl _))]
    have hnext : Ongoing D o ({ a with pool := (a.pool.create r).2 } : Agent) :=
      ha.congr rfl (Pool.length_create_le a.pool r) rfl
    have hnew : ∀ n, (a.pool.create r).1 = .ok n → D.idle n = false := fun n hn =>
      ha.new n (Nat.le_of_eq (Pool.create_ok hn).symm)
    generalize a.pool.create r = x at hnext hnew
    rcases x with ⟨e | n, p⟩
    · exact .error hnext
    · have hn : D.idle n = false := hnew n rfl
      have hbound : Ongoing D o (({ a with pool := p } : Agent).update r (Session.bind · n)) :=
        hnext.update r fun s i hi => .inr (Option.some.inj hi ▸ hn)
      exact Parallel.ok (v := (n, ({ a with pool := p } : Agent).update r (Session.bind · n)))
        ⟨hbound, hn⟩

theorem bindTracks_advances (ha : Ongoing D o a) (hid : D.idle id = false) (r : String) :
    Advances D o ((a.under D).bindTracks r id) (a.bindTracks r id) := by
  unfold bindTracks
  rw [tracks_under, session?_under]
  split
  · exact .ok ha
  · have hx := request_yields ha hid (Scripted.steady_addTracks a.tracks) r
    generalize (a.under D).request r id (Scripted.addTracks · a.tracks) = x' at hx
    generalize a.request r id (Scripted.addTracks · a.tracks) = x at hx
    cases hx with
    | ok hb => exact update_advances hb r Session.markTracks fun _ => rfl
    | error hb => exact .error hb

theorem describe_yields {make : Scripted → Scripted.Reply String} (ha : Ongoing D o a)
    (hid : D.idle id = false) (hmake : Scripted.Steady D make) (r : String) :
    Yields D o ((a.under D).describe r id make) (a.describe r id make) := by
  unfold describe
  refine (request_yields ha hid hmake r).bind fun x hx => ?_
  refine (request_yields hx hid (Scripted.steady_setLocal x.1) r).bind fun y hy => ?_
  exact yields_ok x.1 (hy.touch r (f := Session.markLocal) fun _ => rfl)

theorem applyRemote_advances (ha : Ongoing D o a) (hid : D.idle id = false) (r sdp : String) :
    Advances D o ((a.under D).applyRemote r id sdp) (a.applyRemote r id sdp) := by
  unfold applyRemote
  refine (request_yields ha hid (Scripted.steady_setRemote sdp) r).bind fun x hx => ?_
  exact update_advances hx r Session.markRemote fun _ => rfl

theorem send?_under (a : Agent) (m : Message) :
    (a.under D).send? m = (a.send? m).map (·.under D) := by
  unfold send?
  rw [outbox_under]
  split <;> rfl

theorem Ongoing.send (ha : Ongoing D o a) {m : Message} (hs : a.send? m = some b) :
    Ongoing D o b := by
  rw [send?_eq] at hs
  split at hs
  · obtain rfl := Option.some.inj hs
    exact ha.congr rfl (Nat.le_refl _) rfl
  · simp at hs

theorem sendOrFail_advances (ha : Ongoing D o a) (m : Message) :
    Advances D o ((a.under D).sendOrFail m) (a.sendOrFail m) := by
  unfold sendOrFail
  rw [send?_under]
  cases hs : a.send? m with
  | none => exact .error ha
  | some b => exact .ok (ha.send hs)

theorem giveCandidate_under (hid : D.idle id = false) (a : Agent) (c : String) :
    (a.under D).giveCandidate id c = (a.giveCandidate id c).under D := by
  unfold giveCandidate
  rw [pool_under, Pool.request_snd_under hid (Scripted.addCandidate_under · c)]
  rfl

theorem Ongoing.giveCandidate (ha : Ongoing D o a) (id : Nat) (c : String) :
    Ongoing D o (a.giveCandidate id c) :=
  ha.congr rfl (Nat.le_of_eq (Pool.length_request ..).symm) rfl

theorem giveCandidates_under (ha : Ongoing D o a) (hid : D.idle id = false) (cs : List String) :
    cs.foldl (fun a c => a.giveCandidate id c) (a.under D) =
        (cs.foldl (fun a c => a.giveCandidate id c) a).under D ∧
      Ongoing D o (cs.foldl (fun a c => a.giveCandidate id c) a) := by
  induction cs generalizing a with
  | nil => exact ⟨rfl, ha⟩
  | cons c cs ih =>
    rw [List.foldl_cons, List.foldl_cons, giveCandidate_under hid]
    exact ih (ha.giveCandidate id c)

theorem enterConnected_advances (ha : Ongoing D o a) (hid : D.idle id = false) (r : String) :
    Advances D o (.ok ((a.under D).enterConnected r id)) (.ok (a.enterConnected r id)) := by
  obtain ⟨hgiven, hav⟩ :=
    giveCandidates_under ha hid (((a.session? r).map Session.pending).getD [])
  unfold enterConnected
  dsimp only
  rw [session?_under, hgiven]
  exact update_advances hav r Session.connect fun _ => rfl

theorem bindAssigned_advances (ha : Ongoing D o a) (r : String) :
    Advances D o ((a.under D).bindAssigned r) (a.bindAssigned r) := by
  unfold bindAssigned
  refine (ensureBound_yields ha r).bind fun x hx => ?_
  dsimp only
  rw [sessionState?_under]
  split
  · exact bindTracks_advances (a := x.2.update r (Session.enter · .assigned))
      (hx.1.touch r fun _ => rfl) hx.2 r
  · exact .ok hx.1

theorem sendOffer_advances (ha : Ongoing D o a) (r : String) :
    Advances D o ((a.under D).sendOffer r) (a.sendOffer r) := by
  unfold sendOffer
  refine (ensureBound_yields ha r).bind fun x hx => ?_
  refine (bindTracks_advances hx.1 hx.2 r).bind fun b hb => ?_
  refine (describe_yields hb hx.2 Scripted.steady_createOffer r).bind fun y hy => ?_
  refine (sendOrFail_advances hy (.offer y.2.localId r y.1)).bind fun c hc => ?_
  exact update_advances hc r (Session.start · .offering c.now) fun _ => rfl

theorem acceptAnswer_advances (ha : Ongoing D o a) (r sdp : String) :
    Advances D o ((a.under D).acceptAnswer r sdp) (a.acceptAnswer r sdp) := by
  unfold acceptAnswer
  rw [session?_under]
  cases hi : (a.session? r).bind Session.transport with
  | none => exact .error ha
  | some id =>
    obtain ⟨s, hs, hsid⟩ := Option.bind_eq_some_iff.mp hi
    obtain ⟨e, he, rfl⟩ := Option.map_eq_some_iff.mp hs
    have hid := ha.session r e id he hsid
    refine (applyRemote_advances ha hid r sdp).bind fun b hb => ?_
    exact enterConnected_advances hb hid r

theorem answerOffer_advances (ha : Ongoing D o a) (r sdp : String) :
    Advances D o ((a.under D).answerOffer r sdp) (a.answerOffer r sdp) := by
  unfold answerOffer
  refine (ensureBound_yields ha r).bind fun x hx => ?_
  have hstart : Ongoing D o (x.2.update r (Session.start · .answering x.2.now)) :=
    hx.1.touch r fun _ => rfl
  refine (applyRemote_advances hstart hx.2 r sdp).bind fun b hb => ?_
  refine (bindTracks_advances hb hx.2 r).bind fun c hc => ?_
  refine (describe_yields hc hx.2 Scripted.steady_createAnswer r).bind fun y hy => ?_
  refine (sendOrFail_advances hy (.answer (some y.2.localId) (some r) y.1)).bind fun d hd => ?_
  exact enterConnected_advances hd hx.2 r

/-! ### Sessions taken out -/

theorem release_under (ha : Ongoing D o a) (r : String) :
    (a.under D).release r = (a.release r).under D := by
  unfold release
  rw [registry_under]
  cases he : a.registry.lookup? r with
  | none => simp only [Registry.remove, he]
  | some e =>
    simp only [Registry.remove, he]
    cases hi : e.session.transport with
    | none => rfl
    | some id =>
      rw [pool_under]
      dsimp only
      rw [Pool.close_under (ha.session r e id he hi)]
      rfl

theorem length_release (a : Agent) (r : String) :
    (a.release r).pool.transports.length = a.pool.transports.length := by
  unfold release
  split
  · rfl
  next e R he =>
    cases e.session.transport with
    | none => rfl
    | some id => exact Pool.length_close a.pool id

theorem closeSession_keeps (a : Agent) (r : String) : Keeps a (a.closeSession r) := by
  unfold closeSession release
  split <;> rfl

theorem Ongoing.closeSession (ha : Ongoing D o a) (r : String) :
    Ongoing D o (a.closeSession r) where
  session := fun q e i hq hi => by
    rw [lookup?_closeSession] at hq
    split at hq
    · simp at hq
    · exact ha.session q e i hq hi
  new := fun i hi => ha.new i (Nat.le_trans (Nat.le_of_eq (length_release (a.retire r) r).symm) hi)
  keeps := (closeSession_keeps a r).trans ha.keeps

theorem closeSession_under (ha : Ongoing D o a) (r : String) :
    (a.under D).closeSession r = (a.closeSession r).under D :=
  release_under (a := a.retire r) (ha.congr rfl (Nat.le_refl _) rfl) r

theorem releaseAll_under (ha : Ongoing D o a) :
    (a.under D).releaseAll = a.releaseAll.under D ∧ Ongoing D o a.releaseAll := by
  have hids : ∀ id ∈ a.registry.drain.1.filterMap fun e => e.session.transport,
      D.idle id = false := by
    intro id hm
    obtain ⟨e, he, hi⟩ := List.mem_filterMap.mp hm
    obtain ⟨⟨r, e'⟩, hr, rfl⟩ := List.mem_map.mp he
    exact ha.session r e' id ((Registry.mem_entries_iff _ r e').mp hr) hi
  have hpool : (a.under D).releaseAll.pool = a.releaseAll.pool.under D :=
    Pool.closes_under hids a.pool
  refine ⟨?_, ⟨fun r e i he => ?_, fun i hi => ha.new i ?_⟩, ha.keeps⟩
  · exact congrArg (fun p => ({ a with registry := a.registry.drain.2, pool := p } : Agent)) hpool
  · simp [releaseAll, Registry.drain, Registry.lookup?] at he
  · exact Nat.le_trans (Nat.le_of_eq (Pool.length_closes _ a.pool).symm) hi

theorem fail_under (ha : Ongoing D o a) (r : String) (f : Failure) :
    (a.under D).fail r f = (a.fail r f).under D := by
  unfold fail
  rw [closeSession_under ha]
  dsimp only
  rw [active_under]
  split <;> rfl

theorem fail_keeps (a : Agent) (r : String) (f : Failure) : Keeps a (a.fail r f) := by
  rw [fail_eq]
  exact closeSession_keeps a r

theorem Ongoing.fail (ha : Ongoing D o a) (r : String) (f : Failure) :
    Ongoing D o (a.fail r f) := by
  have hclosed := ha.closeSession r
  rw [fail_eq]
  exact hclosed.congr rfl (Nat.le_refl _) rfl

/-! ### Moves -/

/-- A move, with the behaviour that it sets changed. -/
def Move.under : Move → Disguise → Move
  | .behave b, D => .behave (b.under D)
  | m, _ => m

/-- The same answer, and the same agent over other transports. -/
structure Agrees (D : Disguise) (o : Agent) (x' x : Outcome × Agent) : Prop where
  eq : x' = (x.1, x.2.under D)
  ongoing : Ongoing D o x.2

theorem Agrees.answer {x' x : Outcome × Agent} (h : Agrees D o x' x) : x'.1 = x.1 := by
  rw [h.eq]

theorem Ongoing.agrees (ha : Ongoing D o a) (y : Outcome) (hr : b.registry = a.registry)
    (hp : b.pool = a.pool) (hk : Keeps a b) : Agrees D o (y, b.under D) (y, b) :=
  ⟨rfl, ha.congr hr (hp ▸ Nat.le_refl _) hk⟩

theorem Ongoing.refused (ha : Ongoing D o a) (y : Outcome) : Agrees D o (y, a.under D) (y, a) :=
  ha.agrees y rfl rfl rfl

theorem conclude_under {x' x : Advance} (hx : Advances D o x' x) (r : String)
    {finish' finish : Agent → Agent}
    (hf : ∀ b, Ongoing D o b →
      finish' (b.under D) = (finish b).under D ∧ Ongoing D o (finish b)) :
    Agrees D o (conclude r x' finish') (conclude r x finish) := by
  cases hx with
  | @ok b hb => exact ⟨congrArg (Prod.mk (Except.ok ())) (hf b hb).1, (hf b hb).2⟩
  | @error f b hb =>
    exact ⟨congrArg (Prod.mk (Except.error f.error)) (fail_under hb r f), hb.fail r f⟩

/-- An operation that ends with its last step. -/
theorem conclude_same {x' x : Advance} (hx : Advances D o x' x) (r : String) :
    Agrees D o (conclude r x' fun a => a) (conclude r x fun a => a) :=
  conclude_under hx r fun _ hb => ⟨rfl, hb⟩

theorem requestConnect_under (ha : Ongoing D o a) :
    Agrees D o (a.under D).requestConnect a.requestConnect := by
  unfold requestConnect
  rw [phase_under, localId_under, send?_under]
  split
  · exact ha.refused _
  · cases hs : a.send? (.clientConnect a.localId) with
    | none => exact ha.agrees (b := { a with phase := .failed .channelLost }) _ rfl rfl rfl
    | some b =>
      exact (ha.send hs).agrees (b := { b with phase := .awaitingAssignment }) _ rfl rfl rfl

theorem leavePrevious_under (ha : Ongoing D o a) (r : String) :
    (a.under D).leavePrevious r = (a.leavePrevious r).under D ∧
      Ongoing D o (a.leavePrevious r) := by
  unfold leavePrevious
  rw [active_under]
  cases a.active with
  | none => exact ⟨rfl, ha⟩
  | some p =>
    dsimp only
    split
    · exact ⟨closeSession_under ha p, ha.closeSession p⟩
    · exact ⟨rfl, ha⟩

theorem assigned_under (ha : Ongoing D o a) (r : String) :
    Agrees D o ((a.under D).assigned r) (a.assigned r) := by
  obtain ⟨hleave, hb⟩ := leavePrevious_under ha r
  unfold assigned
  rw [phase_under, hleave]
  split
  · exact ha.refused _
  · generalize a.leavePrevious r = b at hb
    have hc : Ongoing D o (({ b with active := some r } : Agent).unretire r) :=
      hb.congr rfl (Nat.le_refl _) rfl
    refine conclude_under (bindAssigned_advances (hc.assign r) r) r fun d hd => ?_
    have hphase : Ongoing D o ({ d with phase := .assigned } : Agent) :=
      hd.congr rfl (Nat.le_refl _) rfl
    refine ⟨?_, ?_⟩
    · dsimp only
      split
      next h => exact (if_pos h).symm ▸ rfl
      next h => exact (if_neg h).symm ▸ rfl
    · dsimp only
      split
      · exact hphase.congr rfl (Nat.le_refl _) rfl
      · exact hphase

theorem startCall_under (ha : Ongoing D o a) : Agrees D o (a.under D).startCall a.startCall := by
  unfold startCall
  rw [active_under]
  cases a.active with
  | none =>
    dsimp only
    rw [phase_under]
    split <;> exact ha.refused _
  | some r =>
    dsimp only
    rw [sessionState?_under]
    cases a.sessionState? r with
    | none => exact ha.refused _
    | some state =>
      dsimp only
      split
      · exact conclude_same (sendOffer_advances ha r) r
      · split <;> exact ha.refused _

theorem answer_under (ha : Ongoing D o a) (sender : Option String) (sdp : String) :
    Agrees D o ((a.under D).answer sender sdp) (a.answer sender sdp) := by
  unfold answer
  rw [active_under]
  cases sender.or a.active with
  | none => exact ha.refused _
  | some r =>
    dsimp only
    rw [sessionState?_under]
    cases a.sessionState? r with
    | none => exact ha.refused _
    | some state =>
      dsimp only
      split
      · exact ha.refused _
      · exact conclude_same (acceptAnswer_advances ha r sdp) r

theorem adopt_under (ha : Ongoing D o a) (r : String) :
    adopt r (a.under D) = (adopt r a).under D ∧ Ongoing D o (adopt r a) := by
  unfold adopt
  rw [active_under]
  cases a.active with
  | none => exact ⟨rfl, ha.congr rfl (Nat.le_refl _) rfl⟩
  | some p => exact ⟨rfl, ha⟩

theorem offer_under (ha : Ongoing D o a) (sender recipient sdp : String) :
    Agrees D o ((a.under D).offer sender recipient sdp) (a.offer sender recipient sdp) := by
  have hb : Ongoing D o ((a.unretire sender).assign sender) :=
    (ha.congr (b := a.unretire sender) rfl (Nat.le_refl _) rfl).assign sender
  have hunder : ((a.under D).unretire sender).assign sender =
      ((a.unretire sender).assign sender).under D := rfl
  unfold offer
  rw [localId_under, phase_under, hunder]
  generalize (a.unretire sender).assign sender = b at hb
  split
  · exact ha.refused _
  · split
    · exact ha.refused _
    · dsimp only
      rw [sessionState?_under]
      cases b.sessionState? sender with
      | none => exact hb.refused _
      | some state =>
        dsimp only
        split
        · exact conclude_under (answerOffer_advances hb sender sdp) sender fun c hc =>
            adopt_under hc sender
        · split <;> exact hb.refused _

theorem takeCandidate_under (ha : Ongoing D o a) (sender c : String) :
    Agrees D o ((a.under D).takeCandidate sender c) (a.takeCandidate sender c) := by
  unfold takeCandidate
  rw [session?_under]
  cases hs : a.session? sender with
  | none => exact ha.refused _
  | some s =>
    dsimp only
    split
    · exact ⟨rfl, ha.touch sender (f := (Session.push · c)) fun _ => rfl⟩
    · split
      · cases hi : s.transport with
        | none => exact ha.refused _
        | some id =>
          obtain ⟨e, he, rfl⟩ := Option.map_eq_some_iff.mp hs
          have hgive := giveCandidate_under (ha.session sender e id he hi) a c
          exact ⟨congrArg (Prod.mk (Except.ok ())) hgive, ha.giveCandidate id c⟩
      · exact ha.refused _

theorem candidate_under (ha : Ongoing D o a) (sender c : String) :
    Agrees D o ((a.under D).candidate sender c) (a.candidate sender c) := by
  have hret : (a.under D).isRetired sender = a.isRetired sender := rfl
  unfold candidate
  rw [phase_under, session?_under, hret]
  split
  · exact ha.refused _
  · split
    · exact takeCandidate_under ha sender c
    · split
      · exact ha.refused _
      · exact takeCandidate_under (ha.assign sender) sender c

theorem remoteLeft_under (ha : Ongoing D o a) (r : String) :
    Agrees D o ((a.under D).remoteLeft r) (a.remoteLeft r) := by
  have hb := ha.closeSession r
  unfold remoteLeft
  rw [localId_under, session?_under, closeSession_under ha]
  generalize a.closeSession r = b at hb
  split
  · exact ha.refused _
  · split
    · exact ha.refused _
    · dsimp only
      rw [active_under]
      split
      · exact hb.agrees (b := { b with active := none, phase := _ }) _ rfl rfl rfl
      · exact hb.refused _

theorem localCandidate_under (ha : Ongoing D o a) (r c : String) :
    Agrees D o ((a.under D).localCandidate r c) (a.localCandidate r c) := by
  unfold localCandidate
  rw [phase_under, session?_under, localId_under, send?_under]
  split
  · exact ha.refused _
  · cases hs : a.send? (.iceCandidate a.localId r c) with
    | none =>
      have hfail := fail_under ha r .channelLost
      exact ⟨congrArg (Prod.mk (.error CallError.channelClosed : Outcome)) hfail,
        ha.fail r .channelLost⟩
    | some b => exact (ha.send hs).refused _

theorem mediaReady_under (ha : a.Avoids D) (ts : List Track) :
    Agrees D { a with tracks := ts } ((a.under D).mediaReady ts) (a.mediaReady ts) := by
  have hb : Ongoing D { a with tracks := ts } ({ a with tracks := ts } : Agent) :=
    ⟨⟨ha.session, ha.new⟩, rfl⟩
  have hunder : ({ a.under D with tracks := ts } : Agent) =
      ({ a with tracks := ts } : Agent).under D := rfl
  unfold mediaReady
  rw [hunder]
  generalize ({ a with tracks := ts } : Agent) = b at hb
  dsimp only
  rw [active_under]
  cases b.active with
  | none => exact hb.refused _
  | some r =>
    dsimp only
    rw [session?_under]
    cases hs : b.session? r with
    | none => exact hb.refused _
    | some s =>
      dsimp only
      split
      · exact hb.refused _
      · cases hi : s.transport with
        | none => exact hb.refused _
        | some id =>
          obtain ⟨e, he, rfl⟩ := Option.map_eq_some_iff.mp hs
          exact conclude_same (bindTracks_advances hb (hb.session r e id he hi) r) r

theorem hangUp_under (ha : Ongoing D o a) :
    (a.under D).hangUp = a.hangUp.under D ∧ Ongoing D o a.hangUp := by
  unfold hangUp
  rw [phase_under, localId_under, send?_under]
  split
  · exact ⟨rfl, ha⟩
  · have hb : Ongoing D o ((a.send? (.clientDisconnect a.localId)).getD a) := by
      cases hs : a.send? (.clientDisconnect a.localId) with
      | none => exact ha
      | some b => exact ha.send hs
    have hget : ((a.send? (.clientDisconnect a.localId)).map (·.under D)).getD (a.under D) =
        ((a.send? (.clientDisconnect a.localId)).getD a).under D := Option.getD_map (·.under D) a _
    rw [hget]
    obtain ⟨hall, hclosed⟩ := releaseAll_under hb
    dsimp only
    rw [hall]
    exact ⟨rfl, hclosed.congr rfl (Nat.le_refl _) rfl⟩

theorem channelLost_under (ha : Ongoing D o a) (reason : Option String) :
    (a.under D).channelLost reason = (a.channelLost reason).under D ∧
      Ongoing D o (a.channelLost reason) := by
  obtain ⟨hall, hclosed⟩ := releaseAll_under ha
  unfold channelLost
  rw [phase_under, hall]
  split
  · exact ⟨rfl, ha⟩
  · exact ⟨rfl, hclosed.congr rfl (Nat.le_refl _) rfl⟩

theorem fails_under (late : List (String × Nat)) (ha : Ongoing D o a) :
    late.foldl (fun a e => a.fail e.1 (.timedOut e.1 e.2)) (a.under D) =
        (late.foldl (fun a e => a.fail e.1 (.timedOut e.1 e.2)) a).under D ∧
      Ongoing D o (late.foldl (fun a e => a.fail e.1 (.timedOut e.1 e.2)) a) := by
  induction late generalizing a with
  | nil => exact ⟨rfl, ha⟩
  | cons e late ih =>
    rw [List.foldl_cons, List.foldl_cons, fail_under ha]
    exact ih (ha.fail e.1 _)

theorem expire_under (ha : Ongoing D o a) (time : Nat) :
    ((a.under D).expire time).2 = (a.expire time).2.under D ∧
      Ongoing D o (a.expire time).2 := by
  unfold expire
  rw [timeout_under]
  cases a.timeout with
  | none => exact ⟨rfl, ha⟩
  | some timeout => exact fails_under (a.stalled timeout time) ha

/-- The tracks that a move sets. -/
def Move.tracks? : Move → Option (List Track)
  | .mediaReady tracks => some tracks
  | .takeTracks => some []
  | _ => none

/-- By how much a move advances the clock. -/
def Move.elapsed : Move → Nat
  | .advance nanoseconds => nanoseconds
  | _ => 0

/-- A move is answered in the same way, and leads to the same agent over other transports.  The
tracks and the clock are as the move itself sets them, or as they were. -/
theorem perform_under (ha : a.Avoids D) (m : Move) :
    Agrees D { a with tracks := m.tracks?.getD a.tracks, now := a.now + m.elapsed }
      ((a.under D).perform (m.under D)) (a.perform m) := by
  have hself : Ongoing D a a := ⟨ha, rfl⟩
  have hdone : ∀ {b' b : Agent}, b' = b.under D ∧ Ongoing D a b →
      Agrees D a (.ok (), b') (.ok (), b) := fun h => ⟨congrArg (Prod.mk (Except.ok ())) h.1, h.2⟩
  cases m with
  | requestConnect => exact requestConnect_under hself
  | assigned r => exact assigned_under hself r
  | startCall => exact startCall_under hself
  | answer sender sdp => exact answer_under hself sender sdp
  | offer sender recipient sdp => exact offer_under hself sender recipient sdp
  | candidate sender c => exact candidate_under hself sender c
  | remoteLeft r => exact remoteLeft_under hself r
  | localCandidate r c => exact localCandidate_under hself r c
  | mediaReady ts => exact mediaReady_under ha ts
  | hangUp => exact hdone (hangUp_under hself)
  | channelLost reason => exact hdone (channelLost_under hself reason)
  | expire time => exact hdone (expire_under hself time)
  | _ => exact ⟨rfl, ⟨ha.session, ha.new⟩, rfl⟩

/-- A run leads to the same agent over other transports. -/
theorem run_under (ha : a.Avoids D) (history : List Move) :
    (a.under D).run (history.map (·.under D)) = (a.run history).under D ∧
      (a.run history).Avoids D := by
  induction history generalizing a with
  | nil => exact ⟨rfl, ha⟩
  | cons m history ih =>
    have hm := perform_under ha m
    show ((a.under D).perform (m.under D)).2.run _ = ((a.perform m).2.run history).under D ∧ _
    rw [hm.eq]
    exact ih hm.ongoing.toAvoids

/-! ### The tracks, the timeout and the clock -/

theorem after_keeps (a : Agent) (m : Move) :
    Keeps { a with tracks := m.tracks?.getD a.tracks, now := a.now + m.elapsed } (a.after m) :=
  (perform_under (avoids_lenient a) m).ongoing.keeps

/-- The tracks after a move. -/
theorem tracks_after (a : Agent) (m : Move) : (a.after m).tracks = m.tracks?.getD a.tracks :=
  congrArg Prod.fst (after_keeps a m)

/-- The timeout after a move. -/
theorem timeout_after (a : Agent) (m : Move) : (a.after m).timeout = a.timeout :=
  congrArg (fun k => k.2.1) (after_keeps a m)

/-- The time after a move. -/
theorem now_after (a : Agent) (m : Move) : (a.after m).now = a.now + m.elapsed :=
  congrArg (fun k => k.2.2) (after_keeps a m)

theorem timeout_run (a : Agent) (history : List Move) : (a.run history).timeout = a.timeout := by
  induction history generalizing a with
  | nil => rfl
  | cons m history ih => exact (ih (a.after m)).trans (timeout_after a m)

end CallSignaling.Agent
