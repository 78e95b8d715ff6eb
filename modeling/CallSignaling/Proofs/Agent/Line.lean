import CallSignaling.Agent.Operations
import CallSignaling.Proofs.Session.Registry
import CallSignaling.Proofs.Transport.Pool
import CallSignaling.Proofs.Transport.Replay

/-!
# Line — a peer's session with its transport, and what the steps do to it

The steps of a negotiation work on the session of one peer and on the transport of that session.
`withLine` puts the two into their places; every step turns one such agent into another one
(`Ends`), by a list of calls that its session and the local tracks settle beforehand.
-/

namespace CallSignaling

/-- What can end the session with a peer in the middle of an operation. -/
inductive Failure.Genuine (r : String) : Failure → Prop
  | rejected (source : TransportError) : Genuine r (.rejected r source)
  | channelLost : Genuine r .channelLost

theorem Failure.Genuine.not_isProtocol {r : String} {f : Failure} (h : f.Genuine r) :
    f.error.isProtocol = false := by
  cases h <;> rfl

theorem Failure.Genuine.cause_eq {r : String} {f : Failure} (h : f.Genuine r) :
    f.cause = if f.error = .channelClosed then .channelLost else .rejected := by
  cases h <;> rfl

theorem Failure.Genuine.remote_eq {q r : String} {f : Failure} {source : TransportError}
    (h : f.Genuine r) (he : f.error = .rejected q source) : q = r := by
  cases h with
  | rejected =>
    cases he
    rfl
  | channelLost => cases he

namespace Session

/-- The session after the local tracks were offered to its transport. -/
def given (s : Session) (ts : List Track) : Session :=
  { s with tracksBound := s.tracksBound || !ts.isEmpty }

/-- The calls by which the local tracks reach the transport: none if there are no tracks or they
have reached it before. -/
def handover (s : Session) (ts : List Track) : List Call :=
  if ts = [] ∨ s.tracksBound = true then [] else [.addTracks (ts.map Track.id)]

theorem eq_of_mem_handover {s : Session} {ts : List Track} {c : Call} (h : c ∈ s.handover ts) :
    c = .addTracks (ts.map Track.id) := by
  unfold handover at h
  split at h
  · simp at h
  · simpa using h

theorem given_eq_self {s : Session} {ts : List Track} (h : ts = [] ∨ s.tracksBound = true) :
    s.given ts = s := by
  obtain ⟨_, _, _, _, _, _, b, _⟩ := s
  rcases h with rfl | h
  · simp [given]
  · obtain rfl : b = true := h
    simp [given]

theorem given_eq_markTracks {s : Session} {ts : List Track} (h : ts ≠ []) :
    s.given ts = s.markTracks := by
  cases ts with
  | nil => exact absurd rfl h
  | cons t ts => simp [given, markTracks]

end Session

namespace Agent

/-- The agent with this session and this transport in the place of a peer's. -/
def withLine (a : Agent) (r : String) (h id : Nat) (s : Session) (t : Scripted) : Agent :=
  { a with registry := a.registry.put r ⟨h, s⟩, pool := a.pool.put id t }

/-- The agent after a message was sent. -/
def said (a : Agent) (m : Message) : Agent := { a with outbox := ⟨true, a.outbox.sent ++ [m]⟩ }

theorem send?_eq (a : Agent) (m : Message) :
    a.send? m = if a.outbox.isOpen then some (a.said m) else none := rfl

/-- `b` is `a` but for the session with one peer and the transports. -/
structure Confined (a b : Agent) (r : String) : Prop where
  frame : ∃ R P, b = { a with registry := R, pool := P }
  lookup : ∀ q, q ≠ r → b.registry.lookup? q = a.registry.lookup? q

/-- A peer's session is bound to this transport. -/
structure Holds (a : Agent) (r : String) (h id : Nat) (s : Session) (t : Scripted) : Prop where
  lookup : a.registry.lookup? r = some ⟨h, s⟩
  number : s.transport = some id
  transport : a.transport? id = some t

variable {a b : Agent} {r : String} {h id : Nat} {s : Session} {t : Scripted}

theorem Holds.le (hb : a.Holds r h id s t) : id ≤ a.pool.transports.length := by
  obtain ⟨hl, -⟩ := List.getElem?_eq_some_iff.mp hb.transport
  exact Nat.le_of_lt hl

theorem Holds.withLine_eq (hb : a.Holds r h id s t) : a.withLine r h id s t = a := by
  unfold withLine
  rw [Registry.put_eq_self hb.lookup, Pool.put_eq_self hb.transport]

/-! ### Views -/

@[simp] theorem lookup?_withLine (b : Agent) (r : String) (h id : Nat) (s : Session) (t : Scripted)
    (q : String) :
    (b.withLine r h id s t).registry.lookup? q =
      if q = r then some ⟨h, s⟩ else b.registry.lookup? q :=
  Registry.lookup?_put ..

theorem session?_of_lookup {e : Registered} (hl : a.registry.lookup? r = some e) :
    a.session? r = some e.session := by
  unfold session? Registry.session?
  rw [hl]
  rfl

@[simp] theorem session?_withLine (b : Agent) (r : String) (h id : Nat) (s : Session)
    (t : Scripted) : (b.withLine r h id s t).session? r = some s :=
  session?_of_lookup (e := ⟨h, s⟩) (Registry.lookup?_put_self ..)

theorem transport?_withLine (hid : id ≤ b.pool.transports.length) (i : Nat) :
    (b.withLine r h id s t).transport? i = if i = id then some t else b.transport? i :=
  Pool.getElem?_put hid t i

theorem Confined.refl (a : Agent) (r : String) : Confined a a r := ⟨⟨_, _, rfl⟩, fun _ _ => rfl⟩

theorem withLine_confined (b : Agent) (r : String) (h id : Nat) (s : Session) (t : Scripted) :
    Confined b (b.withLine r h id s t) r :=
  ⟨⟨_, _, rfl⟩, fun q hq => (lookup?_withLine b r h id s t q).trans (if_neg hq)⟩

@[simp] theorem tracks_withLine : (b.withLine r h id s t).tracks = b.tracks := rfl

@[simp] theorem outbox_withLine : (b.withLine r h id s t).outbox = b.outbox := rfl

/-! ### Small changes -/

@[simp] theorem update_withLine (f : Session → Session) :
    (b.withLine r h id s t).update r f = b.withLine r h id (f s) t := by
  unfold update withLine
  rw [Registry.update_put]

theorem request_withLine {α : Type} (hid : id ≤ b.pool.transports.length)
    (op : Scripted → Scripted.Reply α) :
    (b.withLine r h id s t).request r id op =
      match op t with
      | (.ok v, t') => .ok (v, b.withLine r h id s t')
      | (.error e, t') => .error (.rejected r e, b.withLine r h id s t') := by
  unfold request withLine
  simp only [Pool.request_put hid]
  obtain ⟨v, t'⟩ := op t
  cases v <;> rfl

theorem giveCandidate_withLine (hid : id ≤ b.pool.transports.length) (c : String) :
    (b.withLine r h id s t).giveCandidate id c =
      b.withLine r h id s (t.afterCall (.addCandidate c)) := by
  unfold giveCandidate withLine
  simp only [Pool.request_put hid, Scripted.addCandidate_snd]

theorem giveCandidates_withLine (hid : id ≤ b.pool.transports.length) (cs : List String) :
    cs.foldl (fun a c => a.giveCandidate id c) (b.withLine r h id s t) =
      b.withLine r h id s (t.replay (cs.map .addCandidate)) := by
  induction cs generalizing t with
  | nil => rfl
  | cons c cs ih =>
    rw [List.foldl_cons, giveCandidate_withLine hid, ih, List.map_cons, Scripted.replay_cons]

theorem enterConnected_withLine (hid : id ≤ b.pool.transports.length) :
    (b.withLine r h id s t).enterConnected r id =
      b.withLine r h id s.connect (t.replay (s.pending.map .addCandidate)) := by
  unfold enterConnected
  simp only [session?_withLine, Option.map_some, Option.getD_some, giveCandidates_withLine hid,
    update_withLine]

/-! ### Steps -/

/-- How a step ends that makes some calls on a transport, sends a message if it has one, and then
gives `done`. -/
inductive Ends {α : Type} (b : Agent) (r : String) (h id : Nat) (t : Scripted) (cs : List Call)
    (m : Option Message) (done : α) : Except (Failure × Agent) α → Prop
  | refused {ds : List Call} {reason : String} {s : Session} :
    t.refusedIn cs = some (ds, reason) → s.transport = some id →
    Ends b r h id t cs m done
      (.error (.rejected r (.rejected reason), b.withLine r h id s (t.replay ds)))
  | unsent {s : Session} : t.refusedIn cs = none → m.isSome → b.outbox.isOpen = false →
    s.transport = some id →
    Ends b r h id t cs m done (.error (.channelLost, b.withLine r h id s (t.replay cs)))
  | done : t.refusedIn cs = none → (m.isSome → b.outbox.isOpen = true) →
    Ends b r h id t cs m done (.ok done)

/-- Such a step fails only because a transport refused or a message could not be sent. -/
theorem Ends.confined {α : Type} {cs : List Call} {m : Option Message} {done : α} {f : Failure}
    {c : Agent} (hx : Ends b r h id t cs m done (.error (f, c))) :
    Confined b c r ∧ f.Genuine r := by
  cases hx with
  | refused => exact ⟨withLine_confined .., .rejected _⟩
  | unsent => exact ⟨withLine_confined .., .channelLost⟩

/-- One step after another. -/
theorem Ends.bind {α β : Type} {cs ds : List Call} {m : Option Message} {v : α} {done : β}
    {x : Except (Failure × Agent) α} {g : α → Except (Failure × Agent) β}
    (hx : Ends b r h id t cs none v x) (hg : Ends b r h id (t.replay cs) ds m done (g v)) :
    Ends b r h id t (cs ++ ds) m done (x >>= g) := by
  cases hx with
  | refused hr hs => exact .refused (Scripted.refusedIn_append_of_some hr ds) hs
  | unsent _ hm => simp at hm
  | done hr =>
    show Ends b r h id t (cs ++ ds) m done (g v)
    have happ := Scripted.refusedIn_append_of_none hr ds
    generalize g v = y at hg
    cases hg with
    | @refused es reason s' he hs =>
      rw [Scripted.replay_refusedIn] at he
      rw [← Scripted.replay_append]
      exact .refused (by rw [happ, he]; rfl) hs
    | unsent he hm ho hs =>
      rw [Scripted.replay_refusedIn] at he
      rw [← Scripted.replay_append]
      exact .unsent (by rw [happ, he]; rfl) hm ho hs
    | done he ho =>
      rw [Scripted.replay_refusedIn] at he
      exact .done (by rw [happ, he]; rfl) ho

/-- What two such steps on the same transport do is the same, on whatever agents and sessions. -/
theorem Ends.agree {α : Type} {b' : Agent} {h' id' : Nat} {cs : List Call} {m m' : Option Message}
    {v v' : α} {x x' : Except (Failure × Agent) α} (hx : Ends b r h id t cs m v x)
    (hx' : Ends b' r h' id' t cs m' v' x') (hm : m'.isSome = m.isSome)
    (ho : b'.outbox.isOpen = b.outbox.isOpen) :
    ((m.isSome → b.outbox.isOpen = true) ∧ x = .ok v ∧ x' = .ok v') ∨
      ∃ f ds s s', s.transport = some id ∧ s'.transport = some id' ∧
        x = .error (f, b.withLine r h id s (t.replay ds)) ∧
        x' = .error (f, b'.withLine r h' id' s' (t.replay ds)) := by
  cases hx with
  | @refused ds reason s hr hs =>
    cases hx' with
    | @refused ds' reason' s' hr' hs' =>
      obtain ⟨rfl, rfl⟩ := Prod.mk.inj (Option.some.inj (hr.symm.trans hr'))
      exact .inr ⟨_, _, s, s', hs, hs', rfl, rfl⟩
    | unsent hr' => exact absurd (hr.symm.trans hr') nofun
    | done hr' => exact absurd (hr.symm.trans hr') nofun
  | @unsent s hr hsome hmute hs =>
    cases hx' with
    | refused hr' => exact absurd (hr.symm.trans hr') nofun
    | @unsent s' _ _ _ hs' => exact .inr ⟨_, _, s, s', hs, hs', rfl, rfl⟩
    | done _ hopen =>
      rw [ho, hmute] at hopen
      exact absurd (hopen (hm.trans hsome)) nofun
  | done hr hopen =>
    cases hx' with
    | refused hr' => exact absurd (hr.symm.trans hr') nofun
    | unsent _ hsome hmute =>
      have hclosed := hopen (hm.symm.trans hsome)
      rw [← ho, hmute] at hclosed
      cases hclosed
    | done => exact .inl ⟨hopen, rfl, rfl⟩

/-- One call on the transport. -/
theorem request_ends {α : Type} (hid : id ≤ b.pool.transports.length) (hs : s.transport = some id)
    {c : Call} {op : Scripted → Scripted.Reply α} {v : α}
    (hop : op t = (match t.refusal c with
      | some reason => .error (.rejected reason)
      | none => .ok v, t.afterCall c)) :
    Ends b r h id t [c] none (v, b.withLine r h id s (t.replay [c]))
      ((b.withLine r h id s t).request r id op) := by
  rw [request_withLine hid, hop]
  have hc := Scripted.refusedIn_singleton t c
  cases hr : t.refusal c with
  | some reason =>
    rw [hr] at hc
    exact .refused hc hs
  | none =>
    rw [hr] at hc
    exact .done hc nofun

/-- Sending a message, and what follows when it was sent. -/
theorem send_ends (m : Message) (g : Agent → Agent) (hs : s.transport = some id) :
    Ends b r h id t [] (some m) (g ((b.said m).withLine r h id s t))
      ((b.withLine r h id s t).sendOrFail m >>= fun a => .ok (g a)) := by
  unfold sendOrFail
  rw [send?_eq, outbox_withLine]
  cases ho : b.outbox.isOpen with
  | false => exact .unsent rfl rfl ho hs
  | true => exact .done rfl fun _ => ho

theorem bindTracks_ends (hid : id ≤ b.pool.transports.length) (ho : t.closed = false)
    (hs : s.transport = some id) :
    Ends b r h id t (s.handover b.tracks) none
      (b.withLine r h id (s.given b.tracks) (t.replay (s.handover b.tracks)))
      ((b.withLine r h id s t).bindTracks r id) := by
  unfold bindTracks
  simp only [tracks_withLine, session?_withLine, Option.map_some, Option.some.injEq]
  by_cases hn : b.tracks = [] ∨ s.tracksBound = true
  · rw [if_pos hn, Session.handover, if_pos hn, Session.given_eq_self hn]
    exact .done rfl nofun
  · have hne : b.tracks ≠ [] := fun e => hn (.inl e)
    rw [if_neg hn, Session.handover, if_neg hn, Session.given_eq_markTracks hne,
      request_withLine hid, Scripted.addTracks_eq ho]
    have hc := Scripted.refusedIn_singleton t (.addTracks (b.tracks.map Track.id))
    cases hr : t.refusal (.addTracks (b.tracks.map Track.id)) with
    | some reason =>
      rw [hr] at hc
      exact .refused hc hs
    | none =>
      rw [hr] at hc
      simp only [Scripted.verdict, update_withLine]
      exact .done hc nofun

/-- The calls that make a description and apply it. -/
theorem describe_ends (hid : id ≤ b.pool.transports.length) (ho : t.closed = false)
    (hs : s.transport = some id) {c : Call} {kind : String}
    {make : Scripted → Scripted.Reply String}
    (hc : c ≠ .close) (hmake : make t = (t.text kind (t.refusal c), t.afterCall c)) :
    Ends b r h id t [c, .setLocal (t.descriptionText kind)] none
      (t.descriptionText kind,
        b.withLine r h id s.markLocal (t.replay [c, .setLocal (t.descriptionText kind)]))
      ((b.withLine r h id s t).describe r id make) := by
  have hcreate : Ends b r h id t [c] none
      (t.descriptionText kind, b.withLine r h id s (t.replay [c]))
      ((b.withLine r h id s t).request r id make) :=
    request_ends hid hs (by rw [hmake]; cases t.refusal c <;> rfl)
  have hlocal : Ends b r h id (t.replay [c]) [.setLocal (t.descriptionText kind)] none
      ((), b.withLine r h id s ((t.replay [c]).replay [.setLocal (t.descriptionText kind)]))
      ((b.withLine r h id s (t.replay [c])).request r id
        (Scripted.setLocal · (t.descriptionText kind))) :=
    request_ends hid hs (Scripted.setLocal_eq (Scripted.afterCall_closed ho hc) _)
  refine Ends.bind hcreate (Ends.bind hlocal ?_)
  show Ends _ _ _ _ _ [] none _ (.ok (_, (b.withLine r h id s _).update r Session.markLocal))
  rw [update_withLine]
  exact .done rfl nofun

theorem applyRemote_ends (hid : id ≤ b.pool.transports.length) (ho : t.closed = false)
    (hs : s.transport = some id) (sdp : String) :
    Ends b r h id t [.setRemote sdp] none
      (b.withLine r h id s.markRemote (t.replay [.setRemote sdp]))
      ((b.withLine r h id s t).applyRemote r id sdp) := by
  have hset : Ends b r h id t [.setRemote sdp] none
      ((), b.withLine r h id s (t.replay [.setRemote sdp]))
      ((b.withLine r h id s t).request r id (Scripted.setRemote · sdp)) :=
    request_ends hid hs (by rw [Scripted.setRemote_eq ho]; cases t.refusal _ <;> rfl)
  refine Ends.bind hset ?_
  show Ends _ _ _ _ _ [] none _ (.ok ((b.withLine r h id s _).update r Session.markRemote))
  rw [update_withLine]
  exact .done rfl nofun

/-! ### Steps of an operation -/

theorem ensureBound_withLine (hs : s.transport = some id) :
    (b.withLine r h id s t).ensureBound r = .ok (id, b.withLine r h id s t) := by
  unfold ensureBound
  simp only [session?_withLine, Option.bind_some, hs]

/-- A session without a transport gets a new one, unless that is refused. -/
theorem ensureBound_of_lookup (hl : b.registry.lookup? r = some ⟨h, s⟩) (hs : s.transport = none) :
    b.ensureBound r =
      if b.pool.behaviour.rejectCreate then
        .error (.rejected r (.setup "mock factory refused"), b)
      else .ok (b.pool.transports.length,
        b.withLine r h b.pool.transports.length (s.bind b.pool.transports.length)
          (Scripted.create r b.pool.behaviour)) := by
  unfold ensureBound
  simp only [session?_of_lookup hl, Option.bind_some, hs, Pool.create_eq]
  cases hc : b.pool.behaviour.rejectCreate with
  | true => rfl
  | false =>
    simp only [Bool.false_eq_true, if_false, withLine, update, Registry.update_eq_put hl]

theorem bindAssigned_ends (hid : id ≤ b.pool.transports.length) (ho : t.closed = false)
    (hs : s.transport = some id) (hi : s.state = .idle) :
    Ends b r h id t (s.handover b.tracks) none
      (b.withLine r h id ((s.enter .assigned).given b.tracks) (t.replay (s.handover b.tracks)))
      ((b.withLine r h id s t).bindAssigned r) := by
  unfold bindAssigned
  rw [ensureBound_withLine hs]
  have hst : (b.withLine r h id s t).sessionState? r = some .idle := by
    unfold sessionState?
    rw [session?_withLine, Option.map_some, hi]
  show Ends b r h id t _ none _
    (if (b.withLine r h id s t).sessionState? r = some .idle then _ else _)
  rw [if_pos hst, update_withLine]
  exact bindTracks_ends (s := s.enter .assigned) hid ho hs

/-- The calls that make an offer. -/
def offerCalls (b : Agent) (s : Session) (t : Scripted) : List Call :=
  s.handover b.tracks ++ [.createOffer, .setLocal (t.descriptionText "offer")]

/-- The calls that make an answer to an offer. -/
def answerCalls (b : Agent) (s : Session) (t : Scripted) (sdp : String) : List Call :=
  .setRemote sdp :: s.handover b.tracks ++ [.createAnswer, .setLocal (t.descriptionText "answer")]

/-- Handing over tracks changes no description and closes nothing. -/
theorem replay_handover (ho : t.closed = false) (s : Session) (ts : List Track) :
    (t.replay (s.handover ts)).closed = false ∧
      ∀ kind, (t.replay (s.handover ts)).descriptionText kind = t.descriptionText kind := by
  have hc : .close ∉ s.handover ts := fun hm => by
    have := Session.eq_of_mem_handover hm
    simp at this
  refine ⟨Scripted.replay_closed ho hc, Scripted.replay_descriptionText ho hc fun c hm => ?_⟩
  rw [Session.eq_of_mem_handover hm]
  rfl

theorem sendOffer_ends (hid : id ≤ b.pool.transports.length) (ho : t.closed = false)
    (hs : s.transport = some id) :
    Ends b r h id t (b.offerCalls s t) (some (.offer b.localId r (t.descriptionText "offer")))
      ((b.said (.offer b.localId r (t.descriptionText "offer"))).withLine r h id
        ((s.given b.tracks).markLocal.start .offering b.now) (t.replay (b.offerCalls s t)))
      ((b.withLine r h id s t).sendOffer r) := by
  obtain ⟨ho', htext⟩ := replay_handover ho s b.tracks
  have hgive := bindTracks_ends (b := b) (r := r) (h := h) hid ho hs
  have hdesc := describe_ends (b := b) (r := r) (h := h) (s := s.given b.tracks) hid ho' hs
    (by simp) (Scripted.createOffer_eq ho')
  rw [htext] at hdesc
  have hsend := send_ends (b := b) (r := r) (h := h) (s := (s.given b.tracks).markLocal)
    (t := (t.replay (s.handover b.tracks)).replay
      [.createOffer, .setLocal (t.descriptionText "offer")])
    (.offer b.localId r (t.descriptionText "offer"))
    (fun a => a.update r (Session.start · .offering a.now)) hs
  rw [update_withLine] at hsend
  unfold sendOffer offerCalls
  rw [ensureBound_withLine hs, Scripted.replay_append]
  exact hgive.bind (hdesc.bind hsend)

/-- Taking an answer: the candidates that have waited follow it. -/
theorem acceptAnswer_ends (hid : id ≤ b.pool.transports.length) (ho : t.closed = false)
    (hs : s.transport = some id) (sdp : String) :
    Ends b r h id t [.setRemote sdp] none
      (b.withLine r h id s.markRemote.connect
        ((t.replay [.setRemote sdp]).replay (s.pending.map .addCandidate)))
      ((b.withLine r h id s t).acceptAnswer r sdp) := by
  have hset := applyRemote_ends (b := b) (r := r) (h := h) hid ho hs sdp
  have hconn := enterConnected_withLine (b := b) (r := r) (h := h) (s := s.markRemote)
    (t := t.replay [.setRemote sdp]) hid
  unfold acceptAnswer
  simp only [session?_withLine, Option.bind_some, hs]
  refine hset.bind ?_
  show Ends _ _ _ _ _ [] none _ (.ok ((b.withLine r h id s.markRemote _).enterConnected r id))
  rw [hconn]
  exact .done rfl nofun

theorem answerOffer_ends (hid : id ≤ b.pool.transports.length) (ho : t.closed = false)
    (hs : s.transport = some id) (sdp : String) :
    Ends b r h id t (b.answerCalls s t sdp)
      (some (.answer (some b.localId) (some r) (t.descriptionText "answer")))
      ((b.said (.answer (some b.localId) (some r) (t.descriptionText "answer"))).withLine r h id
        (((s.start .answering b.now).markRemote.given b.tracks).markLocal.connect)
        ((t.replay (b.answerCalls s t sdp)).replay (s.pending.map .addCandidate)))
      ((b.withLine r h id s t).answerOffer r sdp) := by
  have hset := applyRemote_ends (b := b) (r := r) (h := h) (s := s.start .answering b.now)
    hid ho hs sdp
  have hc : .close ∉ [Call.setRemote sdp] := by simp
  have ho₁ := Scripted.replay_closed ho hc
  have htext₁ := Scripted.replay_descriptionText ho hc (by simp [Call.isCreate]) "answer"
  generalize hu : t.replay [.setRemote sdp] = u at *
  obtain ⟨ho₂, htext₂⟩ := replay_handover ho₁ s b.tracks
  have hgive := bindTracks_ends (b := b) (r := r) (h := h)
    (s := (s.start .answering b.now).markRemote) hid ho₁ hs
  have hdesc := describe_ends (b := b) (r := r) (h := h)
    (s := (s.start .answering b.now).markRemote.given b.tracks) hid ho₂ hs
    (by simp) (Scripted.createAnswer_eq ho₂)
  rw [htext₂, htext₁] at hdesc
  have hsend := send_ends (b := b) (r := r) (h := h)
    (s := ((s.start .answering b.now).markRemote.given b.tracks).markLocal)
    (t := (u.replay (s.handover b.tracks)).replay
      [.createAnswer, .setLocal (t.descriptionText "answer")])
    (.answer (some b.localId) (some r) (t.descriptionText "answer"))
    (fun a => a.enterConnected r id) hs
  have hconn := fun m s u => enterConnected_withLine (b := b.said m) (r := r) (h := h) (s := s)
    (t := u) hid
  rw [hconn] at hsend
  have hcalls : b.answerCalls s t sdp = [.setRemote sdp] ++ (s.handover b.tracks ++
      ([.createAnswer, .setLocal (t.descriptionText "answer")] ++ [])) := by
    simp [answerCalls]
  unfold answerOffer
  rw [ensureBound_withLine hs, hcalls, Scripted.replay_append, Scripted.replay_append, hu]
  show Ends _ _ _ _ _ _ _ _ (((b.withLine r h id s t).update r
    (Session.start · .answering (b.withLine r h id s t).now)).applyRemote r id sdp >>= _)
  rw [update_withLine]
  subst hu
  exact hset.bind (hgive.bind (hdesc.bind hsend))

end Agent

end CallSignaling
