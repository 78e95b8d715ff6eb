import CallSignaling.Proofs.Agent.Outbound
import CallSignaling.Proofs.Agent.Routing
import CallSignaling.Proofs.Channel.Picks

/-!
# Course — a loop and its surroundings

Main statement: `outbound_run`.  While a loop serves one item after another, items arrive and queues
end, in any order (`Loop.Happening`).  What the loop does to its agent is a run of moves
(`Loop.exists_moves`).  Until the first item of the channel is served there is no session, so
nothing can be said but a farewell (`Loop.Unopened`); if the channel opens first, the stream begins
with the announcement (`Loop.Decided`).
-/

namespace CallSignaling

namespace Loop

/-- What happens to a loop. -/
inductive Happening where
  /-- The loop serves one item, if there is one. -/
  | serve
  | command (command : Command)
  | item (item : ChannelItem)
  | event (event : PeerEvent)
  /-- The user's handles go away. -/
  | dropHandle
  /-- The sender of the channel goes away. -/
  | dropChannel
  /-- Other calls wait for an answer now. -/
  | callers (calls : List Nat)
  | advance (nanoseconds : Nat)
  | behave (behaviour : Behaviour)
  /-- The connection takes no more messages. -/
  | mute

def after (l : Loop) : Happening → Loop
  | .serve => l.serve.getD l
  | .command c => { l with commands := (l.commands.push c).2 }
  | .item x => { l with channel := (l.channel.push x).2 }
  | .event e => { l with events := (l.events.push e).2 }
  | .dropHandle => { l with commands := l.commands.finish }
  | .dropChannel => { l with channel := l.channel.finish }
  | .callers calls => { l with callers := calls }
  | .advance t => { l with agent := l.agent.advance t }
  | .behave b => { l with agent := l.agent.behave b }
  | .mute => { l with agent := l.agent.mute }

/-- The loop after a course of happenings. -/
def run (l : Loop) (course : List Happening) : Loop := course.foldl after l

/-- The items that the channel takes in. -/
def admits (l : Loop) : Happening → List ChannelItem
  | .item x => if l.channel.isOpen then [x] else []
  | _ => []

/-- The items that the channel takes in during a course. -/
def arrivals (l : Loop) : List Happening → List ChannelItem
  | [] => []
  | h :: later => l.admits h ++ (l.after h).arrivals later

variable {l l' : Loop} {id : String}

/-! ### What a loop does -/

/-- The ways a loop can serve an item. -/
inductive Serves (l : Loop) : Loop → Prop
  | command {c : Command} {cs : List Command} : l.commands.items = c :: cs →
    Serves l ((l.withCommands cs).serveCommand c)
  /-- No command can come any more. -/
  | abandoned : l.commandsEnded = true → Serves l l.leave
  | item {x : ChannelItem} {xs : List ChannelItem} : l.channel.items = x :: xs → l.Unbidden →
    Serves l ((l.withItems xs).serveItem x)
  /-- No item of the channel can come any more. -/
  | cut : l.channel.items = [] → l.channel.isOpen = false → l.Unbidden → Serves l (l.lose none)
  | event {e : PeerEvent} {es : List PeerEvent} : l.events.items = e :: es → l.Unaddressed →
    Serves l ((l.withEvents es).serveEvent e)
  | tick {t : Ticker} : l.events.items = [] → l.Unaddressed → l.tickDue? = some t →
    Serves l { l with
      agent := (l.agent.expire l.agent.now).2, ticker := some (t.tick l.agent.now) }

/-- What a loop serves is told by what waits for it. -/
theorem serve_eq_some_iff : l.serve = some l' ↔ l.exit = none ∧ Serves l l' := by
  rw [serve_eq]
  constructor
  · intro h
    obtain ⟨p, hp, rfl⟩ := Option.map_eq_some_iff.mp h
    obtain ⟨hexit, hc⟩ := pick?_eq_some_iff.mp hp
    refine ⟨hexit, ?_⟩
    cases hc with
    | @command c cs hc =>
      have htail : l.commands.items.tail = cs := by rw [hc]; rfl
      show Serves l ((l.withCommands l.commands.items.tail).serveCommand c)
      rw [htail]
      exact .command hc
    | abandoned hended => exact .abandoned hended
    | @item x xs hx hu =>
      have htail : l.channel.items.tail = xs := by rw [hx]; rfl
      show Serves l ((l.withItems l.channel.items.tail).serveItem x)
      rw [htail]
      exact .item hx hu
    | cut hx hclosed hu => exact .cut hx hclosed hu
    | @event e es he hu =>
      have htail : l.events.items.tail = es := by rw [he]; rfl
      show Serves l ((l.withEvents l.events.items.tail).serveEvent e)
      rw [htail]
      exact .event he hu
    | tick he hu ht => exact .tick he hu ht
  · rintro ⟨hexit, h⟩
    have hpick : ∀ p, Chooses l p → l.pick?.map (fun p => (l.take p).act p) =
        some ((l.take p).act p) := fun p hp => by
      rw [pick?_eq_some_iff.mpr ⟨hexit, hp⟩]
      rfl
    cases h with
    | @command c cs hc =>
      have htail : l.commands.items.tail = cs := by rw [hc]; rfl
      exact htail ▸ hpick _ (.command hc)
    | abandoned hended => exact hpick _ (.abandoned hended)
    | @item x xs hx hu =>
      have htail : l.channel.items.tail = xs := by rw [hx]; rfl
      exact htail ▸ hpick _ (.item hx hu)
    | cut hx hclosed hu => exact hpick _ (.cut hx hclosed hu)
    | @event e es he hu =>
      have htail : l.events.items.tail = es := by rw [he]; rfl
      exact htail ▸ hpick _ (.event he hu)
    | tick he hu ht => exact hpick _ (.tick he hu ht)

theorem serve_serves (h : l.serve = some l') : Serves l l' := (serve_eq_some_iff.mp h).2

/-- A frame means one move or none. -/
theorem dispatch_move (a : Agent) (f : Bytes) :
    a.dispatch f = a ∨ ∃ m mv, Agent.moveOf? m = some mv ∧ a.dispatch f = a.after mv := by
  unfold Agent.dispatch
  split
  next m _ =>
    by_cases hr : ∀ r, m.recipient? = some r → r = a.localId
    · rw [Agent.route_addressed hr]
      cases hmv : Agent.moveOf? m with
      | none => exact .inl rfl
      | some mv => exact .inr ⟨m, mv, hmv, rfl⟩
    · simp only [Classical.not_forall] at hr
      obtain ⟨r, hr, hne⟩ := hr
      rw [Agent.route_misaddressed hr hne]
      exact .inl rfl
  next => exact .inl rfl

/-- An event means one move, which does nothing without a session. -/
theorem applyEvent_move (a : Agent) (e : PeerEvent) :
    ∃ m : Agent.Move, m.needsSession = true ∧ (a.applyEvent e).2 = a.after m := by
  obtain ⟨r, x⟩ := e
  cases x with
  | candidate c => exact ⟨.localCandidate r c, rfl, rfl⟩
  | track s => exact ⟨.remoteStream r s, rfl, rfl⟩
  | link s => exact ⟨.linkState r s, rfl, rfl⟩

theorem Serves.exists_moves (h : Serves l l') : ∃ ms, l'.agent = l.agent.run ms := by
  cases h with
  | @command c cs =>
    cases c with
    | mediaReady tracks => exact ⟨[.mediaReady tracks], rfl⟩
    | startCall call => exact ⟨[.startCall], rfl⟩
    | hangUp => exact ⟨[.hangUp], rfl⟩
  | abandoned => exact ⟨[.hangUp], rfl⟩
  | @item x xs =>
    cases x with
    | opened => exact ⟨[.requestConnect], rfl⟩
    | frame f =>
      rcases dispatch_move l.agent f with hsame | ⟨_, mv, -, hmv⟩
      · exact ⟨[], hsame⟩
      · exact ⟨[mv], hmv⟩
    | closed reason => exact ⟨[.channelLost reason], rfl⟩
  | cut => exact ⟨[.channelLost none], rfl⟩
  | @event e es =>
    obtain ⟨m, -, hm⟩ := applyEvent_move l.agent e
    exact ⟨[m], hm⟩
  | tick => exact ⟨[.expire l.agent.now], rfl⟩

/-- Whatever happens, the agent makes moves. -/
theorem exists_moves (l : Loop) (h : Happening) : ∃ ms, (l.after h).agent = l.agent.run ms := by
  cases h with
  | serve =>
    cases hs : l.serve with
    | none => exact ⟨[], by rw [after, hs]; rfl⟩
    | some l' =>
      obtain ⟨ms, hms⟩ := (serve_serves hs).exists_moves
      exact ⟨ms, by rw [after, hs]; exact hms⟩
  | advance t => exact ⟨[.advance t], rfl⟩
  | behave b => exact ⟨[.behave b], rfl⟩
  | mute => exact ⟨[.mute], rfl⟩
  | _ => exact ⟨[], rfl⟩

theorem sound_after (hl : l.agent.Sound) (h : Happening) : (l.after h).agent.Sound := by
  obtain ⟨ms, hms⟩ := l.exists_moves h
  rw [hms]
  exact hl.run ms

/-- What comes from outside does not concern the sessions. -/
theorem after_outside (l : Loop) {h : Happening} (hh : h ≠ .serve) :
    Agent.Echoes l.agent (l.after h).agent ∧ (l.after h).exit = l.exit ∧
      (l.after h).channel.items = l.channel.items ++ l.admits h := by
  cases h with
  | serve => exact absurd rfl hh
  | item x =>
    refine ⟨.refl _, rfl, ?_⟩
    show (l.channel.push x).2.items = l.channel.items ++ if l.channel.isOpen then [x] else []
    unfold Queue.push
    cases l.channel.isOpen <;> simp
  | advance t => exact ⟨Agent.echoes l.agent (.advance t), rfl, (List.append_nil _).symm⟩
  | behave b => exact ⟨Agent.echoes l.agent (.behave b), rfl, (List.append_nil _).symm⟩
  | mute => exact ⟨Agent.echoes l.agent .mute, rfl, (List.append_nil _).symm⟩
  | _ => exact ⟨.refl _, rfl, (List.append_nil _).symm⟩

/-! ### How the stream begins -/

/-- The beginning of the stream does not change any more: the client has announced itself, or it can
say nothing, or the loop has ended. -/
inductive Decided (id : String) (l : Loop) : Prop
  | announced {rest : List Message} : l.agent.outbox.sent = .clientConnect id :: rest → Decided id l
  | mute : l.agent.outbox.isOpen = false → l.agent.outbox.sent = [] → Decided id l
  | ended : l.exit.isSome →
    l.agent.outbox.sent = [] ∨ l.agent.outbox.sent = [.clientDisconnect id] → Decided id l

/-- Nothing of the channel has been served. -/
structure Unopened (id : String) (a : Agent) : Prop where
  vacant : a.Vacant
  phase : a.phase = .idle
  localId : a.localId = id
  unsaid : a.outbox.sent = []

theorem mute_run {a : Agent} (ha : a.Sound) (ms : List Agent.Move)
    (ho : a.outbox.isOpen = false) :
    (a.run ms).outbox.isOpen = false ∧ (a.run ms).outbox.sent = a.outbox.sent := by
  induction ms generalizing a with
  | nil => exact ⟨ho, rfl⟩
  | cons m ms ih =>
    obtain ⟨-, hopen, hsent⟩ := Agent.perform_utterance ha m
    have ho' : (a.after m).outbox.isOpen = false := by
      rw [← Bool.not_eq_true] at ho ⊢
      exact fun h => ho (hopen h)
    have hsame : (a.after m).outbox.sent = a.outbox.sent := by
      rcases hsent with hsilent | ⟨h, -⟩
      · exact hsilent
      · rw [ho] at h
        cases h
    obtain ⟨hclosed, hlater⟩ := ih (ha.after m) ho'
    exact ⟨hclosed, hlater.trans hsame⟩

theorem Decided.after (hd : Decided id l) (hl : l.agent.Sound) (h : Happening) :
    Decided id (l.after h) := by
  obtain ⟨ms, hms⟩ := l.exists_moves h
  cases hd with
  | announced hsent =>
    obtain ⟨more, hmore⟩ := hl.sent_grows ms
    rw [← hms, hsent] at hmore
    exact .announced hmore.symm
  | mute ho hsent =>
    obtain ⟨hclosed, hsame⟩ := mute_run hl ms ho
    rw [← hms] at hclosed hsame
    exact .mute hclosed (hsame.trans hsent)
  | ended hexit hsent =>
    by_cases hh : h = .serve
    · have hnone : l.serve = none := by
        unfold serve
        rw [if_pos hexit]
      subst hh
      rw [Loop.after, hnone]
      exact .ended hexit hsent
    · obtain ⟨hecho, hsame, -⟩ := l.after_outside hh
      rw [← hsame] at hexit
      rw [← hecho.sent] at hsent
      exact .ended hexit hsent

theorem Unopened.echo {a b : Agent} (ha : Unopened id a) (hb : Agent.Echoes a b) :
    Unopened id b where
  vacant := hb.vacant ha.vacant
  phase := hb.phase.trans ha.phase
  localId := hb.localId.trans ha.localId
  unsaid := hb.sent.trans ha.unsaid

theorem Unopened.after {a : Agent} (ha : Unopened id a) {m : Agent.Move}
    (hm : m.needsSession = true) : Unopened id (a.after m) := by
  rw [ha.vacant.after hm]
  exact ha.echo (Agent.echoes a m)

/-- The user leaves before the channel has opened. -/
theorem Unopened.leave (hu : Unopened id l.agent) (hl : l.agent.Sound) : Decided id l.leave := by
  have hopen : l.agent.phase ≠ .closed := by
    rw [hu.phase]
    simp
  have hsaid := (hl.dissolved hopen).farewell
  rw [hu.unsaid, List.nil_append, hu.localId] at hsaid
  refine .ended rfl ?_
  show l.agent.hangUp.outbox.sent = [] ∨ l.agent.hangUp.outbox.sent = _
  rw [hsaid]
  cases l.agent.outbox.isOpen with
  | true => exact .inr rfl
  | false => exact .inl rfl

/-- The channel is lost before it has opened. -/
theorem Unopened.lose (hu : Unopened id l.agent) (reason : Option String) :
    Decided id (l.lose reason) := by
  refine .ended rfl (.inl ?_)
  show (l.agent.channelLost reason).outbox.sent = []
  unfold Agent.channelLost
  rw [if_neg (by simp [hu.phase])]
  exact hu.unsaid

/-- The channel opens. -/
theorem Unopened.opened (hu : Unopened id l.agent) : Decided id (l.serveItem .opened) := by
  show Decided id { l with agent := l.agent.requestConnect.2 }
  unfold Agent.requestConnect
  rw [if_neg (by simp [hu.phase]), Agent.send?_eq]
  cases ho : l.agent.outbox.isOpen with
  | true =>
    have hsent : l.agent.outbox.sent ++ [.clientConnect l.agent.localId] = [.clientConnect id] := by
      rw [hu.unsaid, hu.localId]
      rfl
    exact .announced hsent
  | false => exact .mute ho hu.unsaid

/-- What a loop serves before its channel has opened. -/
theorem Unopened.serves (hu : Unopened id l.agent) (hl : l.agent.Sound) (hs : Serves l l')
    (hfirst : ∀ x xs, l.channel.items = x :: xs → x = .opened) :
    Decided id l' ∨ Unopened id l'.agent ∧ l'.channel = l.channel := by
  cases hs with
  | @command c cs =>
    cases c with
    | mediaReady tracks => exact .inr ⟨hu.after (m := .mediaReady tracks) rfl, rfl⟩
    | startCall call => exact .inr ⟨hu.after (m := .startCall) rfl, rfl⟩
    | hangUp => exact .inl (Unopened.leave (l := l.withCommands cs) hu hl)
  | abandoned => exact .inl (hu.leave hl)
  | @item x xs hx =>
    obtain rfl := hfirst x xs hx
    exact .inl (Unopened.opened (l := l.withItems xs) hu)
  | cut => exact .inl (hu.lose none)
  | @event e es =>
    obtain ⟨m, hm, hafter⟩ := applyEvent_move l.agent e
    refine .inr ⟨?_, rfl⟩
    show Unopened id (l.agent.applyEvent e).2
    rw [hafter]
    exact hu.after hm
  | tick => exact .inr ⟨hu.after (m := .expire l.agent.now) rfl, rfl⟩

/-- One happening, before the channel has opened. -/
theorem Unopened.step (hu : Unopened id l.agent) (hl : l.agent.Sound) (h : Happening)
    {later : List ChannelItem}
    (hfirst : ∀ x, (l.channel.items ++ (l.admits h ++ later)).head? = some x → x = .opened) :
    Decided id (l.after h) ∨ Unopened id (l.after h).agent ∧
      (l.after h).channel.items ++ later = l.channel.items ++ (l.admits h ++ later) := by
  by_cases hh : h = .serve
  · subst hh
    cases hs : l.serve with
    | none =>
      rw [Loop.after, hs]
      exact .inr ⟨hu, rfl⟩
    | some l' =>
      have hserved : l.after .serve = l' := by
        rw [Loop.after, hs]
        rfl
      rw [hserved]
      rcases hu.serves hl (serve_serves hs) fun x xs hx => hfirst x (by rw [hx]; rfl) with
        hd | ⟨hu', hsame⟩
      · exact .inl hd
      · exact .inr ⟨hu', by rw [hsame]; rfl⟩
  · obtain ⟨hecho, -, hitems⟩ := l.after_outside hh
    exact .inr ⟨hu.echo hecho, by rw [hitems, List.append_assoc]⟩

/-- A stream of messages that is empty, or only a farewell, or begins with the announcement. -/
def Introduced (id : String) (sent : List Message) : Prop :=
  sent = [] ∨ sent = [.clientDisconnect id] ∨ ∃ rest, sent = .clientConnect id :: rest

theorem Decided.introduced (hd : Decided id l) : Introduced id l.agent.outbox.sent := by
  cases hd with
  | announced hsent => exact .inr (.inr ⟨_, hsent⟩)
  | mute _ hsent => exact .inl hsent
  | ended _ hsent => exact hsent.imp_right .inl

theorem Decided.run (hd : Decided id l) (hl : l.agent.Sound) (course : List Happening) :
    Introduced id (l.run course).agent.outbox.sent := by
  induction course generalizing l with
  | nil => exact hd.introduced
  | cons h course ih => exact ih (hd.after hl h) (sound_after hl h)

theorem Unopened.run (hu : Unopened id l.agent) (hl : l.agent.Sound) (course : List Happening)
    (hfirst : ∀ x, (l.channel.items ++ l.arrivals course).head? = some x → x = .opened) :
    Introduced id (l.run course).agent.outbox.sent := by
  induction course generalizing l with
  | nil => exact .inl hu.unsaid
  | cons h course ih =>
    rcases hu.step hl h hfirst with hd | ⟨hu', hsame⟩
    · exact hd.run (sound_after hl h) course
    · refine ih hu' (sound_after hl h) fun x hx => hfirst x ?_
      rwa [hsame] at hx

end Loop

/-- What a client says in a run is as `Outbound` tells, whatever moves are made; and where a loop
makes them and the first item of its channel says that it has opened, the stream is empty, or only a
farewell, or begins with the announcement. -/
theorem outbound_run (localId : String) (timeout : Option Nat) (tracks : List Track)
    (behaviour : Behaviour) (now : Nat) :
    let a := Agent.fresh localId timeout tracks (.fresh behaviour) now
    (∀ history, Agent.Outbound a history) ∧
    ∀ commands channel events callers course,
      let l := Loop.start a commands channel events callers
      (∀ x, (channel.items ++ l.arrivals course).head? = some x → x = .opened) →
      Loop.Introduced localId (l.run course).agent.outbox.sent := by
  intro a
  have ha : a.Sound := Agent.sound_fresh localId timeout tracks behaviour now
  refine ⟨ha.outbound rfl, fun commands channel events callers course hfirst => ?_⟩
  have hu : Loop.Unopened localId a := ⟨⟨rfl, fun _ => rfl⟩, rfl, rfl, rfl⟩
  exact Loop.Unopened.run (l := .start a commands channel events callers) hu ha course hfirst

/-- A call waits when the channel opens, and the user hangs up then. -/
theorem outbound_run_hangUp :
    let a := Agent.fresh "a" none [] (.fresh {}) 0
    let l := Loop.start a ⟨true, [.startCall 0]⟩ ⟨true, [.opened]⟩ .fresh []
    let sent := (l.run [.serve, .serve, .command .hangUp, .serve]).agent.outbox.sent
    Loop.Introduced "a" sent ∧ sent = [.clientConnect "a", .clientDisconnect "a"] := by
  intro a l sent
  refine ⟨(outbound_run "a" none [] {} 0).2 _ _ _ _ _ fun x hx => ?_, by decide⟩
  exact (Option.some.inj hx).symm

end CallSignaling
