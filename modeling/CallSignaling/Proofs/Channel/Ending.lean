import CallSignaling.Proofs.Channel.Course

/-!
# Ending — how a loop comes to its end

Main statement: `ending_run`.  A loop ends by serving one of four things (`Loop.Ending`), whatever
else it has served before.  Until then its agent makes no move that ends it (`Loop.run_endless`), so
the last item is what closes the agent, says the farewell or reports the loss; and a closed agent
has no session left, so that every transport was closed (`Agent.Cleared`).
-/

namespace CallSignaling

namespace Agent

/-- Nothing is left of an agent's calls: each transport it has had was closed once. -/
structure Cleared (a : Agent) : Prop where
  phase : a.phase = .closed
  active : a.active = none
  vacant : a.registry.isEmpty = true
  closed : ∀ i t, a.transport? i = some t → t.ClosedOnce

variable {a : Agent} {m : Move}

theorem Sound.cleared (ha : a.Sound) (hp : a.phase = .closed) : a.Cleared := by
  have hended := ha.posture.ended hp
  refine ⟨hp, hended.active, isEmpty_of_lookup hended.lookup, fun i t ht => ?_⟩
  rcases ha.lines.owned.disposed i t ht with ⟨-, -, ⟨s, hs, -⟩, -⟩ | ⟨hclosed, -⟩
  · rw [session?_eq_line?, line?_eq_none_iff.mpr (hended.lookup t.remote)] at hs
    cases hs
  · exact hclosed

/-- Hanging up says the farewell, if the way out is open. -/
theorem hangUp_says (ho : a.phase ≠ .closed) :
    a.hangUp.notices = a.notices ∧
      a.hangUp.outbox = { a.outbox with
        sent := a.outbox.sent ++
          if a.outbox.isOpen then [.clientDisconnect a.localId] else [] } := by
  unfold hangUp
  rw [if_neg ho, send?_eq]
  cases hout : a.outbox.isOpen with
  | true => exact ⟨rfl, congrArg (Outbox.mk · _) hout.symm⟩
  | false => exact ⟨rfl, congrArg (Outbox.mk a.outbox.isOpen) (List.append_nil _).symm⟩

/-- The loss of the channel is reported, and nothing is said. -/
theorem channelLost_says (ho : a.phase ≠ .closed) (reason : Option String) :
    (a.channelLost reason).outbox = a.outbox ∧
      (a.channelLost reason).notices = a.notices ++ [.fatal (channelClosedText reason)] := by
  unfold channelLost
  rw [if_neg ho]
  exact ⟨rfl, rfl⟩

/-- An agent that makes no move that ends it stays open, and says no farewell. -/
theorem Sound.run_endless (ha : a.Sound) (hp : a.phase ≠ .closed) (hnone : a.outbox.sent = [])
    {ms : List Move} (hms : ∀ m ∈ ms, m.ends = false) :
    (a.run ms).phase ≠ .closed ∧ ∀ d, .clientDisconnect d ∉ (a.run ms).outbox.sent := by
  constructor
  · clear hnone
    induction ms generalizing a with
    | nil => exact hp
    | cons m ms ih =>
      have hfirst : (a.after m).phase ≠ .closed :=
        (perform_deed ha m).ne_closed (hms m List.mem_cons_self) hp
      exact ih (ha.after m) hfirst fun n hn => hms n (List.mem_cons_of_mem m hn)
  · intro d hd
    obtain ⟨pre, post, hsent⟩ := List.append_of_mem hd
    obtain ⟨before, m, later, rfl, -, -, hm⟩ := ha.exists_said ms hsent (by simp [hnone])
    have hends : m.ends = true := by
      cases hm with
      | disconnect => rfl
    have hstays := hms m (List.mem_append_right before List.mem_cons_self)
    rw [hends] at hstays
    cases hstays

/-- No message ends an agent. -/
theorem ends_of_moveOf? {x : Message} (hm : moveOf? x = some m) : m.ends = false := by
  cases x <;> cases hm <;> rfl

end Agent

namespace Loop

/-- The items with which a loop can end, each with what it makes of the loop. -/
inductive Ending (l : Loop) : LoopExit → Loop → Prop
  | hungUp {cs : List Command} : l.commands.items = .hangUp :: cs →
    Ending l .localDisconnect (l.withCommands cs).leave
  /-- The queue of the commands has ended. -/
  | abandoned : l.commandsEnded = true → Ending l .localDisconnect l.leave
  | closed {reason : Option String} {xs : List ChannelItem} :
    l.channel.items = .closed reason :: xs → l.Unbidden →
    Ending l .channelClosed ((l.withItems xs).lose reason)
  /-- The queue of the channel has ended. -/
  | cut : l.channel.items = [] → l.channel.isOpen = false → l.Unbidden →
    Ending l .channelClosed (l.lose none)

/-- The channel is gone, for the reason that its last item gives or for none. -/
def LostFor (l : Loop) (reason : Option String) : Prop :=
  (∃ xs, l.channel.items = .closed reason :: xs) ∨
    l.channel.items = [] ∧ l.channel.isOpen = false ∧ reason = none

/-- How a loop that began with an agent has ended with its last item. -/
structure Returned (first : Agent) (l : Loop) (x : LoopExit) (l' : Loop) : Prop where
  ending : Ending l x l'
  cleared : l'.agent.Cleared
  /-- The agent had made no move yet that ends it, and had said no farewell. -/
  endless : ∃ ms, l.agent = first.run ms ∧ ∀ m ∈ ms, m.ends = false
  unsaid : ∀ d, .clientDisconnect d ∉ l.agent.outbox.sent
  left : x = .localDisconnect → l'.agent.notices = l.agent.notices ∧
    l'.agent.outbox = { l.agent.outbox with
      sent := l.agent.outbox.sent ++
        if l.agent.outbox.isOpen then [.clientDisconnect first.localId] else [] }
  lost : x = .channelClosed → ∃ reason, l.LostFor reason ∧ l'.agent.outbox = l.agent.outbox ∧
    l'.agent.notices = l.agent.notices ++ [.fatal (Agent.channelClosedText reason)]

variable {l l' : Loop} {x : LoopExit} {course : List Happening}

/-! ### The last item -/

/-- A loop that serves an item ends with it exactly if it is one of the four. -/
theorem serve_ends_iff :
    l.serve = some l' ∧ l'.exit = some x ↔ l.exit = none ∧ Ending l x l' := by
  rw [serve_eq_some_iff]
  constructor
  · rintro ⟨⟨hexit, hs⟩, hx⟩
    refine ⟨hexit, ?_⟩
    cases hs with
    | @command c cs hc =>
      cases c with
      | hangUp =>
        obtain rfl : LoopExit.localDisconnect = x := Option.some.inj hx
        exact .hungUp hc
      | _ => exact absurd (hexit.symm.trans hx) nofun
    | abandoned hended =>
      obtain rfl : LoopExit.localDisconnect = x := Option.some.inj hx
      exact .abandoned hended
    | @item i xs hi hu =>
      cases i with
      | closed reason =>
        obtain rfl : LoopExit.channelClosed = x := Option.some.inj hx
        exact .closed hi hu
      | _ => exact absurd (hexit.symm.trans hx) nofun
    | cut hi hclosed hu =>
      obtain rfl : LoopExit.channelClosed = x := Option.some.inj hx
      exact .cut hi hclosed hu
    | event => exact absurd (hexit.symm.trans hx) nofun
    | tick => exact absurd (hexit.symm.trans hx) nofun
  · rintro ⟨hexit, he⟩
    cases he with
    | hungUp hc => exact ⟨⟨hexit, .command hc⟩, rfl⟩
    | abandoned hended => exact ⟨⟨hexit, .abandoned hended⟩, rfl⟩
    | closed hi hu => exact ⟨⟨hexit, .item hi hu⟩, rfl⟩
    | cut hi hclosed hu => exact ⟨⟨hexit, .cut hi hclosed hu⟩, rfl⟩

/-- What the last item makes of the agent. -/
theorem Ending.agent (he : Ending l x l') :
    x = .localDisconnect ∧ l'.agent = l.agent.hangUp ∨
      x = .channelClosed ∧ ∃ reason, l.LostFor reason ∧
        l'.agent = l.agent.channelLost reason := by
  cases he with
  | hungUp => exact .inl ⟨rfl, rfl⟩
  | abandoned => exact .inl ⟨rfl, rfl⟩
  | @closed reason xs hi => exact .inr ⟨rfl, reason, .inl ⟨xs, hi⟩, rfl⟩
  | cut hi hclosed => exact .inr ⟨rfl, none, .inr ⟨hi, hclosed, rfl⟩, rfl⟩

/-! ### Before the last item -/

/-- An item after which the loop goes on makes no move that ends the agent. -/
theorem Serves.moves_endless (hs : Serves l l') (hx : l'.exit = none) :
    ∃ ms, l'.agent = l.agent.run ms ∧ ∀ m ∈ ms, m.ends = false := by
  have hone : ∀ m : Agent.Move, m.ends = false → ∀ n ∈ [m], n.ends = false := fun m hm n hn => by
    obtain rfl := List.mem_singleton.mp hn
    exact hm
  cases hs with
  | @command c cs =>
    cases c with
    | mediaReady tracks => exact ⟨[.mediaReady tracks], rfl, hone _ rfl⟩
    | startCall call => exact ⟨[.startCall], rfl, hone _ rfl⟩
    | hangUp => cases hx
  | abandoned => cases hx
  | @item i xs =>
    cases i with
    | opened => exact ⟨[.requestConnect], rfl, hone _ rfl⟩
    | frame f =>
      rcases dispatch_move l.agent f with hsame | ⟨_, mv, hof, hmv⟩
      · exact ⟨[], hsame, nofun⟩
      · exact ⟨[mv], hmv, hone mv (Agent.ends_of_moveOf? hof)⟩
    | closed reason => cases hx
  | cut => cases hx
  | @event e es =>
    obtain ⟨m, hneeds, hm⟩ := applyEvent_move l.agent e
    have hends : m.ends = false := by
      cases m with
      | hangUp | channelLost => cases hneeds
      | _ => rfl
    exact ⟨[m], hm, hone m hends⟩
  | tick => exact ⟨[.expire l.agent.now], rfl, hone _ rfl⟩

/-- While the loop goes on, no move ends the agent. -/
theorem after_endless (h : Happening) (hx : (l.after h).exit = none) :
    ∃ ms, (l.after h).agent = l.agent.run ms ∧ ∀ m ∈ ms, m.ends = false := by
  cases h with
  | serve =>
    cases hs : l.serve with
    | none => exact ⟨[], by rw [after, hs]; rfl, nofun⟩
    | some l' =>
      rw [after, hs] at hx ⊢
      exact (serve_serves hs).moves_endless hx
  | advance t => exact ⟨[.advance t], rfl, by simp [Agent.Move.ends]⟩
  | behave b => exact ⟨[.behave b], rfl, by simp [Agent.Move.ends]⟩
  | mute => exact ⟨[.mute], rfl, by simp [Agent.Move.ends]⟩
  | _ => exact ⟨[], rfl, nofun⟩

/-- A loop that has ended serves nothing. -/
theorem serve_of_exit (hx : l.exit = some x) : l.serve = none := by
  unfold serve
  rw [if_pos (by simp [hx])]

/-- A loop that has ended stays so. -/
theorem exit_after (h : Happening) (hx : l.exit = some x) : (l.after h).exit = some x := by
  by_cases hh : h = .serve
  · subst hh
    rw [after, serve_of_exit hx]
    exact hx
  · exact (l.after_outside hh).2.1.trans hx

theorem exit_run (hx : l.exit = some x) (course : List Happening) :
    (l.run course).exit = some x := by
  induction course generalizing l with
  | nil => exact hx
  | cons h course ih => exact ih (exit_after h hx)

theorem run_endless (hx : (l.run course).exit = none) :
    ∃ ms, (l.run course).agent = l.agent.run ms ∧ ∀ m ∈ ms, m.ends = false := by
  induction course generalizing l with
  | nil => exact ⟨[], rfl, nofun⟩
  | cons h course ih =>
    have hfirst : (l.after h).exit = none := by
      cases hy : (l.after h).exit with
      | none => rfl
      | some y => exact absurd (hx.symm.trans (exit_run hy course)) nofun
    obtain ⟨ms, hms, hends⟩ := after_endless h hfirst
    obtain ⟨more, hmore, hmoreEnds⟩ := ih (l := l.after h) hx
    refine ⟨ms ++ more, ?_, fun m hm => ?_⟩
    · rw [Agent.run_append, ← hms]
      exact hmore
    · rcases List.mem_append.mp hm with h | h
      · exact hends m h
      · exact hmoreEnds m h

/-- A loop that has ended has done so by serving an item. -/
theorem exists_last (hl : l.exit = none) (hx : (l.run course).exit = some x) :
    ∃ before later, course = before ++ .serve :: later ∧ (l.run before).exit = none ∧
      Ending (l.run before) x ((l.run before).after .serve) := by
  induction course generalizing l with
  | nil => exact absurd (hl.symm.trans hx) nofun
  | cons h course ih =>
    cases hy : (l.after h).exit with
    | none =>
      obtain ⟨before, later, rfl, hrunning, hending⟩ := ih hy hx
      exact ⟨h :: before, later, rfl, hrunning, hending⟩
    | some y =>
      obtain rfl : y = x := Option.some.inj ((exit_run hy course).symm.trans hx)
      -- nothing from outside ends a loop, so what has ended it is an item that was served
      have hh : h = .serve := Classical.byContradiction fun hne => by
        have hsame := (l.after_outside hne).2.1
        exact absurd (hl.symm.trans (hsame.symm.trans hy)) nofun
      subst hh
      refine ⟨[], course, rfl, hl, ?_⟩
      cases hs : l.serve with
      | none =>
        rw [after, hs] at hy
        exact absurd (hl.symm.trans hy) nofun
      | some l' =>
        have hafter : l.after .serve = l' := by
          rw [after, hs]
          rfl
        rw [hafter] at hy
        show Ending l y (l.after .serve)
        rw [hafter]
        exact (serve_ends_iff.mp ⟨hs, hy⟩).2

/-- A loop that has ended does nothing to its agent any more. -/
theorem echoes_run (hx : l.exit = some x) (course : List Happening) :
    Agent.Echoes l.agent (l.run course).agent := by
  induction course generalizing l with
  | nil => exact .refl _
  | cons h course ih =>
    have hlater := ih (exit_after h hx)
    by_cases hh : h = .serve
    · subst hh
      rw [after, serve_of_exit hx] at hlater
      show Agent.Echoes l.agent ((l.after .serve).run course).agent
      rw [after, serve_of_exit hx]
      exact hlater
    · exact (l.after_outside hh).1.trans hlater

/-! ### The whole course -/

/-- A loop whose agent has said nothing before it. -/
theorem Ending.returned {first : Agent} {ms : List Agent.Move} (he : Ending l x l')
    (hfirst : first.Sound) (hopen : first.phase ≠ .closed) (hnone : first.outbox.sent = [])
    (hl : l.agent = first.run ms) (hms : ∀ m ∈ ms, m.ends = false) : Returned first l x l' := by
  have ha : l.agent.Sound := by
    rw [hl]
    exact hfirst.run ms
  obtain ⟨hgoing, hunsaid⟩ : l.agent.phase ≠ .closed ∧
      ∀ d, .clientDisconnect d ∉ l.agent.outbox.sent := by
    rw [hl]
    exact hfirst.run_endless hopen hnone hms
  have hid : l.agent.localId = first.localId := by
    rw [hl]
    exact hfirst.run_localId ms
  rcases he.agent with ⟨rfl, hagent⟩ | ⟨rfl, reason, hlost, hagent⟩
  · have hcleared : l'.agent.Cleared := by
      rw [hagent]
      exact (ha.after .hangUp).cleared (Agent.phase_hangUp l.agent)
    refine ⟨he, hcleared, ⟨ms, hl, hms⟩, hunsaid, fun _ => ?_, nofun⟩
    rw [hagent, ← hid]
    exact Agent.hangUp_says hgoing
  · have hcleared : l'.agent.Cleared := by
      rw [hagent]
      exact (ha.after (.channelLost reason)).cleared (Agent.phase_channelLost l.agent reason)
    refine ⟨he, hcleared, ⟨ms, hl, hms⟩, hunsaid, nofun, fun _ => ⟨reason, hlost, ?_⟩⟩
    rw [hagent]
    exact Agent.channelLost_says hgoing reason

end Loop

/-- A loop on a fresh agent that has ended, whatever was queued, has arrived and was served, ended
with one of the four last items: the agent is cleared, and the farewell or the report of the loss is
the last thing that the client has said. -/
theorem ending_run (localId : String) (timeout : Option Nat) (tracks : List Track)
    (behaviour : Behaviour) (now : Nat) (commands : Queue Command) (channel : Queue ChannelItem)
    (events : Queue PeerEvent) (callers : List Nat) (course : List Loop.Happening)
    (x : LoopExit) :
    let a := Agent.fresh localId timeout tracks (.fresh behaviour) now
    let l := Loop.start a commands channel events callers
    (l.run course).exit = some x →
    ∃ before later, course = before ++ .serve :: later ∧ (l.run before).exit = none ∧
      Loop.Returned a (l.run before) x ((l.run before).after .serve) ∧
      Agent.Echoes ((l.run before).after .serve).agent (l.run course).agent := by
  intro a l hx
  have ha : a.Sound := Agent.sound_fresh localId timeout tracks behaviour now
  obtain ⟨before, later, rfl, hrunning, hending⟩ := Loop.exists_last (l := l) rfl hx
  obtain ⟨ms, hagent, hms⟩ := Loop.run_endless hrunning
  have hreturned := hending.returned ha nofun rfl hagent hms
  refine ⟨before, later, rfl, hrunning, hreturned, ?_⟩
  have hsplit : l.run (before ++ .serve :: later) = ((l.run before).after .serve).run later := by
    unfold Loop.run
    rw [List.foldl_append, List.foldl_cons]
  rw [hsplit]
  exact Loop.echoes_run (Loop.serve_ends_iff.mpr ⟨hrunning, hending⟩).2 later

/-- A peer calls and is answered, and the channel closes for a reason; the user hangs up too
late. -/
theorem ending_run_closed :
    let a := Agent.fresh "a" none [] (.fresh {}) 0
    let call := (Message.encode (.offer "b" "a" "x")).toUTF8.toList
    let l := Loop.start a .fresh ⟨true, [.opened, .frame call, .closed (some "gone")]⟩ .fresh []
    let course := [.serve, .serve, .advance 1, .serve, .command .hangUp, .serve]
    (l.run course).exit = some .channelClosed ∧ (l.run course).agent.pool.transports.length = 1 ∧
    ∃ before later, course = before ++ .serve :: later ∧ (l.run before).exit = none ∧
      Loop.Returned a (l.run before) .channelClosed ((l.run before).after .serve) ∧
      Agent.Echoes ((l.run before).after .serve).agent (l.run course).agent := by
  intro a call l course
  have hx : (l.run course).exit = some .channelClosed := by rfl
  have htransports : (l.run course).agent.pool.transports.length = 1 := by decide +kernel
  exact ⟨hx, htransports, ending_run "a" none [] {} 0 _ _ _ _ course .channelClosed hx⟩

end CallSignaling
