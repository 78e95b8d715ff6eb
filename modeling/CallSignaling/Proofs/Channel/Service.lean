import CallSignaling.Channel.Batches
import CallSignaling.Proofs.Agent.Calling
import CallSignaling.Proofs.Channel.Ending
import CallSignaling.Proofs.Channel.Turns

/-!
# Service — what becomes of everything that is queued

Main statement: `service_run`.  Whatever comes to the queues of a loop, and whenever, is served in
its order (`Lane.Conserved`) and after all that comes from more urgent sources (`Loop.Orderly`); the
wish to hang up is therefore preceded by commands only (`Loop.Parting`).  Every call that is queued
gets one answer (`Loop.Answered`).
-/

namespace CallSignaling

/-- The number of the call that a command places. -/
def Command.call? : Command → Option Nat
  | .startCall call => some call
  | _ => none

/-- Of what waits in the queue at first and what comes to it in a course, the first part is taken
up, each item once and in order, and the rest still waits. -/
def Lane.Conserved {α : Type} (lane : Lane α) (l : Loop) (course : List Loop.Beat) : Prop :=
  (lane.queue l).items ++ lane.arrivals l course =
    lane.taken l course ++ (lane.queue (l.through course)).items

namespace Loop

/-- What a loop takes up while more urgent sources have nothing for it. -/
structure Orderly (l : Loop) (p : Pick) : Prop where
  item : (∃ x, p = .item x) ∨ p = .cut → l.commands.items = []
  event : ∀ e, p = .event e → l.commands.items = [] ∧ l.channel.items = []
  tick : ∀ t, p = .tick t →
    l.commands.items = [] ∧ l.channel.items = [] ∧ l.events.items = []

/-- What a loop does in which the wish to hang up waits behind other commands: turn by turn it takes
those up, then the wish, and it has ended. -/
structure Parting (l : Loop) (ahead : List Command) (later : List Beat) : Prop where
  served : (l.served later).map Prod.snd =
    ((ahead ++ [Command.hangUp]).map Pick.command).take (turns later)
  exit : (l.through later).exit =
    if turns later ≤ ahead.length then none else some .localDisconnect

/-- The answer that is given in a turn, if a call is taken up in it. -/
def answer? : Loop × Pick → Option (Nat × Agent.Outcome)
  | (l, .command (.startCall call)) => some (call, l.agent.startCall.1)
  | _ => none

/-- The calls among the commands that wait. -/
def callsWaiting (l : Loop) : List Nat := l.commands.items.filterMap Command.call?

/-- The calls that were queued at first or in a course. -/
def callsQueued (l : Loop) (course : List Beat) : List Nat :=
  (l.commands.items ++ Lane.commands.arrivals l course).filterMap Command.call?

/-- How the calls are answered that are queued for the loop `first`. -/
structure Answered (first : Loop) (course : List Beat) : Prop where
  /-- Each answer is the outcome of a call that was performed. -/
  performed : (first.through course).replies = (first.served course).filterMap answer?
  /-- A call succeeds exactly if its offer has been sent. -/
  offered : ∀ l call, (l, .command (.startCall call)) ∈ first.served course →
    (l.agent.startCall.1 = .ok () ↔ ∃ r sdp, l.agent.startCall.2.outbox.sent =
      l.agent.outbox.sent ++ [.offer l.agent.localId r sdp])
  /-- The calls are answered in order, each once, and the others wait. -/
  once : first.callsQueued course =
    (first.through course).replies.map Prod.fst ++ (first.through course).callsWaiting
  /-- Once the loop has ended and nobody reads its commands any more, the others have an answer
  too. -/
  leftOver : (first.through course).exit.isSome →
    (Script.answerLeftOver (first.through course)).replies =
      (first.through course).replies ++
        (first.through course).callsWaiting.map fun call => (call, .error .channelClosed)
  /-- No call waits for longer than it takes to serve the commands that wait. -/
  inTime : ∀ later, (first.through course).commands.items.length ≤ turns later →
    first.callsQueued course <+:
      (Script.answerLeftOver (first.through (course ++ later))).replies.map Prod.fst

/-- What becomes of everything that is queued for the loop `first`. -/
structure Service (first : Loop) (course : List Beat) : Prop where
  /-- The course is one of the loop, in which turns take no time. -/
  plain : first.through course = first.run (course.flatMap Beat.happenings)
  commands : Lane.commands.Conserved first course
  channel : Lane.channel.Conserved first course
  events : Lane.events.Conserved first course
  orderly : ∀ l p, (l, p) ∈ first.served course → Orderly l p
  parting : (first.through course).exit = none → ∀ ahead behind,
    (first.through course).commands.items = ahead ++ .hangUp :: behind → .hangUp ∉ ahead →
    ∀ later, Parting (first.through course) ahead later
  answered : Answered first course

variable {l l' : Loop} {p : Pick} {h : Happening} {b : Beat} {course later : List Beat}
  {amid : List Happening} {x : LoopExit} {c : Command} {cs ahead behind : List Command}

theorem Chooses.orderly (hp : Chooses l p) : Orderly l p := by
  cases hp with
  | command | abandoned => exact ⟨by simp, nofun, nofun⟩
  | item _ hu => exact ⟨fun _ => hu.1, nofun, nofun⟩
  | cut _ _ hu => exact ⟨fun _ => hu.1, nofun, nofun⟩
  | event _ hu => exact ⟨by simp, fun _ _ => ⟨hu.1.1, hu.2.1⟩, nofun⟩
  | tick he hu _ => exact ⟨by simp, nofun, fun _ _ => ⟨hu.1.1, hu.2.1, he⟩⟩

/-! ### Loops that have ended -/

theorem exit_go (hx : l.exit = some x) (b : Beat) : (l.go b).exit = some x := by
  rw [go_eq]
  exact exit_run hx _

theorem exit_through (hx : l.exit = some x) (course : List Beat) :
    (l.through course).exit = some x := by
  rw [through_eq]
  exact exit_run hx _

theorem served_of_exit (hx : l.exit = some x) (course : List Beat) : l.served course = [] := by
  induction course generalizing l with
  | nil => rfl
  | cons b course ih =>
    have hlook : l.look b = [] := by
      cases b with
      | turn => exact look_of_none (pick?_of_exit hx)
      | other => rfl
    show l.look b ++ (l.go b).served course = []
    rw [hlook, ih (exit_go hx b)]
    rfl

/-! ### Commands that wait -/

/-- A turn of a loop in which a command waits. -/
theorem turn_command (hx : l.exit = none) (hc : l.commands.items = c :: cs)
    (hf : ∀ h ∈ amid, h.fills = true) :
    ∃ new, (l.turn amid).commands.items = cs ++ new ∧
      (l.turn amid).exit = if c = .hangUp then some .localDisconnect else none := by
  have hpick := pick?_of_commands hx hc
  have hamid : ∀ h ∈ amid, h ≠ .serve := fun h hm => ne_serve_of_fills (hf h hm)
  have hitems := Lane.commands.items_run (l.take (.command c)) hamid
  obtain ⟨-, hexit, -⟩ := (l.take (.command c)).run_fills hf
  rw [turn_of_pick hpick]
  refine ⟨Lane.commands.admitted (l.take (.command c)) amid, ?_, ?_⟩
  · have hrest : (l.take (.command c)).commands.items = cs := by simp [take, withCommands, hc]
    rw [(act_queues _ _).1]
    exact hitems.trans (congrArg (· ++ _) hrest)
  · have hrunning : (((l.take (.command c)).run amid)).exit = none := hexit.trans hx
    cases c with
    | hangUp => rfl
    | _ => exact hrunning

theorem parting_of_running (hx : l.exit = none)
    (hc : l.commands.items = ahead ++ .hangUp :: behind) (hno : .hangUp ∉ ahead)
    (later : List Beat) : Parting l ahead later := by
  induction later generalizing l ahead behind with
  | nil => exact ⟨rfl, hx.trans (if_pos (Nat.zero_le _)).symm⟩
  | cons b later ih =>
    cases b with
    | other h hh =>
      have hgrown := Lane.commands.grows l h hh
      change (l.after h).commands.items = l.commands.items ++ _ at hgrown
      rw [hc, List.append_assoc, List.cons_append] at hgrown
      obtain ⟨hserved, hexit⟩ := ih ((l.after_outside hh).2.1.trans hx) hgrown hno
      exact ⟨hserved, hexit⟩
    | turn amid hf =>
      cases ahead with
      | nil =>
        -- it is the turn of the wish to hang up, and there is none after it
        obtain ⟨-, -, hexit⟩ := turn_command hx hc hf
        rw [if_pos rfl] at hexit
        refine ⟨?_, exit_through hexit later⟩
        show (l.look _ ++ (l.turn amid).served later).map Prod.snd = _
        rw [look_of_pick (pick?_of_commands hx hc), served_of_exit hexit]
        simp [turns]
      | cons c ahead =>
        rw [List.mem_cons, not_or] at hno
        rw [List.cons_append] at hc
        obtain ⟨new, hitems, hexit⟩ := turn_command hx hc hf
        rw [if_neg (Ne.symm hno.1)] at hexit
        rw [List.append_assoc, List.cons_append] at hitems
        obtain ⟨hserved, hended⟩ := ih hexit hitems hno.2
        constructor
        · show (l.look _ ++ (l.turn amid).served later).map Prod.snd = _
          rw [look_of_pick (pick?_of_commands hx hc), List.map_append, hserved]
          rfl
        · refine hended.trans ?_
          simp only [turns, List.length_cons, Nat.add_le_add_iff_right]

/-- A loop that goes on takes up a command in each turn, as long as some wait. -/
theorem taken_length (hx : (l.through later).exit = none) :
    min (turns later) l.commands.items.length ≤ (Lane.commands.taken l later).length := by
  induction later generalizing l with
  | nil => exact Nat.zero_min _ ▸ Nat.zero_le _
  | cons b later ih =>
    have hrunning : l.exit = none := by
      cases hy : l.exit with
      | none => rfl
      | some y => exact absurd (hx.symm.trans (exit_through hy (b :: later))) nofun
    have hrest := ih (l := l.go b) hx
    have htaken : Lane.commands.taken l (b :: later) =
        (l.look b).filterMap (fun look => Lane.commands.takes? look.2) ++
          Lane.commands.taken (l.go b) later := List.filterMap_append
    have hconserved := congrArg List.length (Lane.commands.conserved_go l b)
    rw [List.length_append, List.length_append] at hconserved
    change l.commands.items.length + _ = _ + (l.go b).commands.items.length at hconserved
    rw [htaken, List.length_append]
    cases b with
    | other h hh =>
      change min (turns later) _ ≤ _
      have hnone : (l.look (.other h hh)).filterMap
        (fun look => Lane.commands.takes? look.2) = [] := rfl
      rw [hnone] at hconserved ⊢
      simp only [List.length_nil] at hconserved ⊢
      omega
    | turn amid hf =>
      change min (turns later + 1) _ ≤ _
      cases hc : l.commands.items with
      | nil => simp
      | cons c cs =>
        have hone : ((l.look (.turn amid hf)).filterMap
            (fun look => Lane.commands.takes? look.2)).length = 1 := by
          rw [look_of_pick (pick?_of_commands hrunning hc)]
          rfl
        rw [hone, hc] at hconserved
        rw [hone]
        omega

/-! ### Calls and their answers -/

theorem act_replies (l : Loop) (p : Pick) :
    (l.act p).replies = l.replies ++ (answer? (l, p)).toList := by
  cases p with
  | command c =>
    cases c with
    | startCall => rfl
    | _ => exact (List.append_nil _).symm
  | item x => cases x <;> exact (List.append_nil _).symm
  | _ => exact (List.append_nil _).symm

theorem answer?_congr (h : l'.agent = l.agent) (p : Pick) : answer? (l', p) = answer? (l, p) := by
  cases p with
  | command c =>
    cases c with
    | startCall call =>
      show some (call, l'.agent.startCall.1) = some (call, l.agent.startCall.1)
      rw [h]
    | _ => rfl
  | _ => rfl

theorem take_frame (l : Loop) (p : Pick) :
    (l.take p).agent = l.agent ∧ (l.take p).replies = l.replies := by
  cases p <;> exact ⟨rfl, rfl⟩

theorem go_replies (l : Loop) (b : Beat) :
    (l.go b).replies = l.replies ++ (l.look b).filterMap answer? := by
  cases b with
  | other h hh =>
    refine Eq.trans ?_ (List.append_nil _).symm
    cases h with
    | serve => exact absurd rfl hh
    | _ => rfl
  | turn amid hf =>
    show (l.turn amid).replies = _
    cases hp : l.pick? with
    | none =>
      rw [turn_of_none hp, look_of_none hp, (l.run_fills hf).2.2]
      exact (List.append_nil _).symm
    | some p =>
      obtain ⟨hagent, -, hreplies⟩ := (l.take p).run_fills hf
      obtain ⟨hagent', hreplies'⟩ := l.take_frame p
      rw [turn_of_pick hp, look_of_pick hp, act_replies, hreplies, hreplies',
        answer?_congr (hagent.trans hagent')]
      cases hanswer : answer? (l, p) <;> simp [hanswer]

theorem through_replies (l : Loop) (course : List Beat) :
    (l.through course).replies = l.replies ++ (l.served course).filterMap answer? := by
  induction course generalizing l with
  | nil => exact (List.append_nil _).symm
  | cons b course ih =>
    show ((l.go b).through course).replies = _ ++ (l.look b ++ (l.go b).served course).filterMap _
    rw [ih, go_replies, List.filterMap_append, List.append_assoc]

/-- The calls that are answered are those that are taken up. -/
theorem served_calls (l : Loop) (course : List Beat) :
    ((l.served course).filterMap answer?).map Prod.fst =
      (Lane.commands.taken l course).filterMap Command.call? := by
  unfold Lane.taken
  rw [List.map_filterMap, List.filterMap_filterMap]
  congr 1
  funext look
  obtain ⟨k, p⟩ := look
  cases p with
  | command c => cases c <;> rfl
  | _ => rfl

theorem answerLeftOver_replies (hx : l.exit.isSome) :
    (Script.answerLeftOver l).replies =
      l.replies ++ l.callsWaiting.map fun call => (call, .error .channelClosed) := by
  unfold Script.answerLeftOver callsWaiting
  rw [if_pos hx, List.map_filterMap]
  refine congrArg (l.replies ++ ·) (congrArg (fun f => l.commands.items.filterMap f) ?_)
  funext c
  cases c <;> rfl

theorem once_through (hl : l.replies = []) (course : List Beat) : l.callsQueued course =
    (l.through course).replies.map Prod.fst ++ (l.through course).callsWaiting := by
  have hconserved := congrArg (List.filterMap Command.call?) (Lane.commands.conserved l course)
  rw [List.filterMap_append (l := Lane.commands.taken l course)] at hconserved
  rw [through_replies, hl, List.nil_append, served_calls]
  exact hconserved

theorem inTime_through (hl : l.replies = []) (course later : List Beat)
    (hlong : (l.through course).commands.items.length ≤ turns later) :
    l.callsQueued course <+:
      (Script.answerLeftOver (l.through (course ++ later))).replies.map Prod.fst := by
  have hall := once_through hl (course ++ later)
  cases hx : (l.through (course ++ later)).exit with
  | some x =>
    -- all are answered that were queued before the loop ended
    have hanswered : (Script.answerLeftOver (l.through (course ++ later))).replies.map Prod.fst =
        l.callsQueued (course ++ later) := by
      rw [answerLeftOver_replies (by rw [hx]; rfl), List.map_append, List.map_map, hall]
      exact congrArg (_ ++ ·) (List.map_id _)
    rw [hanswered]
    unfold callsQueued
    rw [Lane.arrivals_append, ← List.append_assoc]
    exact (List.prefix_append _ _).filterMap _
  | none =>
    -- the commands that waited have all been taken up since
    have hsame : Script.answerLeftOver (l.through (course ++ later)) =
        l.through (course ++ later) := by
      unfold Script.answerLeftOver
      rw [if_neg (by simp [hx])]
    rw [through_append] at hx
    have htaken := taken_length hx
    rw [Nat.min_eq_right hlong] at htaken
    have hwaited : (l.through course).commands.items <+:
        Lane.commands.taken (l.through course) later := by
      have hconserved := Lane.commands.conserved (l.through course) later
      exact List.prefix_of_prefix_length_le ⟨_, hconserved⟩ (List.prefix_append _ _) htaken
    rw [hsame, through_replies, hl, List.nil_append, served_calls, Lane.taken_append]
    unfold callsQueued
    rw [show l.commands.items ++ Lane.commands.arrivals l course = _ from
      Lane.commands.conserved l course]
    exact ((List.prefix_append_right_inj _).mpr hwaited).filterMap _

theorem answered_through (hl : l.agent.Sound) (hr : l.replies = []) (course : List Beat) :
    Answered l course where
  performed := by
    rw [through_replies, hr, List.nil_append]
  offered := fun k call hm => by
    have hcalling := ((pick?_of_served hm).2 hl).calling
    constructor
    · intro hok
      obtain ⟨r, sdp, hplaced⟩ := hcalling.placed hok
      exact ⟨r, sdp, hplaced.sent⟩
    · rintro ⟨r, sdp, hsent⟩
      exact hcalling.said.mpr ⟨_, hsent⟩
  once := once_through hr course
  leftOver := answerLeftOver_replies
  inTime := inTime_through hr course

end Loop

/-- Whatever comes to the queues of a loop, before its turns, between them or in the midst of them:
nothing is lost or served twice, each source has its turn before the less urgent ones, nothing but
the commands ahead of it is served before the wish to hang up, and every call gets one answer. -/
theorem service_run (localId : String) (timeout : Option Nat) (tracks : List Track)
    (behaviour : Behaviour) (now : Nat) (history : List Agent.Move) (commands : Queue Command)
    (channel : Queue ChannelItem) (events : Queue PeerEvent) (callers : List Nat)
    (course : List Loop.Beat) :
    let a := (Agent.fresh localId timeout tracks (.fresh behaviour) now).run history
    Loop.Service (.start a commands channel events callers) course := by
  intro a
  have ha : a.Sound := Agent.sound_run localId timeout tracks behaviour now history
  exact
    { plain := Loop.through_eq _ course
      commands := Lane.commands.conserved _ course
      channel := Lane.channel.conserved _ course
      events := Lane.events.conserved _ course
      orderly := fun l p hm => (Loop.pick?_eq_some_iff.mp (Loop.pick?_of_served hm).1).2.orderly
      parting := fun hx ahead behind hc hno => Loop.parting_of_running hx hc hno
      answered := Loop.answered_through ha rfl course }

/-- The user hangs up while the channel opens: the frame that waits is not served any more. -/
example :
    let a := Agent.fresh "a" none [] (.fresh {}) 0
    let l := Loop.start a .fresh ⟨true, [.opened, .frame []]⟩ .fresh []
    (l.served [.turn [.command .hangUp] (by decide), .turn [] nofun, .turn [] nofun]).map Prod.snd =
      [.item .opened, .command .hangUp] := by decide

end CallSignaling
