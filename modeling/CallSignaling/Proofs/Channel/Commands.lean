import CallSignaling.Channel.Client
import CallSignaling.Proofs.Agent.Disguise
import CallSignaling.Proofs.Channel.Course

/-!
# Commands — what becomes of a client's commands in one happening

Main statements: `Client.step`, `Client.served`.  `Client.Goes` lists what a client can do; what
comes from outside leaves it at its stage.  In any case a command that is taken is the oldest one of
the queue, the tracks change only by a command that brings some, and the client begins to leave only
when it takes the wish to hang up or finds the queue at its end (`Client.Step`).
-/

namespace CallSignaling

/-- The tracks once a command has been taken. -/
def Command.note (tracks : List Track) : Command → List Track
  | .mediaReady new => new
  | _ => tracks

namespace Loop

variable {l l' : Loop}

/-! ### A connection and its commands -/

/-- What serving an item does to the commands and to the tracks. -/
structure Draws (l l' : Loop) : Prop where
  items : l.commands.items = l.commands.items.head?.toList ++ l'.commands.items
  tracks : l'.agent.tracks = l.commands.items.head?.toList.foldl Command.note l.agent.tracks
  leaves : l'.exit = some .localDisconnect ↔
    l.commands.items.head? = some .hangUp ∨ l.commandsEnded = true

/-- What is served where no command waits. -/
theorem draws_unbidden (hu : l.Unbidden) (hc : l'.commands = l.commands)
    (ht : l'.agent.tracks = l.agent.tracks) (hx : l'.exit ≠ some .localDisconnect) :
    Draws l l' := by
  obtain ⟨hitems, hended⟩ := hu
  refine ⟨by rw [hc, hitems]; rfl, by rw [ht, hitems]; rfl, ?_⟩
  rw [hitems, hended]
  simp [hx]

theorem Serves.draws (hs : Serves l l') (hx : l.exit = none) : Draws l l' := by
  cases hs with
  | @command c cs hc =>
    have hne : l.commandsEnded = false := by simp [commandsEnded, hc]
    refine ⟨?_, ?_, ?_⟩
    · rw [hc]
      cases c <;> rfl
    · rw [hc]
      cases c with
      | mediaReady ts => exact Agent.tracks_after l.agent (.mediaReady ts)
      | startCall n => exact Agent.tracks_after l.agent .startCall
      | hangUp => exact Agent.tracks_after l.agent .hangUp
    · rw [hc, hne]
      cases c with
      | hangUp => simp [serveCommand, leave]
      | _ => simp [serveCommand, withCommands, hx]
  | abandoned hended =>
    have hc := items_of_commandsEnded hended
    refine ⟨by rw [hc]; exact hc.symm, ?_, ?_⟩
    · rw [hc]
      exact Agent.tracks_after l.agent .hangUp
    · simp [leave, hended]
  | @item i xs hi hu =>
    cases i with
    | opened =>
      refine draws_unbidden hu rfl ?_ (by simp [serveItem, withItems, hx])
      exact Agent.tracks_after l.agent .requestConnect
    | frame f =>
      refine draws_unbidden hu rfl ?_ (by simp [serveItem, withItems, hx])
      rcases dispatch_move l.agent f with hsame | ⟨x, mv, hof, hmv⟩
      · exact congrArg Agent.tracks hsame
      · have hnone : mv.tracks? = none := by
          cases x <;> cases hof <;> rfl
        show (l.agent.dispatch f).tracks = l.agent.tracks
        rw [hmv, Agent.tracks_after, hnone]
        rfl
    | closed reason =>
      refine draws_unbidden hu rfl ?_ (by simp [serveItem, lose])
      exact Agent.tracks_after l.agent (.channelLost reason)
  | cut _ _ hu =>
    refine draws_unbidden hu rfl ?_ (by simp [lose])
    exact Agent.tracks_after l.agent (.channelLost none)
  | @event e es _ hu =>
    refine draws_unbidden hu.1 rfl ?_ (by simp [serveEvent, withEvents, hx])
    obtain ⟨r, x⟩ := e
    cases x with
    | candidate c => exact Agent.tracks_after l.agent (.localCandidate r c)
    | track s => rfl
    | link s => rfl
  | tick _ hu =>
    refine draws_unbidden hu.1 rfl ?_ (by simp [hx])
    exact Agent.tracks_after l.agent (.expire l.agent.now)

/-- A loop that goes on has nothing to serve only if no command waits and some can still come. -/
theorem unbidden_of_serve (hx : l.exit = none) (hs : l.serve = none) : l.Unbidden := by
  constructor
  · cases hc : l.commands.items with
    | nil => rfl
    | cons c cs => exact absurd (hs.symm.trans (serve_eq_some_iff.mpr ⟨hx, .command hc⟩)) nofun
  · cases he : l.commandsEnded with
    | false => rfl
    | true => exact absurd (hs.symm.trans (serve_eq_some_iff.mpr ⟨hx, .abandoned he⟩)) nofun

end Loop

namespace Client

/-! ### The commands of a client -/

/-- The commands that wait. -/
def queued (c : Client) : List Command := c.kept.commands.items

/-- The client takes commands: its connection goes on, or it waits for the next one. -/
def attends (c : Client) : Bool :=
  match c.stage with
  | .online l => l.exit.isNone
  | .waiting _ _ => true
  | _ => false

/-- The command that is taken in a happening. -/
def takes? (c : Client) : Happening → Option Command
  | .turn => if c.attends then c.queued.head? else none
  | _ => none

/-- The end of the queue is found in a happening. -/
def runsOut (c : Client) : Happening → Bool
  | .turn => c.attends && (c.queued.isEmpty && !c.kept.commands.isOpen && c.kept.callers.isEmpty)
  | _ => false

/-- The command that is queued in a happening. -/
def accepts? (c : Client) : Happening → Option Command
  | .command x => if (c.submit x).1 then some x else none
  | _ => none

/-- The user has gone: the client has ended, or it is about to leave its connection for good. -/
def Leaving (c : Client) : Prop :=
  c.exit? = some .hungUp ∨ ∃ l, c.stage = .online l ∧ l.exit = some .localDisconnect

/-- What one happening does to the commands, the tracks and the client's stay. -/
structure Step (c : Client) (h : Happening) (c' : Client) : Prop where
  queue : c'.exit? = none →
    c.queued ++ (c.accepts? h).toList = (c.takes? h).toList ++ c'.queued
  taken : (c.takes? h).toList <+: c.queued
  tracks : c'.kept.tracks = (c.takes? h).toList.foldl Command.note c.kept.tracks
  leaving : c'.Leaving ↔ c.Leaving ∨ c.takes? h = some .hangUp ∨ c.runsOut h = true

variable {c c' : Client} {h : Happening} {l : Loop} {k : Kept}

/-- A happening in which no command is taken or queued. -/
theorem Step.quiet (hq : c'.queued = c.queued) (ht : c'.kept.tracks = c.kept.tracks)
    (hl : c'.Leaving ↔ c.Leaving) (htakes : c.takes? h = none) (hruns : c.runsOut h = false)
    (haccepts : c.accepts? h = none) : Step c h c' := by
  refine ⟨fun _ => ?_, ?_, ?_, ?_⟩
  · rw [htakes, haccepts, hq]
    exact List.append_nil _
  · rw [htakes]
    exact List.nil_prefix
  · rw [htakes]
    exact ht
  · rw [htakes, hruns, hl]
    simp

theorem kept_mapKept {f : Kept → Kept} {g : Loop → Loop}
    (hfg : ∀ l, .ofLoop (g l) = f (.ofLoop l)) :
    (c.mapKept f g).kept = f c.kept := by
  obtain ⟨settings, stage⟩ := c
  cases stage with
  | online l => exact hfg l
  | _ => rfl

theorem leaving_mapKept {f : Kept → Kept} {g : Loop → Loop} (hg : ∀ l, (g l).exit = l.exit) :
    (c.mapKept f g).exit? = c.exit? ∧ ((c.mapKept f g).Leaving ↔ c.Leaving) := by
  obtain ⟨settings, stage⟩ := c
  cases stage with
  | online l =>
    refine ⟨rfl, ?_⟩
    unfold Leaving
    simp [mapKept, exit?, hg]
  | _ =>
    refine ⟨rfl, ?_⟩
    simp [Leaving, mapKept, exit?]

/-- What comes from outside, whatever the client does. -/
def Happening.outside : Happening → Bool
  | .connected | .refused | .turn | .awake => false
  | _ => true

/-- What comes from outside leaves the client at its stage. -/
theorem perform_outside (c : Client) (ho : h.outside = true) :
    ∃ f g, c.perform h = c.mapKept f g ∧ ∀ l, (g l).exit = l.exit := by
  have hsame : c = c.mapKept id id := by
    obtain ⟨settings, stage⟩ := c
    cases stage <;> rfl
  cases h with
  | command x =>
    show ∃ f g, (c.submit x).2 = c.mapKept f g ∧ _
    unfold submit
    dsimp only
    split
    · exact ⟨_, _, rfl, fun _ => rfl⟩
    · exact ⟨id, id, hsame, fun _ => rfl⟩
  | connected | refused | turn | awake => cases ho
  | _ => exact ⟨_, _, rfl, fun _ => rfl⟩

/-- What comes from outside and is no command. -/
theorem step_mapKept {f : Kept → Kept} {g : Loop → Loop} (hfg : ∀ l, .ofLoop (g l) = f (.ofLoop l))
    (hg : ∀ l, (g l).exit = l.exit) (hitems : ∀ k, (f k).commands.items = k.commands.items)
    (htracks : ∀ k, (f k).tracks = k.tracks) (htakes : c.takes? h = none)
    (hruns : c.runsOut h = false) (haccepts : c.accepts? h = none) :
    Step c h (c.mapKept f g) := by
  have hkept := kept_mapKept (c := c) hfg
  refine .quiet ?_ ?_ (leaving_mapKept hg).2 htakes hruns haccepts
  · unfold queued
    rw [hkept, hitems]
  · rw [hkept, htracks]

theorem step_command (c : Client) (x : Command) : Step c (.command x) (c.perform (.command x)) := by
  show Step c (.command x) (c.submit x).2
  have htakes : c.takes? (.command x) = none := rfl
  have hruns : c.runsOut (.command x) = false := rfl
  by_cases hopen : (c.kept.commands.isOpen && c.exit?.isNone) = true
  · have hsub : (c.submit x).1 = true := by
      unfold submit
      simp only [if_pos hopen]
    have haccepts : c.accepts? (.command x) = some x := if_pos hsub
    have hpush : (c.kept.commands.push x).2.items = c.kept.commands.items ++ [x] := by
      unfold Queue.push
      rw [if_pos (Bool.and_eq_true_iff.mp hopen).1]
    unfold submit
    simp only [if_pos hopen]
    refine ⟨fun _ => ?_, ?_, ?_, ?_⟩
    · unfold queued
      rw [kept_mapKept fun _ => rfl, haccepts, htakes, hpush]
      rfl
    · rw [htakes]
      exact List.nil_prefix
    · rw [kept_mapKept fun _ => rfl, htakes]
      rfl
    · refine Iff.trans (leaving_mapKept ?_).2 ?_
      · exact fun _ => rfl
      · rw [htakes, hruns]
        simp
  · have hsub : (c.submit x).1 = false := by
      unfold submit
      simp only [if_neg hopen]
    have haccepts : c.accepts? (.command x) = none := if_neg (by simp [hsub])
    unfold submit
    simp only [if_neg hopen]
    exact .quiet rfl rfl Iff.rfl htakes hruns haccepts

/-! ### What the client does -/

theorem takes?_online (hl : c.stage = .online l) (hx : l.exit = none) :
    c.takes? .turn = l.commands.items.head? ∧ c.runsOut .turn = l.commandsEnded := by
  obtain ⟨settings, stage⟩ := c
  obtain rfl : stage = .online l := hl
  have hattends : attends ⟨settings, .online l⟩ = true := by
    unfold attends
    simp [hx]
  unfold takes? runsOut
  rw [hattends, if_pos rfl]
  exact ⟨rfl, rfl⟩

theorem takes?_waiting {resume : Nat} (hk : c.stage = .waiting resume k) :
    c.takes? .turn = k.commands.items.head? ∧
      c.runsOut .turn = (k.commands.items.isEmpty && !k.commands.isOpen && k.callers.isEmpty) := by
  obtain ⟨settings, stage⟩ := c
  obtain rfl : stage = .waiting resume k := hk
  exact ⟨rfl, rfl⟩

/-- A client that takes no commands leaves them where they are. -/
theorem takes?_of_not_attends (ha : c.attends = false) (h : Happening) :
    c.takes? h = none ∧ c.runsOut h = false := by
  cases h with
  | turn =>
    unfold takes? runsOut
    rw [ha]
    exact ⟨rfl, rfl⟩
  | _ => exact ⟨rfl, rfl⟩

/-- How a command is served: by the session, or by the client that waits. -/
inductive Served (c : Client) : Command → Client → Prop
  | online {l : Loop} {x : Command} {rest : List Command} : c.stage = .online l →
    l.exit = none → l.commands.items = x :: rest →
    Served c x { c with stage := .online ((l.withCommands rest).serveCommand x) }
  | noted {resume : Nat} {k : Kept} {tracks : List Track} {rest : List Command} :
    c.stage = .waiting resume k → k.commands.items = .mediaReady tracks :: rest →
    Served c (.mediaReady tracks) { c with
      stage := .waiting resume { k with
        tracks := tracks, commands := { k.commands with items := rest } } }
  /-- There is no channel for a call. -/
  | refused {resume : Nat} {k : Kept} {call : Nat} {rest : List Command} :
    c.stage = .waiting resume k → k.commands.items = .startCall call :: rest →
    Served c (.startCall call) { c with
      stage := .waiting resume { k with
        replies := k.replies ++ [(call, .error .channelClosed)]
        commands := { k.commands with items := rest } } }
  | hungUp {resume : Nat} {k : Kept} {rest : List Command} :
    c.stage = .waiting resume k → k.commands.items = .hangUp :: rest →
    Served c .hangUp (c.hangUp { k with commands := { k.commands with items := rest } })

/-- What a client can do in a happening that does not come from outside. -/
inductive Goes (c : Client) : Happening → Client → Prop
  /-- There is nothing to do at its stage. -/
  | stays {h : Happening} : c.takes? h = none → c.runsOut h = false → Goes c h c
  | connected {k : Kept} : c.stage = .connecting k →
    Goes c .connected { c with stage := .online (k.loop c.settings) }
  | refused {k : Kept} : c.stage = .connecting k → Goes c .refused (c.pause k)
  | awake {resume : Nat} {k : Kept} : c.stage = .waiting resume k → resume ≤ k.now →
    Goes c .awake { c with stage := .connecting k }
  | served {x : Command} {c' : Client} : Served c x c' → Goes c .turn c'
  /-- The connection serves something other than a command. -/
  | works {l l' : Loop} : c.stage = .online l → l.exit = none → l.commands.items = [] →
    l.serve = some l' → Goes c .turn { c with stage := .online l' }
  /-- The connection has ended. -/
  | left {l : Loop} : c.stage = .online l → l.exit = some .localDisconnect →
    Goes c .turn (c.hangUp (.ofLoop l))
  | lost {l : Loop} : c.stage = .online l → l.exit = some .channelClosed →
    Goes c .turn (c.pause (.ofLoop l))
  /-- No command can come any more. -/
  | abandoned {resume : Nat} {k : Kept} : c.stage = .waiting resume k → k.commands.items = [] →
    (!k.commands.isOpen && k.callers.isEmpty) = true → Goes c .turn (c.hangUp k)

theorem goes_online (hl : c.stage = .online l) : Goes c .turn (c.serveLoop l) := by
  unfold serveLoop
  cases hs : l.serve with
  | some l' =>
    obtain ⟨hx, -⟩ := Loop.serve_eq_some_iff.mp hs
    cases hitems : l.commands.items with
    | nil => exact .works hl hx hitems hs
    | cons x rest =>
      have hs' : l.serve = some ((l.withCommands rest).serveCommand x) :=
        Loop.serve_eq_some_iff.mpr ⟨hx, .command hitems⟩
      obtain rfl : (l.withCommands rest).serveCommand x = l' := Option.some.inj (hs'.symm.trans hs)
      exact .served (.online hl hx hitems)
  | none =>
    cases hx : l.exit with
    | none =>
      obtain ⟨hitems, hended⟩ := Loop.unbidden_of_serve hx hs
      obtain ⟨htakes, hruns⟩ := takes?_online hl hx
      exact .stays (by rw [htakes, hitems]; rfl) (hruns.trans hended)
    | some x =>
      cases x with
      | localDisconnect => exact .left hl hx
      | channelClosed => exact .lost hl hx

theorem goes_waiting {resume : Nat} (hk : c.stage = .waiting resume k) :
    Goes c .turn (c.serveWaiting resume k) := by
  unfold serveWaiting
  cases hitems : k.commands.items with
  | nil =>
    dsimp only
    split
    next hended => exact .abandoned hk hitems hended
    next hended =>
      obtain ⟨htakes, hruns⟩ := takes?_waiting hk
      refine .stays (by rw [htakes, hitems]; rfl) ?_
      rw [hruns, hitems]
      simpa using hended
  | cons x rest =>
    cases x with
    | mediaReady tracks => exact .served (@Served.noted c resume k tracks rest hk hitems)
    | startCall call => exact .served (@Served.refused c resume k call rest hk hitems)
    | hangUp => exact .served (.hungUp hk hitems)

/-- What a client does, if nothing comes from outside. -/
theorem goes (c : Client) (ho : h.outside = false) : Goes c h (c.perform h) := by
  obtain ⟨settings, stage⟩ := c
  cases h with
  | connected =>
    cases stage with
    | connecting k => exact .connected rfl
    | _ => exact .stays rfl rfl
  | refused =>
    cases stage with
    | connecting k => exact .refused rfl
    | _ => exact .stays rfl rfl
  | turn =>
    cases stage with
    | online l => exact goes_online rfl
    | waiting resume k => exact goes_waiting rfl
    | _ => exact .stays rfl rfl
  | awake =>
    cases stage with
    | waiting resume k =>
      by_cases hdue : resume ≤ k.now
      · simp only [perform, if_pos hdue]
        exact .awake rfl hdue
      · simp only [perform, if_neg hdue]
        exact .stays rfl rfl
    | _ => exact .stays rfl rfl
  | _ => cases ho

/-! ### What that does to the commands -/

theorem Served.takes? {x : Command} (hs : Served c x c') : c.takes? .turn = some x := by
  cases hs with
  | online hl hx hitems => rw [(takes?_online hl hx).1, hitems]; rfl
  | noted hk hitems | refused hk hitems | hungUp hk hitems =>
    rw [(takes?_waiting hk).1, hitems]
    rfl

/-- The connection serves an item. -/
theorem step_serves (hl : c.stage = .online l) {l' : Loop} (hs : l.serve = some l') :
    Step c .turn { c with stage := .online l' } := by
  obtain ⟨hx, hserves⟩ := Loop.serve_eq_some_iff.mp hs
  obtain ⟨htakes, hruns⟩ := takes?_online hl hx
  have hdraws := hserves.draws hx
  obtain ⟨settings, stage⟩ := c
  obtain rfl : stage = .online l := hl
  refine ⟨fun _ => ?_, ?_, ?_, ?_⟩
  · rw [htakes]
    exact (List.append_nil _).trans hdraws.items
  · rw [htakes]
    exact ⟨_, hdraws.items.symm⟩
  · rw [htakes]
    exact hdraws.tracks
  · rw [htakes, hruns, ← hdraws.leaves]
    simp [Leaving, exit?, hx]

/-- A command is served while the client waits. -/
theorem step_waiting {resume : Nat} {x : Command} {rest : List Command}
    (hk : c.stage = .waiting resume k) (hitems : k.commands.items = x :: rest)
    (hq : c'.exit? = none → c'.queued = rest)
    (htracks : c'.kept.tracks = Command.note k.tracks x) (hleaves : c'.Leaving ↔ x = .hangUp) :
    Step c .turn c' := by
  obtain ⟨htakes, hruns⟩ := takes?_waiting hk
  obtain ⟨settings, stage⟩ := c
  obtain rfl : stage = .waiting resume k := hk
  have hqueued : queued ⟨settings, .waiting resume k⟩ = x :: rest := hitems
  rw [hitems] at htakes hruns
  refine ⟨fun hgoes => ?_, ?_, ?_, ?_⟩
  · rw [htakes, hqueued, hq hgoes]
    exact List.append_nil _
  · rw [htakes, hqueued]
    exact ⟨rest, rfl⟩
  · rw [htakes]
    exact htracks
  · rw [htakes, hruns, hleaves]
    simp [Leaving, exit?]

theorem Served.step {x : Command} (hs : Served c x c') : Step c .turn c' := by
  cases hs with
  | online hl hx hitems =>
    exact step_serves hl (Loop.serve_eq_some_iff.mpr ⟨hx, .command hitems⟩)
  | noted hk hitems | refused hk hitems =>
    refine step_waiting hk hitems (fun _ => rfl) rfl ?_
    simp [Leaving, exit?]
  | hungUp hk hitems =>
    refine step_waiting hk hitems nofun rfl ?_
    simp [Leaving, hangUp, exit?]

theorem Goes.step (hg : Goes c h c') (ha : c.accepts? h = none) : Step c h c' := by
  obtain ⟨settings, stage⟩ := c
  cases hg with
  | stays htakes hruns => exact .quiet rfl rfl Iff.rfl htakes hruns ha
  | connected hk =>
    obtain rfl := hk
    refine .quiet rfl rfl ?_ rfl rfl rfl
    simp [Leaving, exit?, Kept.loop, Loop.start]
  | refused hk =>
    obtain rfl := hk
    refine .quiet rfl rfl ?_ rfl rfl rfl
    simp [Leaving, exit?, pause]
  | awake hk =>
    obtain rfl := hk
    refine .quiet rfl rfl ?_ rfl rfl rfl
    simp [Leaving, exit?]
  | served hs => exact hs.step
  | works hl _ _ hs => exact step_serves hl hs
  | @left l hl hx =>
    obtain rfl := hl
    have hattends : attends ⟨settings, .online l⟩ = false := by simp [attends, hx]
    obtain ⟨htakes, -⟩ := takes?_of_not_attends hattends .turn
    refine ⟨nofun, by rw [htakes]; exact List.nil_prefix, by rw [htakes]; rfl, ?_⟩
    simp [Leaving, hangUp, exit?, hx]
  | @lost l hl hx =>
    obtain rfl := hl
    have hattends : attends ⟨settings, .online l⟩ = false := by simp [attends, hx]
    obtain ⟨htakes, hruns⟩ := takes?_of_not_attends hattends .turn
    refine .quiet rfl rfl ?_ htakes hruns rfl
    simp [Leaving, pause, exit?, hx]
  | @abandoned resume k hk hitems hended =>
    obtain ⟨htakes, hruns⟩ := takes?_waiting hk
    obtain rfl := hk
    rw [hitems] at htakes hruns
    refine ⟨nofun, by rw [htakes]; exact List.nil_prefix, by rw [htakes]; rfl, ?_⟩
    simp [Leaving, hangUp, exit?, hruns, hended]

/-- What one happening does. -/
theorem step (c : Client) (h : Happening) : Step c h (c.perform h) := by
  cases h with
  | command x => exact step_command c x
  | connected | refused | turn | awake => exact (goes c rfl).step rfl
  | dropHandle | collect | item x | event e | mute | advance t =>
    refine step_mapKept ?_ ?_ ?_ ?_ rfl rfl rfl <;> exact fun _ => rfl

/-- A command that is taken is served at once. -/
theorem served {x : Command} (hx : c.takes? h = some x) : h = .turn ∧ Served c x (c.perform h) := by
  cases h with
  | turn =>
    refine ⟨rfl, ?_⟩
    generalize hc : c.perform .turn = c'
    have hg : Goes c .turn c' := hc ▸ goes c rfl
    cases hg with
    | stays htakes => exact absurd (hx.symm.trans htakes) nofun
    | served hs =>
      obtain rfl := Option.some.inj (hs.takes?.symm.trans hx)
      exact hs
    | works hl hexit hitems =>
      rw [(takes?_online hl hexit).1, hitems] at hx
      cases hx
    | left hl hexit | lost hl hexit =>
      rw [(takes?_of_not_attends (by simp [attends, hl, hexit]) .turn).1] at hx
      cases hx
    | abandoned hk hitems =>
      rw [(takes?_waiting hk).1, hitems] at hx
      cases hx
  | _ => cases hx

end Client

end CallSignaling
