import CallSignaling.Proofs.Channel.Commands
import CallSignaling.Proofs.Channel.Ending

/-!
# Reconnection — what a client keeps from one connection to the next

Main statement: `reconnected_run`.  A client takes its commands from one queue, be it online or
waiting for the next attempt.  By induction on what happens, the commands that were taken and those
that still wait are together the ones that were queued, in their order; the tracks are those of the
last command that brought some; and the client leaves when it takes the wish to hang up or finds the
queue at its end, and for no other reason.
-/

namespace CallSignaling

/-- The tracks that the last of some commands has brought. -/
def Command.latest (commands : List Command) : List Track := commands.foldl note []

namespace Client

variable {c : Client} {h : Happening} {l : Loop} {history : List Happening}

/-- The commands that are taken in a history. -/
def taken (c : Client) : List Happening → List Command
  | [] => []
  | h :: later => (c.takes? h).toList ++ (c.perform h).taken later

/-- The commands that are queued in a history. -/
def accepted (c : Client) : List Happening → List Command
  | [] => []
  | h :: later => (c.accepts? h).toList ++ (c.perform h).accepted later

/-! ### The end -/

theorem exit?_perform {e : ClientExit} (he : c.exit? = some e) (h : Happening) :
    (c.perform h).exit? = some e := by
  obtain ⟨settings, stage⟩ := c
  cases stage with
  | ended e' k =>
    cases h with
    | command x =>
      show (submit ⟨settings, .ended e' k⟩ x).2.exit? = some e
      unfold submit
      rw [he, if_neg (by simp)]
      exact he
    | _ => exact he
  | _ => cases he

theorem exit?_run {e : ClientExit} (he : c.exit? = some e) (history : List Happening) :
    (c.run history).exit? = some e := by
  induction history generalizing c with
  | nil => exact he
  | cons h history ih => exact ih (exit?_perform he h)

/-- Only a client that goes on takes commands. -/
theorem attends_of_exit? {e : ClientExit} (he : c.exit? = some e) : c.attends = false := by
  obtain ⟨settings, stage⟩ := c
  cases stage with
  | ended => rfl
  | _ => cases he

theorem Leaving.attends (hl : c.Leaving) : c.attends = false := by
  rcases hl with he | ⟨l, hstage, hx⟩
  · exact attends_of_exit? he
  · unfold Client.attends
    simp [hstage, hx]

theorem Leaving.perform (hl : c.Leaving) (h : Happening) : (c.perform h).Leaving :=
  (step c h).leaving.mpr (.inl hl)

/-- The next turn of a client that is about to leave is its last one. -/
theorem Leaving.ends (hl : c.Leaving) : (c.perform .turn).exit? = some .hungUp := by
  rcases hl with he | ⟨l, hstage, hx⟩
  · exact exit?_perform he .turn
  · simp only [Client.perform, hstage, serveLoop, Loop.serve_of_exit hx, hx]
    rfl

theorem taken_of_leaving (hl : c.Leaving) (later : List Happening) : c.taken later = [] := by
  induction later generalizing c with
  | nil => rfl
  | cons h later ih =>
    show (c.takes? h).toList ++ (c.perform h).taken later = []
    rw [(takes?_of_not_attends hl.attends h).1, ih (hl.perform h)]
    rfl

theorem taken_of_exit? {e : ClientExit} (he : c.exit? = some e) (later : List Happening) :
    c.taken later = [] := by
  induction later generalizing c with
  | nil => rfl
  | cons h later ih =>
    show (c.takes? h).toList ++ (c.perform h).taken later = []
    rw [(takes?_of_not_attends (attends_of_exit? he) h).1, ih (exit?_perform he h)]
    rfl

/-- A client leaves by taking the wish to hang up or by finding the queue at its end. -/
theorem leaving_run_iff : (c.run history).Leaving ↔ c.Leaving ∨
    ∃ before h later, history = before ++ h :: later ∧
      ((c.run before).takes? h = some .hangUp ∨ (c.run before).runsOut h = true) := by
  induction history generalizing c with
  | nil => simp
  | cons h history ih =>
    show ((c.perform h).run history).Leaving ↔ _
    rw [ih, (step c h).leaving]
    constructor
    · rintro ((hl | hends) | ⟨before, n, later, rfl, hends⟩)
      · exact .inl hl
      · exact .inr ⟨[], h, history, rfl, hends⟩
      · exact .inr ⟨h :: before, n, later, rfl, hends⟩
    · rintro (hl | ⟨before, n, later, heq, hends⟩)
      · exact .inl (.inl hl)
      · cases before with
        | nil =>
          obtain ⟨rfl, rfl⟩ := List.cons.inj heq
          exact .inl (.inr hends)
        | cons m before =>
          obtain ⟨rfl, rfl⟩ := List.cons.inj heq
          exact .inr ⟨before, n, later, rfl, hends⟩

/-! ### The commands of a whole history -/

/-- Commands are taken in the order in which they were queued. -/
theorem taken_isPrefix (c : Client) (history : List Happening) :
    c.taken history <+: c.queued ++ c.accepted history := by
  induction history generalizing c with
  | nil => exact List.nil_prefix
  | cons h history ih =>
    have hstep := step c h
    show (c.takes? h).toList ++ _ <+: c.queued ++ ((c.accepts? h).toList ++ _)
    -- a client that ends drops what still waits: then nothing is taken any more
    cases he : (c.perform h).exit? with
    | none =>
      rw [← List.append_assoc, hstep.queue he, List.append_assoc, List.prefix_append_right_inj]
      exact ih (c.perform h)
    | some e =>
      rw [taken_of_exit? he, List.append_nil]
      exact hstep.taken.trans (List.prefix_append _ _)

/-- While the client goes on, the commands that were not taken wait. -/
theorem accepted_eq (hx : (c.run history).exit? = none) :
    c.queued ++ c.accepted history = c.taken history ++ (c.run history).queued := by
  induction history generalizing c with
  | nil => exact List.append_nil _
  | cons h history ih =>
    have hx' : (c.perform h).exit? = none := by
      cases he : (c.perform h).exit? with
      | none => rfl
      | some e => exact absurd (hx.symm.trans (exit?_run he history)) nofun
    calc c.queued ++ c.accepted (h :: history)
        = (c.queued ++ (c.accepts? h).toList) ++ (c.perform h).accepted history :=
          (List.append_assoc ..).symm
      _ = (c.takes? h).toList ++ ((c.perform h).queued ++ (c.perform h).accepted history) := by
          rw [(step c h).queue hx', List.append_assoc]
      _ = c.taken (h :: history) ++ (c.run (h :: history)).queued := by
          rw [ih hx]
          exact (List.append_assoc ..).symm

theorem tracks_run (c : Client) (history : List Happening) :
    (c.run history).kept.tracks = (c.taken history).foldl Command.note c.kept.tracks := by
  induction history generalizing c with
  | nil => rfl
  | cons h history ih =>
    show ((c.perform h).run history).kept.tracks =
      ((c.takes? h).toList ++ (c.perform h).taken history).foldl Command.note c.kept.tracks
    rw [ih, (step c h).tracks, List.foldl_append]

/-! ### A new connection -/

/-- A connection begins where an attempt succeeds, with what was kept. -/
theorem online_anew (hoff : ∀ l, c.stage ≠ .online l) (hon : (c.perform h).stage = .online l) :
    ∃ k, c.stage = .connecting k ∧ l = k.loop c.settings := by
  cases ho : h.outside with
  | true =>
    obtain ⟨f, g, hmap, -⟩ := perform_outside c ho
    obtain ⟨settings, stage⟩ := c
    rw [hmap] at hon
    cases stage with
    | online l => exact absurd rfl (hoff l)
    | _ => cases hon
  | false =>
    generalize hc : c.perform h = c' at hon
    have hg : Goes c h c' := hc ▸ goes c ho
    cases hg with
    | stays => exact absurd hon (hoff l)
    | @connected k hk => exact ⟨k, hk, (Stage.online.inj hon).symm⟩
    | refused | awake | left | lost | abandoned => cases hon
    | served hs =>
      cases hs with
      | online hl => exact absurd hl (hoff _)
      | noted | refused | hungUp => cases hon
    | works hl => exact absurd hl (hoff _)

/-- A client that goes on ends only where it is hung up. -/
theorem exit?_of_perform {e : ClientExit} (hc : c.exit? = none)
    (he : (c.perform h).exit? = some e) : e = .hungUp := by
  cases ho : h.outside with
  | true =>
    obtain ⟨f, g, hmap, hg⟩ := perform_outside c ho
    rw [hmap, (leaving_mapKept hg).1, hc] at he
    cases he
  | false =>
    generalize hp : c.perform h = c' at he
    have hg : Goes c h c' := hp ▸ goes c ho
    cases hg with
    | stays => exact absurd (hc.symm.trans he) nofun
    | connected | refused | awake | works | lost => cases he
    | served hs =>
      cases hs with
      | online | noted | refused => cases he
      | hungUp => exact (Option.some.inj he).symm
    | left | abandoned => exact (Option.some.inj he).symm

theorem exit?_of_run {e : ClientExit} (hc : c.exit? = none) (he : (c.run history).exit? = some e) :
    e = .hungUp := by
  induction history generalizing c with
  | nil => exact absurd (hc.symm.trans he) nofun
  | cons h history ih =>
    cases hx : (c.perform h).exit? with
    | none => exact ih hx he
    | some x =>
      have hlast : (c.run (h :: history)).exit? = some x := exit?_run hx history
      obtain rfl : x = e := Option.some.inj (hlast.symm.trans he)
      exact exit?_of_perform hc hx

/-! ### The whole history -/

/-- What a client keeps in a history, from one connection to the next. -/
structure Faithful (c : Client) (history : List Happening) : Prop where
  /-- Commands are taken in the order in which they were queued, each of them once. -/
  order : c.taken history <+: c.accepted history
  /-- While the client goes on, those that were not taken wait. -/
  waiting : (c.run history).exit? = none →
    c.accepted history = c.taken history ++ (c.run history).queued
  /-- A command that is taken is served, by the session or by the client that waits. -/
  served : ∀ h x, (c.run history).takes? h = some x →
    h = .turn ∧ Served (c.run history) x ((c.run history).perform h)
  /-- The tracks are those of the last command that brought some, whatever became of them. -/
  tracks : (c.run history).kept.tracks = Command.latest (c.taken history)
  /-- Every connection begins anew, with the tracks and the commands. -/
  anew : ∀ h l, (∀ k, (c.run history).stage ≠ .online k) →
    ((c.run history).perform h).stage = .online l →
    l.agent.phase = .idle ∧ l.agent.active = none ∧ l.agent.registry = .empty ∧
      l.agent.tracks = Command.latest (c.taken history) ∧
      l.commands = (c.run history).kept.commands
  /-- The client leaves when the wish to hang up is taken or the queue is at its end. -/
  leaves : (c.run history).Leaving ↔ ∃ before h later, history = before ++ h :: later ∧
    ((c.run before).takes? h = some .hangUp ∨ (c.run before).runsOut h = true)
  /-- Then it takes nothing more and returns. -/
  returns : (c.run history).Leaving →
    (∀ later, (c.run history).taken later = []) ∧
      ((c.run history).perform .turn).exit? = some .hungUp
  /-- It returns in no other way. -/
  exits : ∀ e, (c.run history).exit? = some e → e = .hungUp ∧ (c.run history).Leaving
  /-- When the wait is over and a command is there, either may come first. -/
  race : ∀ resume k x rest, (c.run history).stage = .waiting resume k → resume ≤ k.now →
    k.commands.items = x :: rest →
    ((c.run history).perform .awake).stage = .connecting k ∧
      (c.run history).takes? .turn = some x

/-- A client that has not ended and has no command and no tracks yet. -/
theorem faithful (hexit : c.exit? = none) (hoff : ∀ l, c.stage ≠ .online l) (hq : c.queued = [])
    (ht : c.kept.tracks = []) (history : List Happening) : Faithful c history := by
  have hleaving : ¬ c.Leaving := by
    rintro (he | ⟨l, hl, -⟩)
    · exact absurd (hexit.symm.trans he) nofun
    · exact hoff l hl
  have htracks : (c.run history).kept.tracks = Command.latest (c.taken history) := by
    rw [tracks_run, ht]
    rfl
  refine
    { order := by
        have hprefix := taken_isPrefix c history
        rwa [hq] at hprefix
      waiting := fun hx => by
        have haccepted := accepted_eq hx
        rwa [hq] at haccepted
      served := fun h x => served
      tracks := htracks
      anew := fun h l hoff' hon => ?_
      leaves := by
        rw [leaving_run_iff]
        exact or_iff_right hleaving
      returns := fun hl => ⟨taken_of_leaving hl, hl.ends⟩
      exits := fun e he => ?_
      race := fun resume k x rest hstage hdue hitems => ?_ }
  · obtain ⟨k, hstage, rfl⟩ := online_anew hoff' hon
    have hkept : (c.run history).kept = k := by
      unfold kept
      rw [hstage]
    rw [hkept] at htracks
    exact ⟨rfl, rfl, rfl, htracks, by rw [hkept]; rfl⟩
  · obtain rfl := exit?_of_run hexit he
    exact ⟨rfl, .inl he⟩
  · refine ⟨?_, ?_⟩
    · simp only [perform, hstage, if_pos hdue]
    · rw [(takes?_waiting hstage).1, hitems]
      rfl

/-- Nothing that the user has asked for is lost between the connections of a client for a valid
address, however they begin and end. -/
theorem reconnected_run (settings : ClientSettings) (url : String) (pool : Pool) (address : Url)
    (hurl : Url.signaling url = .ok address) (history : List Happening) :
    Faithful (start settings url pool) history := by
  have hstart : start settings url pool = ⟨settings, .connecting (.fresh pool)⟩ := by
    unfold start
    rw [hurl]
  rw [hstart]
  exact faithful rfl (fun l hl => by cases hl) rfl rfl history

/-- The tracks come before the first attempt fails, a call is refused in the wait, and the next
connection has the tracks. -/
theorem reconnected_run_tracks :
    let c := start ⟨"a", none, 5⟩ "ws://host/" (.fresh { rejectTracks := true })
    let tracks : List Track := [⟨"t", "s", .audio⟩]
    let history : List Happening := [.command (.mediaReady tracks), .refused, .turn,
      .command (.startCall 0), .turn, .advance 5, .awake, .connected]
    Faithful c history ∧ (c.run history).kept.tracks = tracks ∧
      (c.run history).kept.replies = [(0, .error .channelClosed)] := by
  intro c tracks history
  obtain ⟨address, hurl⟩ : ∃ address, Url.signaling "ws://host/" = .ok address := ⟨_, rfl⟩
  exact ⟨reconnected_run _ _ _ address hurl history, rfl, rfl⟩

end Client

end CallSignaling
