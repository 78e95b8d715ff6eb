import CallSignaling.Proofs.Channel.Course

/-!
# Turns — how a loop looks at its sources

In a turn a loop looks at its sources, takes something up (`Loop.pick?`, `Loop.take`) and acts on it
(`Loop.act`).  Meanwhile more can come to the queues, for instance because a notice makes the user
do something (`Loop.turn`); that counts as if it came right after the turn (`Loop.turn_eq`).  Each
queue is a `Lane` of the loop, and what is said about lanes holds for all three (`Lane.conserved`).
-/

namespace CallSignaling

namespace Loop

/-- What comes to a queue or ends it, and concerns nothing else. -/
def Happening.fills : Happening → Bool
  | .command _ | .item _ | .event _ | .dropHandle | .dropChannel | .callers _ => true
  | _ => false

/-- What is left in the queues once the loop has taken something up. -/
def rest (l : Loop) : Loop := (l.pick?.map l.take).getD l

/-- The loop after a turn in which `amid` came to the queues. -/
def turn (l : Loop) (amid : List Happening) : Loop :=
  match l.pick? with
  | some p => (l.rest.run amid).act p
  | none => l.rest.run amid

/-- What can happen to a loop whose turns take their time. -/
inductive Beat where
  | turn (amid : List Happening) (fills : ∀ h ∈ amid, h.fills = true)
  | other (happening : Happening) (outside : happening ≠ .serve)

/-- The same, if turns take no time. -/
def Beat.happenings : Beat → List Happening
  | .turn amid _ => .serve :: amid
  | .other h _ => [h]

def go (l : Loop) : Beat → Loop
  | .turn amid _ => l.turn amid
  | .other h _ => l.after h

/-- The loop after a course of beats. -/
def through (l : Loop) (course : List Beat) : Loop := course.foldl go l

/-- What is taken up in a beat, with the loop as it stood when it looked at its sources. -/
def look (l : Loop) : Beat → List (Loop × Pick)
  | .turn _ _ => (l.pick?.map fun p => (l, p)).toList
  | .other _ _ => []

/-- What is taken up in a course, in that order. -/
def served (l : Loop) : List Beat → List (Loop × Pick)
  | [] => []
  | b :: later => l.look b ++ (l.go b).served later

/-- How many turns there are in a course. -/
def turns : List Beat → Nat
  | [] => 0
  | .turn _ _ :: later => turns later + 1
  | .other _ _ :: later => turns later

variable {l l' : Loop} {p : Pick} {h : Happening} {amid hs : List Happening} {b : Beat}
  {course later : List Beat} {x : LoopExit}

/-! ### One turn -/

theorem turn_of_pick (hp : l.pick? = some p) : l.turn amid = ((l.take p).run amid).act p := by
  unfold turn rest
  rw [hp]
  rfl

theorem turn_of_none (hp : l.pick? = none) : l.turn amid = l.run amid := by
  unfold turn rest
  rw [hp]
  rfl

theorem look_of_pick (hp : l.pick? = some p) {hf : ∀ h ∈ amid, h.fills = true} :
    l.look (.turn amid hf) = [(l, p)] := by
  unfold look
  rw [hp]
  rfl

theorem look_of_none (hp : l.pick? = none) {hf : ∀ h ∈ amid, h.fills = true} :
    l.look (.turn amid hf) = [] := by
  unfold look
  rw [hp]
  rfl

/-! ### What comes in the middle of a turn -/

theorem ne_serve_of_fills (hf : h.fills = true) : h ≠ .serve := by
  rintro rfl
  cases hf

/-- What comes to the queues leaves the rest of the loop alone. -/
theorem after_fills (l : Loop) (hf : h.fills = true) :
    (l.after h).agent = l.agent ∧ (l.after h).exit = l.exit ∧ (l.after h).replies = l.replies := by
  cases h with
  | serve | advance | behave | mute => cases hf
  | _ => exact ⟨rfl, rfl, rfl⟩

theorem run_fills (l : Loop) (hf : ∀ h ∈ hs, h.fills = true) :
    (l.run hs).agent = l.agent ∧ (l.run hs).exit = l.exit ∧ (l.run hs).replies = l.replies := by
  induction hs generalizing l with
  | nil => exact ⟨rfl, rfl, rfl⟩
  | cons h hs ih =>
    obtain ⟨hagent, hexit, hreplies⟩ := l.after_fills (hf h List.mem_cons_self)
    obtain ⟨hagent', hexit', hreplies'⟩ := ih (l.after h) fun k hk =>
      hf k (List.mem_cons_of_mem h hk)
    exact ⟨hagent'.trans hagent, hexit'.trans hexit, hreplies'.trans hreplies⟩

theorem act_after (l : Loop) (p : Pick) (hf : h.fills = true) :
    (l.after h).act p = (l.act p).after h := by
  cases h with
  | serve | advance | behave | mute => cases hf
  | _ =>
    cases p with
    | command c => cases c <;> rfl
    | item x => cases x <;> rfl
    | _ => rfl

theorem act_run (l : Loop) (p : Pick) (hf : ∀ h ∈ hs, h.fills = true) :
    (l.run hs).act p = (l.act p).run hs := by
  induction hs generalizing l with
  | nil => rfl
  | cons h hs ih =>
    have hfirst := l.act_after p (hf h List.mem_cons_self)
    have hrest := ih (l.after h) fun k hk => hf k (List.mem_cons_of_mem h hk)
    exact hrest.trans (congrArg (Loop.run · hs) hfirst)

/-- What comes in the middle of a turn counts as if it came right after it. -/
theorem turn_eq (l : Loop) (hf : ∀ h ∈ amid, h.fills = true) :
    l.turn amid = l.run (.serve :: amid) := by
  show _ = (l.after .serve).run amid
  unfold Loop.after
  rw [serve_eq]
  cases hp : l.pick? with
  | none => exact turn_of_none hp
  | some p => exact (turn_of_pick hp).trans (act_run _ p hf)

theorem go_eq (l : Loop) (b : Beat) : l.go b = l.run b.happenings := by
  cases b with
  | turn amid hf => exact l.turn_eq hf
  | other h => rfl

theorem through_eq (l : Loop) (course : List Beat) :
    l.through course = l.run (course.flatMap Beat.happenings) := by
  induction course generalizing l with
  | nil => rfl
  | cons b course ih =>
    have hsplit : l.run (b.happenings ++ course.flatMap Beat.happenings) =
        (l.run b.happenings).run (course.flatMap Beat.happenings) := List.foldl_append ..
    rw [List.flatMap_cons, hsplit, ← go_eq]
    exact ih (l.go b)

theorem through_append (l : Loop) (course later : List Beat) :
    l.through (course ++ later) = (l.through course).through later :=
  List.foldl_append ..

theorem served_append (l : Loop) (course later : List Beat) :
    l.served (course ++ later) = l.served course ++ (l.through course).served later := by
  induction course generalizing l with
  | nil => rfl
  | cons b course ih =>
    show l.look b ++ (l.go b).served (course ++ later) = _
    rw [ih, ← List.append_assoc]
    rfl

theorem sound_go (hl : l.agent.Sound) (b : Beat) : (l.go b).agent.Sound := by
  rw [go_eq]
  generalize b.happenings = hs
  induction hs generalizing l with
  | nil => exact hl
  | cons h hs ih => exact ih (sound_after hl h)

/-- What a loop takes up in a course it takes up at one of its turns. -/
theorem pick?_of_served (hm : (l', p) ∈ l.served course) :
    l'.pick? = some p ∧ (l.agent.Sound → l'.agent.Sound) := by
  induction course generalizing l with
  | nil => cases hm
  | cons b course ih =>
    rcases List.mem_append.mp hm with hfirst | hlater
    · cases b with
      | turn amid hf =>
        obtain ⟨q, hq, heq⟩ := Option.map_eq_some_iff.mp (Option.mem_toList.mp hfirst)
        cases heq
        exact ⟨hq, id⟩
      | other => cases hfirst
    · obtain ⟨hpick, hsound⟩ := ih hlater
      exact ⟨hpick, fun hl => hsound (sound_go hl b)⟩

end Loop

open Loop

/-! ### The queues -/

/-- One of the queues of a loop: what comes to it and what a loop takes from it. -/
structure Lane (α : Type) where
  queue : Loop → Queue α
  brings? : Happening → Option α
  takes? : Pick → Option α
  grows : ∀ l h, h ≠ .serve → (queue (l.after h)).items =
    (queue l).items ++ if (queue l).isOpen then (brings? h).toList else []
  shrinks : ∀ l p, l.pick? = some p →
    (queue l).items = (takes? p).toList ++ (queue (l.take p)).items
  acted : ∀ l p, queue (l.act p) = queue l

theorem Queue.push_items {α : Type} (q : Queue α) (x : α) :
    (q.push x).2.items = q.items ++ if q.isOpen then [x] else [] := by
  unfold push
  cases q.isOpen <;> simp

namespace Lane

variable {α : Type}

def commands : Lane Command where
  queue := Loop.commands
  brings?
    | .command c => some c
    | _ => none
  takes?
    | .command c => some c
    | _ => none
  grows := fun l h hh => by
    cases h with
    | serve => exact absurd rfl hh
    | command c => exact l.commands.push_items c
    | _ => simp [Loop.after, Queue.finish]
  shrinks := fun l p hp => by
    cases (pick?_eq_some_iff.mp hp).2 with
    | command hc => simp [Loop.take, withCommands, hc]
    | _ => rfl
  acted := fun l p => (l.act_queues p).1

def channel : Lane ChannelItem where
  queue := Loop.channel
  brings?
    | .item x => some x
    | _ => none
  takes?
    | .item x => some x
    | _ => none
  grows := fun l h hh => by
    cases h with
    | serve => exact absurd rfl hh
    | item x => exact l.channel.push_items x
    | _ => simp [Loop.after, Queue.finish]
  shrinks := fun l p hp => by
    cases (pick?_eq_some_iff.mp hp).2 with
    | item hx => simp [Loop.take, withItems, hx]
    | _ => rfl
  acted := fun l p => (l.act_queues p).2.1

def events : Lane PeerEvent where
  queue := Loop.events
  brings?
    | .event e => some e
    | _ => none
  takes?
    | .event e => some e
    | _ => none
  grows := fun l h hh => by
    cases h with
    | serve => exact absurd rfl hh
    | event e => exact l.events.push_items e
    | _ => simp [Loop.after]
  shrinks := fun l p hp => by
    cases (pick?_eq_some_iff.mp hp).2 with
    | event he => simp [Loop.take, withEvents, he]
    | _ => rfl
  acted := fun l p => (l.act_queues p).2.2

/-- What the queue takes in. -/
def admitted (lane : Lane α) (l : Loop) : List Happening → List α
  | [] => []
  | h :: hs =>
    (if (lane.queue l).isOpen then (lane.brings? h).toList else []) ++
      lane.admitted (l.after h) hs

/-- What the queue takes in during a beat. -/
def gains (lane : Lane α) (l : Loop) : Beat → List α
  | .turn amid _ => lane.admitted l.rest amid
  | .other h _ => lane.admitted l [h]

/-- What the queue takes in during a course. -/
def arrivals (lane : Lane α) (l : Loop) : List Beat → List α
  | [] => []
  | b :: later => lane.gains l b ++ lane.arrivals (l.go b) later

/-- What is taken from the queue in a course. -/
def taken (lane : Lane α) (l : Loop) (course : List Beat) : List α :=
  (l.served course).filterMap fun look => lane.takes? look.2

variable (lane : Lane α) (l : Loop)

theorem items_run {hs : List Happening} (hh : ∀ h ∈ hs, h ≠ .serve) :
    (lane.queue (l.run hs)).items = (lane.queue l).items ++ lane.admitted l hs := by
  induction hs generalizing l with
  | nil => exact (List.append_nil _).symm
  | cons h hs ih =>
    have hrest := ih (l.after h) fun k hk => hh k (List.mem_cons_of_mem h hk)
    rw [lane.grows l h (hh h List.mem_cons_self), List.append_assoc] at hrest
    exact hrest

/-- What waits and what comes is what is taken up and what waits then. -/
theorem conserved_go (b : Beat) : (lane.queue l).items ++ lane.gains l b =
    (l.look b).filterMap (fun look => lane.takes? look.2) ++ (lane.queue (l.go b)).items := by
  cases b with
  | other h hh =>
    have hone : ∀ k ∈ [h], k ≠ .serve := fun k hk => List.mem_singleton.mp hk ▸ hh
    exact (lane.items_run l hone).symm
  | turn amid hf =>
    have hamid : ∀ h ∈ amid, h ≠ .serve := fun h hm => ne_serve_of_fills (hf h hm)
    cases hp : l.pick? with
    | none =>
      have hrest : l.rest = l := by
        unfold Loop.rest
        rw [hp]
        rfl
      have hturn : l.go (.turn amid hf) = l.run amid := turn_of_none hp
      show _ ++ lane.admitted l.rest amid = _
      rw [look_of_none hp, hturn, hrest, lane.items_run l hamid]
      rfl
    | some p =>
      have hrest : l.rest = l.take p := by
        unfold Loop.rest
        rw [hp]
        rfl
      have hturn : lane.queue (l.go (.turn amid hf)) = lane.queue ((l.take p).run amid) :=
        (congrArg lane.queue (turn_of_pick hp)).trans (lane.acted _ p)
      have htaken : (l.look (.turn amid hf)).filterMap (fun look => lane.takes? look.2) =
          (lane.takes? p).toList := by
        rw [look_of_pick hp]
        cases htakes : lane.takes? p <;> simp [htakes]
      show _ ++ lane.admitted l.rest amid = _
      rw [hturn, htaken, hrest, lane.items_run _ hamid, lane.shrinks l p hp, List.append_assoc]

/-- Nothing that comes to a queue is lost, served twice or overtaken by what came after it. -/
theorem conserved (course : List Beat) : (lane.queue l).items ++ lane.arrivals l course =
    lane.taken l course ++ (lane.queue (l.through course)).items := by
  induction course generalizing l with
  | nil => exact List.append_nil _
  | cons b course ih =>
    show _ ++ (lane.gains l b ++ lane.arrivals (l.go b) course) =
      (l.look b ++ (l.go b).served course).filterMap _ ++
        (lane.queue ((l.go b).through course)).items
    rw [← List.append_assoc, lane.conserved_go l b, List.append_assoc, ih (l.go b),
      List.filterMap_append, List.append_assoc]
    rfl

theorem taken_append (course later : List Beat) :
    lane.taken l (course ++ later) =
      lane.taken l course ++ lane.taken (l.through course) later := by
  unfold taken
  rw [served_append, List.filterMap_append]

theorem arrivals_append (course later : List Beat) : lane.arrivals l (course ++ later) =
    lane.arrivals l course ++ lane.arrivals (l.through course) later := by
  induction course generalizing l with
  | nil => rfl
  | cons b course ih =>
    show lane.gains l b ++ lane.arrivals (l.go b) (course ++ later) = _
    rw [ih, ← List.append_assoc]
    rfl

end Lane

end CallSignaling
