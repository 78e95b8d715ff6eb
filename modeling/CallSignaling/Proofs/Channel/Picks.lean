import CallSignaling.Channel.Loop

/-!
# Picks — what a loop takes up

`Loop.serve` looks at the sources of a loop in their order, takes something up (`Loop.pick?`,
`Loop.take`) and acts on it (`Loop.act`); `serve_eq` takes the three apart.  What is taken up tells
which sources had nothing (`Chooses`).
-/

namespace CallSignaling

namespace Loop

/-- What a loop can take up in a turn. -/
inductive Pick where
  | command (command : Command)
  /-- No command can come any more. -/
  | abandoned
  | item (item : ChannelItem)
  /-- No item of the channel can come any more. -/
  | cut
  | event (event : PeerEvent)
  | tick (ticker : Ticker)
deriving DecidableEq

/-- What the loop takes up next, if there is something and the loop has not ended. -/
def pick? (l : Loop) : Option Pick :=
  if l.exit.isSome then none
  else
    match l.commands.items with
    | c :: _ => some (.command c)
    | [] =>
      if l.commandsEnded then some .abandoned
      else
        match l.channel.items with
        | x :: _ => some (.item x)
        | [] =>
          if l.channel.isOpen = false then some .cut
          else
            match l.events.items with
            | e :: _ => some (.event e)
            | [] => l.tickDue?.map .tick

/-- The loop without what it takes up. -/
def take (l : Loop) : Pick → Loop
  | .command _ => l.withCommands l.commands.items.tail
  | .item _ => l.withItems l.channel.items.tail
  | .event _ => l.withEvents l.events.items.tail
  | _ => l

/-- The loop after it has acted on what it has taken up. -/
def act (l : Loop) : Pick → Loop
  | .command c => l.serveCommand c
  | .abandoned => l.leave
  | .item x => l.serveItem x
  | .cut => l.lose none
  | .event e => l.serveEvent e
  | .tick t =>
    { l with agent := (l.agent.expire l.agent.now).2, ticker := some (t.tick l.agent.now) }

/-- No command waits, but one can still come. -/
def Unbidden (l : Loop) : Prop := l.commands.items = [] ∧ l.commandsEnded = false

/-- Neither a command nor an item of the channel waits, but some can still come. -/
def Unaddressed (l : Loop) : Prop :=
  l.Unbidden ∧ l.channel.items = [] ∧ l.channel.isOpen = true

/-- What a loop finds at its sources when it takes something up. -/
inductive Chooses (l : Loop) : Pick → Prop
  | command {c : Command} {cs : List Command} : l.commands.items = c :: cs →
    Chooses l (.command c)
  | abandoned : l.commandsEnded = true → Chooses l .abandoned
  | item {x : ChannelItem} {xs : List ChannelItem} : l.channel.items = x :: xs → l.Unbidden →
    Chooses l (.item x)
  | cut : l.channel.items = [] → l.channel.isOpen = false → l.Unbidden → Chooses l .cut
  | event {e : PeerEvent} {es : List PeerEvent} : l.events.items = e :: es → l.Unaddressed →
    Chooses l (.event e)
  | tick {t : Ticker} : l.events.items = [] → l.Unaddressed → l.tickDue? = some t →
    Chooses l (.tick t)

variable {l : Loop} {p : Pick}

theorem items_of_commandsEnded (h : l.commandsEnded = true) : l.commands.items = [] := by
  unfold commandsEnded at h
  simp only [Bool.and_eq_true, List.isEmpty_iff] at h
  exact h.1.1

/-- What a loop takes up is told by what waits for it. -/
theorem pick?_eq_some_iff : l.pick? = some p ↔ l.exit = none ∧ Chooses l p := by
  constructor
  · intro h
    unfold pick? at h
    by_cases hexit : l.exit.isSome
    · rw [if_pos hexit] at h
      cases h
    · rw [if_neg hexit] at h
      refine ⟨by simpa using hexit, ?_⟩
      split at h
      next c cs hc =>
        obtain rfl := Option.some.inj h
        exact .command hc
      next hc =>
        split at h
        next hended =>
          obtain rfl := Option.some.inj h
          exact .abandoned hended
        next hended =>
          have hunbidden : l.Unbidden := ⟨hc, by simpa using hended⟩
          split at h
          next x xs hx =>
            obtain rfl := Option.some.inj h
            exact .item hx hunbidden
          next hx =>
            split at h
            next hclosed =>
              obtain rfl := Option.some.inj h
              exact .cut hx hclosed hunbidden
            next hopen =>
              have hunaddressed : l.Unaddressed := ⟨hunbidden, hx, by simpa using hopen⟩
              split at h
              next e es he =>
                obtain rfl := Option.some.inj h
                exact .event he hunaddressed
              next he =>
                obtain ⟨t, ht, rfl⟩ := Option.map_eq_some_iff.mp h
                exact .tick he hunaddressed ht
  · rintro ⟨hexit, h⟩
    unfold pick?
    rw [if_neg (by simp [hexit])]
    cases h with
    | command hc => simp only [hc]
    | abandoned hended =>
      simp only [items_of_commandsEnded hended, hended, if_true]
    | item hx hu => simp only [hu.1, hu.2, hx, Bool.false_eq_true, if_false]
    | cut hx hclosed hu =>
      simp only [hu.1, hu.2, hx, hclosed, Bool.false_eq_true, if_false, if_true]
    | event he hu => simp [hu.1.1, hu.1.2, hu.2.1, hu.2.2, he]
    | tick he hu ht => simp [hu.1.1, hu.1.2, hu.2.1, hu.2.2, he, ht]

/-- To serve an item is to take it up and to act on it. -/
theorem serve_eq (l : Loop) : l.serve = l.pick?.map fun p => (l.take p).act p := by
  unfold serve pick?
  split
  · rfl
  · cases hc : l.commands.items with
    | cons c cs =>
      show _ = some ((l.withCommands l.commands.items.tail).serveCommand c)
      rw [hc]
      rfl
    | nil =>
      dsimp only
      split
      · rfl
      · cases hx : l.channel.items with
        | cons x xs =>
          show _ = some ((l.withItems l.channel.items.tail).serveItem x)
          rw [hx]
          rfl
        | nil =>
          dsimp only
          split
          · rfl
          · cases he : l.events.items with
            | cons e es =>
              show _ = some ((l.withEvents l.events.items.tail).serveEvent e)
              rw [he]
              rfl
            | nil =>
              dsimp only
              rw [Option.map_map]
              rfl

theorem pick?_of_commands {c : Command} {cs : List Command} (hx : l.exit = none)
    (hc : l.commands.items = c :: cs) : l.pick? = some (.command c) :=
  pick?_eq_some_iff.mpr ⟨hx, .command hc⟩

theorem pick?_of_exit {x : LoopExit} (hx : l.exit = some x) : l.pick? = none := by
  unfold pick?
  rw [if_pos (by simp [hx])]

/-- To act on something takes nothing from the queues and puts nothing into them. -/
theorem act_queues (l : Loop) (p : Pick) : (l.act p).commands = l.commands ∧
    (l.act p).channel = l.channel ∧ (l.act p).events = l.events := by
  cases p with
  | command c => cases c <;> exact ⟨rfl, rfl, rfl⟩
  | item x => cases x <;> exact ⟨rfl, rfl, rfl⟩
  | _ => exact ⟨rfl, rfl, rfl⟩

end Loop

end CallSignaling
