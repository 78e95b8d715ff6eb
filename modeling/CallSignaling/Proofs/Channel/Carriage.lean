import CallSignaling.Channel.Socket

/-!
# Carriage — what a channel carries over its socket

Main statement: `carried_run`.  Everything that is read up to the first close frame, failure or end
becomes an item, and nothing behind it does; the channel closes once, at the end (`relay_eq`).  What
is read later adds to the items and takes none of them back (`relay_append`).  Of the queued
messages an initial segment is written (`written_eq`).
-/

namespace CallSignaling

namespace SocketInput

/-- Nothing is read after this. -/
def isLast : SocketInput → Bool
  | .close _ | .failure _ => true
  | _ => false

/-- The bytes that a message of the socket brings. -/
def payload? : SocketInput → Option Bytes
  | .text bytes | .binary bytes => some bytes
  | _ => none

end SocketInput

namespace Socket

/-- The reason with which a channel closes, by what was read last; `none` is the stream's end. -/
inductive Closes : Option SocketInput → Option String → Prop
  | ended : Closes none none
  | named {text : String} : text ≠ "" → Closes (some (.close (some text))) (some text)
  | blank : Closes (some (.close (some ""))) none
  | unnamed : Closes (some (.close none)) none
  | failed (text : String) : Closes (some (.failure (.other text))) (some text)
  | disconnected {error : SocketError} :
    error = .connectionClosed ∨ error = .alreadyClosed ∨ error = .resetWithoutClosing →
    Closes (some (.failure error)) none

/-- The messages that are read before the end, in their order. -/
def payloads (inputs : List SocketInput) : List Bytes :=
  (inputs.takeWhile fun i => !i.isLast).filterMap SocketInput.payload?

/-- How a channel relays what is read from its socket. -/
structure Relays (inputs : List SocketInput) (channel : List ChannelItem) : Prop where
  carried : ∃ reason, Closes (inputs.find? SocketInput.isLast) reason ∧
    channel = .opened :: (payloads inputs).map .frame ++ [.closed reason]
  closedOnce : ∀ before reason after, channel = before ++ .closed reason :: after → after = []
  /-- What is read later comes behind the items so far, and is not looked at after the end. -/
  continued : ∀ more, items (inputs ++ more) =
    if inputs.any SocketInput.isLast then channel else channel.dropLast ++ relay more

/-- How queued messages are written: `k` of them, one text frame each, up to the first attempt that
the socket refuses. -/
structure Writes (accepts : List Bool) (queued : List Message) (frames : List String) (k : Nat) :
    Prop where
  le : k ≤ queued.length
  encoded : frames = (queued.take k).map Message.encode
  accepted : ∀ i < k, accepts[i]? = some true
  refused : k < queued.length → accepts[k]? ≠ some true

variable {inputs : List SocketInput} {accepts : List Bool} {queued : List Message}

/-! ### Reading -/

theorem closes_filter (text : String) :
    Closes (some (.close (some text))) ((some text).filter (· ≠ "")) := by
  by_cases h : text = ""
  · subst h
    exact .blank
  · rw [Option.filter_some, if_pos (by simpa using h)]
    exact .named h

theorem closes_reason? (error : SocketError) : Closes (some (.failure error)) error.reason? := by
  cases error with
  | other text => exact .failed text
  | connectionClosed => exact .disconnected (.inl rfl)
  | alreadyClosed => exact .disconnected (.inr (.inl rfl))
  | resetWithoutClosing => exact .disconnected (.inr (.inr rfl))

/-- The items behind the opening. -/
theorem relay_eq (inputs : List SocketInput) :
    ∃ reason, Closes (inputs.find? SocketInput.isLast) reason ∧
      relay inputs = (payloads inputs).map .frame ++ [.closed reason] := by
  induction inputs with
  | nil => exact ⟨none, .ended, rfl⟩
  | cons i rest ih =>
    obtain ⟨reason, hreason, hrest⟩ := ih
    cases i with
    | text bytes => exact ⟨reason, hreason, by rw [relay, hrest]; rfl⟩
    | binary bytes => exact ⟨reason, hreason, by rw [relay, hrest]; rfl⟩
    | ping => exact ⟨reason, hreason, hrest⟩
    | pong => exact ⟨reason, hreason, hrest⟩
    | close reason =>
      cases reason with
      | none => exact ⟨none, .unnamed, rfl⟩
      | some text => exact ⟨_, closes_filter text, rfl⟩
    | failure error => exact ⟨_, closes_reason? error, rfl⟩

/-- Reading on after some inputs. -/
theorem relay_append (inputs more : List SocketInput) :
    relay (inputs ++ more) =
      if inputs.any SocketInput.isLast then relay inputs
      else (relay inputs).dropLast ++ relay more := by
  induction inputs with
  | nil => rfl
  | cons i rest ih =>
    have hne : relay rest ≠ [] := by
      obtain ⟨reason, -, hrest⟩ := relay_eq rest
      simp [hrest]
    cases i with
    | text bytes =>
      simp only [List.cons_append, relay, ih, List.any_cons, SocketInput.isLast, Bool.false_or]
      split <;> simp [List.dropLast_cons_of_ne_nil hne]
    | binary bytes =>
      simp only [List.cons_append, relay, ih, List.any_cons, SocketInput.isLast, Bool.false_or]
      split <;> simp [List.dropLast_cons_of_ne_nil hne]
    | ping => exact ih
    | pong => exact ih
    | close reason => rfl
    | failure error => rfl

theorem relays_items (inputs : List SocketInput) : Relays inputs (items inputs) := by
  obtain ⟨reason, hreason, hrelay⟩ := relay_eq inputs
  have hitems : items inputs = .opened :: (payloads inputs).map .frame ++ [.closed reason] := by
    rw [items, hrelay]
    rfl
  refine ⟨⟨reason, hreason, hitems⟩, fun before last after h => ?_, fun more => ?_⟩
  · -- a closing item is none of those in front of the last one
    rcases List.eq_nil_or_concat after with rfl | ⟨init, final, rfl⟩
    · rfl
    · rw [hitems, List.concat_eq_append, ← List.cons_append, ← List.append_assoc] at h
      obtain ⟨hfront, -⟩ := List.append_inj' h rfl
      have hm : .closed last ∈ ChannelItem.opened :: (payloads inputs).map .frame := by
        rw [hfront]
        simp
      simp at hm
  · have hne : relay inputs ≠ [] := by simp [hrelay]
    simp only [items, relay_append]
    split
    · rfl
    · rw [List.dropLast_cons_of_ne_nil hne, List.cons_append]

/-! ### Writing -/

theorem written_eq (accepts : List Bool) (queued : List Message) :
    ∃ k, Writes accepts queued (written accepts queued) k := by
  induction queued generalizing accepts with
  | nil =>
    have hnothing : written accepts [] = [] := by
      cases accepts with
      | nil => rfl
      | cons b _ => cases b <;> rfl
    exact ⟨0, Nat.le_refl 0, hnothing, nofun, nofun⟩
  | cons m rest ih =>
    have hnone : accepts.head? ≠ some true → ∃ k, Writes accepts (m :: rest) [] k := fun h =>
      ⟨0, Nat.zero_le _, rfl, nofun, fun _ => by rwa [← List.head?_eq_getElem?]⟩
    match accepts with
    | [] => exact hnone nofun
    | false :: _ => exact hnone nofun
    | true :: accepts =>
      obtain ⟨k, hle, hframes, haccepted, hrefused⟩ := ih accepts
      refine ⟨k + 1, Nat.succ_le_succ hle, congrArg (List.cons m.encode) hframes, fun i hi => ?_,
        fun hk => ?_⟩
      · cases i with
        | zero => rfl
        | succ i => exact haccepted i (Nat.lt_of_succ_lt_succ hi)
      · exact hrefused (Nat.lt_of_succ_lt_succ hk)

/-- A channel relays all that is read before the end, in its order and with the same bytes, and
closes once; and it writes an initial segment of the queued messages, up to the first refusal. -/
theorem carried_run (inputs : List SocketInput) (accepts : List Bool) (queued : List Message) :
    Relays inputs (items inputs) ∧ ∃ k, Writes accepts queued (written accepts queued) k :=
  ⟨relays_items inputs, written_eq accepts queued⟩

end Socket

end CallSignaling
