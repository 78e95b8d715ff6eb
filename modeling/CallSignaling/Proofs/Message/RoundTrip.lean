import CallSignaling.Message.Codec
import CallSignaling.Proofs.Json.Reading

/-!
# RoundTrip — a message is read back from its frame

Main statement: `decode_encode`.  The text of a message is JSON for an object with the tag and the
fields that are present (`read_encode`), and the fields of such an object make the message again
(`ofJson_frame`).
-/

namespace CallSignaling.Message

open Json (Entry Reads)

/-- The code of an error fits into 64 bits with a sign. -/
def InRange : Message → Prop
  | .error code _ => -2 ^ 63 ≤ code ∧ code < 2 ^ 63
  | _ => True

/-- A text field. -/
def entry (key value : String) : Entry := ⟨key, Json.writeString value, .string value⟩

/-- The fields that are present. -/
def entries : Message → List Entry
  | .clientConnect c => [entry "client_id" c]
  | .clientConnected s c => entry "server_id" s :: (c.map (entry "client_id")).toList
  | .offer f t d => [entry "from" f, entry "to" t, entry "sdp" d]
  | .answer f t d =>
    (f.map (entry "from")).toList ++ (t.map (entry "to")).toList ++ [entry "sdp" d]
  | .iceCandidate f t c => [entry "from" f, entry "to" t, entry "candidate" c]
  | .clientDisconnect c => [entry "client_id" c]
  | .serverDisconnect s => [entry "server_id" s]
  | .error c m => [⟨"code", Json.writeInt c, .number (.integer c)⟩, entry "message" m]

/-- The value of the payload. -/
def members (m : Message) : List (String × Json) := m.entries.map Entry.member

/-- The value of the frame. -/
def frame (m : Message) : List Entry :=
  [entry "type" m.tag.name, ⟨"payload", Json.writeObject m.payload, .object m.members⟩]

variable {m n : Message}

/-! ### Writing -/

theorem payload_eq (m : Message) : m.payload = m.entries.map Entry.written := by
  cases m with
  | clientConnected s c => cases c <;> rfl
  | answer f t d => cases f <;> cases t <;> rfl
  | _ => rfl

theorem reads_entries (hm : m.InRange) (d : Nat) : ∀ e ∈ m.entries, Reads d e.text e.value := by
  have hentry : ∀ k v, Reads d (entry k v).text (entry k v).value := fun k v =>
    Json.reads_string d v
  intro e he
  cases m with
  | error c text =>
    rcases List.mem_cons.mp he with rfl | he
    · exact Json.reads_int d hm.1 hm.2
    · rw [List.mem_singleton.mp he]
      exact hentry _ _
  | _ =>
    obtain ⟨k, v, rfl⟩ : ∃ k v, e = entry k v := by
      simp only [entries, List.mem_cons, List.mem_append, Option.mem_toList, Option.map_eq_some_iff,
        List.not_mem_nil, or_false] at he
      grind
    exact hentry k v

/-- The text of a message is JSON for its frame. -/
theorem read_encode (hm : m.InRange) :
    Json.read (Utf8.encode m.encode) = .ok (.object (m.frame.map Entry.member)) := by
  have hbytes : Utf8.encode m.encode =
      Json.bytes (Json.writeObject (m.frame.map Entry.written)) := by
    unfold Utf8.encode encode
    rw [String.toList_ofList]
    rfl
  rw [hbytes]
  refine Json.read_writeObject fun e he => ?_
  rcases List.mem_cons.mp he with rfl | he
  · exact Json.reads_string _ _
  · rw [List.mem_singleton.mp he]
    show Reads _ (Json.writeObject m.payload) _
    rw [payload_eq]
    exact Json.reads_object (reads_entries hm _)

/-! ### Reading -/

theorem message_members (hm : m.InRange) : Payload.message ⟨m.tag, m.members⟩ = .ok m := by
  cases m with
  | clientConnected s c => cases c <;> rfl
  | answer f t d => cases f <;> cases t <;> rfl
  | error c text =>
    have hcode : (Json.Number.integer c).int64? = some c := if_pos hm
    have hmember : Json.member? "code" (members (.error c text)) = some (.number (.integer c)) :=
      rfl
    have hinteger : Payload.integer ⟨.error, members (.error c text)⟩ "code" = .ok c := by
      unfold Payload.integer
      simp only [hmember, hcode]
    show (Payload.integer ⟨.error, members (.error c text)⟩ "code" >>= _) = _
    rw [hinteger]
    rfl
  | _ => rfl

theorem ofJson_frame (hm : m.InRange) :
    ofJson (.object (m.frame.map Entry.member)) = .ok (some m) := by
  have htype : Json.member? "type" (m.frame.map Entry.member) = some (.string m.tag.name) := rfl
  have hpayload : Json.member? "payload" (m.frame.map Entry.member) =
      some (.object m.members) := rfl
  unfold ofJson
  simp only [htype, hpayload, Tag.ofName?_name, message_members hm]
  rfl

/-- A message is read back from its frame. -/
theorem decode_of_inRange (hm : m.InRange) : decode (Utf8.encode m.encode) = .ok (some m) := by
  unfold decode
  rw [read_encode hm]
  exact ofJson_frame hm

/-! ### What can be read -/

theorem bind_ok {ε α β : Type} {x : Except ε α} {f : α → Except ε β} {b : β}
    (h : x >>= f = .ok b) : ∃ v, x = .ok v ∧ f v = .ok b := by
  cases x with
  | error e => cases h
  | ok v => exact ⟨v, rfl, h⟩

theorem int64?_range {x : Json.Number} {i : Int} (h : x.int64? = some i) :
    -2 ^ 63 ≤ i ∧ i < 2 ^ 63 := by
  cases x with
  | double => cases h
  | integer k =>
    change (if -2 ^ 63 ≤ k ∧ k < 2 ^ 63 then some k else none) = some i at h
    split at h
    next hk =>
      obtain rfl := Option.some.inj h
      exact hk
    · cases h

theorem integer_range {p : Payload} {field : String} {i : Int} (h : p.integer field = .ok i) :
    -2 ^ 63 ≤ i ∧ i < 2 ^ 63 := by
  unfold Payload.integer at h
  split at h
  · split at h
    next hj =>
      obtain rfl := Except.ok.inj h
      exact int64?_range hj
    · cases h
  · cases h

/-- The code of an error was read as an integer of 64 bits. -/
theorem message_inRange {p : Payload} (h : p.message = .ok m) : m.InRange := by
  obtain ⟨tag, ms⟩ := p
  cases tag with
  | error =>
    obtain ⟨code, hcode, h⟩ := bind_ok h
    obtain ⟨text, -, h⟩ := bind_ok h
    cases h
    exact integer_range hcode
  | offer | answer | iceCandidate =>
    obtain ⟨x, -, h⟩ := bind_ok h
    obtain ⟨y, -, h⟩ := bind_ok h
    obtain ⟨z, -, h⟩ := bind_ok h
    cases h
    trivial
  | clientConnected =>
    obtain ⟨x, -, h⟩ := bind_ok h
    obtain ⟨y, -, h⟩ := bind_ok h
    cases h
    trivial
  | clientConnect | clientDisconnect | serverDisconnect =>
    obtain ⟨x, -, h⟩ := bind_ok h
    cases h
    trivial

theorem decode_inRange {f : Bytes} (h : decode f = .ok (some m)) : m.InRange := by
  unfold decode at h
  split at h
  · cases h
  next v _ =>
    unfold ofJson at h
    split at h
    · split at h
      · split at h
        · cases h
        next tag _ =>
          split at h
          next members _ =>
            cases hp : Payload.message ⟨tag, members⟩ with
            | error e =>
              rw [hp] at h
              cases h
            | ok x =>
              rw [hp] at h
              obtain rfl := Option.some.inj (Except.ok.inj h)
              exact message_inRange hp
          · cases h
      · cases h
    · cases h

/-- Every message is read back from its frame, so no two have one text; and the text of a message
that was read from some frame is a frame of it from which nothing else is read or written. -/
theorem decode_encode :
    (∀ m : Message, m.InRange → decode (Utf8.encode m.encode) = .ok (some m)) ∧
    (∀ m n : Message, m.InRange → n.InRange → m.encode = n.encode → m = n) ∧
    ∀ (f : Bytes) (m : Message), decode f = .ok (some m) →
      m.InRange ∧ decode (Utf8.encode m.encode) = decode f ∧
      ∀ n, decode (Utf8.encode m.encode) = .ok (some n) → n.encode = m.encode := by
  refine ⟨fun m => decode_of_inRange, fun m n hm hn he => ?_, fun f m hf => ?_⟩
  · have hread : Except.ok (some m) = decode (Utf8.encode n.encode) := by
      rw [← he, decode_of_inRange hm]
    rw [decode_of_inRange hn] at hread
    exact Option.some.inj (Except.ok.inj hread)
  · have hm := decode_inRange hf
    have hback := decode_of_inRange hm
    refine ⟨hm, hback.trans hf.symm, fun n hn => ?_⟩
    rw [hback] at hn
    rw [Option.some.inj (Except.ok.inj hn)]

/-- The least code, and a text that is full of quotes itself. -/
theorem decode_encode_error :
    let m := error (-9223372036854775808) "\\u0007 \x07 \x7b\"type\":\"offer\"\x7d\n"
    m.InRange ∧ decode (Utf8.encode m.encode) = .ok (some m) := by
  intro m
  have hm : m.InRange := ⟨by decide, by decide⟩
  exact ⟨hm, decode_encode.1 m hm⟩

end CallSignaling.Message
