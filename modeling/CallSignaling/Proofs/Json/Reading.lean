import CallSignaling.Json.Reader
import CallSignaling.Proofs.Json.Numeral

/-!
# Reading — a written object is read back

`value_writeObject`: reading the bytes of a written object gives the members whose values were
written into it, if each of these values is read back where it stands (`Reads`).
-/

namespace CallSignaling.Json

open Scan Reader

variable {d n : Nat} {k : String} {cs : List Char} {v : Json} {r s t : Bytes}

theorem skipSpace_cons {b : UInt8} (hb : isSpace b = false) (t : Bytes) :
    skipSpace (b :: t) = b :: t :=
  List.dropWhile_cons_of_neg (by simp [hb])

/-! ### Strings and integers -/

theorem value_quote (d : Nat) (t : Bytes) :
    value d (byte '"' :: t) = (Scan.string t).map fun (x, r) => (.string x, r) := by
  unfold value
  rfl

theorem value_number (d : Nat) {b : UInt8} (hb : b = byte '-' ∨ isDigit b = true) (t : Bytes) :
    value d (b :: t) = (Scan.number (b :: t)).map fun (x, r) => (.number x, r) := by
  have hne : ∀ c, c ≠ byte '-' → isDigit c = false → b ≠ c := by
    rintro c hminus hdigit rfl
    rcases hb with rfl | hb
    · exact hminus rfl
    · rw [hdigit] at hb
      cases hb
  have hspace : isSpace b = false := by
    have h₁ := hne 0x20 (by decide) (by decide)
    have h₂ := hne 0x0A (by decide) (by decide)
    have h₃ := hne 0x09 (by decide) (by decide)
    have h₄ := hne 0x0D (by decide) (by decide)
    simp [isSpace, h₁, h₂, h₃, h₄]
  unfold value
  rw [skipSpace_cons hspace]
  dsimp only
  rw [if_neg (hne (byte 'n') (by decide) (by decide)),
    if_neg (hne (byte 't') (by decide) (by decide)),
    if_neg (hne (byte 'f') (by decide) (by decide)), if_pos hb]

/-- A written value is read back where a member's value stands. -/
def Reads (d : Nat) (cs : List Char) (v : Json) : Prop :=
  ∀ s, Delimited s → value d (bytes cs ++ s) = .ok (v, s)

theorem reads_string (d : Nat) (x : String) : Reads d (writeString x) (.string x) := by
  intro s _
  obtain ⟨t, ht, hx⟩ := string_writeString x s
  rw [ht, value_quote, hx]
  rfl

theorem reads_int (d : Nat) {i : Int} (hlo : -2 ^ 63 ≤ i) (hhi : i < 2 ^ 63) :
    Reads d (writeInt i) (.number (.integer i)) := by
  intro s hs
  obtain ⟨b, t, hbt, hb, hi⟩ := number_writeInt hlo hhi hs
  rw [hbt, value_number d hb, hi]
  rfl

/-! ### Members -/

/-- A member with its value and what was written for that. -/
structure Entry where
  key : String
  text : List Char
  value : Json

namespace Entry

def written (e : Entry) : String × List Char := (e.key, e.text)

def member (e : Entry) : String × Json := (e.key, e.value)

/-- The text of the member as a whole. -/
def chars (e : Entry) : List Char := writeString e.key ++ ':' :: e.text

end Entry

/-- A written member is taken in, with what leads to its key. -/
theorem members_chars {first : Bool} {lead : Bytes} {e : Entry} (he : Reads d e.text e.value)
    (hs : Delimited s) (hlead : ∀ t, keyStart first (lead ++ byte '"' :: t) = .ok (true, t)) :
    members (value d) (n + 1) first (lead ++ bytes e.chars ++ s) =
      (members (value d) n false s).map fun (ms, r) => (e.member :: ms, r) := by
  obtain ⟨t, ht, hkey⟩ := string_writeString e.key (byte ':' :: (bytes e.text ++ s))
  have hbytes : lead ++ bytes e.chars ++ s = lead ++ byte '"' :: t := by
    rw [← ht, Entry.chars, bytes_append, bytes_cons_of_lt (by decide)]
    simp
  have hcolon : colon (byte ':' :: (bytes e.text ++ s)) = .ok (bytes e.text ++ s) := rfl
  rw [hbytes, members, hlead]
  simp only [hkey, hcolon, he s hs]
  rfl

/-- The members after the first one, each behind its comma, with the closing brace. -/
def more (es : List Entry) (s : Bytes) : Bytes :=
  bytes (es.flatMap fun e => ',' :: e.chars) ++ byte '\x7d' :: s

theorem more_cons (e : Entry) (es : List Entry) (s : Bytes) :
    more (e :: es) s = [byte ','] ++ bytes e.chars ++ more es s := by
  unfold more
  rw [List.flatMap_cons, List.cons_append, bytes_cons_of_lt (by decide), bytes_append]
  simp

theorem more_delimited (es : List Entry) (s : Bytes) : Delimited (more es s) := by
  cases es with
  | nil => exact ⟨_, s, rfl, .inr rfl⟩
  | cons e es =>
    rw [more_cons]
    exact ⟨_, _, rfl, .inl rfl⟩

theorem length_le_more (es : List Entry) (s : Bytes) : es.length ≤ (more es s).length := by
  induction es with
  | nil => exact Nat.zero_le _
  | cons e es ih =>
    rw [more_cons]
    simp only [List.length_cons, List.length_append]
    omega

theorem members_more {es : List Entry} (h : ∀ e ∈ es, Reads d e.text e.value)
    (hn : es.length ≤ n) (s : Bytes) :
    members (value d) n false (more es s) = .ok (es.map Entry.member, s) := by
  induction es generalizing n with
  | nil =>
    unfold members
    rfl
  | cons e es ih =>
    obtain ⟨k, rfl⟩ : ∃ k, n = k + 1 := ⟨n - 1, by simp at hn; omega⟩
    have hes := ih (fun e he => h e (List.mem_cons_of_mem _ he)) (by simpa using hn)
    rw [more_cons, members_chars (h e List.mem_cons_self) (more_delimited es s) fun t => rfl, hes]
    rfl

/-! ### Objects -/

theorem commas_cons (x : List Char) (xs : List (List Char)) :
    commas (x :: xs) = x ++ xs.flatMap (',' :: ·) := by
  induction xs generalizing x with
  | nil => simp [commas]
  | cons y ys ih =>
    have hy : commas (x :: y :: ys) = x ++ ',' :: commas (y :: ys) := rfl
    rw [hy, ih y, List.flatMap_cons, List.cons_append]

/-- The members of an object with the closing brace. -/
def inner (es : List Entry) (s : Bytes) : Bytes :=
  bytes (commas (es.map Entry.chars)) ++ byte '\x7d' :: s

theorem bytes_writeObject (es : List Entry) (s : Bytes) :
    bytes (writeObject (es.map Entry.written)) ++ s = byte '\x7b' :: inner es s := by
  have hmap : ∀ f : String × List Char → List Char,
      (∀ k v, f (k, v) = writeString k ++ ':' :: v) →
      (es.map Entry.written).map f = es.map Entry.chars := by
    intro f hf
    rw [List.map_map]
    exact List.map_congr_left fun e _ => hf e.key e.text
  unfold writeObject
  rw [hmap _ fun _ _ => rfl, bytes_append, bytes_cons_of_lt (by decide),
    bytes_cons_of_lt (by decide)]
  simp [inner]

theorem inner_cons (e : Entry) (es : List Entry) (s : Bytes) :
    inner (e :: es) s = [] ++ bytes e.chars ++ more es s := by
  unfold inner more
  rw [List.map_cons, commas_cons, bytes_append, List.flatMap_map]
  simp

theorem length_le_inner (es : List Entry) (s : Bytes) : es.length ≤ (inner es s).length := by
  cases es with
  | nil => exact Nat.zero_le _
  | cons e es =>
    have hmore := length_le_more es s
    have hchars : 1 ≤ (bytes e.chars).length := by
      have hle := length_le_bytes e.chars
      have hquote : e.chars.length = (writeString e.key).length + (e.text.length + 1) := by
        simp [Entry.chars]
      omega
    rw [inner_cons]
    simp only [List.length_cons, List.length_append]
    omega

theorem members_inner {es : List Entry} (h : ∀ e ∈ es, Reads d e.text e.value)
    (hn : es.length ≤ n) (s : Bytes) :
    members (value d) n true (inner es s) = .ok (es.map Entry.member, s) := by
  cases es with
  | nil =>
    unfold members
    rfl
  | cons e es =>
    obtain ⟨k, rfl⟩ : ∃ k, n = k + 1 := ⟨n - 1, by simp at hn; omega⟩
    have hmore := members_more (fun e he => h e (List.mem_cons_of_mem _ he))
      (by simpa using hn : es.length ≤ k) s
    rw [inner_cons, members_chars (h e List.mem_cons_self) (more_delimited es s) fun t => rfl,
      hmore]
    rfl

/-- Reading what was written gives the object and leaves what follows. -/
theorem value_writeObject {es : List Entry} (h : ∀ e ∈ es, Reads d e.text e.value) (s : Bytes) :
    value (d + 1) (bytes (writeObject (es.map Entry.written)) ++ s) =
      .ok (.object (es.map Entry.member), s) := by
  have hvalue : value (d + 1) (byte '\x7b' :: inner es s) =
      (members (value d) (inner es s).length true (inner es s)).map
        fun (ms, r) => (.object ms, r) := rfl
  rw [bytes_writeObject, hvalue, members_inner h (length_le_inner es s)]
  rfl

theorem reads_object {es : List Entry} (h : ∀ e ∈ es, Reads d e.text e.value) :
    Reads (d + 1) (writeObject (es.map Entry.written)) (.object (es.map Entry.member)) :=
  fun s _ => value_writeObject h s

/-- A text that is one object is read as that. -/
theorem read_writeObject {es : List Entry}
    (h : ∀ e ∈ es, Reads (depthLimit - 2) e.text e.value) :
    read (bytes (writeObject (es.map Entry.written))) = .ok (.object (es.map Entry.member)) := by
  have hvalue := value_writeObject h []
  rw [List.append_nil] at hvalue
  unfold read
  rw [show depthLimit - 1 = depthLimit - 2 + 1 from rfl, hvalue]
  rfl

end CallSignaling.Json
