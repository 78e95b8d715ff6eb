import CallSignaling.Json.Scan
import CallSignaling.Json.Writer

/-!
# Quoting — a written string is read back

`string_writeString`: scanning the bytes of a written string gives the string, whatever follows it.
A character is written as an escape or as itself (`writeChar_cases`), and the scanner takes either
back in one step (`chars_writeChar`).
-/

namespace CallSignaling.Json

open Scan

/-- The bytes of some characters. -/
def bytes (cs : List Char) : Bytes := cs.flatMap Utf8.encodeChar

@[simp] theorem bytes_nil : bytes [] = [] := rfl

theorem bytes_cons (c : Char) (cs : List Char) : bytes (c :: cs) = Utf8.encodeChar c ++ bytes cs :=
  rfl

@[simp] theorem bytes_append (cs ds : List Char) : bytes (cs ++ ds) = bytes cs ++ bytes ds :=
  List.flatMap_append

theorem encodeChar_of_lt {c : Char} (h : c.toNat < 0x80) : Utf8.encodeChar c = [byte c] := by
  have hle : c.val.toNat ≤ 0x7F := Nat.le_of_lt_succ h
  unfold Utf8.encodeChar String.utf8EncodeChar
  rw [if_pos hle]
  exact congrArg (fun b => [b]) (UInt8.ofNat_uInt32ToNat c.val)

theorem bytes_cons_of_lt {c : Char} (h : c.toNat < 0x80) (cs : List Char) :
    bytes (c :: cs) = byte c :: bytes cs := by
  rw [bytes_cons, encodeChar_of_lt h]
  rfl

theorem toNat_byte {c : Char} (h : c.toNat < 0x80) : (byte c).toNat = c.toNat := by
  show (UInt8.ofNat c.toNat).toNat = c.toNat
  rw [UInt8.toNat_ofNat', Nat.mod_eq_of_lt (by omega)]

/-- The first byte of a character is its code or is high. -/
theorem encodeChar_head (c : Char) :
    ∃ b t, Utf8.encodeChar c = b :: t ∧ (b.toNat = c.toNat ∨ 0x80 ≤ b.toNat) := by
  by_cases h : c.toNat < 0x80
  · exact ⟨_, _, encodeChar_of_lt h, .inl (toNat_byte h)⟩
  · have hv : ¬ c.val.toNat ≤ 0x7F := fun hle => h (Nat.lt_succ_of_le hle)
    unfold Utf8.encodeChar String.utf8EncodeChar
    rw [if_neg hv]
    split
    · refine ⟨_, _, rfl, .inr ?_⟩
      rw [UInt8.toNat_ofNat']
      omega
    · split
      · refine ⟨_, _, rfl, .inr ?_⟩
        rw [UInt8.toNat_ofNat']
        omega
      · refine ⟨_, _, rfl, .inr ?_⟩
        rw [UInt8.toNat_ofNat']
        omega

/-! ### One character -/

/-- An escape by a letter is taken back. -/
theorem escape_letter {l c : Char} (h : (l, c) ∈ letterEscapes) (s : Bytes) :
    escape (bytes [l] ++ s) = .ok (c, s) := by
  simp only [letterEscapes, List.mem_cons, Prod.mk.injEq, List.not_mem_nil, or_false] at h
  rcases h with ⟨rfl, rfl⟩ | ⟨rfl, rfl⟩ | ⟨rfl, rfl⟩ | ⟨rfl, rfl⟩ | ⟨rfl, rfl⟩ | ⟨rfl, rfl⟩ |
    ⟨rfl, rfl⟩ | ⟨rfl, rfl⟩ <;> rfl

/-- A hexadecimal digit is one byte and has its value. -/
theorem hexDigit_spec (n : Nat) :
    (hexDigit n).toNat < 0x80 ∧ hexValue? (byte (hexDigit n)) = some (n % 16) := by
  have hall : ∀ d, d < 16 →
      (Nat.digitChar d).toNat < 0x80 ∧ hexValue? (byte (Nat.digitChar d)) = some d := by decide
  exact hall (n % 16) (Nat.mod_lt n (by decide))

/-- The escape of a control character is taken back. -/
theorem escape_control {c : Char} (h : c.toNat < 0x20) (s : Bytes) :
    escape (bytes ['u', '0', '0', hexDigit (c.toNat / 16), hexDigit c.toNat] ++ s) =
      .ok (c, s) := by
  obtain ⟨hlt₁, hval₁⟩ := hexDigit_spec (c.toNat / 16)
  obtain ⟨hlt₂, hval₂⟩ := hexDigit_spec c.toNat
  have hbytes : bytes ['u', '0', '0', hexDigit (c.toNat / 16), hexDigit c.toNat] ++ s =
      byte 'u' :: byte '0' :: byte '0' :: byte (hexDigit (c.toNat / 16)) ::
        byte (hexDigit c.toNat) :: s := by
    rw [bytes_cons_of_lt (by decide), bytes_cons_of_lt (by decide), bytes_cons_of_lt (by decide),
      bytes_cons_of_lt hlt₁, bytes_cons_of_lt hlt₂]
    rfl
  have hhex : hex4 (byte '0' :: byte '0' :: byte (hexDigit (c.toNat / 16)) ::
      byte (hexDigit c.toNat) :: s) = .ok (c.toNat, s) := by
    have hzero : hexValue? (byte '0') = some 0 := by decide
    have hsum : ((0 * 16 + 0) * 16 + c.toNat / 16 % 16) * 16 + c.toNat % 16 = c.toNat := by omega
    unfold hex4
    simp only [hzero, hval₁, hval₂, hsum]
  have hunicode : unicodeEscape (byte '0' :: byte '0' :: byte (hexDigit (c.toNat / 16)) ::
      byte (hexDigit c.toNat) :: s) = .ok (c, s) := by
    unfold unicodeEscape
    rw [hhex]
    dsimp only
    rw [if_neg (by omega), if_neg (by omega), Char.ofNat_toNat]
  rw [hbytes]
  exact hunicode

/-- A character is written as an escape, or as itself where that is no quote, backslash or control
character. -/
theorem writeChar_cases (c : Char) :
    (∃ e, writeChar c = '\\' :: e ∧ ∀ s, escape (bytes e ++ s) = .ok (c, s)) ∨
    (writeChar c = [c] ∧ c ≠ '"' ∧ c ≠ '\\' ∧ 0x20 ≤ c.toNat) := by
  by_cases hl : ∃ l, (l, c) ∈ letterEscapes ∧ l ≠ '/'
  · obtain ⟨l, hl, hsolidus⟩ := hl
    have hall : ∀ e ∈ letterEscapes, e.1 ≠ '/' → writeChar e.2 = ['\\', e.1] := by decide
    exact .inl ⟨[l], hall (l, c) hl hsolidus, escape_letter hl⟩
  · have hne : ∀ l d, (l, d) ∈ letterEscapes → l ≠ '/' → c ≠ d := by
      rintro l d hd hsolidus rfl
      exact hl ⟨l, hd, hsolidus⟩
    have hquote := hne '"' '"' (by decide) (by decide)
    have hslash := hne '\\' '\\' (by decide) (by decide)
    have hw : writeChar c = if c.toNat < 0x20 then
        ['\\', 'u', '0', '0', hexDigit (c.toNat / 16), hexDigit c.toNat] else [c] := by
      rw [writeChar, if_neg hquote, if_neg hslash, if_neg (hne 'b' _ (by decide) (by decide)),
        if_neg (hne 'f' _ (by decide) (by decide)), if_neg (hne 'n' _ (by decide) (by decide)),
        if_neg (hne 'r' _ (by decide) (by decide)), if_neg (hne 't' _ (by decide) (by decide))]
    by_cases hcontrol : c.toNat < 0x20
    · exact .inl ⟨_, by rw [hw, if_pos hcontrol], escape_control hcontrol⟩
    · exact .inr ⟨by rw [hw, if_neg hcontrol], hquote, hslash, Nat.le_of_not_lt hcontrol⟩

/-- The scanner takes a written character back in one step. -/
theorem chars_writeChar (text : Bytes) (n : Nat) (c : Char) (s : Bytes) :
    chars text (n + 1) none (bytes (writeChar c) ++ s) =
      (chars text n none s).map fun (cs, r) => (c :: cs, r) := by
  rcases writeChar_cases c with ⟨e, hw, he⟩ | ⟨hw, hquote, hslash, hcontrol⟩
  · have hbytes : bytes (writeChar c) ++ s = byte '\\' :: (bytes e ++ s) := by
      rw [hw, bytes_cons_of_lt (by decide)]
      rfl
    rw [hbytes, chars, if_neg (by decide), if_pos rfl, he]
    rfl
  · -- the first byte of a character that stands for itself is none that the scanner acts on
    obtain ⟨b, t, hb, hcode⟩ := encodeChar_head c
    have hbytes : bytes (writeChar c) ++ s = b :: (t ++ s) := by
      rw [hw, bytes_cons, hb]
      simp
    have hnext : Utf8.next? (b :: (t ++ s)) = some (c, s) := by
      rw [← List.cons_append, ← hb]
      exact Utf8.next?_encodeChar c s
    have hne : ∀ d : Char, d.toNat < 0x80 → c ≠ d → b ≠ byte d := by
      rintro d hd hcd rfl
      rw [toNat_byte hd] at hcode
      exact hcd (Char.toNat_inj.mp (by omega))
    have hhigh : ¬ b < 0x20 := by
      rw [UInt8.lt_iff_toNat_lt]
      have : (0x20 : UInt8).toNat = 0x20 := rfl
      omega
    rw [hbytes, chars, if_neg (hne '"' (by decide) hquote), if_neg (hne '\\' (by decide) hslash),
      if_neg hhigh, hnext]
    rfl

/-! ### Strings -/

theorem chars_written (text : Bytes) (cs : List Char) (s : Bytes) (n : Nat) (hn : cs.length < n) :
    chars text n none (bytes (cs.flatMap writeChar) ++ byte '"' :: s) = .ok (cs, s) := by
  induction cs generalizing n with
  | nil =>
    obtain ⟨k, rfl⟩ : ∃ k, n = k + 1 := ⟨n - 1, by simp at hn; omega⟩
    rfl
  | cons c cs ih =>
    obtain ⟨k, rfl⟩ : ∃ k, n = k + 1 := ⟨n - 1, by simp at hn; omega⟩
    rw [List.flatMap_cons, bytes_append, List.append_assoc, chars_writeChar,
      ih k (by simpa using hn)]
    rfl

theorem length_le_bytes (cs : List Char) : cs.length ≤ (bytes cs).length := by
  induction cs with
  | nil => exact Nat.le_refl 0
  | cons c cs ih =>
    obtain ⟨b, t, hb, -⟩ := encodeChar_head c
    rw [bytes_cons, hb]
    simp only [List.length_cons, List.length_append]
    omega

theorem length_le_written (cs : List Char) : cs.length ≤ (cs.flatMap writeChar).length := by
  induction cs with
  | nil => exact Nat.le_refl 0
  | cons c cs ih =>
    have hc : 1 ≤ (writeChar c).length := by
      rcases writeChar_cases c with ⟨e, hw, -⟩ | ⟨hw, -⟩ <;> simp [hw]
    simp only [List.flatMap_cons, List.length_append, List.length_cons]
    omega

/-- Scanning what was written gives the string and leaves what follows. -/
theorem string_writeString (x : String) (s : Bytes) :
    ∃ t, bytes (writeString x) ++ s = byte '"' :: t ∧ Scan.string t = .ok (x, s) := by
  refine ⟨bytes (x.toList.flatMap writeChar) ++ byte '"' :: s, ?_, ?_⟩
  · unfold writeString
    rw [bytes_append, bytes_cons_of_lt (by decide), bytes_cons_of_lt (by decide)]
    simp
  · unfold Scan.string
    rw [chars_written]
    · show Except.ok (String.ofList x.toList, s) = _
      rw [String.ofList_toList]
    · have hw := length_le_written x.toList
      have hb := length_le_bytes (x.toList.flatMap writeChar)
      simp only [List.length_append, List.length_cons]
      omega

end CallSignaling.Json
