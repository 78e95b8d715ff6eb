import CallSignaling.Proofs.Json.Quoting
import CallSignaling.Proofs.Text.Pieces
import Mathlib.Algebra.Group.Int.Defs

/-!
# Numeral — a written integer is read back

`number_writeInt`: scanning the digits of an integer of 64 bits gives the integer, if a comma or a
closing brace follows.
-/

namespace CallSignaling.Json

open Scan

/-- What follows a member's value in an object that was written. -/
def Delimited (s : Bytes) : Prop := ∃ b t, s = b :: t ∧ (b = byte ',' ∨ b = byte '\x7d')

/-! ### Digits -/

theorem digitChar_spec {d : Nat} (hd : d < 10) :
    (Nat.digitChar d).toNat < 0x80 ∧ isDigit (byte (Nat.digitChar d)) = true ∧
      digitValue (byte (Nat.digitChar d)) = d ∧ (byte (Nat.digitChar d) = byte '0' ↔ d = 0) := by
  have hall : ∀ d, d < 10 →
      (Nat.digitChar d).toNat < 0x80 ∧ isDigit (byte (Nat.digitChar d)) = true ∧
        digitValue (byte (Nat.digitChar d)) = d ∧
        (byte (Nat.digitChar d) = byte '0' ↔ d = 0) := by decide
  exact hall d hd

/-- The digits of a number are one digit, or one more digit behind those of another number. -/
theorem toDigits_induction {P : Nat → Bytes → Prop}
    (one : ∀ d, d < 10 → P d [byte (Nat.digitChar d)])
    (more : ∀ n d ds, 0 < n → d < 10 → P n ds → P (n * 10 + d) (ds ++ [byte (Nat.digitChar d)]))
    (n : Nat) : P n (bytes (Nat.toDigits 10 n)) := by
  have hbytes : ∀ d, d < 10 → bytes [Nat.digitChar d] = [byte (Nat.digitChar d)] := fun d hd =>
    bytes_cons_of_lt (digitChar_spec hd).1 []
  induction n using Nat.strongRecOn with
  | _ n ih =>
    by_cases hn : n < 10
    · rw [Nat.toDigits_of_lt_base hn, hbytes n hn]
      exact one n hn
    · have hd : n % 10 < 10 := Nat.mod_lt n (by decide)
      have hstep := more (n / 10) (n % 10) _ (by omega) hd (ih (n / 10) (by omega))
      rw [Nat.toDigits_of_base_le (by decide) (by omega), bytes_append, hbytes _ hd]
      rwa [show n / 10 * 10 + n % 10 = n by omega] at hstep

theorem isDigit_of_mem_toDigits (n : Nat) : ∀ b ∈ bytes (Nat.toDigits 10 n), isDigit b = true := by
  refine toDigits_induction (P := fun _ ds => ∀ b ∈ ds, isDigit b = true) ?_ ?_ n
  · intro d hd b hb
    rw [List.mem_singleton.mp hb]
    exact (digitChar_spec hd).2.1
  · intro n d ds _ hd ih b hb
    rcases List.mem_append.mp hb with hb | hb
    · exact ih b hb
    · rw [List.mem_singleton.mp hb]
      exact (digitChar_spec hd).2.1

/-- Only zero begins with a zero. -/
theorem toDigits_head (n : Nat) :
    ∃ b t, bytes (Nat.toDigits 10 n) = b :: t ∧ (b = byte '0' ↔ n = 0) := by
  refine toDigits_induction (P := fun n ds => ∃ b t, ds = b :: t ∧ (b = byte '0' ↔ n = 0)) ?_ ?_ n
  · intro d hd
    exact ⟨_, [], rfl, (digitChar_spec hd).2.2.2⟩
  · rintro n d ds hn hd ⟨b, t, rfl, hb⟩
    refine ⟨b, t ++ [byte (Nat.digitChar d)], rfl, ?_⟩
    rw [hb]
    omega

/-- The digits of a number of 64 bits have its value. -/
theorem foldl_toDigits (n : Nat) (hn : n < UInt64.size) :
    ((bytes (Nat.toDigits 10 n)).map digitValue).foldl Significand.pushWhole ⟨0, 0⟩ = ⟨n, 0⟩ := by
  refine toDigits_induction (P := fun n ds => n < UInt64.size →
    (ds.map digitValue).foldl Significand.pushWhole ⟨0, 0⟩ = ⟨n, 0⟩) ?_ ?_ n hn
  · intro d hd hsize
    have hval := (digitChar_spec hd).2.2.1
    simp only [List.map_cons, List.map_nil, List.foldl_cons, List.foldl_nil, hval]
    unfold Significand.pushWhole
    simp [hsize]
  · intro n d ds _ hd ih hsize
    have hval := (digitChar_spec hd).2.2.1
    rw [List.map_append, List.foldl_append, ih (by omega)]
    simp only [List.map_cons, List.map_nil, List.foldl_cons, List.foldl_nil, hval]
    unfold Significand.pushWhole
    simp [hsize]

/-! ### Numbers -/

theorem Delimited.takeWhile {s : Bytes} (hs : Delimited s) {ds : Bytes}
    (hd : ∀ b ∈ ds, isDigit b = true) :
    (ds ++ s).takeWhile isDigit = ds ∧ (ds ++ s).dropWhile isDigit = s := by
  obtain ⟨b, t, rfl, hb⟩ := hs
  have hstop : isDigit b = false := by rcases hb with rfl | rfl <;> rfl
  refine Text.span_append hd fun c hc => ?_
  cases hc
  exact hstop

theorem afterWhole_delimited (negative : Bool) (sig : Significand) {s : Bytes} (hs : Delimited s) :
    afterWhole negative sig s = whole negative sig s := by
  obtain ⟨b, t, rfl, rfl | rfl⟩ := hs <;> rfl

/-- The digits of a number of 64 bits are taken in as a whole. -/
theorem magnitude_toDigits (negative : Bool) {n : Nat} (hn : n < UInt64.size) {s : Bytes}
    (hs : Delimited s) :
    magnitude negative (bytes (Nat.toDigits 10 n) ++ s) = whole negative ⟨n, 0⟩ s := by
  by_cases hzero : n = 0
  · -- a leading zero has to be the only digit
    subst hzero
    obtain ⟨b, t, rfl, rfl | rfl⟩ := hs <;> rfl
  · obtain ⟨b, t, hbt, hb⟩ := toDigits_head n
    have hdigits := isDigit_of_mem_toDigits n
    obtain ⟨htake, hdrop⟩ := hs.takeWhile hdigits
    have hvalue := foldl_toDigits n hn
    have hfirst : isDigit b = true := hdigits b (by simp [hbt])
    rw [hbt] at htake hdrop hvalue ⊢
    rw [List.cons_append] at htake hdrop ⊢
    unfold magnitude
    dsimp only
    rw [if_neg fun h => hzero (hb.mp h), if_pos hfirst, htake, hdrop, hvalue]
    exact afterWhole_delimited negative ⟨n, 0⟩ hs

/-- Scanning what was written gives the integer and leaves what follows. -/
theorem number_writeInt {i : Int} (hlo : -2 ^ 63 ≤ i) (hhi : i < 2 ^ 63) {s : Bytes}
    (hs : Delimited s) :
    ∃ b t, bytes (writeInt i) ++ s = b :: t ∧ (b = byte '-' ∨ isDigit b = true) ∧
      Scan.number (b :: t) = .ok (.integer i, s) := by
  have hsize : i.natAbs < UInt64.size := by
    have : UInt64.size = 2 ^ 64 := rfl
    omega
  by_cases hneg : i < 0
  · refine ⟨byte '-', bytes (Nat.toDigits 10 i.natAbs) ++ s, ?_, .inl rfl, ?_⟩
    · rw [writeInt, if_pos hneg, bytes_cons_of_lt (by decide)]
      rfl
    · rw [Scan.number, if_pos rfl, magnitude_toDigits true hsize hs]
      have hvalue : ¬ (i.natAbs = 0 ∨ Nat.pow 2 63 < i.natAbs) := by
        have : Nat.pow 2 63 = 2 ^ 63 := rfl
        omega
      have habs : -(i.natAbs : Int) = i := by omega
      rw [whole, if_neg (by simp), if_pos rfl, if_neg hvalue, habs]
  · obtain ⟨b, t, hbt, -⟩ := toDigits_head i.natAbs
    have hdigit : isDigit b = true := isDigit_of_mem_toDigits i.natAbs b (by simp [hbt])
    have hminus : b ≠ byte '-' := by
      rintro rfl
      exact absurd hdigit (by decide)
    refine ⟨b, t ++ s, ?_, .inr hdigit, ?_⟩
    · rw [writeInt, if_neg hneg, hbt]
      rfl
    · have habs : (i.natAbs : Int) = i := by omega
      rw [Scan.number, if_neg hminus, ← List.cons_append, ← hbt,
        magnitude_toDigits false hsize hs]
      rw [whole, if_neg (by simp), if_neg (by simp), habs]

end CallSignaling.Json
