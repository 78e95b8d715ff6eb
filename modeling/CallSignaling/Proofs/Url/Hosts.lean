import CallSignaling.Proofs.Url.Names
import Mathlib.Data.List.TakeWhile

/-!
# Hosts — a written host is read back

Main statement: `Host.ofName_text`.  The text of an IPv6 address leaves the longest run of zeros
out: reading the pieces in front of the gap (`ipv6Pieces?_gap`) and behind it (`ipv6Pieces?_colons`)
and filling the gap gives the eight back.
-/

namespace CallSignaling.Url

/-- What a function gives for the members of a list has what all its values have. -/
theorem forall_of_mapM {α β : Type} {f : α → Option β} {P : β → Prop}
    (hf : ∀ a b, f a = some b → P b) {xs : List α} {ys : List β} (h : xs.mapM f = some ys) :
    ∀ y ∈ ys, P y := by
  induction xs generalizing ys with
  | nil =>
    cases h
    exact fun y hy => absurd hy List.not_mem_nil
  | cons x xs ih =>
    rw [List.mapM_cons] at h
    obtain ⟨z, hz, h⟩ := Option.bind_eq_some_iff.mp h
    obtain ⟨zs, hzs, h⟩ := Option.bind_eq_some_iff.mp h
    cases h
    intro y hy
    rcases List.mem_cons.mp hy with rfl | hy
    · exact hf x y hz
    · exact ih hzs y hy

/-! ### The pieces of an IPv6 address -/

/-- At most eight pieces of 16 bits. -/
structure Fits (ps : List Nat) : Prop where
  count : ps.length ≤ 8
  bits : ∀ p ∈ ps, p < 2 ^ 16

theorem Fits.append {ps qs : List Nat} (hps : Fits ps) (hqs : ∀ q ∈ qs, q < 2 ^ 16)
    (hlen : ps.length + qs.length ≤ 8) : Fits (ps ++ qs) where
  count := by rwa [List.length_append]
  bits p hp := (List.mem_append.mp hp).elim (hps.bits p) (hqs p)

theorem Fits.push {ps : List Nat} (hps : Fits ps) (hlen : ps.length ≠ 8) {p : Nat}
    (hp : p < 2 ^ 16) : Fits (ps ++ [p]) := by
  have hcount := hps.count
  refine hps.append (fun q hq => ?_) (by rw [List.length_singleton]; omega)
  rwa [List.mem_singleton.mp hq]

theorem ipv4Pieces?_bits {cs : List Char} {ps : List Nat} (h : ipv4Pieces? cs = some ps) :
    ps.length = 2 ∧ ∀ p ∈ ps, p < 2 ^ 16 := by
  have hbyte : ∀ ds n, ipv4Byte? ds = some n → n ≤ 255 := by
    intro ds n hn
    unfold ipv4Byte? at hn
    split at hn
    next => cases hn
    next => cases hn
    next => simpa using (Option.filter_eq_some_iff.mp hn).2
  unfold ipv4Pieces? at h
  split at h
  next a b c d habcd =>
    cases h
    have hall := forall_of_mapM hbyte habcd
    have ha := hall a (by simp)
    have hb := hall b (by simp)
    have hc := hall c (by simp)
    have hd := hall d (by simp)
    refine ⟨rfl, fun p hp => ?_⟩
    simp only [List.mem_cons, List.not_mem_nil, or_false] at hp
    rcases hp with rfl | rfl <;> omega
  next => cases h

/-- The value of at most four digits. -/
theorem value_bits (ds : List Char) (h : ds.length ≤ 4) : (digitsIn 16 ds).getD 0 < 2 ^ 16 := by
  cases hv : digitsIn 16 ds with
  | none => exact Nat.two_pow_pos 16
  | some v =>
    calc v < 16 ^ ds.length := digitsIn_lt hv
      _ ≤ 16 ^ 4 := Nat.pow_le_pow_right (by decide) h
      _ = 2 ^ 16 := by decide

theorem ipv6Pieces?_fits {n : Nat} {cs : List Char} {acc ps : List Nat} {gap k : Option Nat}
    (hacc : Fits acc) (h : ipv6Pieces? n cs acc gap = some (ps, k)) : Fits ps := by
  induction n generalizing cs acc gap with
  | zero =>
    cases cs with
    | nil =>
      simp only [ipv6Pieces?] at h
      cases h
      exact hacc
    | cons c cs => simp [ipv6Pieces?] at h
  | succ n ih =>
    cases cs with
    | nil =>
      simp only [ipv6Pieces?] at h
      cases h
      exact hacc
    | cons c cs =>
      rw [ipv6Pieces?] at h
      split at h
      next => cases h
      next hlen =>
        split at h
        next =>
          split at h
          next => cases h
          next => exact ih (hacc.push hlen (by decide)) h
        next =>
          have hvalue := hacc.push hlen (value_bits (((c :: cs).take 4).takeWhile
            fun d => (hexDigit? d).isSome) ((List.takeWhile_prefix _).length_le.trans
              (List.length_take_le 4 _)))
          dsimp only at h
          split at h
          next =>
            cases h
            exact hvalue
          next => cases h
          next => exact ih hvalue h
          next =>
            split at h
            next => cases h
            next hcond =>
              obtain ⟨qs, hqs, hps⟩ := Option.map_eq_some_iff.mp h
              cases hps
              obtain ⟨htwo, hbits⟩ := ipv4Pieces?_bits hqs
              have hroom : ¬ 6 < acc.length := fun hlt => hcond (.inr hlt)
              exact hacc.append hbits (by omega)
          next => cases h

theorem fillGap_fits {ps qs : List Nat} {k : Option Nat} (hps : Fits ps)
    (h : fillGap (ps, k) = some qs) : qs.length = 8 ∧ ∀ q ∈ qs, q < 2 ^ 16 := by
  have hcount := hps.count
  cases k with
  | none =>
    change (if ps.length = 8 then some ps else none) = some qs at h
    split at h
    next hlen =>
      cases h
      exact ⟨hlen, hps.bits⟩
    next => cases h
  | some k =>
    cases h
    constructor
    · simp only [List.length_append, List.length_take, List.length_replicate, List.length_drop]
      omega
    · intro q hq
      simp only [List.mem_append, List.mem_replicate] at hq
      rcases hq with (hq | ⟨-, rfl⟩) | hq
      · exact hps.bits q (List.mem_of_mem_take hq)
      · exact Nat.two_pow_pos 16
      · exact hps.bits q (List.mem_of_mem_drop hq)

/-- An IPv6 address has eight pieces of 16 bits. -/
theorem ipv6?_fits {cs : List Char} {ps : List Nat} (h : ipv6? cs = some ps) :
    ps.length = 8 ∧ ∀ p ∈ ps, p < 2 ^ 16 := by
  have hfill : ∀ {n cs acc gap}, Fits acc → (ipv6Pieces? n cs acc gap).bind fillGap = some ps →
      ps.length = 8 ∧ ∀ p ∈ ps, p < 2 ^ 16 := by
    intro n cs acc gap hacc h
    obtain ⟨⟨qs, k⟩, hqs, h⟩ := Option.bind_eq_some_iff.mp h
    exact fillGap_fits (ipv6Pieces?_fits hacc hqs) h
  unfold ipv6? at h
  split at h
  next => exact hfill ⟨by decide, by decide⟩ h
  next => cases h
  next => cases h
  next => cases h
  next => exact hfill ⟨by decide, by decide⟩ h

/-! ### Reading written pieces -/

theorem toDigits_hex {p : Nat} (hp : p < 2 ^ 16) (r : List Char)
    (hr : ∀ c ∈ r.head?, hexDigit? c = none) :
    ((Nat.toDigits 16 p ++ r).take 4).takeWhile (fun d => (hexDigit? d).isSome) =
      Nat.toDigits 16 p := by
  have hlen : (Nat.toDigits 16 p).length ≤ 4 :=
    (Nat.length_toDigits_le_iff (by decide) (by decide)).mpr hp
  have hhex : ∀ c ∈ Nat.toDigits 16 p, (hexDigit? c).isSome = true :=
    forall_mem_toDigits (P := fun c => (hexDigit? c).isSome = true) (by decide) (by decide) p
  have hrest : (r.take (4 - (Nat.toDigits 16 p).length)).takeWhile
      (fun d => (hexDigit? d).isSome) = [] := by
    cases r with
    | nil => rw [List.take_nil, List.takeWhile_nil]
    | cons c cs =>
      have hc : hexDigit? c = none := hr c rfl
      cases 4 - (Nat.toDigits 16 p).length with
      | zero => rfl
      | succ k => simp [hc]
  rw [List.take_append, List.take_of_length_le hlen, List.takeWhile_append_of_pos hhex, hrest,
    List.append_nil]

theorem exists_toDigits_hex (p : Nat) : ∃ c cs, Nat.toDigits 16 p = c :: cs ∧ c ≠ ':' := by
  obtain ⟨c, cs, hc⟩ := List.exists_cons_of_ne_nil (Nat.toDigits_ne_nil (n := p) (b := 16))
  have hcolon := forall_mem_toDigits (P := (· ≠ ':')) (by decide : 1 < 16) (by decide) p c
  exact ⟨c, cs, hc, hcolon (by rw [hc]; exact List.mem_cons_self)⟩

section

variable {p : Nat} {ps : List Nat} (acc : List Nat) (gap : Option Nat)

/-- A piece that ends the text. -/
theorem ipv6Pieces?_last (hp : p < 2 ^ 16) (hlen : acc.length ≠ 8) (n : Nat) :
    ipv6Pieces? (n + 1) (Nat.toDigits 16 p) acc gap = some (acc ++ [p], gap) := by
  have hfront := toDigits_hex hp [] (by simp)
  rw [List.append_nil] at hfront
  have hvalue : digitsIn 16 (Nat.toDigits 16 p) = some p :=
    digitsIn_toDigits (by decide) (by decide) p
  obtain ⟨c, cs, hc, hcolon⟩ := exists_toDigits_hex p
  rw [hc] at hfront hvalue ⊢
  rw [ipv6Pieces?, if_neg hlen, if_neg hcolon]
  dsimp only
  rw [hfront, hvalue, List.drop_length]
  rfl

/-- A piece with a colon behind it. -/
theorem ipv6Pieces?_more (hp : p < 2 ^ 16) (hlen : acc.length ≠ 8) (n : Nat) (c : Char)
    (r : List Char) : ipv6Pieces? (n + 1) (Nat.toDigits 16 p ++ ':' :: c :: r) acc gap =
      ipv6Pieces? n (c :: r) (acc ++ [p]) gap := by
  have hfront := toDigits_hex hp (':' :: c :: r) (by simp; decide)
  have hvalue : digitsIn 16 (Nat.toDigits 16 p) = some p :=
    digitsIn_toDigits (by decide) (by decide) p
  obtain ⟨d, ds, hd, hcolon⟩ := exists_toDigits_hex p
  rw [hd] at hfront hvalue ⊢
  rw [List.cons_append] at hfront ⊢
  rw [ipv6Pieces?, if_neg hlen, if_neg hcolon]
  dsimp only
  rw [hfront, hvalue, ← List.cons_append, List.drop_left]
  rfl

theorem colons_cons (p q : Nat) (ps : List Nat) :
    colons (p :: q :: ps) = Nat.toDigits 16 p ++ ':' :: colons (q :: ps) := rfl

theorem exists_colons (p : Nat) (ps : List Nat) : ∃ c cs, colons (p :: ps) = c :: cs := by
  obtain ⟨c, cs, hc, -⟩ := exists_toDigits_hex p
  cases ps with
  | nil => exact ⟨c, cs, hc⟩
  | cons q ps => exact ⟨c, _, by rw [colons_cons, hc, List.cons_append]⟩

/-- Pieces up to the end of the text. -/
theorem ipv6Pieces?_colons {n : Nat} (hps : ∀ p ∈ ps, p < 2 ^ 16)
    (hlen : acc.length + ps.length ≤ 8) (hn : ps.length ≤ n) :
    ipv6Pieces? n (colons ps) acc gap = some (acc ++ ps, gap) := by
  induction ps generalizing acc n with
  | nil =>
    rw [List.append_nil]
    cases n <;> rfl
  | cons p ps ih =>
    obtain ⟨hp, hps⟩ := List.forall_mem_cons.mp hps
    rw [List.length_cons] at hlen hn
    obtain ⟨n, rfl⟩ : ∃ m, n = m + 1 := ⟨n - 1, by omega⟩
    cases ps with
    | nil => exact ipv6Pieces?_last acc gap hp (by omega) n
    | cons q ps =>
      obtain ⟨c, cs, hc⟩ := exists_colons q ps
      have hstep := ipv6Pieces?_more acc gap hp (by omega) n c cs
      have hrest : ipv6Pieces? n (colons (q :: ps)) (acc ++ [p]) gap =
          some (acc ++ [p] ++ q :: ps, gap) :=
        ih (acc ++ [p]) hps (by rw [List.length_append, List.length_singleton]; omega) (by omega)
      rw [← hc, ← colons_cons] at hstep
      rw [hstep, hrest, List.append_assoc, List.singleton_append]

/-- Pieces up to a gap, and what is left to read there. -/
theorem ipv6Pieces?_gap (hne : ps ≠ []) (hps : ∀ p ∈ ps, p < 2 ^ 16)
    (hlen : acc.length + ps.length < 8) (m : Nat) (tail : List Char) :
    ipv6Pieces? (ps.length + 1 + m) (colons ps ++ ':' :: ':' :: tail) acc none =
      ipv6Pieces? m tail (acc ++ ps ++ [0]) (some (acc.length + ps.length + 1)) := by
  induction ps generalizing acc with
  | nil => exact absurd rfl hne
  | cons p ps ih =>
    obtain ⟨hp, hps⟩ := List.forall_mem_cons.mp hps
    rw [List.length_cons] at hlen
    have hfuel : (p :: ps).length + 1 + m = (ps.length + 1 + m) + 1 := by
      rw [List.length_cons]
      omega
    rw [hfuel]
    cases ps with
    | nil =>
      have hroom : (acc ++ [p]).length ≠ 8 := by
        rw [List.length_append, List.length_singleton]
        omega
      have hm : ([] : List Nat).length + 1 + m = m + 1 := by
        rw [List.length_nil]
        omega
      rw [colons, ipv6Pieces?_more acc none hp (by omega), hm, ipv6Pieces?, if_neg hroom,
        if_pos rfl]
      simp
    | cons q ps =>
      obtain ⟨c, cs, hc⟩ := exists_colons q ps
      have hrest := ih (acc ++ [p]) (by simp) hps
        (by rw [List.length_append, List.length_singleton]; omega)
      rw [hc] at hrest
      rw [colons_cons, hc, List.append_assoc, List.cons_append, List.cons_append,
        ipv6Pieces?_more acc none hp (by omega), ← List.cons_append, hrest]
      simp [Nat.add_assoc, Nat.add_comm]

theorem length_le_colons (ps : List Nat) : ps.length ≤ (colons ps).length := by
  induction ps with
  | nil => exact Nat.zero_le _
  | cons p ps ih =>
    obtain ⟨c, cs, hc, -⟩ := exists_toDigits_hex p
    cases ps with
    | nil =>
      rw [colons, hc]
      simp
    | cons q ps =>
      simp only [colons_cons, hc, List.length_append, List.length_cons] at ih ⊢
      omega

theorem exists_toDigits_colons (p : Nat) (ps : List Nat) (cs : List Char) :
    ∃ r, colons (p :: ps) ++ ':' :: cs = Nat.toDigits 16 p ++ ':' :: r := by
  cases ps with
  | nil => exact ⟨cs, rfl⟩
  | cons q ps => exact ⟨_, by rw [colons_cons, List.append_assoc, List.cons_append]⟩

/-- A text that begins with a piece and a colon is read piece by piece. -/
theorem ipv6?_toDigits (p : Nat) (r : List Char) :
    ipv6? (Nat.toDigits 16 p ++ ':' :: r) =
      (ipv6Pieces? (Nat.toDigits 16 p ++ ':' :: r).length (Nat.toDigits 16 p ++ ':' :: r) []
        none).bind fillGap := by
  obtain ⟨c, cs, hc, hcolon⟩ := exists_toDigits_hex p
  rw [hc]
  cases cs with
  | nil => simp [ipv6?, hcolon]
  | cons d ds => simp [ipv6?, hcolon]

end

/-! ### The gap -/

theorem eq_of_zeroRun (ps : List Nat) :
    ps = List.replicate (zeroRun ps) 0 ++ ps.drop (zeroRun ps) := by
  have hzeros : ps.takeWhile (· == 0) = List.replicate (zeroRun ps) 0 :=
    List.eq_replicate_iff.mpr ⟨rfl, fun p hp => by simpa using List.mem_takeWhile_imp hp⟩
  have hsplit := List.takeWhile_append_dropWhile (p := (· == 0)) (l := ps)
  rw [hzeros] at hsplit
  have hdrop := congrArg (List.drop (zeroRun ps)) hsplit
  rw [List.drop_left' List.length_replicate] at hdrop
  rw [← hdrop, hsplit]

theorem foldl_longer (runs : List (Nat × Nat)) (best : Nat × Nat) :
    (runs.foldl (fun best r => if best.2 < r.2 then r else best) best) = best ∨
      (runs.foldl (fun best r => if best.2 < r.2 then r else best) best) ∈ runs := by
  induction runs generalizing best with
  | nil => exact .inl rfl
  | cons r runs ih =>
    rw [List.foldl_cons]
    rcases ih (if best.2 < r.2 then r else best) with h | h
    · rw [h]
      split
      · exact .inr List.mem_cons_self
      · exact .inl rfl
    · exact .inr (List.mem_cons_of_mem r h)

/-- What is left out of an address is a run of two zeros or more. -/
theorem longestZeros_spec {ps : List Nat} {i n : Nat} (h : longestZeros ps = some (i, n)) :
    2 ≤ n ∧ ps = ps.take i ++ List.replicate n 0 ++ ps.drop (i + n) := by
  unfold longestZeros at h
  dsimp only at h
  split at h
  next htwo =>
    have hmem := foldl_longer ((List.range ps.length).map fun i => (i, zeroRun (ps.drop i))) (0, 1)
    rw [Option.some.inj h] at hmem htwo
    rcases hmem with hmem | hmem
    · cases hmem
      exact absurd htwo (by decide)
    · obtain ⟨j, -, heq⟩ := List.mem_map.mp hmem
      cases heq
      refine ⟨htwo, ?_⟩
      have hrun := eq_of_zeroRun (ps.drop i)
      rw [List.drop_drop] at hrun
      rw [List.append_assoc, ← hrun, List.take_append_drop]
  next => cases h

/-- The zeros that were left out are put back. -/
theorem fillGap_replicate {front back : List Nat} {n : Nat} (hn : 1 ≤ n)
    (hlen : front.length + n + back.length = 8) :
    fillGap (front ++ [0] ++ back, some (front.length + 1)) =
      some (front ++ List.replicate n 0 ++ back) := by
  have hfront : (front ++ [0]).length = front.length + 1 := by
    rw [List.length_append, List.length_singleton]
  have hmissing : 8 - (front ++ [0] ++ back).length = n - 1 := by
    rw [List.length_append, hfront]
    omega
  have hzeros : [0] ++ List.replicate (n - 1) 0 = List.replicate n 0 := by
    rw [List.singleton_append, ← List.replicate_succ, Nat.sub_add_cancel hn]
  rw [fillGap, hmissing, ← hfront, List.take_left, List.drop_left, List.append_assoc front, hzeros]

/-- The pieces behind a gap, with the zeros put back in front of them. -/
theorem ipv6Pieces?_behind {front back : List Nat} {n m : Nat} (hn : 1 ≤ n)
    (hlen : front.length + n + back.length = 8) (hback : ∀ p ∈ back, p < 2 ^ 16)
    (hm : back.length ≤ m) :
    (ipv6Pieces? m (colons back) (front ++ [0]) (some (front.length + 1))).bind fillGap =
      some (front ++ List.replicate n 0 ++ back) := by
  have hroom : (front ++ [0]).length + back.length ≤ 8 := by
    rw [List.length_append, List.length_singleton]
    omega
  rw [ipv6Pieces?_colons _ _ hback hroom hm]
  exact fillGap_replicate hn hlen

/-- Pieces without a gap. -/
theorem ipv6?_colons {ps : List Nat} (hlen : ps.length = 8) (hps : ∀ p ∈ ps, p < 2 ^ 16) :
    ipv6? (colons ps) = some ps := by
  have hread := ipv6Pieces?_colons [] none hps (by rw [hlen]; decide) (length_le_colons ps)
  match ps with
  | p :: q :: r =>
    rw [colons_cons] at hread ⊢
    rw [ipv6?_toDigits, hread]
    exact if_pos hlen

/-- Pieces with a gap of two zeros or more. -/
theorem ipv6?_gap {front back : List Nat} {n : Nat} (hn : 2 ≤ n)
    (hlen : front.length + n + back.length = 8) (hfront : ∀ p ∈ front, p < 2 ^ 16)
    (hback : ∀ p ∈ back, p < 2 ^ 16) :
    ipv6? (colons front ++ ':' :: ':' :: colons back) =
      some (front ++ List.replicate n 0 ++ back) := by
  have hbehind := length_le_colons back
  cases front with
  | nil => exact ipv6Pieces?_behind  (by omega) hlen hback hbehind
  | cons p front =>
    have hahead := length_le_colons (p :: front)
    obtain ⟨r, hr⟩ := exists_toDigits_colons p front (':' :: colons back)
    obtain ⟨m, hm, hle⟩ : ∃ m, (colons (p :: front) ++ ':' :: ':' :: colons back).length =
        (p :: front).length + 1 + m ∧ back.length ≤ m := by
      rw [List.length_append, List.length_cons, List.length_cons]
      exact ⟨_, (Nat.add_sub_cancel' (by omega)).symm, by omega⟩
    have hgap := ipv6Pieces?_gap [] (List.cons_ne_nil p front) hfront
      (by rw [List.length_nil]; omega) m (colons back)
    rw [List.nil_append, List.length_nil, Nat.zero_add] at hgap
    rw [hr, ipv6?_toDigits, ← hr, hm, hgap]
    exact ipv6Pieces?_behind (by omega) hlen hback hle

/-- A written IPv6 address is read back. -/
theorem ipv6?_ipv6Text {ps : List Nat} (hlen : ps.length = 8) (hps : ∀ p ∈ ps, p < 2 ^ 16) :
    ipv6? (ipv6Text ps) = some ps := by
  unfold ipv6Text
  split
  next => exact ipv6?_colons hlen hps
  next i n hzeros =>
    obtain ⟨htwo, hsplit⟩ := longestZeros_spec hzeros
    have hsum := congrArg List.length hsplit
    simp only [List.length_append, List.length_replicate, hlen] at hsum
    conv_rhs => rw [hsplit]
    exact ipv6?_gap htwo hsum.symm (fun p hp => hps p (List.mem_of_mem_take hp))
      fun p hp => hps p (List.mem_of_mem_drop hp)

example : (ipv6? "1:0:0:2:0:0:0:3".toList).map ipv6Text = some "1:0:0:2::3".toList := by
  decide +kernel

/-! ### Hosts -/

namespace Host

/-- A host that can be written and read back. -/
inductive WellFormed : Host → Prop where
  | domain {name : List Char} (chars : ∀ c ∈ name, NameChar c)
      (notNumber : endsInNumber name = false) : WellFormed (.domain name)
  | ipv4 {a : Nat} (bits : a < 2 ^ 32) : WellFormed (.ipv4 a)
  | ipv6 {ps : List Nat} (count : ps.length = 8) (bits : ∀ p ∈ ps, p < 2 ^ 16) :
      WellFormed (.ipv6 ps)

/-- A host that was read is well formed. -/
theorem wellFormed_of_ofName {cs : List Char} {h : Host} (hr : ofName cs = .ok h) :
    h.WellFormed := by
  unfold ofName at hr
  split at hr
  next =>
    split at hr
    next ps hps =>
      cases hr
      obtain ⟨t, -, hps⟩ := Option.bind_eq_some_iff.mp hps
      obtain ⟨hlen, hbits⟩ := ipv6?_fits hps
      exact .ipv6 hlen hbits
    next => cases hr
  next =>
    split at hr
    next => cases hr
    next name hname =>
      split at hr
      next =>
        split at hr
        next a ha =>
          cases hr
          obtain ⟨ns, -, ha⟩ := Option.bind_eq_some_iff.mp ha
          exact .ipv4 (ipv4OfNumbers?_lt ha)
        next => cases hr
      next hends =>
        cases hr
        exact .domain (nameChar_of_domain? hname) (Bool.not_eq_true _ ▸ hends)

/-- A name is taken as it is, unless its last label is a number. -/
theorem ofName_of_name {name : List Char} (hname : ∀ c ∈ name, NameChar c)
    (hends : endsInNumber name = false) : ofName name = .ok (.domain name) := by
  unfold ofName
  split
  next cs => exact absurd rfl ((hname '[' List.mem_cons_self).ne (by decide))
  next =>
    rw [domain?_of_nameChar hname]
    dsimp only
    rw [if_neg (by rw [hends]; exact Bool.false_ne_true)]

theorem ofName_of_address {name : List Char} (hname : ∀ c ∈ name, NameChar c) {a : Nat}
    (hends : endsInNumber name = true) (ha : ipv4? name = some a) :
    ofName name = .ok (.ipv4 a) := by
  unfold ofName
  split
  next cs => exact absurd rfl ((hname '[' List.mem_cons_self).ne (by decide))
  next =>
    rw [domain?_of_nameChar hname]
    dsimp only
    rw [if_pos hends, ha]

theorem bracketed?_brackets (cs : List Char) : bracketed? ('[' :: cs ++ [']']) = some cs := by
  rw [bracketed?, List.reverse_append]
  simp

/-- A written host is read back. -/
theorem ofName_text {h : Host} (hw : h.WellFormed) : ofName h.text = .ok h := by
  cases hw with
  | domain hname hends => exact ofName_of_name hname hends
  | @ipv4 a ha =>
    obtain ⟨hends, haddress⟩ := ipv4?_ipv4Text ha
    exact ofName_of_address (nameChar_of_mem_ipv4Text a) hends haddress
  | @ipv6 ps hlen hps =>
    have hread : (bracketed? ('[' :: ipv6Text ps ++ [']'])).bind ipv6? = some ps := by
      rw [bracketed?_brackets]
      exact ipv6?_ipv6Text hlen hps
    rw [text, List.cons_append] at *
    rw [ofName, hread]

/-! ### The characters of a host -/

theorem mem_colons {ps : List Nat} {c : Char} (hc : c ∈ colons ps) : NameChar c ∨ c = ':' := by
  have hdigits : ∀ p, c ∈ Nat.toDigits 16 p → NameChar c := fun p =>
    forall_mem_toDigits (by decide) (fun _ hd => nameChar_digitChar hd) p c
  induction ps with
  | nil => exact absurd hc List.not_mem_nil
  | cons p ps ih =>
    cases ps with
    | nil => exact .inl (hdigits p hc)
    | cons q ps =>
      rw [colons_cons, List.mem_append, List.mem_cons] at hc
      rcases hc with hc | hc | hc
      · exact .inl (hdigits p hc)
      · exact .inr hc
      · exact ih hc

theorem mem_ipv6Text {ps : List Nat} {c : Char} (hc : c ∈ ipv6Text ps) :
    NameChar c ∨ c = ':' := by
  unfold ipv6Text at hc
  split at hc
  · exact mem_colons hc
  · simp only [List.mem_append, List.mem_cons] at hc
    rcases hc with hc | hc | hc | hc
    · exact mem_colons hc
    · exact .inr hc
    · exact .inr hc
    · exact mem_colons hc

theorem mem_text {h : Host} (hw : h.WellFormed) {c : Char} (hc : c ∈ h.text) :
    NameChar c ∨ c = '[' ∨ c = ':' ∨ c = ']' := by
  cases hw with
  | domain hname => exact .inl (hname c hc)
  | ipv4 => exact .inl (nameChar_of_mem_ipv4Text _ c hc)
  | ipv6 =>
    simp only [text, List.mem_cons, List.mem_append, List.not_mem_nil, or_false] at hc
    rcases hc with (hc | hc) | hc
    · exact .inr (.inl hc)
    · exact (mem_ipv6Text hc).imp_right fun h => .inr (.inl h)
    · exact .inr (.inr (.inr hc))

theorem text_ne_nil {h : Host} (hne : h ≠ .domain []) : h.text ≠ [] := by
  cases h with
  | domain name => exact fun hnil => hne (congrArg domain hnil)
  | ipv4 a =>
    intro hnil
    rw [text, ipv4Text_eq] at hnil
    exact List.cons_ne_nil _ _ (List.append_eq_nil_iff.mp hnil).2
  | ipv6 ps => exact List.cons_ne_nil _ _

end Host

end CallSignaling.Url
