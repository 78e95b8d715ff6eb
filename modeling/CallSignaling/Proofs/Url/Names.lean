import CallSignaling.Proofs.Json.Quoting
import CallSignaling.Proofs.Text.Pieces
import CallSignaling.Url.Host
import Mathlib.Algebra.Group.Nat.Defs
import Mathlib.Data.List.Induction

/-!
# Names — written names and IPv4 addresses are read back

A name that was read has only characters that are read as themselves (`NameChar`), so it is read
again unchanged (`domain?_of_nameChar`).  The digits of a number have its value in every base of the
grammar (`digitsIn_toDigits`); an IPv4 address is four such numbers (`ipv4?_ipv4Text`).
-/

namespace CallSignaling.Url

/-! ### Digits -/

theorem hexDigit?_digitChar {d : Nat} (hd : d < 16) : hexDigit? (Nat.digitChar d) = some d := by
  have hall : ∀ d < 16, hexDigit? (Nat.digitChar d) = some d := by decide
  exact hall d hd

/-- The digits of a number are one digit, or one more digit behind those of another number. -/
theorem toDigits_induction {base : Nat} (hb : 1 < base) {P : Nat → List Char → Prop}
    (one : ∀ d < base, P d [Nat.digitChar d])
    (more : ∀ n d ds, d < base → P n ds → P (n * base + d) (ds ++ [Nat.digitChar d])) (n : Nat) :
    P n (Nat.toDigits base n) := by
  induction n using Nat.strongRecOn with
  | _ n ih =>
    by_cases hn : n < base
    · rw [Nat.toDigits_of_lt_base hn]
      exact one n hn
    · have hlast : n % base < base := Nat.mod_lt n (by omega)
      have hstep := more (n / base) (n % base) _ hlast
        (ih (n / base) (Nat.div_lt_self (by omega) hb))
      rw [Nat.div_add_mod'] at hstep
      rwa [Nat.toDigits_of_base_le hb (by omega)]

/-- A property of the digits of a base is one of every digit of a number. -/
theorem forall_mem_toDigits {base : Nat} (hb : 1 < base) {P : Char → Prop}
    (hP : ∀ d < base, P (Nat.digitChar d)) (n : Nat) : ∀ c ∈ Nat.toDigits base n, P c := by
  refine toDigits_induction (P := fun _ ds => ∀ c ∈ ds, P c) hb ?_ ?_ n
  · intro d hd c hc
    rw [List.mem_singleton.mp hc]
    exact hP d hd
  · intro n d ds hd ih c hc
    rcases List.mem_append.mp hc with hc | hc
    · exact ih c hc
    · rw [List.mem_singleton.mp hc]
      exact hP d hd

theorem digitsIn_concat (base : Nat) (cs : List Char) (c : Char) :
    digitsIn base (cs ++ [c]) = (digitsIn base cs).bind fun n =>
      (hexDigit? c).bind fun d => if d < base then some (n * base + d) else none := by
  rw [digitsIn, List.foldl_append]
  rfl

/-- The digits of a number have its value. -/
theorem digitsIn_toDigits {base : Nat} (hb : 1 < base) (hle : base ≤ 16) (n : Nat) :
    digitsIn base (Nat.toDigits base n) = some n := by
  have hlast : ∀ m d ds, d < base → digitsIn base ds = some m →
      digitsIn base (ds ++ [Nat.digitChar d]) = some (m * base + d) := by
    intro m d ds hd hds
    rw [digitsIn_concat, hds, hexDigit?_digitChar (by omega)]
    simp [hd]
  refine toDigits_induction (P := fun n ds => digitsIn base ds = some n) hb ?_ hlast n
  intro d hd
  have hone := hlast 0 d [] hd rfl
  rwa [List.nil_append, Nat.zero_mul, Nat.zero_add] at hone

/-- A number is below the power of its base that has one more digit. -/
theorem digitsIn_lt {base n : Nat} {cs : List Char} (h : digitsIn base cs = some n) :
    n < base ^ cs.length := by
  induction cs using List.reverseRecOn generalizing n with
  | nil =>
    cases h
    exact Nat.one_pos
  | append_singleton cs c ih =>
    rw [digitsIn_concat, Option.bind_eq_some_iff] at h
    obtain ⟨m, hm, h⟩ := h
    obtain ⟨d, -, h⟩ := Option.bind_eq_some_iff.mp h
    split at h
    next hd =>
      cases h
      have hlt : m + 1 ≤ base ^ cs.length := ih hm
      calc m * base + d < m * base + base := by omega
        _ = (m + 1) * base := (Nat.succ_mul m base).symm
        _ ≤ base ^ cs.length * base := Nat.mul_le_mul_right base hlt
        _ = base ^ (cs ++ [c]).length := by
          rw [List.length_append, List.length_singleton, Nat.pow_succ]
    next => cases h

/-! ### Names -/

/-- A character that stands in a host name and is read as itself. -/
structure NameChar (c : Char) : Prop where
  ascii : c.toNat < 0x80
  allowed : forbidden c = false
  lower : c.toLower = c

theorem ne_of_set {set : Char → Bool} {c d : Char} (hc : set c = false) (hd : set d = true) :
    c ≠ d := by
  rintro rfl
  exact Bool.noConfusion (hc.symm.trans hd)

theorem NameChar.ne {c d : Char} (hc : NameChar c) (hd : forbidden d = true) : c ≠ d :=
  ne_of_set hc.allowed hd

theorem nameChar_toLower {c : Char} (hc : c.toNat < 0x80) (ha : forbidden c = false) :
    NameChar c.toLower := by
  have hall : ∀ n < 0x80, forbidden (Char.ofNat n) = false →
      (Char.ofNat n).toLower.toNat < 0x80 ∧ forbidden (Char.ofNat n).toLower = false ∧
        (Char.ofNat n).toLower.toLower = (Char.ofNat n).toLower := by decide
  have hn := hall c.toNat hc
  rw [Char.ofNat_toNat] at hn
  obtain ⟨h1, h2, h3⟩ := hn ha
  exact ⟨h1, h2, h3⟩

theorem nameChar_digitChar {d : Nat} (hd : d < 16) : NameChar (Nat.digitChar d) := by
  have hall : ∀ d < 16, (Nat.digitChar d).toNat < 0x80 ∧ forbidden (Nat.digitChar d) = false ∧
      (Nat.digitChar d).toLower = Nat.digitChar d := by decide
  obtain ⟨h1, h2, h3⟩ := hall d hd
  exact ⟨h1, h2, h3⟩

theorem percentDecode_of_not_mem {cs : List Char} (h : '%' ∉ cs) :
    percentDecode cs = Json.bytes cs := by
  induction cs with
  | nil => rfl
  | cons c cs ih =>
    obtain ⟨hc, hcs⟩ := List.ne_and_not_mem_of_not_mem_cons h
    rw [percentDecode, ih hcs, Json.bytes_cons]
    rintro a b r rfl
    exact absurd rfl hc

theorem asciiChars_bytes {cs : List Char} (h : ∀ c ∈ cs, c.toNat < 0x80) :
    asciiChars (Json.bytes cs) = some cs := by
  induction cs with
  | nil => rfl
  | cons c cs ih =>
    have hc : c.toNat < 0x80 := h c List.mem_cons_self
    have hb := Json.toNat_byte hc
    have hlt : Json.Scan.byte c < 0x80 := UInt8.lt_iff_toNat_lt.mpr (by rw [hb]; exact hc)
    rw [Json.bytes_cons_of_lt hc, asciiChars, if_pos hlt,
      ih fun d hd => h d (List.mem_cons_of_mem c hd), hb, Char.ofNat_toNat]
    rfl

theorem lt_of_mem_asciiChars {bs : Bytes} {cs : List Char} (h : asciiChars bs = some cs) :
    ∀ c ∈ cs, c.toNat < 0x80 := by
  induction bs generalizing cs with
  | nil =>
    cases h
    exact fun c hc => absurd hc List.not_mem_nil
  | cons b bs ih =>
    rw [asciiChars] at h
    split at h
    next hb =>
      obtain ⟨ds, hds, rfl⟩ := Option.map_eq_some_iff.mp h
      have hlt : b.toNat < 0x80 := UInt8.lt_iff_toNat_lt.mp hb
      intro c hc
      rcases List.mem_cons.mp hc with rfl | hc
      · have hall : ∀ n < 0x80, (Char.ofNat n).toNat < 0x80 := by decide
        exact hall b.toNat hlt
      · exact ih hds c hc
    next => cases h

/-- A name that was read has only characters that are read as themselves. -/
theorem nameChar_of_domain? {cs name : List Char} (h : domain? cs = some name) :
    ∀ c ∈ name, NameChar c := by
  unfold domain? at h
  split at h
  next => cases h
  next ds hds =>
    split at h
    next => cases h
    next hany =>
      cases h
      intro c hc
      obtain ⟨d, hd, rfl⟩ := List.mem_map.mp hc
      have hallowed : forbidden d = false := by
        rw [Bool.not_eq_true, List.any_eq_false] at hany
        simpa using hany d hd
      exact nameChar_toLower (lt_of_mem_asciiChars hds d hd) hallowed

theorem domain?_of_nameChar {name : List Char} (h : ∀ c ∈ name, NameChar c) :
    domain? name = some name := by
  have hpercent : '%' ∉ name := fun hm => (h '%' hm).ne (by decide) rfl
  have hallowed : name.any forbidden = false := List.any_eq_false.mpr fun c hc => by
    simp [(h c hc).allowed]
  have hlower : name.map Char.toLower = name :=
    (List.map_congr_left fun c hc => (h c hc).lower).trans (List.map_id' name)
  unfold domain?
  rw [percentDecode_of_not_mem hpercent, asciiChars_bytes fun c hc => (h c hc).ascii]
  simp [hallowed, hlower]

/-! ### IPv4 -/

/-- The powers as a function without equations, so that no sum is unfolded along a literal. -/
theorem exists_powers : ∃ f : Nat → Nat, Nat.pow 256 = f ∧ f 0 = 1 ∧ f 1 = 256 ∧ f 2 = 65536 ∧
    f 3 = 16777216 ∧ f 4 = 4294967296 := ⟨_, rfl, by decide⟩

theorem ipv4OfNumbers?_lt {ns : List Nat} {a : Nat} (h : ipv4OfNumbers? ns = some a) :
    a < 2 ^ 32 := by
  unfold ipv4OfNumbers? at h
  split at h
  next => cases h
  next last others _ =>
    split at h
    next => cases h
    next hcond =>
      cases h
      obtain ⟨hlen, hcond⟩ := not_or.mp hcond
      obtain ⟨hbytes, hlast⟩ := not_or.mp hcond
      have hle : ∀ n ∈ others, n ≤ 255 := by
        rw [Bool.not_eq_true, List.any_eq_false] at hbytes
        intro n hn
        have := hbytes n hn
        simp only [decide_eq_true_eq, Nat.not_lt] at this
        exact this
      obtain ⟨f, hf, -, hf1, hf2, hf3, hf4⟩ := exists_powers
      rw [hf] at hlast ⊢
      rw [Nat.not_le] at hlast
      match others with
      | [] =>
        have hlast : last < f 4 := hlast
        rw [hf4] at hlast
        exact hlast
      | [x] =>
        have hlast : last < f 3 := hlast
        have hx := hle x (by simp)
        show last + x * f 3 < 2 ^ 32
        rw [hf3] at hlast ⊢
        omega
      | [x, y] =>
        have hlast : last < f 2 := hlast
        have hx := hle x (by simp)
        have hy := hle y (by simp)
        show last + y * f 3 + x * f 2 < 2 ^ 32
        rw [hf2] at hlast ⊢
        rw [hf3]
        omega
      | [x, y, z] =>
        have hlast : last < f 1 := hlast
        have hx := hle x (by simp)
        have hy := hle y (by simp)
        have hz := hle z (by simp)
        show last + z * f 3 + y * f 2 + x * f 1 < 2 ^ 32
        rw [hf1] at hlast ⊢
        rw [hf2, hf3]
        omega
      | _ :: _ :: _ :: _ :: _ => exact absurd (by simp : 3 < _) hlen

/-- Four bytes are the address that has them. -/
theorem ipv4OfNumbers?_bytes {a : Nat} (ha : a < 2 ^ 32) :
    ipv4OfNumbers? [a / Nat.pow 256 3 % 256, a / Nat.pow 256 2 % 256, a / Nat.pow 256 1 % 256,
      a / Nat.pow 256 0 % 256] = some a := by
  obtain ⟨f, hf, hf0, hf1, hf2, hf3, -⟩ := exists_powers
  have hbyte : ∀ n, n % 256 ≤ 255 := fun n => Nat.le_of_lt_succ (Nat.mod_lt n (by decide))
  unfold ipv4OfNumbers?
  rw [hf]
  have hcond : ¬ (3 < 3 ∨ [a / f 1 % 256, a / f 2 % 256, a / f 3 % 256].any (255 < ·) = true ∨
      f 1 ≤ a / f 0 % 256) := by
    rintro (h | h | h)
    · exact Nat.lt_irrefl 3 h
    · exact absurd h (by simp [hbyte])
    · have hlast := hbyte (a / f 0)
      rw [hf1] at h
      omega
  refine (if_neg hcond).trans (congrArg some ?_)
  show a / f 0 % 256 + a / f 3 % 256 * f 3 + a / f 2 % 256 * f 2 + a / f 1 % 256 * f 1 = a
  rw [hf0, hf1, hf2, hf3]
  omega

/-- A byte in decimal is read as itself. -/
theorem ipv4Number?_toDigits {b : Nat} (hb : b < 256) :
    ipv4Number? (Nat.toDigits 10 b) = some b := by
  have hall : ∀ b < 256, ipv4Number? (Nat.toDigits 10 b) = some b := by decide +kernel
  exact hall b hb

/-- One of the four labels of an address. -/
def ipv4Label (a i : Nat) : List Char := Nat.toDigits 10 (a / Nat.pow 256 i % 256)

theorem ipv4Text_eq (a : Nat) : ipv4Text a = ipv4Label a 3 ++ '.' :: (ipv4Label a 2 ++
    '.' :: (ipv4Label a 1 ++ '.' :: ipv4Label a 0)) := by
  simp [ipv4Text, ipv4Label]

theorem nameChar_of_mem_ipv4Label {a i : Nat} : ∀ c ∈ ipv4Label a i, NameChar c :=
  forall_mem_toDigits (by decide) (fun _ hd => nameChar_digitChar (by omega)) _

theorem nameChar_of_mem_ipv4Text (a : Nat) : ∀ c ∈ ipv4Text a, NameChar c := by
  have hdot : NameChar '.' := ⟨by decide, by decide, by decide⟩
  intro c hc
  simp only [ipv4Text_eq, List.mem_append, List.mem_cons] at hc
  rcases hc with hc | rfl | hc | rfl | hc | rfl | hc
  · exact nameChar_of_mem_ipv4Label c hc
  · exact hdot
  · exact nameChar_of_mem_ipv4Label c hc
  · exact hdot
  · exact nameChar_of_mem_ipv4Label c hc
  · exact hdot
  · exact nameChar_of_mem_ipv4Label c hc

theorem labels_ipv4Text (a : Nat) : dropFinalEmpty (labels (ipv4Text a)) =
    [ipv4Label a 3, ipv4Label a 2, ipv4Label a 1, ipv4Label a 0] := by
  have hdot : ∀ i, '.' ∉ ipv4Label a i := fun i hm =>
    forall_mem_toDigits (P := (· ≠ '.')) (by decide) (by decide) _ '.' hm rfl
  have hlabels : labels (ipv4Text a) =
      [ipv4Label a 3, ipv4Label a 2, ipv4Label a 1, ipv4Label a 0] := by
    rw [labels, ipv4Text_eq, Text.pieces_append_cons (hdot 3), Text.pieces_append_cons (hdot 2),
      Text.pieces_append_cons (hdot 1), Text.pieces_of_not_mem (hdot 0)]
  obtain ⟨c, cs, hc⟩ : ∃ c cs, ipv4Label a 0 = c :: cs :=
    List.exists_cons_of_ne_nil Nat.toDigits_ne_nil
  rw [hlabels, hc]
  rfl

/-- A written address is read back. -/
theorem ipv4?_ipv4Text {a : Nat} (ha : a < 2 ^ 32) :
    endsInNumber (ipv4Text a) = true ∧ ipv4? (ipv4Text a) = some a := by
  have hnumber : ∀ i, ipv4Number? (ipv4Label a i) = some (a / Nat.pow 256 i % 256) := fun i =>
    ipv4Number?_toDigits (Nat.mod_lt _ (by decide))
  constructor
  · unfold endsInNumber
    rw [labels_ipv4Text]
    show isNumber (ipv4Label a 0) = true
    simp [isNumber, hnumber]
  · unfold ipv4?
    rw [labels_ipv4Text]
    simp only [List.mapM_cons, List.mapM_nil, hnumber]
    exact ipv4OfNumbers?_bytes ha

end CallSignaling.Url
