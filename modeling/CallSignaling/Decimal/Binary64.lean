/-!
# Binary64 — magnitudes of double-precision numbers

A finite magnitude is `mantissa · 2 ^ exponent`.  `ofRatio?` rounds a quotient of natural numbers to
the nearest magnitude, a tie to the even mantissa, and fails above the largest one.  Products and
quotients are rounded from their exact values.
-/

namespace CallSignaling.Decimal

/-- A finite magnitude `mantissa · 2 ^ exponent`. -/
structure Binary64 where
  mantissa : Nat
  exponent : Int
deriving DecidableEq, Repr

namespace Binary64

/-- The exponent of the smallest positive magnitude. -/
def leastExponent : Int := -1074

/-- The exponent of the largest magnitude. -/
def greatestExponent : Int := 971

def zero : Binary64 := ⟨0, leastExponent⟩

def isZero (x : Binary64) : Bool := x.mantissa == 0

/-- The quotient rounded to an integer, a tie going to the even one. -/
def roundDiv (num den : Nat) : Nat :=
  let q := num / den
  let twice := 2 * (num % den)
  if twice < den then q
  else if den < twice then q + 1
  else q + q % 2

/-- `num / den · 2 ^ (-e)` as a quotient of natural numbers. -/
def shift (num den : Nat) (e : Int) : Nat × Nat :=
  if 0 ≤ e then (num, den * Nat.pow 2 e.toNat) else (num * Nat.pow 2 (-e).toNat, den)

/-- The exponent `l` with `2 ^ l ≤ num / den < 2 ^ (l + 1)`, for positive `num` and `den`. -/
def log2Ratio (num den : Nat) : Int :=
  let l : Int := (num.log2 : Int) - (den.log2 : Int)
  let (n, d) := shift num den l
  if n < d then l - 1 else l

/-- The magnitude nearest to `num / den`; `none` if it lies above the largest one. -/
def ofRatio? (num den : Nat) : Option Binary64 :=
  if num = 0 then some zero
  else
    let e := max (log2Ratio num den - 52) leastExponent
    let (n, d) := shift num den e
    let m := roundDiv n d
    let (m, e) := if m = Nat.pow 2 53 then (Nat.pow 2 52, e + 1) else (m, e)
    if greatestExponent < e then none else some ⟨m, e⟩

/-- The exact value as a quotient of natural numbers. -/
def ratio (x : Binary64) : Nat × Nat := shift x.mantissa 1 (-x.exponent)

def mul? (x y : Binary64) : Option Binary64 :=
  ofRatio? (x.ratio.1 * y.ratio.1) (x.ratio.2 * y.ratio.2)

def div? (x y : Binary64) : Option Binary64 :=
  ofRatio? (x.ratio.1 * y.ratio.2) (x.ratio.2 * y.ratio.1)

/-- The magnitude nearest to `10 ^ k`. -/
def pow10? (k : Nat) : Option Binary64 := ofRatio? (Nat.pow 10 k) 1

/-- The greatest power of ten that is scaled by in one step. -/
def greatestPower : Nat := 308

/-- Divides by `10 ^ 308` while the power of ten still to divide by is above that and something is
left to divide; answers the magnitude and the power that remains. -/
def scaleDown : Nat → Binary64 → Nat → Binary64 × Nat
  | 0, x, k => (x, k)
  | n + 1, x, k =>
    if k ≤ greatestPower ∨ x.isZero then (x, k)
    else
      let y := (pow10? greatestPower).bind x.div?
      scaleDown n (y.getD zero) (k - greatestPower)

/-- `digits · 10 ^ power` by one rounded product or quotient with a power of ten; `none` if it lies
above the largest magnitude. -/
def ofDecimal? (digits : Nat) (power : Int) : Option Binary64 :=
  (ofRatio? digits 1).bind fun x =>
    if 0 ≤ power then
      if power.toNat ≤ greatestPower then (pow10? power.toNat).bind x.mul?
      else if x.isZero then some x else none
    else
      let k := (-power).toNat
      let (y, r) := scaleDown (k / greatestPower + 1) x k
      if y.isZero then some y else (pow10? r).bind y.div?

end Binary64

end CallSignaling.Decimal
