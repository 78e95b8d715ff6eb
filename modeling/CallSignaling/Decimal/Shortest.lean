import CallSignaling.Decimal.Binary64

/-!
# Shortest — the fewest digits that read back

A magnitude is written with the fewest decimal digits whose value rounds to it again; of two such
numbers the nearer one, of two equally near ones the even one.  `Style` says where the point goes.
-/

namespace CallSignaling.Decimal

/-- `digits · 10 ^ power`. -/
structure Scientific where
  digits : Nat
  power : Int
deriving DecidableEq, Repr

namespace Scientific

/-- The exact value as a quotient of natural numbers. -/
def ratio (s : Scientific) : Nat × Nat :=
  if 0 ≤ s.power then (s.digits * Nat.pow 10 s.power.toNat, 1)
  else (s.digits, Nat.pow 10 (-s.power).toNat)

/-- The distance to `num / den`, scaled by both denominators. -/
def distance (s : Scientific) (num den : Nat) : Nat :=
  let (n, d) := s.ratio
  (n * den - num * d) + (num * d - n * den)

/-- Trailing zeros of the digits moved into the power. -/
def trim : Nat → Scientific → Scientific
  | 0, s => s
  | n + 1, s =>
    if s.digits ≠ 0 ∧ s.digits % 10 = 0 then trim n ⟨s.digits / 10, s.power + 1⟩ else s

end Scientific

namespace Binary64

/-- The power `p` for which `num / den` has `count` digits before the point of `10 ^ p`. -/
def gridPower (num den count : Nat) : Int :=
  let digitsOf (n : Nat) : Nat := (Nat.toDigits 10 n).length
  let guess : Int := (digitsOf num : Int) - (digitsOf den : Int)
  -- the leading digit stands at `guess` or one place below
  let below := if 0 ≤ guess then decide (num < den * Nat.pow 10 guess.toNat)
    else decide (num * Nat.pow 10 (-guess).toNat < den)
  (if below then guess - 1 else guess) - (count : Int) + 1

/-- The two neighbours of `num / den` on the grid of `10 ^ p`. -/
def neighbours (num den : Nat) (p : Int) : Scientific × Scientific :=
  let q := if 0 ≤ p then num / (den * Nat.pow 10 p.toNat) else num * Nat.pow 10 (-p).toNat / den
  (⟨q, p⟩, ⟨q + 1, p⟩)

/-- The number rounds to the magnitude. -/
def readsBack (x : Binary64) (s : Scientific) : Bool :=
  ofRatio? s.ratio.1 s.ratio.2 = some x

/-- A number of `count` digits that reads back, the nearer of two. -/
def onGrid? (x : Binary64) (count : Nat) : Option Scientific :=
  let (num, den) := x.ratio
  let (a, b) := neighbours num den (gridPower num den count)
  match readsBack x a, readsBack x b with
  | false, false => none
  | true, false => some a
  | false, true => some b
  | true, true =>
    let da := a.distance num den
    let db := b.distance num den
    if da < db then some a else if db < da then some b
    else some (if a.digits % 2 = 0 then a else b)

/-- The fewest digits that read back. -/
def shortest (x : Binary64) : Scientific :=
  if x.isZero then ⟨0, 0⟩
  else
    let found := (List.range 17).findSome? fun i => onGrid? x (i + 1)
    Scientific.trim 17 (found.getD ⟨x.ratio.1, 0⟩)

end Binary64

/-- Where a number is written without an exponent: the point stands more than `low` and at most
`high` places after the first digit's left side. -/
structure Style where
  low : Int
  high : Int

namespace Style

/-- Positional between `10 ^ -5` and `10 ^ 16`, always with a point; an exponent otherwise. -/
def pointed : Style := ⟨-5, 16⟩

/-- A number in the given style. -/
def write (style : Style) (s : Scientific) : String :=
  let ds := (Nat.toDigits 10 s.digits)
  let point : Int := (ds.length : Int) + s.power
  let zeros (n : Nat) : List Char := List.replicate n '0'
  if s.digits = 0 then "0.0"
  else if style.low < point ∧ point ≤ style.high then
    if 0 ≤ s.power then String.ofList (ds ++ zeros s.power.toNat ++ ['.', '0'])
    else if 0 < point then
      String.ofList (ds.take point.toNat ++ ['.'] ++ ds.drop point.toNat)
    else String.ofList (['0', '.'] ++ zeros (-point).toNat ++ ds)
  else
    let mantissa := match ds with
      | [d] => [d]
      | d :: more => d :: '.' :: more
      | [] => []
    String.ofList mantissa ++ "e" ++ toString (point - 1)

end Style

/-- A signed double as text. -/
def writeDouble (negative : Bool) (x : Binary64) : String :=
  (if negative then "-" else "") ++ Style.pointed.write x.shortest

end CallSignaling.Decimal
