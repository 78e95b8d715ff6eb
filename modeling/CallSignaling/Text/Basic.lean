/-!
# Texts — blanks, pieces, numbers and lengths of time

How texts are trimmed and split, how numbers are read in them, and how a length of time is written.
-/

namespace CallSignaling.Text

/-! ### Blanks -/

/-- The code points of the Unicode property White_Space. -/
def blanks : List Nat :=
  [0x09, 0x0A, 0x0B, 0x0C, 0x0D, 0x20, 0x85, 0xA0, 0x1680, 0x2000, 0x2001, 0x2002, 0x2003, 0x2004,
   0x2005, 0x2006, 0x2007, 0x2008, 0x2009, 0x200A, 0x2028, 0x2029, 0x202F, 0x205F, 0x3000]

/-- A character of the property White_Space. -/
def isBlank (c : Char) : Bool := blanks.contains c.toNat

/-- The characters without the blanks in front and behind. -/
def trimChars (cs : List Char) : List Char :=
  ((cs.dropWhile isBlank).reverse.dropWhile isBlank).reverse

/-- The text without the blanks in front and behind. -/
def trim (s : String) : String := String.ofList (trimChars s.toList)

/-! ### Pieces -/

/-- The pieces of a text between separators; one more than there are separators. -/
def pieces (sep : Char) : List Char → List (List Char)
  | [] => [[]]
  | c :: cs =>
    if c = sep then [] :: pieces sep cs
    else match pieces sep cs with
      | [] => [[c]]
      | p :: ps => (c :: p) :: ps

/-! ### Numbers -/

/-- The value of a decimal digit. -/
def digit? (c : Char) : Option Nat :=
  if '0' ≤ c ∧ c ≤ '9' then some (c.toNat - '0'.toNat) else none

/-- The number written by digits, of which there is at least one. -/
def digits? (cs : List Char) : Option Nat :=
  if cs.isEmpty then none
  else cs.foldl (fun n c => n.bind fun n => (digit? c).map fun d => n * 10 + d) (some 0)

/-- A number below `2 ^ 64`, with or without a plus sign. -/
def natural64? (s : String) : Option Nat :=
  let digits := match s.toList with
    | '+' :: cs => cs
    | cs => cs
  (digits? digits).filter (· < UInt64.size)

/-- The text without a sign in front. -/
def unsigned : List Char → List Char
  | '+' :: cs => cs
  | '-' :: cs => cs
  | cs => cs

/-- The power of ten behind a number, or nothing. -/
def isExponent : List Char → Bool
  | [] => true
  | c :: cs => (c == 'e' || c == 'E') && !(unsigned cs).isEmpty && (unsigned cs).all Char.isDigit

/-- The words that are written in place of a number, in any case. -/
def numberWords : List String := ["inf", "infinity", "nan"]

/-- The text of a number: digits with or without a point, at least one of them, and a power of ten;
or a word. -/
def isReal (cs : List Char) : Bool :=
  let cs := unsigned cs
  let whole := cs.takeWhile Char.isDigit
  match cs.dropWhile Char.isDigit with
  | '.' :: r =>
    !(whole ++ r.takeWhile Char.isDigit).isEmpty && isExponent (r.dropWhile Char.isDigit)
  | r =>
    !whole.isEmpty && isExponent r || numberWords.contains (String.ofList (cs.map Char.toLower))

/-! ### Lengths of time -/

/-- The digits of `n` behind a point, `width` places wide, without trailing zeros. -/
def fractionDigits (width n : Nat) : List Char :=
  let ds := Nat.toDigits 10 n
  let padded := List.replicate (width - ds.length) '0' ++ ds
  (padded.reverse.dropWhile (· == '0')).reverse

/-- `n` in units of `10 ^ width`. -/
def inUnits (n width : Nat) (unit : String) : String :=
  let whole := toString (n / Nat.pow 10 width)
  match fractionDigits width (n % Nat.pow 10 width) with
  | [] => whole ++ unit
  | ds => whole ++ "." ++ String.ofList ds ++ unit

/-- The text of a span of so many nanoseconds: it is written in the largest of the units s, ms, µs,
ns in which it is at least one, with the digits behind the point that are needed and no more. -/
def span (nanoseconds : Nat) : String :=
  if Nat.pow 10 9 ≤ nanoseconds then inUnits nanoseconds 9 "s"
  else if Nat.pow 10 6 ≤ nanoseconds then inUnits nanoseconds 6 "ms"
  else if Nat.pow 10 3 ≤ nanoseconds then inUnits nanoseconds 3 "µs"
  else inUnits nanoseconds 0 "ns"

end CallSignaling.Text
