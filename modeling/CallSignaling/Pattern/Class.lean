import CallSignaling.Pattern.Escape

/-!
# Classes of a pattern

A class is a set of characters in brackets: characters, ranges, escapes, named sets and other
classes, with operators between operands.
-/

namespace CallSignaling.Pattern

/-- How deep a sequence nests: one part stands for itself, several make a level of their own. -/
def levels : List Nat → Nat
  | [] => 0
  | [d] => d
  | ds => 1 + ds.foldl max 0

/-- A class whose closing bracket is to come. -/
structure OpenClass where
  /-- How deep the items of the current operand nest, the latest first. -/
  items : List Nat
  /-- How deep the operands before it nest, if there are any. -/
  before : Option Nat
  /-- Nothing but dashes has been read, each of which stands for itself. -/
  fresh : Bool
deriving DecidableEq, Repr

namespace OpenClass

def empty : OpenClass := ⟨[], none, true⟩

def depth (k : OpenClass) : Nat := levels (levels k.items :: k.before.toList)

/-- With an item that nests so deep. -/
def push (k : OpenClass) (depth : Nat) : OpenClass := ⟨depth :: k.items, k.before, false⟩

/-- With a dash at its beginning. -/
def pushDash (k : OpenClass) : OpenClass := ⟨0 :: k.items, k.before, true⟩

/-- Where an operator ends the operand. -/
def nextOperand (k : OpenClass) : OpenClass := ⟨[], some k.depth, false⟩

/-- A closing bracket that comes first stands for itself. -/
def closes (k : OpenClass) : Bool := !(k.fresh && k.items.isEmpty)

end OpenClass

/-- The sets that have a name. -/
def setNames : List String :=
  ["alnum", "alpha", "ascii", "blank", "cntrl", "digit", "graph", "lower", "print", "punct",
   "space", "upper", "word", "xdigit"]

/-- A named set such as `[:^alpha:]`, after its bracket: whether it is negated, and what follows. -/
def namedSet? : List Char → Option (Bool × List Char)
  | ':' :: s =>
    let (negated, s) := match s with
      | '^' :: t => (true, t)
      | _ => (false, s)
    match s.dropWhile (· != ':') with
    | ':' :: ']' :: t =>
      if setNames.contains (String.ofList (s.takeWhile (· != ':'))) then some (negated, t)
      else none
    | _ => none
  | _ => none

/-- What follows the opening bracket and the sign of negation.  A negated set holds more than ASCII
has. -/
def opening (m : Modes) (s : List Char) : Option (List Char) :=
  match m.next s with
  | '^' :: t => if m.unicode then some t else none
  | s => some s

/-- A character, or what an escape stands for. -/
def classItem (m : Modes) : List Char → Option (Escaped × List Char)
  | [] => none
  | c :: s => if c = '\\' then escape m s else some (.literal c, s)

/-- What may be an item of a class by itself. -/
def standsAlone (m : Modes) : Escaped → Bool
  | .literal c => m.admits c
  | .set => true
  | .place _ => false

/-- An item or a range; answers what follows.  A dash before the closing bracket or before another
dash makes no range. -/
def range (m : Modes) (s : List Char) : Option (List Char) :=
  match classItem m s with
  | none => none
  | some (low, s) =>
    match m.next s with
    | '-' :: t =>
      let u := m.next t
      if u.head? = some ']' ∨ u.head? = some '-' then
        if standsAlone m low then some ('-' :: t) else none
      else
        match low, classItem m u with
        | .literal a, some (.literal b, s) =>
          if a ≤ b ∧ m.admits a ∧ m.admits b then some s else none
        | _, _ => none
    | s => if standsAlone m low then some s else none

/-- The characters that are an operator when they stand twice. -/
def operators : List Char := ['&', '-', '~']

/-- The rest of a class: how deep it nests, and what follows.  The number bounds the steps, each of
which takes a character. -/
def classRest (m : Modes) : Nat → OpenClass → List OpenClass → List Char → Option (Nat × List Char)
  | 0, _, _, _ => none
  | n + 1, k, outer, s =>
    match m.next s with
    | [] => none
    | c :: t =>
      if c = '[' then
        match namedSet? t with
        | some (negated, t) =>
          if negated && !m.unicode then none else classRest m n (k.push 0) outer t
        | none => (opening m t).bind (classRest m n .empty (k :: outer))
      else if c = ']' then
        if k.closes then
          match outer with
          | [] => some (1 + k.depth, t)
          | p :: outer => classRest m n (p.push (1 + k.depth)) outer t
        else classRest m n (k.push 0) outer t
      else if c = '-' ∧ k.fresh then classRest m n k.pushDash outer t
      else if operators.contains c ∧ t.head? = some c then
        classRest m n k.nextOperand outer (t.drop 1)
      else (range m (c :: t)).bind (classRest m n (k.push 0) outer)

/-- A class, after its opening bracket. -/
def bracketed (m : Modes) (s : List Char) : Option (Nat × List Char) :=
  (opening m s).bind (classRest m (s.length + 1) .empty [])

end CallSignaling.Pattern
