import CallSignaling.Pattern.Class
import CallSignaling.Text.Alphanumeric

/-!
# Checking a pattern

`check` tells whether a text is a pattern that the values of log fields can be compared with.  The
open groups are kept on a stack; what is kept of each is how deep its parts nest.
-/

namespace CallSignaling.Pattern

/-- Why a text cannot be used as a pattern. -/
inductive PatternError where
  | malformed
  /-- It asks for the ends of words that are not ASCII. -/
  | wordBoundary
deriving DecidableEq, Repr

def PatternError.message : PatternError → String
  | .malformed => "error building NFA"
  | .wordBoundary =>
    "unsupported regex feature for DFAs: cannot build DFAs for regexes with Unicode word "
      ++ "boundaries; switch to ASCII word boundaries, or heuristically enable Unicode word "
      ++ "boundaries or use a different regex engine"

/-- How deep a pattern may nest. -/
def deepest : Nat := 250

/-- The alternatives of a group whose closing parenthesis is to come. -/
structure Group where
  /-- The modes in force around it. -/
  around : Modes
  /-- How deep the parts of the current alternative nest, the latest first; `none` is a switch of
  modes, which cannot be repeated. -/
  parts : List (Option Nat)
  /-- How deep the alternatives before it nest. -/
  before : List Nat
deriving DecidableEq, Repr

namespace Group

def push (g : Group) (part : Option Nat) : Group := { g with parts := part :: g.parts }

/-- How deep the current alternative nests. -/
def current (g : Group) : Nat := levels (g.parts.map fun d => d.getD 0)

def depth (g : Group) : Nat := levels (g.current :: g.before)

/-- Where a bar ends the alternative. -/
def alternative (g : Group) : Group := ⟨g.around, [], g.current :: g.before⟩

/-- With its last part repeated. -/
def repeated? (g : Group) : Option Group :=
  match g.parts with
  | some d :: ds => some { g with parts := some (1 + d) :: ds }
  | _ => none

end Group

/-- What has been read of a pattern. -/
structure State where
  modes : Modes
  names : List (List Char)
  /-- The end of a word that need not be ASCII was asked for. -/
  wordBoundary : Bool
  inner : Group
  outer : List Group
deriving DecidableEq, Repr

namespace State

/-- Before the first character. -/
def start : State := ⟨⟨true, false⟩, [], false, ⟨⟨true, false⟩, [], []⟩, []⟩

def push (st : State) (part : Option Nat) : State := { st with inner := st.inner.push part }

/-- Where a group begins in which the modes `m` are in force. -/
def enter (st : State) (m : Modes) : State :=
  { st with modes := m, inner := ⟨st.modes, [], []⟩, outer := st.inner :: st.outer }

/-- Where a group ends. -/
def leave? (st : State) : Option State :=
  match st.outer with
  | [] => none
  | g :: outer =>
    some { st with
      modes := st.inner.around, inner := g.push (some (1 + st.inner.depth)), outer := outer }

end State

/-! ### Groups -/

/-- The modes that can be switched, with the dash behind which they are switched off. -/
def switches : List Char := ['-', 'i', 'm', 's', 'U', 'u', 'R', 'x']

/-- The modes after a switch, which names none twice. -/
def switch (m : Modes) (flags : List Char) : Option Modes :=
  if flags.Nodup ∧ flags.all switches.contains ∧ flags.getLast? ≠ some '-' then
    let on := flags.takeWhile (· != '-')
    let off := flags.dropWhile (· != '-')
    let after (now : Bool) (c : Char) : Bool := (now || on.contains c) && !off.contains c
    some ⟨after m.unicode 'u', after m.spaced 'x'⟩
  else none

/-- A name that a group can have. -/
def isGroupName : List Char → Bool
  | [] => false
  | c :: cs =>
    (c == '_' || Text.isLetter c) &&
      cs.all fun c => ['_', '.', '[', ']'].contains c || Text.isAlphanumeric c

/-- What a group begins with, after its parenthesis: a name of its own, a switch of modes for the
group or for what follows in the group around it, or nothing. -/
def openGroup (st : State) (s : List Char) : Option (State × List Char) :=
  let named (s : List Char) : Option (State × List Char) :=
    let name := s.takeWhile (· != '>')
    match s.dropWhile (· != '>') with
    | [] => none
    | _ :: t =>
      if isGroupName name && !st.names.contains name then
        some ({ st with names := name :: st.names }.enter st.modes, t)
      else none
  match st.modes.next s with
  | '?' :: 'P' :: '<' :: t => named t
  | '?' :: '<' :: t => named t
  | '?' :: t =>
    let flags := t.takeWhile fun c => c != ':' && c != ')'
    match switch st.modes flags, t.drop flags.length with
    | some m, c :: u =>
      if c = ':' then some (st.enter m, u)
      else if flags.isEmpty then none
      else some ({ st.push none with modes := m }, u)
    | _, _ => none
  | s => some (st.enter st.modes, s)

/-! ### The whole pattern -/

/-- Reads what begins with the character `c`; answers what follows. -/
def step (st : State) (c : Char) (s : List Char) : Option (State × List Char) :=
  if c = '(' then openGroup st s
  else if c = ')' then st.leave?.map fun st => (st, s)
  else if c = '|' then some ({ st with inner := st.inner.alternative }, s)
  else if c = '[' then
    (bracketed st.modes s).map fun (depth, s) => (st.push (some depth), s)
  else if c = '*' ∨ c = '+' ∨ c = '?' then
    st.inner.repeated?.map fun g =>
      ({ st with inner := g }, if s.head? = some '?' then s.drop 1 else s)
  else if c = '\x7b' then none
  else if c = '\\' then
    (escape st.modes s).map fun (e, s) =>
      let word := e = .place true ∧ st.modes.unicode
      ({ st.push (some 0) with wordBoundary := st.wordBoundary || word }, s)
  else if c = '.' ∧ !st.modes.unicode then none
  else some (st.push (some 0), s)

/-- Reads a pattern to its end.  The number bounds the steps, each of which takes a character. -/
def run : Nat → State → List Char → Option State
  | 0, _, _ => none
  | n + 1, st, s =>
    match st.modes.next s with
    | [] => some st
    | c :: s => (step st c s).bind fun (st, s) => run n st s

/-- Checks a pattern. -/
def check (s : List Char) : Except PatternError Unit :=
  match run (s.length + 1) .start s with
  | none => .error .malformed
  | some st =>
    if !st.outer.isEmpty ∨ deepest < st.inner.depth then .error .malformed
    else if st.wordBoundary then .error .wordBoundary
    else .ok ()

end CallSignaling.Pattern
