import CallSignaling.Text.Basic

/-!
# Escapes of a pattern

A pattern is a regular expression that the value of a log field is compared with.  It is read only
as far as it takes to tell whether it is one.  A pattern stands in the braces of a field, so it
holds no closing brace: whatever an opening brace begins (a count, a name, a long number) never ends
and is refused like any other unclosed form.
-/

namespace CallSignaling.Pattern

/-- What is switched on at a place of a pattern, as far as it matters there. -/
structure Modes where
  /-- Sets hold characters.  Without this mode they hold bytes, and none beyond ASCII. -/
  unicode : Bool
  /-- Blanks and comments do not count. -/
  spaced : Bool
deriving DecidableEq, Repr

/-- What follows blanks and comments.  A comment begins with `#` and ends with its line; the
argument says whether the text begins inside one. -/
def pastBlanks : Bool → List Char → List Char
  | _, [] => []
  | true, c :: s => pastBlanks (c != '\n') s
  | false, c :: s =>
    if Text.isBlank c then pastBlanks false s
    else if c = '#' then pastBlanks true s
    else c :: s

namespace Modes

/-- The text from the next character that counts. -/
def next (m : Modes) (s : List Char) : List Char := if m.spaced then pastBlanks false s else s

/-- A set may hold this character. -/
def admits (m : Modes) (c : Char) : Bool := m.unicode || c.toNat < 0x80

end Modes

/-- What an escape stands for. -/
inductive Escaped where
  | literal (c : Char)
  | set
  /-- A place between two characters; `word` if it is one where a word begins or ends, or none. -/
  | place (word : Bool)
deriving DecidableEq, Repr

/-- The value of a hexadecimal digit. -/
def hexValue? (c : Char) : Option Nat :=
  if '0' ≤ c ∧ c ≤ '9' then some (c.toNat - '0'.toNat)
  else if 'a' ≤ c ∧ c ≤ 'f' then some (c.toNat - 'a'.toNat + 10)
  else if 'A' ≤ c ∧ c ≤ 'F' then some (c.toNat - 'A'.toNat + 10)
  else none

/-- A number of so many hexadecimal digits, behind those that are worth `value`. -/
def hex (m : Modes) : Nat → Nat → List Char → Option (Nat × List Char)
  | 0, value, s => some (value, s)
  | n + 1, value, s =>
    match m.next s with
    | [] => none
    | c :: s => (hexValue? c).bind fun d => hex m n (value * 16 + d) s

/-- A character by its number. -/
def codePoint (m : Modes) (digits : Nat) (s : List Char) : Option (Escaped × List Char) :=
  (hex m digits 0 s).bind fun (n, s) =>
    if n < 0xD800 ∨ 0xDFFF < n ∧ n < 0x110000 then some (.literal (Char.ofNat n), s) else none

/-- A byte by its number; beyond ASCII it stands for the character of that number. -/
def byteNumber (m : Modes) (s : List Char) : Option (Escaped × List Char) :=
  (hex m 2 0 s).bind fun (n, s) =>
    if m.admits (Char.ofNat n) then some (.literal (Char.ofNat n), s) else none

/-- The characters of a general category, by its letter. -/
def category (m : Modes) (s : List Char) : Option (Escaped × List Char) :=
  match m.next s with
  | [] => none
  | c :: s => if m.unicode && "CLMNPSZclmnpsz".toList.contains c then some (.set, s) else none

/-- The control characters that are written by a letter. -/
def letterEscapes : List (Char × Char) :=
  [('a', '\x07'), ('f', '\x0C'), ('t', '\t'), ('n', '\n'), ('r', '\r'), ('v', '\x0B')]

/-- An escape, after its backslash.  Any mark of ASCII may be escaped, and no other character but
those with a meaning of their own. -/
def escape (m : Modes) : List Char → Option (Escaped × List Char)
  | [] => none
  | c :: s =>
    if c = 'x' then byteNumber m s
    else if c = 'u' then codePoint m 4 s
    else if c = 'U' then codePoint m 8 s
    else if c = 'p' ∨ c = 'P' then category m s
    else if c = 'd' ∨ c = 's' ∨ c = 'w' then some (.set, s)
    else if c = 'D' ∨ c = 'S' ∨ c = 'W' then if m.unicode then some (.set, s) else none
    else if c = 'A' ∨ c = 'z' then some (.place false, s)
    else if c = 'b' ∨ c = 'B' ∨ c = '<' ∨ c = '>' then some (.place true, s)
    else
      match letterEscapes.lookup c with
      | some d => some (.literal d, s)
      | none => if c.toNat < 0x80 ∧ !c.isAlphanum then some (.literal c, s) else none

end CallSignaling.Pattern
