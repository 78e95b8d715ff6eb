import CallSignaling.Url.Percent

/-!
# Paths — segments and dots

A path is a list of segments.  A segment `.` is left out, `..` takes the segment before it away, and
either leaves an empty segment when it comes last; the dots may be written with percent signs.  A
segment that looks like a drive, a letter with a colon or a bar, is not taken away.
-/

namespace CallSignaling.Url

/-- One dot, written in any way, at the front; the rest of the text. -/
def dropDot? : List Char → Option (List Char)
  | '.' :: r => some r
  | '%' :: '2' :: 'e' :: r => some r
  | '%' :: '2' :: 'E' :: r => some r
  | _ => none

def isSingleDot (s : List Char) : Bool := dropDot? s = some []

def isDoubleDot (s : List Char) : Bool := (dropDot? s).bind dropDot? = some []

def isLetter (c : Char) : Bool := ('a' ≤ c && c ≤ 'z') || ('A' ≤ c && c ≤ 'Z')

/-- A letter with a colon or a bar. -/
def isDrive : List Char → Bool
  | [a, b] => isLetter a && (b == ':' || b == '|')
  | _ => false

/-- Takes the last segment away, unless it looks like a drive; the segments stand in reverse. -/
def dropLastSegment : List (List Char) → List (List Char)
  | [] => []
  | s :: before => if isDrive s then s :: before else before

/-- Resolves the dots among pieces; `before` holds the segments so far in reverse. -/
def resolveDots (before : List (List Char)) : List (List Char) → List (List Char)
  | [] => before.reverse
  | [s] =>
    if isDoubleDot s then ([] :: dropLastSegment before).reverse
    else if isSingleDot s then ([] :: before).reverse
    else (s :: before).reverse
  | s :: ss =>
    if isDoubleDot s then resolveDots (dropLastSegment before) ss
    else if isSingleDot s then resolveDots before ss
    else resolveDots (s :: before) ss

def isSlash (c : Char) : Bool := c == '/' || c == '\\'

/-- The pieces between slashes of either kind; one more than there are slashes. -/
def pieces : List Char → List (List Char)
  | [] => [[]]
  | c :: cs =>
    if isSlash c then [] :: pieces cs
    else match pieces cs with
      | [] => [[c]]
      | p :: ps => (c :: p) :: ps

/-- The segments of a path text, with or without a slash in front. -/
def segments (cs : List Char) : List (List Char) :=
  let body := match cs with
    | c :: r => if isSlash c then r else cs
    | [] => []
  resolveDots [] ((pieces body).map (percentEncode pathSet))

end CallSignaling.Url
