import CallSignaling.Url.Basic
import CallSignaling.Url.Path

/-!
# Reading a URL

Blank and control characters around the text and tabs and line ends within it do not count.  A URL
of a scheme that has hosts is taken apart and normalised; of any other one only what decides
whether it is well formed, and its host and query, are looked at.
-/

namespace CallSignaling.Url

/-- The text without surrounding blanks and controls, and without tabs and line ends. -/
def clean (cs : List Char) : List Char :=
  let outer (c : Char) : Bool := c.toNat ≤ 0x20
  let trimmed := ((cs.dropWhile outer).reverse.dropWhile outer).reverse
  trimmed.filter fun c => c != '\t' && c != '\n' && c != '\r'

def isSchemeChar (c : Char) : Bool :=
  isLetter c || ('0' ≤ c && c ≤ '9') || c == '+' || c == '-' || c == '.'

/-- The scheme in lower case and what follows its colon. -/
def splitScheme? (cs : List Char) : Option (List Char × List Char) :=
  match cs with
  | [] => none
  | c :: _ =>
    if isLetter c then
      match cs.dropWhile isSchemeChar with
      | ':' :: r => some ((cs.takeWhile isSchemeChar).map Char.toLower, r)
      | _ => none
    else none

/-- The characters that end the authority of a URL. -/
def endsAuthority (special : Bool) (c : Char) : Bool :=
  c == '/' || c == '?' || c == '#' || (special && c == '\\')

/-- The authority split behind its last `@`. -/
def splitUserinfo (cs : List Char) : Option (List Char) × List Char :=
  match cs.reverse.dropWhile (· != '@') with
  | [] => (none, cs)
  | _ :: r => (some r.reverse, (cs.reverse.takeWhile (· != '@')).reverse)

/-- The host split from the colon that begins the port; a colon between brackets belongs to the
host. -/
def splitPort (inside : Bool) : List Char → List Char × Option (List Char)
  | [] => ([], none)
  | c :: cs =>
    if c = ':' ∧ inside = false then ([], some cs)
    else
      let inside := if c = '[' then true else if c = ']' then false else inside
      let (h, p) := splitPort inside cs
      (c :: h, p)

/-- The user name and the password, encoded. -/
def credentials (cs : List Char) : List Char × List Char :=
  (percentEncode userSet (cs.takeWhile (· != ':')),
   percentEncode userSet ((cs.dropWhile (· != ':')).drop 1))

/-- A port number; digits up to the end or a backslash, at most `2 ^ 16 - 1`. -/
def portNumber (cs : List Char) : Except ParseError (Option Nat) :=
  let ds := cs.takeWhile fun c => '0' ≤ c && c ≤ '9'
  let rest := cs.dropWhile fun c => '0' ≤ c && c ≤ '9'
  let n := (digitsIn 10 ds).getD 0
  if n < UInt16.size ∧ (rest = [] ∨ rest.head? = some '\\') then
    .ok (if ds.isEmpty then none else some n)
  else .error .invalidPort

/-- An authority in its parts. -/
structure Authority where
  username : List Char
  password : List Char
  host : Host
  port : Option Nat

/-- The authority of a URL; `special` schemes need a host. -/
def authority (special : Bool) (cs tail : List Char) : Except ParseError Authority := do
  let (user, hostPort) := splitUserinfo cs
  if user = some [] ∧ hostPort = [] ∧ tail ≠ [] then .error .emptyHost
  let (username, password) := credentials (user.getD [])
  let (h, p) := splitPort false hostPort
  if special && h.isEmpty then .error .emptyHost
  let host ← if special then Host.ofName h else Host.ofOpaque h
  if host = .domain [] ∧ (p.isSome ∨ special) then .error .emptyHost
  let port ← match p with
    | none => pure none
    | some p => portNumber p
  if host = .domain [] ∧ ¬(username.isEmpty && password.isEmpty) then .error .emptyHost
  return { username, password, host, port }

/-- A query and a fragment, each without its sign. -/
def splitTail (cs : List Char) : List Char × Option (List Char) × Option (List Char) :=
  let hier := cs.takeWhile fun c => c != '?' && c != '#'
  match cs.dropWhile fun c => c != '?' && c != '#' with
  | '?' :: r =>
    let q := r.takeWhile (· != '#')
    match r.dropWhile (· != '#') with
    | _ :: f => (hier, some q, some f)
    | [] => (hier, some q, none)
  | _ :: f => (hier, none, some f)
  | [] => (hier, none, none)

/-- A well-formed URL of a scheme without hosts of its own. -/
structure Other where
  scheme : List Char
  host : Option Host
  query : Option (List Char)
deriving DecidableEq, Repr

inductive Parsed where
  | url (url : Url)
  | other (other : Other)
deriving DecidableEq, Repr

/-- The part behind `scheme:` of a URL with a host. -/
def parseHosted (scheme : List Char) (defaultPort : Nat) (cs : List Char) :
    Except ParseError Url := do
  let rest := cs.dropWhile isSlash
  let auth := rest.takeWhile fun c => !endsAuthority true c
  let tail := rest.dropWhile fun c => !endsAuthority true c
  let a ← authority true auth tail
  let (path, query, fragment) := splitTail tail
  return {
    scheme, username := a.username, password := a.password, host := a.host
    port := if a.port = some defaultPort then none else a.port
    path := segments path
    query := query.map (percentEncode querySet)
    fragment := fragment.map (percentEncode fragmentSet) }

/-- The part behind `file:`, whose host may be missing or a drive. -/
def parseFile (scheme cs : List Char) : Except ParseError Other := do
  match cs with
  | a :: b :: rest =>
    if isSlash a && isSlash b then
      let h := rest.takeWhile fun c => !endsAuthority true c
      if h.isEmpty || isDrive h then return ⟨scheme, none, none⟩
      let host ← Host.ofName h
      return ⟨scheme, if host = .domain "localhost".toList then none else some host, none⟩
    else return ⟨scheme, none, none⟩
  | _ => return ⟨scheme, none, none⟩

/-- The part behind the colon of any other scheme. -/
def parseOther (scheme cs : List Char) : Except ParseError Other := do
  match cs with
  | '/' :: '/' :: rest =>
    let auth := rest.takeWhile fun c => !endsAuthority false c
    let tail := rest.dropWhile fun c => !endsAuthority false c
    let a ← authority false auth tail
    return ⟨scheme, if a.host = .domain [] then none else some a.host, (splitTail tail).2.1⟩
  | _ => return ⟨scheme, none, (splitTail cs).2.1⟩

/-- Takes a text apart. -/
def parse (text : String) : Except ParseError Parsed :=
  match splitScheme? (clean text.toList) with
  | none => .error .relativeWithoutBase
  | some (scheme, rest) =>
    match defaultPort? scheme with
    | some p => (parseHosted scheme p rest).map .url
    | none =>
      if scheme = "file".toList then (parseFile scheme rest).map .other
      else (parseOther scheme rest).map .other

end CallSignaling.Url
