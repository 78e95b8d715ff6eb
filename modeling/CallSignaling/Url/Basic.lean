import CallSignaling.Url.Host

/-!
# URLs with a host

A URL is kept in its parts, each as it is written; `Url.text` puts them together.  A port that is
the scheme's own is left out.
-/

namespace CallSignaling

/-- A URL of a scheme that has hosts: `ws`, `wss`, `http`, `https` or `ftp`. -/
structure Url where
  scheme : List Char
  username : List Char
  password : List Char
  host : Url.Host
  port : Option Nat
  /-- The path's segments; there is at least one. -/
  path : List (List Char)
  query : Option (List Char)
  fragment : Option (List Char)
deriving DecidableEq, Repr

namespace Url

/-- The schemes that have hosts, with their own ports. -/
def schemePorts : List (List Char × Nat) :=
  [(['w', 's'], 80), (['w', 's', 's'], 443), (['h', 't', 't', 'p'], 80),
   (['h', 't', 't', 'p', 's'], 443), (['f', 't', 'p'], 21)]

def defaultPort? (scheme : List Char) : Option Nat :=
  (schemePorts.find? fun e => e.1 == scheme).map Prod.snd

/-- The part in front of the host. -/
def userinfoText (u : Url) : List Char :=
  if u.username.isEmpty && u.password.isEmpty then []
  else u.username ++ (if u.password.isEmpty then [] else ':' :: u.password) ++ ['@']

def portText (u : Url) : List Char :=
  match u.port with
  | none => []
  | some p => ':' :: Nat.toDigits 10 p

def pathText (u : Url) : List Char := u.path.flatMap fun s => '/' :: s

def queryText (u : Url) : List Char :=
  match u.query with
  | none => []
  | some q => '?' :: q

def fragmentText (u : Url) : List Char :=
  match u.fragment with
  | none => []
  | some f => '#' :: f

/-- What follows the authority. -/
def tailText (u : Url) : List Char := u.pathText ++ u.queryText ++ u.fragmentText

def chars (u : Url) : List Char :=
  u.scheme ++ [':', '/', '/'] ++ u.userinfoText ++ u.host.text ++ u.portText ++ u.tailText

/-- The URL as one text. -/
def text (u : Url) : String := String.ofList u.chars

end Url

end CallSignaling
