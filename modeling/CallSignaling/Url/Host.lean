import CallSignaling.Text.Basic
import CallSignaling.Url.Percent

/-!
# Hosts — names and addresses

A host is a name in lower case, an IPv4 address or an IPv6 address.  A name whose last label is a
number is an IPv4 address and nothing else.
-/

namespace CallSignaling.Url

/-- Why a text is no URL. -/
inductive ParseError where
  | relativeWithoutBase
  | emptyHost
  | invalidPort
  | invalidIpv4
  | invalidIpv6
  /-- A host name with a character that host names cannot have. -/
  | invalidInternational
  /-- The same where host names are taken as they are. -/
  | invalidDomainCharacter
deriving DecidableEq, Repr

def ParseError.message : ParseError → String
  | .relativeWithoutBase => "relative URL without a base"
  | .emptyHost => "empty host"
  | .invalidPort => "invalid port number"
  | .invalidIpv4 => "invalid IPv4 address"
  | .invalidIpv6 => "invalid IPv6 address"
  | .invalidInternational => "invalid international domain name"
  | .invalidDomainCharacter => "invalid domain character"

inductive Host where
  | domain (name : List Char)
  /-- An address of 32 bits. -/
  | ipv4 (address : Nat)
  /-- Eight pieces of 16 bits. -/
  | ipv6 (pieces : List Nat)
deriving DecidableEq, Repr

/-- The labels of a name. -/
def labels (cs : List Char) : List (List Char) := Text.pieces '.' cs

/-! ### IPv4 -/

/-- The number written by digits of a base; `none` if there is another character. -/
def digitsIn (base : Nat) (cs : List Char) : Option Nat :=
  cs.foldl (fun n c => n.bind fun n =>
    (hexDigit? c).bind fun d => if d < base then some (n * base + d) else none) (some 0)

/-- A number of an IPv4 address: hexadecimal after `0x`, octal after `0`, decimal otherwise. -/
def ipv4Number? : List Char → Option Nat
  | [] => none
  | '0' :: 'x' :: cs => digitsIn 16 cs
  | '0' :: 'X' :: cs => digitsIn 16 cs
  | ['0'] => some 0
  | '0' :: cs => digitsIn 8 cs
  | cs => digitsIn 10 cs

def isNumber (cs : List Char) : Bool :=
  (!cs.isEmpty && cs.all fun c => '0' ≤ c && c ≤ '9') || (ipv4Number? cs).isSome

/-- The labels without the empty one behind a final dot. -/
def dropFinalEmpty (ls : List (List Char)) : List (List Char) :=
  match ls.reverse with
  | [] :: r => r.reverse
  | _ => ls

/-- The last label is a number. -/
def endsInNumber (cs : List Char) : Bool :=
  match (dropFinalEmpty (labels cs)).reverse with
  | [] => false
  | l :: _ => isNumber l

/-- The address of one to four numbers: the last one fills what the others leave. -/
def ipv4OfNumbers? (ns : List Nat) : Option Nat :=
  match ns.reverse with
  | [] => none
  | last :: others =>
    if 3 < others.length ∨ others.any (255 < ·) ∨ Nat.pow 256 (4 - others.length) ≤ last then none
    else some (others.reverse.zipIdx.foldl (fun a (n, i) => a + n * Nat.pow 256 (3 - i)) last)

def ipv4? (cs : List Char) : Option Nat :=
  ((dropFinalEmpty (labels cs)).mapM ipv4Number?).bind ipv4OfNumbers?

/-- An IPv4 address with its four bytes in decimal. -/
def ipv4Text (a : Nat) : List Char :=
  let byte (i : Nat) : List Char := Nat.toDigits 10 (a / Nat.pow 256 i % 256)
  byte 3 ++ '.' :: byte 2 ++ '.' :: byte 1 ++ '.' :: byte 0

/-! ### IPv6 -/

/-- A byte of the IPv4 part of an IPv6 address: no needless zero, at most 255. -/
def ipv4Byte? (cs : List Char) : Option Nat :=
  match cs with
  | [] => none
  | '0' :: _ :: _ => none
  | _ => (digitsIn 10 cs).filter (· ≤ 255)

/-- The two pieces of an IPv4 address at the end of an IPv6 address. -/
def ipv4Pieces? (cs : List Char) : Option (List Nat) :=
  match (labels cs).mapM ipv4Byte? with
  | some [a, b, c, d] => some [a * 256 + b, c * 256 + d]
  | _ => none

/-- Reads pieces, of which `acc` are known; `gap` is where zeros were left out.  The first argument
bounds the number of steps by the characters. -/
def ipv6Pieces? : Nat → List Char → List Nat → Option Nat → Option (List Nat × Option Nat)
  | _, [], acc, gap => some (acc, gap)
  | 0, _ :: _, _, _ => none
  | n + 1, c :: cs, acc, gap =>
    if acc.length = 8 then none
    else if c = ':' then
      if gap.isSome then none else ipv6Pieces? n cs (acc ++ [0]) (some (acc.length + 1))
    else
      let ds := ((c :: cs).take 4).takeWhile fun d => (hexDigit? d).isSome
      let value := (digitsIn 16 ds).getD 0
      match (c :: cs).drop ds.length with
      | [] => some (acc ++ [value], gap)
      | ':' :: [] => none
      | ':' :: r => ipv6Pieces? n r (acc ++ [value]) gap
      | '.' :: _ =>
        if ds.isEmpty ∨ 6 < acc.length then none
        else (ipv4Pieces? (c :: cs)).map fun ps => (acc ++ ps, gap)
      | _ :: _ => none

/-- Puts the zeros that were left out where the gap is. -/
def fillGap : List Nat × Option Nat → Option (List Nat)
  | (ps, none) => if ps.length = 8 then some ps else none
  | (ps, some k) => some (ps.take k ++ List.replicate (8 - ps.length) 0 ++ ps.drop k)

/-- The pieces of an IPv6 address. -/
def ipv6? (cs : List Char) : Option (List Nat) :=
  match cs with
  | ':' :: ':' :: r => (ipv6Pieces? r.length r [0] (some 1)).bind fillGap
  | ':' :: _ => none
  | [] => none
  | [_] => none
  | _ => (ipv6Pieces? cs.length cs [] none).bind fillGap

/-- The length of the run of zeros at the front. -/
def zeroRun (ps : List Nat) : Nat := (ps.takeWhile (· == 0)).length

/-- The first of the longest runs of zeros, if it has two pieces or more: its place and length. -/
def longestZeros (ps : List Nat) : Option (Nat × Nat) :=
  let runs := (List.range ps.length).map fun i => (i, zeroRun (ps.drop i))
  (runs.foldl (fun best r => if best.2 < r.2 then r else best) (0, 1)) |> fun best =>
    if 2 ≤ best.2 then some best else none

/-- Pieces in hexadecimal with colons between them. -/
def colons : List Nat → List Char
  | [] => []
  | [p] => Nat.toDigits 16 p
  | p :: ps => Nat.toDigits 16 p ++ ':' :: colons ps

def ipv6Text (ps : List Nat) : List Char :=
  match longestZeros ps with
  | none => colons ps
  | some (i, n) => colons (ps.take i) ++ ':' :: ':' :: colons (ps.drop (i + n))

namespace Host

/-- The host as it is written in a URL. -/
def text : Host → List Char
  | .domain name => name
  | .ipv4 a => ipv4Text a
  | .ipv6 ps => '[' :: ipv6Text ps ++ [']']

end Host

/-! ### Reading a host -/

/-- The characters that no host name has. -/
def forbidden (c : Char) : Bool :=
  c.toNat ≤ 0x20 || c.toNat == 0x7F ||
    ['%', '#', '/', ':', '<', '>', '?', '@', '[', '\\', ']', '^', '|'].contains c

/-- The characters of ASCII bytes; `none` if there is another byte. -/
def asciiChars : Bytes → Option (List Char)
  | [] => some []
  | b :: bs => if b < 0x80 then (asciiChars bs).map (Char.ofNat b.toNat :: ·) else none

/-- The host name meant by a text, in lower case. -/
def domain? (cs : List Char) : Option (List Char) :=
  match asciiChars (percentDecode cs) with
  | none => none
  | some ds => if ds.any forbidden then none else some (ds.map Char.toLower)

/-- The text between brackets, if the whole text is bracketed. -/
def bracketed? (cs : List Char) : Option (List Char) :=
  match cs.reverse with
  | ']' :: r => some (r.reverse.drop 1)
  | _ => none

/-- The host of a URL whose scheme has hosts of its own. -/
def Host.ofName (cs : List Char) : Except ParseError Host :=
  match cs with
  | '[' :: _ =>
    match (bracketed? cs).bind ipv6? with
    | some ps => .ok (.ipv6 ps)
    | none => .error .invalidIpv6
  | _ =>
    match domain? cs with
    | none => .error .invalidInternational
    | some name =>
      if endsInNumber name then
        match ipv4? name with
        | some a => .ok (.ipv4 a)
        | none => .error .invalidIpv4
      else .ok (.domain name)

/-- The characters that an uninterpreted host cannot have. -/
def forbiddenOpaque (c : Char) : Bool :=
  ['\x00', '\t', '\n', '\r', ' ', '#', '/', ':', '<', '>', '?', '@', '[', '\\', ']', '^',
    '|'].contains c

/-- The host of any other URL, which is not interpreted. -/
def Host.ofOpaque (cs : List Char) : Except ParseError Host :=
  match cs with
  | '[' :: _ =>
    match (bracketed? cs).bind ipv6? with
    | some ps => .ok (.ipv6 ps)
    | none => .error .invalidIpv6
  | _ =>
    if cs.any forbiddenOpaque then .error .invalidDomainCharacter
    else .ok (.domain (percentEncode isControl cs))

end CallSignaling.Url
