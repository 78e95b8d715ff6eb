import CallSignaling.CommandLine.Help

/-!
# Arguments — reading the command line

A flag that takes a value waits for it until the next flag.  What is given is kept in the order in
which it was first said; help and version end the reading where they stand.
-/

namespace CallSignaling.CommandLine

/-- Why the reading ended before its time. -/
inductive Stop where
  | help
  | version
  | error (cause : ArgumentError)
deriving DecidableEq, Repr

/-- The flags given so far, each with its value; a flag without a value has `true`. -/
abbrev Given := List (Flag × String)

namespace Given

def value? (g : Given) (f : Flag) : Option String := g.lookup f

def has (g : Given) (f : Flag) : Bool := g.any fun e => e.1 == f

def flags (g : Given) : List Flag := g.map Prod.fst

/-- What is wrong with a value. -/
def valueError? (f : Flag) (value : String) : Option ArgumentError :=
  if !f.choices.isEmpty && !f.choices.contains value then some (.invalidValue f value)
  else if f = .logFile ∧ value = "" then some (.missingValue f)
  else none

/-- Takes a flag with its value.  A flag counts as given even if its value is refused; one that is
given again does not count at all. -/
def put (g : Given) (f : Flag) (value : String) : Given × Option ArgumentError :=
  if g.has f then (g.filter fun e => e.1 != f, some (.repeated f))
  else (g ++ [(f, value)], valueError? f value)

end Given

/-- A flag that takes a value, which may have come. -/
structure Pending where
  flag : Flag
  value : Option String
deriving DecidableEq, Repr

/-- Takes the flag that waits. -/
def settle (g : Given) : Option Pending → Given × Option ArgumentError
  | none => (g, none)
  | some ⟨f, none⟩ => (g, some (.missingValue f))
  | some ⟨f, some v⟩ => g.put f v

/-- The same where an error ends the reading. -/
def settled (g : Given) (p : Option Pending) : Except Stop Given :=
  match settle g p with
  | (_, some e) => .error (.error e)
  | (g, none) => .ok g

/-- Takes a flag after the one that waits. -/
def put (g : Given) (p : Option Pending) (f : Flag) (value : String) : Except Stop Given :=
  match settled g p with
  | .error e => .error e
  | .ok g =>
    match g.put f value with
    | (_, some e) => .error (.error e)
    | (g, none) => .ok g

/-- Takes a flag without a value. -/
def raise (g : Given) (p : Option Pending) (f : Flag) : Except Stop Given :=
  match f with
  | .help => (settled g p).bind fun _ => .error .help
  | .version => (settled g p).bind fun _ => .error .version
  | f => put g p f "true"

/-- An unknown name behind two dashes.  The flag most like it counts as given. -/
def unknown (g : Given) (p : Option Pending) (name : String) : Stop :=
  let used := (settle g p).1.flags
  let similar := (Text.mostSimilar? name (Flag.all.map Flag.name)).bind Flag.ofName?
  let used := match similar with
    | some f => if used.contains f then used else used ++ [f]
    | none => used
  .error (.unexpected ("--" ++ name) similar used)

/-- The letters behind one dash. -/
def letters (g : Given) (p : Option Pending) : List Char → Except Stop (Given × Option Pending)
  | [] => .ok (g, p)
  | c :: cs =>
    match Flag.ofLetter? c with
    | none => .error (.error (.unexpected (String.ofList ['-', c]) none []))
    | some f =>
      match raise g p f with
      | .error e => .error e
      | .ok g => letters g none cs

/-- A name behind two dashes, with what stands behind an equals sign. -/
def long (g : Given) (p : Option Pending) (name : String) (attached : Option String) :
    Except Stop (Given × Option Pending) :=
  match Flag.ofName? name with
  | none => .error (unknown g p name)
  | some f =>
    match f.valueName?, attached with
    | some _, some v => (put g p f v).map fun g => (g, none)
    | some _, none => (settled g p).map fun g => (g, some ⟨f, none⟩)
    | none, some v => .error (.error (.unexpectedValue f v (g.flags ++ [f])))
    | none, none => (raise g p f).map fun g => (g, none)

/-- Text before and behind the first equals sign. -/
def splitEquals (cs : List Char) : String × Option String :=
  (String.ofList (cs.takeWhile (· != '=')),
    match cs.dropWhile (· != '=') with
    | [] => none
    | _ :: v => some (String.ofList v))

/-- Reads arguments.  A single dash is a value; behind two dashes alone nothing may follow. -/
def read (g : Given) (p : Option Pending) : List String → Except Stop Given
  | [] => settled g p
  | a :: rest =>
    match a.toList with
    | ['-', '-'] =>
      match rest with
      | [] => settled g p
      | x :: _ => .error (.error (.unexpected x none []))
    | '-' :: '-' :: cs =>
      let (name, attached) := splitEquals cs
      match long g p name attached with
      | .error e => .error e
      | .ok (g, p) => read g p rest
    | '-' :: c :: cs =>
      match letters g p (c :: cs) with
      | .error e => .error e
      | .ok (g, p) => read g p rest
    | _ =>
      match p with
      | some ⟨f, none⟩ => read g (some ⟨f, some a⟩) rest
      | _ => .error (.error (.unexpected a none []))

/-- Adds the values that variables have for flags that were not given. -/
def addVariables (var : String → Option String) : Given → List Flag → Except Stop Given
  | g, [] => .ok g
  | g, f :: fs =>
    match f.envName?.bind var with
    | none => addVariables var g fs
    | some v =>
      if g.has f then addVariables var g fs
      else
        match g.put f v with
        | (_, some e) => .error (.error e)
        | (g, none) => addVariables var g fs

/-- What the arguments and the variables say. -/
def given (args : List String) (var : String → Option String) : Except Stop Given :=
  match read [] none args with
  | .error e => .error e
  | .ok g => addVariables var g Flag.all

end CallSignaling.CommandLine
