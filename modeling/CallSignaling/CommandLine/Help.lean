import CallSignaling.CommandLine.Flag
import CallSignaling.Text.Similarity

/-!
# Help — what the command line answers

What can be wrong with a command line, and the texts of errors, help and version.
-/

namespace CallSignaling.CommandLine

inductive ArgumentError where
  /-- An argument that is no flag; a name like it may be known.  The flags in use are reported. -/
  | unexpected (argument : String) (similar : Option Flag) (used : List Flag)
  /-- A value behind a flag that takes none. -/
  | unexpectedValue (flag : Flag) (value : String) (used : List Flag)
  | missingValue (flag : Flag)
  | invalidValue (flag : Flag) (value : String)
  | repeated (flag : Flag)
deriving DecidableEq, Repr

/-- The name of the program. -/
def programName : String := "vox"

def bracketed (title : String) (values : List String) : String :=
  "[" ++ title ++ ": " ++ ", ".intercalate values ++ "]"

namespace ArgumentError

/-- The values to choose from, on a line of their own. -/
def choicesText (f : Flag) : String :=
  if f.choices.isEmpty then "" else "\n  " ++ bracketed "possible values" f.choices

/-- How the program is called, with the flags in use if there are any. -/
def usage (used : List Flag) : String :=
  "\n\nUsage: " ++ programName ++ " " ++
    (if used.isEmpty then "[OPTIONS]" else " ".intercalate (used.map Flag.text))

def tip (what : String) (similar : Option String) : String :=
  match similar with
  | some s => "\n\n  tip: a similar " ++ what ++ " exists: '" ++ s ++ "'"
  | none => ""

def valueRequired (f : Flag) : String :=
  "a value is required for '" ++ f.text ++ "' but none was supplied"

/-- What is wrong, with advice. -/
def reason : ArgumentError → String
  | .unexpected argument similar used =>
    "unexpected argument '" ++ argument ++ "' found"
      ++ tip "argument" (similar.map fun f => "--" ++ f.name) ++ usage used
  | .unexpectedValue flag value used =>
    "unexpected value '" ++ value ++ "' for '" ++ flag.text ++ "' found; no more were expected"
      ++ usage used
  | .missingValue flag => valueRequired flag ++ choicesText flag
  | .invalidValue flag value =>
    (if value = "" then valueRequired flag
      else "invalid value '" ++ value ++ "' for '" ++ flag.text ++ "'")
      ++ choicesText flag ++ tip "value" (Text.mostSimilar? value flag.choices)
  | .repeated flag =>
    "the argument '" ++ flag.text ++ "' cannot be used multiple times" ++ usage []

def message (e : ArgumentError) : String :=
  "error: " ++ e.reason ++ "\n\nFor more information, try '--help'.\n"

end ArgumentError

/-! ### Help and version -/

def about : String := "Headless WebRTC call client driven by a signaling server"

def versionText : String := programName ++ " 0.1.0\n"

/-- The width of the widest flag. -/
def flagWidth : Nat := (Flag.all.map fun f => f.text.length).foldl max 0

/-- A flag's variable with its value, the default value and the values to choose from. -/
def remarks (var : String → Option String) (f : Flag) : List String :=
  (f.envName?.map fun v => "[env: " ++ v ++ "=" ++ (var v).getD "" ++ "]").toList
    ++ (f.default?.map fun d => "[default: " ++ d ++ "]").toList
    ++ (if f.valueName?.isNone || f.choices.isEmpty then []
      else [bracketed "possible values" f.choices])

/-- A flag's line of the help text. -/
def helpLine (var : String → Option String) (f : Flag) : String :=
  let letter := match f.letter? with
    | some c => String.ofList ['-', c, ',', ' ']
    | none => "    "
  let gap := String.ofList (List.replicate (flagWidth - f.text.length + 2) ' ')
  "  " ++ letter ++ f.text ++ gap ++ " ".intercalate (f.purpose :: remarks var f) ++ "\n"

def helpText (var : String → Option String) : String :=
  about ++ ArgumentError.usage [] ++ "\n\nOptions:\n" ++ String.join (Flag.all.map (helpLine var))

end CallSignaling.CommandLine
