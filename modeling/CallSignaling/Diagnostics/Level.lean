/-!
# Log levels
-/

namespace CallSignaling

/-- Levels from the fewest messages to the most. -/
inductive LogLevel where
  | error
  | warn
  | info
  | debug
  | trace
deriving DecidableEq, Repr

namespace LogLevel

def all : List LogLevel := [.error, .warn, .info, .debug, .trace]

def name : LogLevel → String
  | .error => "error"
  | .warn => "warn"
  | .info => "info"
  | .debug => "debug"
  | .trace => "trace"

/-- The level used where none is given. -/
def default : LogLevel := .warn

/-- Debug and trace speak of details. -/
def isVerbose : LogLevel → Bool
  | .debug | .trace => true
  | _ => false

/-- A text with the ASCII letters in lower case. -/
def lower (s : String) : String := String.ofList (s.toList.map Char.toLower)

/-- The level of that name; the case of ASCII letters counts unless it is to be ignored. -/
def ofName? (name : String) (ignoreCase : Bool) : Option LogLevel :=
  all.find? fun l => if ignoreCase then l.name == lower name else l.name == name

/-- The text about a name that is no level. -/
def unknownText (name : String) : String := "invalid variant: " ++ name

end LogLevel

end CallSignaling
