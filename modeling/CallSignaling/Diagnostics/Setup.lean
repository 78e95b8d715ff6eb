import CallSignaling.Diagnostics.Filter
import CallSignaling.Diagnostics.LogFile
import CallSignaling.Text.Quoted

/-!
# Setting up the log

The log is set up at most once; whatever is asked for afterwards is taken as done.  The filter is
looked at before the file.
-/

namespace CallSignaling

/-- Why the log cannot be set up. -/
inductive LogError where
  | file (path : String) (cause : OpenError)
  | filter (cause : FilterError)
deriving DecidableEq, Repr

def LogError.message : LogError → String
  | .file path cause =>
    "failed to open log file " ++ Text.quotePath path ++ ": " ++ cause.message
  | .filter cause => "invalid log filter: " ++ cause.message

namespace LogConfig

/-- Sets up the log, whose file is opened by `openFile`; answers whether it is set up afterwards. -/
def setUp (c : LogConfig) (openFile : String → Except OpenError Unit) (done : Bool) :
    Except LogError Unit × Bool :=
  if done then (.ok (), true)
  else
    match Filter.check c.directives with
    | .error e => (.error (.filter e), false)
    | .ok () =>
      match c.file with
      | none => (.ok (), true)
      | some path =>
        match openFile path with
        | .error e => (.error (.file path e), false)
        | .ok () => (.ok (), true)

end LogConfig

end CallSignaling
