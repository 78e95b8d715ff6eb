import CallSignaling.CommandLine.Program

/-!
# The command line

The program is decided by `CommandLine.settings` and `CommandLine.start`; here are only its inputs
and outputs.  Sockets are not part of this library, so a client that could connect ends here.
-/

namespace CallSignaling.CommandLine

/-- The variables that the program looks at. -/
def variableNames : List String :=
  ["VOX_SIGNALING_URL", "VOX_CLIENT_ID", "VOX_LOCALHOST_ONLY", "VOX_STUN_URLS",
   "VOX_RECONNECT_DELAY_MS", "VOX_NEGOTIATION_TIMEOUT_SECS"]
    ++ Flag.all.filterMap Flag.envName?

/-- The variables that are set, with their values. -/
def readVariables : IO (List (String × String)) :=
  variableNames.filterMapM fun name => do
    return (← IO.getEnv name).map fun value => (name, value)

/-- What went wrong with a file. -/
def openError (e : IO.Error) : OpenError :=
  match e with
  | .noFileOrDirectory .. => .notFound
  | .permissionDenied .. => .denied
  | _ => .isDirectory

/-- Opens a log file for appending. -/
def openLog (path : String) : IO (Except OpenError Unit) := do
  try
    discard <| IO.FS.Handle.mk path .append
    return .ok ()
  catch e => return .error (openError e)

/-- Opens the log file, if the log can be set up as far as that. -/
def openWanted (log : LogConfig) : IO (Except OpenError Unit) :=
  match Filter.check log.directives, log.file with
  | .ok (), some path => openLog path
  | _, _ => return .ok ()

/-- Says a program's last words. -/
def finish (e : Ending) : IO UInt32 := do
  IO.print e.output
  IO.eprint e.errors
  return UInt32.ofNat e.code

/-- Runs the program; answers its exit code. -/
def runProgram (args : List String) : IO UInt32 := do
  let vars ← readVariables
  let var (name : String) : Option String := vars.lookup name
  match settings args var with
  | .error e => finish e
  | .ok s =>
    let opened ← openWanted s.log
    match start s var fun _ => opened with
    | .error e => finish e
    | .ok (_, url) => finish (.failure ("websocket connect failed: " ++ url.text))

end CallSignaling.CommandLine

def main (args : List String) : IO UInt32 := CallSignaling.CommandLine.runProgram args
