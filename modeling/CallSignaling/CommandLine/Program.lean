import CallSignaling.CommandLine.Arguments
import CallSignaling.CommandLine.Help
import CallSignaling.Config
import CallSignaling.Diagnostics.Setup
import CallSignaling.Transport.Basic

/-!
# Program — from the command line to a client that can start

The log is set up first, then the configuration is read and its address looked at.
-/

namespace CallSignaling.CommandLine

/-- What the command line asks for. -/
structure Settings where
  url : Option String
  clientId : Option String
  /-- An offer is sent as soon as a peer is assigned. -/
  autoCall : Bool
  tracks : List Track
  log : LogConfig
deriving DecidableEq, Repr

namespace Settings

/-- The local tracks asked for. -/
def localTracks (g : Given) : List Track :=
  (if g.has .audio then [⟨"vox-audio", "vox", .audio⟩] else [])
    ++ (if g.has .video then [⟨"vox-video", "vox", .video⟩] else [])

def ofGiven (g : Given) : Settings where
  url := g.value? .url
  clientId := g.value? .clientId
  autoCall := g.has .autoCall
  tracks := localTracks g
  log :=
    { level := ((g.value? .logLevel).bind (LogLevel.ofName? · false)).getD .default
      file := g.value? .logFile
      filter := g.value? .logFilter
      traceDependencies := g.value? .traceDeps = some "true" }

/-- The configuration with what the command line says in place of the variables. -/
def configure (s : Settings) (c : Config) : Config :=
  { c with signalingUrl := s.url.getD c.signalingUrl, clientId := s.clientId.or c.clientId }

end Settings

/-- A program's last words. -/
structure Ending where
  code : Nat
  output : String
  errors : String
deriving DecidableEq, Repr

namespace Ending

def ofStop (var : String → Option String) : Stop → Ending
  | .help => ⟨0, helpText var, ""⟩
  | .version => ⟨0, versionText, ""⟩
  | .error e => ⟨2, "", e.message⟩

/-- The program cannot do its work. -/
def failure (reason : String) : Ending := ⟨1, "", "❌ " ++ reason ++ "\n"⟩

end Ending

/-- The settings, or the end of the program. -/
def settings (args : List String) (var : String → Option String) : Except Ending Settings :=
  match given args var with
  | .error stop => .error (.ofStop var stop)
  | .ok g => .ok (.ofGiven g)

/-- The client's configuration with the address of its server, or the end of the program; log files
are opened by `openFile`. -/
def start (s : Settings) (var : String → Option String)
    (openFile : String → Except OpenError Unit) : Except Ending (Config × Url) :=
  match (s.log.setUp openFile false).1 with
  | .error e => .error (.failure ("logging initialization failed: " ++ e.message))
  | .ok () =>
    let config := s.configure (Config.fromVars var)
    match config.signaling with
    | .error e => .error (.failure (e.message config.signalingUrl))
    | .ok url => .ok (config, url)

end CallSignaling.CommandLine
