import CallSignaling.Diagnostics.Level

/-!
# Flags — what can be said on the command line
-/

namespace CallSignaling.CommandLine

inductive Flag where
  | url
  | clientId
  | autoCall
  | audio
  | video
  | logLevel
  | logFile
  | logFilter
  | traceDeps
  | help
  | version
deriving DecidableEq, Repr

namespace Flag

/-- Every flag, in the order of the help text. -/
def all : List Flag :=
  [.url, .clientId, .autoCall, .audio, .video, .logLevel, .logFile, .logFilter, .traceDeps, .help,
   .version]

/-- The name behind two dashes. -/
def name : Flag → String
  | .url => "url"
  | .clientId => "client-id"
  | .autoCall => "auto-call"
  | .audio => "audio"
  | .video => "video"
  | .logLevel => "log-level"
  | .logFile => "log-file"
  | .logFilter => "log-filter"
  | .traceDeps => "trace-deps"
  | .help => "help"
  | .version => "version"

/-- The letter behind one dash. -/
def letter? : Flag → Option Char
  | .help => some 'h'
  | .version => some 'V'
  | _ => none

/-- What the value of a flag that takes one is called. -/
def valueName? : Flag → Option String
  | .url => some "URL"
  | .clientId => some "CLIENT_ID"
  | .logLevel => some "LEVEL"
  | .logFile => some "PATH"
  | .logFilter => some "DIRECTIVES"
  | _ => none

/-- The variable that stands in for a missing flag. -/
def envName? : Flag → Option String
  | .logLevel => some "VOX_LOG_LEVEL"
  | .logFile => some "VOX_LOG_FILE"
  | .logFilter => some "VOX_LOG_FILTER"
  | .traceDeps => some "VOX_TRACE_DEPS"
  | _ => none

/-- The values a flag can have, where they are few.  Those of a flag without a value are for its
variable. -/
def choices : Flag → List String
  | .logLevel => LogLevel.all.map LogLevel.name
  | .traceDeps => ["true", "false"]
  | _ => []

/-- The value used where none is given. -/
def default? : Flag → Option String
  | .logLevel => some LogLevel.default.name
  | _ => none

/-- What a flag is for. -/
def purpose : Flag → String
  | .url => "Signaling WebSocket URL (overrides VOX_SIGNALING_URL)"
  | .clientId => "Local identity (overrides VOX_CLIENT_ID)"
  | .autoCall => "Send an offer as soon as a peer is assigned"
  | .audio => "Offer a local audio track"
  | .video => "Offer a local video track"
  | .logLevel => "Minimum log level (error, warn, info, debug, trace)"
  | .logFile => "Write structured logs to the specified file"
  | .logFilter => "Raw tracing filter directives; replaces --log-level"
  | .traceDeps => "Let WebRTC and WebSocket internals log below info"
  | .help => "Print help"
  | .version => "Print version"

/-- The flag as it is written, with the name of its value. -/
def text (f : Flag) : String :=
  "--" ++ f.name ++ match f.valueName? with
    | some v => " <" ++ v ++ ">"
    | none => ""

def ofName? (name : String) : Option Flag := all.find? fun f => f.name == name

def ofLetter? (c : Char) : Option Flag := all.find? fun f => f.letter? == some c

theorem mem_all (f : Flag) : f ∈ all := by cases f <;> decide

end Flag

end CallSignaling.CommandLine
