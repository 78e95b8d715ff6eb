import CallSignaling.Diagnostics.Level
import CallSignaling.Pattern.Check
import CallSignaling.Text.Basic

/-!
# Filters — which log messages are kept

A filter is a list of directives between commas.  A directive is a level, a target, or a target, a
span with fields in brackets, or both, with a level behind an equals sign.  A field may have a
value: a truth value, a number or else a pattern.
-/

namespace CallSignaling

/-- How much is logged, and where. -/
structure LogConfig where
  level : LogLevel
  file : Option String
  /-- Directives that replace those of the level. -/
  filter : Option String
  /-- Libraries beneath the client may log details, too. -/
  traceDependencies : Bool
deriving DecidableEq, Repr

namespace LogConfig

/-- The libraries that are held at `info` while the client logs details. -/
def quietDependencies : List String :=
  ["webrtc", "webrtc_ice", "webrtc_dtls", "webrtc_srtp", "webrtc_sctp", "webrtc_mdns",
   "interceptor", "tokio_tungstenite", "tungstenite", "mio"]

/-- The directives of a level. -/
def levelDirectives : LogLevel → String
  | .debug => "info,vox_client_core=debug,vox=debug"
  | .trace => "info,vox_client_core=trace,vox=trace"
  | l => l.name

/-- The filter that is in force. -/
def directives (c : LogConfig) : String :=
  match c.filter with
  | some f => f
  | none =>
    if c.level.isVerbose && !c.traceDependencies then
      quietDependencies.foldl (fun s t => s ++ "," ++ t ++ "=info") (levelDirectives c.level)
    else levelDirectives c.level

end LogConfig

namespace Filter

/-- The names of levels, with the one that keeps nothing. -/
def levelNames : List String := ["off", "error", "warn", "info", "debug", "trace"]

end Filter

/-- Why a filter cannot be used. -/
inductive FilterError where
  | directive
  | level
  | field (cause : Pattern.PatternError)
deriving DecidableEq, Repr

def FilterError.message : FilterError → String
  | .directive => "invalid filter directive"
  | .level =>
    "error parsing level filter: expected one of "
      ++ ", ".intercalate (Filter.levelNames.map fun n => "\"" ++ n ++ "\"") ++ ", or a number 0-5"
  | .field cause => "invalid field filter: " ++ cause.message

namespace Filter

/-- Where a directive has got to.  The numbers are places in its text. -/
inductive State where
  | start
  | levelOrTarget (start : Nat)
  | span
  | field (start : Nat)
  | fields
  | target
  | level (start : Nat)
deriving DecidableEq, Repr

/-- A level by its name in any case or by its number; nothing stands for a level, too. -/
def isLevel (cs : List Char) : Bool :=
  cs.isEmpty || levelNames.contains (LogLevel.lower (String.ofList cs)) ||
    (Text.natural64? (String.ofList cs)).any (· ≤ 5)

/-- A character that can begin a level or a target. -/
def beginsName (c : Char) : Bool := c == '-' || c == ':' || c == '_' || Text.isAlphanumeric c

/-- Checks a field, whose value stands behind the first equals sign and before the next. -/
def checkField (field : List Char) : Except FilterError Unit :=
  match Text.pieces '=' field with
  | _ :: value :: _ =>
    if ["true", "false"].contains (String.ofList value) || Text.isReal value then .ok ()
    else (Pattern.check value).mapError .field
  | _ => .ok ()

/-- One character, at the place `i`, of a directive whose text is `text`. -/
def step (text : List Char) (s : State) (i : Nat) (c : Char) : Except FilterError State :=
  match s with
  | .start =>
    if c = '[' then .ok .span
    else if beginsName c then .ok (.levelOrTarget i) else .error .directive
  | .levelOrTarget n =>
    if c = '=' then .ok (.level (i + 1)) else if c = '[' then .ok .span else .ok (.levelOrTarget n)
  | .target => if c = '=' then .ok (.level (i + 1)) else .error .directive
  | .span =>
    if c = ']' then .ok .target else if c = '\x7b' then .ok (.field (i + 1)) else .ok .span
  | .field n =>
    if c = '\x7d' then
      let field := (text.take i).drop n
      if field = [] then .error .directive else (checkField field).map fun () => .fields
    else .ok (.field n)
  | .fields => if c = ']' then .ok .target else .error .directive
  | .level n => .ok (.level n)

/-- Reads a directive to its end. -/
def run (text : List Char) : State → Nat → List Char → Except FilterError State
  | s, _, [] => .ok s
  | s, i, c :: cs =>
    match step text s i c with
    | .ok s => run text s (i + 1) cs
    | .error e => .error e

/-- Checks one directive, whose brackets must be closed.  Blanks around it are passed over, but the
places of its parts count from the text with them. -/
def checkDirective (text : List Char) : Except FilterError Unit :=
  match run text .start 0 (Text.trimChars text) with
  | .error e => .error e
  | .ok (.level n) => if isLevel (text.drop n) then .ok () else .error .level
  | .ok (.levelOrTarget _) => .ok ()
  | .ok .target => .ok ()
  | .ok _ => .error .directive

/-- Checks a filter; empty directives do not count. -/
def check (filter : String) : Except FilterError Unit :=
  ((Text.pieces ',' filter.toList).filter fun d => !d.isEmpty).forM checkDirective

end Filter

end CallSignaling
