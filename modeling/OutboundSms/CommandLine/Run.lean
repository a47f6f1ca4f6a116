import OutboundSms.CommandLine.Arguments
import OutboundSms.CommandLine.Files
import OutboundSms.Format.Ron.Printer
import OutboundSms.Format.Ron.Reader
import OutboundSms.Simulator.Run

/-!
# The command line

Finds a configuration, simulates it, and prints the outcomes of its messages. The
configuration is the one that the arguments name; without one it is the file that
the environment names, or else the first that exists of the default places.
-/

set_option autoImplicit false

namespace OutboundSms.CommandLine

open Format

/-- What a run leaves behind: its exit status and what it printed. -/
structure Exit where
  status : UInt32
  stdout : String := ""
  stderr : String := ""
  deriving DecidableEq, Repr

def helpText : String :=
  "Simulate outbound SMS routing\n\nUsage: smsroute [OPTIONS]\n\nOptions:\n" ++
    "  -c, --config <CONFIG>  Configuration file to use instead of the default search " ++
    "locations\n" ++
    "  -h, --help             Print help\n" ++
    "  -V, --version          Print version\n"

def versionText : String :=
  "smsroute 0.0.1\n"

def defaultPaths : List String :=
  ["./smsroute.config.ron", "/etc/smsroute/smsroute.config.ron"]

/-- Why no outcomes were printed. -/
inductive RunError where
  | nothingFound
  | namedFileMissing (path : String)
  | unreadable (path : String) (cause : String)
  | malformed
  | inconsistent (error : ConfigError)
  deriving DecidableEq, Repr

def RunError.message : RunError → String
  | nothingFound =>
      "No configuration file found. Tried:\n  - SMSROUTE_CONFIG environment variable\n" ++
        "\n".intercalate (defaultPaths.map ("  - " ++ ·))
  | namedFileMissing path => "SMSROUTE_CONFIG points to non-existent file: " ++ path
  | unreadable path cause =>
      "Failed to read config from " ++ path ++ "\n\nCaused by:\n    " ++ cause
  | malformed => "The configuration is not valid"
  | inconsistent error => error.message

/-- What a run can see beside its arguments: the variables of the environment and
what the paths that it may look at lead to. -/
structure Environment where
  configVariable : Option String
  logLevel : Option String
  look : String → PathState

def pathsOfInterest (configVariable : Option String) : Invocation → List String
  | .simulate (some path) => [path]
  | .simulate none =>
      match configVariable with
      | some path => [path]
      | none => defaultPaths
  | .help | .version | .refused => []

/-- The path of the configuration. A path that the arguments name need not exist. -/
def configPath (environment : Environment) (config : Option String) : Except RunError String :=
  match config, environment.configVariable with
  | some path, _ => .ok path
  | none, some path =>
      if (environment.look path).isThere then .ok path else .error (.namedFileMissing path)
  | none, none =>
      match defaultPaths.find? fun path => (environment.look path).isThere with
      | some path => .ok path
      | none => .error .nothingFound

def simulateText (source : String) : Except RunError SimulationReport :=
  match Ron.read? SimulatorConfig.read? source with
  | none => .error .malformed
  | some config =>
      match config.simulate with
      | .error error => .error (.inconsistent error)
      | .ok report => .ok report

def simulateConfig (environment : Environment) (config : Option String) :
    Except RunError SimulationReport := do
  let path ← configPath environment config
  match (environment.look path).read with
  | .error cause => .error (.unreadable path cause)
  | .ok source => simulateText source

/-- Whether a level is one that can be logged at: a name, its number, or nothing. -/
def isLogLevel (level : String) : Bool :=
  level.isEmpty || ["off", "error", "warn", "info", "debug", "trace"].contains level.toLower ||
    ["0", "1", "2", "3", "4", "5"].contains level

/-- What is said about the level of the log, where it is none. -/
def logLevelNotice (environment : Environment) : String :=
  match environment.logLevel with
  | some level =>
      if isLogLevel level then ""
      else "Invalid log level specified " ++ level ++ ", defaulting to info\n"
  | none => ""

def run (environment : Environment) (arguments : List String) : Exit :=
  match invocation arguments with
  | .help => { status := 0, stdout := helpText }
  | .version => { status := 0, stdout := versionText }
  | .refused => { status := 2, stderr := "error: the arguments are not valid\n" }
  | .simulate config =>
      let notice := logLevelNotice environment
      match simulateConfig environment config with
      | .ok report =>
          { status := 0
            stdout := Ron.render (Written.listOf MessageOutcome.written report.outcomes) ++ "\n"
            stderr := notice }
      | .error error => { status := 1, stderr := notice ++ "Error: " ++ error.message ++ "\n" }

end OutboundSms.CommandLine
