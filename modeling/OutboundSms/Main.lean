import OutboundSms.CommandLine.Run

/-!
# Entry point

Looks at the paths that a run is interested in, runs the command line, and prints
what it left behind.
-/

set_option autoImplicit false

open OutboundSms.CommandLine

def lookAt (path : String) : IO PathState := do
  try
    return .file (← IO.FS.readFile path)
  catch
    | .noFileOrDirectory _ _ _ => return .missing
    | .inappropriateType _ 20 _ => return .notADirectory
    | _ => return .directory

def main (arguments : List String) : IO UInt32 := do
  let configVariable ← IO.getEnv "SMSROUTE_CONFIG"
  let logLevel ← IO.getEnv "LOG_LEVEL"
  let paths := pathsOfInterest configVariable (invocation arguments)
  let states ← paths.mapM fun path => return (path, ← lookAt path)
  let look path := (states.lookup path).getD .missing
  let exit := run { configVariable, logLevel, look } arguments
  IO.print exit.stdout
  IO.eprint exit.stderr
  return exit.status
