/-
The command line of a sanctuary node. Bad arguments end with a short note and the code two,
requests for help or the version with the code zero.
-/

import SuperblockGovernance.CommandLine

namespace SuperblockGovernance.CommandLine

/-- How the program is called. -/
def usage : String :=
  "Usage: sanctuary-node [OPTIONS] <show-config | schedule --tip <TIP> | " ++
    "fingerprint <CONTRACT> | decode-trigger <HEX>>"

namespace UsageError

/-- What is printed when a line cannot be run. -/
def note : UsageError → String
  | helpRequested | nothingGiven => usage
  | versionRequested => "sanctuary-node"
  | missingSubcommand => "error: a subcommand is required\n" ++ usage
  | unknownSubcommand => "error: unknown subcommand\n" ++ usage
  | unknownArgument => "error: unexpected argument\n" ++ usage
  | missingValue => "error: an option lacks its value\n" ++ usage
  | badValue => "error: invalid value for an option\n" ++ usage
  | unneededValue => "error: a flag takes no value\n" ++ usage
  | repeatedArgument => "error: an option was given twice\n" ++ usage
  | missingArgument => "error: a required argument is missing\n" ++ usage

/-- The line asked for what is printed. -/
def isRequest : UsageError → Bool
  | helpRequested | versionRequested => true
  | _ => false

/-- The outcome of a line that cannot be run. -/
def outcome (error : UsageError) : Outcome :=
  if error.isRequest then { stdout := error.note ++ "\n" }
  else { code := 2, stderr := error.note ++ "\n" }

end UsageError

end SuperblockGovernance.CommandLine

open SuperblockGovernance CommandLine in
/-- Runs the command that the arguments ask for. -/
def main (arguments : List String) : IO UInt32 := do
  let outcome := match readLine arguments with
    | .ok (command, settings) => command.run settings
    | .error error => error.outcome
  (← IO.getStdout).putStr outcome.stdout
  (← IO.getStderr).putStr outcome.stderr
  return outcome.code.toUInt32
