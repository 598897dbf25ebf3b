import EvmRisk.CommandLine
import Std.Time.DateTime

/-!
# The program

Reads the variables of the environment and, if they make settings with the arguments, the files that
these name, and prints what comes of them; what it complains of goes to the error output.
-/

namespace EvmRisk.CommandLine

/-- The moment at which it is run. -/
def now : IO Time.Instant := do
  let stamp ← Std.Time.Timestamp.now
  return .ofNanos stamp.toNanosecondsSinceUnixEpoch.toInt

/-- The content of a file, if it can be read as text. -/
def readText (path : String) : IO (Option String) := do
  try
    return some (← IO.FS.readFile path)
  catch _ =>
    return none

/-- Files with their contents. -/
def contents (paths : List String) : IO (List (String × Option String)) :=
  paths.mapM fun path => do return (path, ← readText path)

end EvmRisk.CommandLine

open EvmRisk.CommandLine in
/-- Runs the program. -/
def main (arguments : List String) : IO UInt32 := do
  let start ← now
  let names := [EvmRisk.Settings.logVariable, EvmRisk.Settings.prettyVariable,
    EvmRisk.Settings.summaryVariable]
  let values ← names.mapM fun name => do return (name, ← IO.getEnv name)
  let environment name := (values.lookup name).join
  let files ← contents (filesRead arguments environment)
  let finish ← now
  let outcome := run arguments environment (fun path => (files.lookup path).join) start finish
  IO.print outcome.output
  for complaint in outcome.complaints do IO.eprintln complaint
  return outcome.exitCode
