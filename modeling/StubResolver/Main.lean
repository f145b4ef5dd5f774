import StubResolver.CommandLine.Program

/-!
# Entry point

Reads the arguments, the environment and the configuration file, and prints what comes of the call.
There is no network here: every exchange fails.
-/

namespace StubResolver.CommandLine

/-- A link on which every exchange fails. -/
def unconnected : Resolver.Link Unit where
  id := fun w => (0, w)
  now := fun w => (0, w)
  exchange := fun _ _ _ w => (.error (.network "no network"), w)

/-- The octets of a file, if it can be read. -/
def readFile? (path : String) : IO (Option Octets) := do
  try
    return some (← IO.FS.readBinFile path).toList
  catch _ => return none

/-- The files at those of some paths where there are any. -/
def readFiles (paths : List String) : IO (List (String × Octets)) := do
  let files ← paths.mapM fun path => do
    return (← readFile? path).map fun octets => (path, octets)
  return files.filterMap id

/-- Prints one piece. -/
def Printed.emit (p : Printed) : IO Unit := do
  IO.print p.outputText
  IO.eprint p.diagnosticText

end StubResolver.CommandLine

open StubResolver.CommandLine

def main (texts : List String) : IO UInt32 := do
  let config? ← IO.getEnv "FREY_CONFIG"
  let paths :=
    match Arguments.ofList config? texts with
    | .ok a => a.config?.toList ++ standardPaths
    | .error _ => []
  let directives := (← IO.getEnv "RUST_LOG").getD ""
  let report := call ⟨← readFiles paths, directives, unconnected, ()⟩ config? texts
  report.printed.forM Printed.emit
  return report.exitCode.toUInt32
