import Schemata.Command.Run

/-!
# The program

The command line on real files and the real environment.
-/

namespace Schemata

open Command Files

/-- Whether an action succeeds. -/
def succeeds (action : IO Unit) : IO Bool := do
  try
    action
    return true
  catch _ => return false

/-- The machine that the program runs on. -/
def systemHost : Host IO where
  getVariable name := IO.getEnv name
  pathExists path := succeeds (discard (IO.FS.realPath path))
  read path := do
    try
      return some (← IO.FS.readBinFile path)
    catch _ => return none
  makeDirectory path := if path.isEmpty then return true else succeeds (IO.FS.createDirAll path)
  write path bytes := succeeds (IO.FS.writeBinFile path bytes)

end Schemata

/-- Do what the arguments ask for. -/
def main (arguments : List String) : IO UInt32 := do
  let outcome ← Schemata.Command.run Schemata.systemHost arguments
  IO.print outcome.out
  IO.eprint outcome.err
  return outcome.exit
