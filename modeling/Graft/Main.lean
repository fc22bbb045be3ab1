/-
# Graft.Main -- what a server is started with

Reads the environment and prints the options that a server is started with, or says why there are none.
-/
import Graft.Settings

namespace Graft

set_option autoImplicit false

/-- The variables of the environment that are set. -/
def currentEnvironment : IO Environment :=
  Settings.variableNames.filterMapM fun name => do
    return (← IO.getEnv name).map fun value => (name.toList, value.toList)

end Graft

def main : IO UInt32 := do
  let cwd ← IO.currentDir
  let home ← IO.appDir
  let overlay := (home / "virtual").toString
  match Graft.Settings.ofEnvironment (← Graft.currentEnvironment) cwd.toString.toList overlay.toList with
  | .ok settings =>
    IO.println settings.launchOptions.line
    return 0
  | .error fault =>
    IO.eprintln fault.message
    return 1
