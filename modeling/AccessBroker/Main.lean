import AccessBroker.Deployment.Maintenance

/-! # The command line of the maintenance worker

Checks the variables of the environment and says on the standard error stream
why the worker ends.
-/

namespace AccessBroker

def readVariable (name : String) : IO (Option (String × String)) := do
  return (← IO.getEnv name).map fun value => (name, value)

end AccessBroker

open AccessBroker in
def main : IO UInt32 := do
  let found ← Maintenance.variableNames.filterMapM readVariable
  IO.eprintln (Maintenance.start (.ofList found))
  return 1
