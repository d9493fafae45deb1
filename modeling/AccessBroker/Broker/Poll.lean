import AccessBroker.Broker.Configuration
import AccessBroker.Schedule.Periodic

/-! # Polling for a new configuration

A poller refreshes the configuration at every tick.  A poll that is still
waiting when the program stops leaves what it did until then.
-/

namespace AccessBroker.Service

/-- What remains of a service that is stopped while it waits: the calls that it made, not their
effects. -/
def interrupted (before after : World) : World :=
  { before with journal := after.journal, plan := after.plan }

/-- One poll with `budget` milliseconds left, and the world it leaves. -/
def pollConfig (setup : Setup) (budget : Nat) (w : World) : Periodic.Run × World :=
  let (master, found) := (findConfig? masterId).perform setup w
  let spent := found.waited - w.waited
  match master with
  | .error e => (⟨spent, .error e⟩, found)
  | .ok master =>
    if budget < spent then (⟨spent, .ok ()⟩, found)
    else
      let (changed, after) := (refreshFrom master).perform setup found
      let run : Periodic.Run := ⟨after.waited - w.waited, changed.map fun _ => ()⟩
      if budget < run.duration then (run, interrupted found after) else (run, after)

end AccessBroker.Service
