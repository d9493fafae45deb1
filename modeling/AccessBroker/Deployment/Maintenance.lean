import AccessBroker.Deployment.Configuration
import AccessBroker.Text.Quoted

/-! # The maintenance worker

The worker purges expired roles, ends expired requests and refreshes the roles
of its accounts, each at an interval of its own in seconds.  It does not start
with an interval of zero.
-/

namespace AccessBroker

structure Maintenance where
  purgeInterval : Nat
  expiryInterval : Nat
  /-- How many requests one sweep may end. -/
  expiryBatch : Nat
  refreshInterval : Nat
  deployment : Deployment
  purge_pos : 0 < purgeInterval
  expiry_pos : 0 < expiryInterval
  batch_pos : 0 < expiryBatch
  refresh_pos : 0 < refreshInterval

namespace Maintenance

def variableNames : List String := [
  "WORKER_PURGE_INTERVAL_SECONDS", "WORKER_EXPIRY_INTERVAL_SECONDS", "WORKER_EXPIRY_BATCH_SIZE",
  "WORKER_REFRESH_INTERVAL_SECONDS"] ++ Deployment.variableNames

/-- A number that must not be zero. -/
def positive (name : String) (n : Nat) : Except Error { n : Nat // 0 < n } :=
  if h : 0 < n then .ok ⟨n, h⟩
  else .error (.validation s!"{name} must be greater than zero")

/-- The worker that an environment describes.  Its own variables are read before those of the
deployment. -/
def ofEnvironment (env : Environment) : Except Error Maintenance := do
  let purge ← env.naturalOr 64 "WORKER_PURGE_INTERVAL_SECONDS" 3600
  let expiry ← env.naturalOr 64 "WORKER_EXPIRY_INTERVAL_SECONDS" 60
  let batch ← env.naturalOr 64 "WORKER_EXPIRY_BATCH_SIZE" 100
  let refresh ← env.naturalOr 64 "WORKER_REFRESH_INTERVAL_SECONDS" (6 * 3600)
  let purge ← positive "WORKER_PURGE_INTERVAL_SECONDS" purge
  let expiry ← positive "WORKER_EXPIRY_INTERVAL_SECONDS" expiry
  let refresh ← positive "WORKER_REFRESH_INTERVAL_SECONDS" refresh
  let batch ← positive "WORKER_EXPIRY_BATCH_SIZE" batch
  let deployment ← Deployment.ofEnvironment env
  return {
    purgeInterval := purge.val
    expiryInterval := expiry.val
    expiryBatch := batch.val
    refreshInterval := refresh.val
    deployment := deployment
    purge_pos := purge.property
    expiry_pos := expiry.property
    batch_pos := batch.property
    refresh_pos := refresh.property }

/-- What the program writes when it ends with an error. -/
def report (e : Error) : String :=
  "Error: " ++ e.kind.name ++ "(" ++ Text.quoted e.message ++ ")"

/-- The beginning of what the program writes when it cannot reach its database; the reason
follows. -/
def unreachableReport : String :=
  "Error: Internal(\"failed to connect to database: "

/-- What the program writes before it ends when there is no database to connect to. -/
def start (env : Environment) : String :=
  match ofEnvironment env with
  | .error e => report e
  | .ok _ => unreachableReport

end Maintenance

end AccessBroker
