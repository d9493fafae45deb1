import AccessBroker.Deployment.Configuration
import AccessBroker.Net.Address

/-! # The configuration of the interface

The interface listens at a host and a port besides sharing the configuration of
the deployment.
-/

namespace AccessBroker

structure InterfaceConfiguration where
  host : String
  port : Nat
  deployment : Deployment

namespace InterfaceConfiguration

/-- The port of an environment that gives none. -/
def standardPort : Nat := 3001

/-- The configuration that an environment describes.  A port that is no number is as good as
none. -/
def ofEnvironment (env : Environment) : Except Error InterfaceConfiguration := do
  let port := (env "API_PORT").bind fun s => (Text.natural 16 s).toOption
  return {
    host := (env "API_HOST").getD "127.0.0.1"
    port := port.getD standardPort
    deployment := ← Deployment.ofEnvironment env }

/-- Where the interface listens. -/
def socket (c : InterfaceConfiguration) : Except Error String :=
  match Address.parse? c.host with
  | some a => .ok (a.socketText c.port)
  | none => .error (.internal "invalid API_HOST '")

end InterfaceConfiguration

end AccessBroker
