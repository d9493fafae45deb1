import AccessBroker.Broker.Configuration
import AccessBroker.Deployment.CacheServer
import AccessBroker.Deployment.Configuration

/-! # Starting the services

The services start with the configuration of the durable table.  The copy in
the fast tier only stands in for a table that cannot be read.
-/

namespace AccessBroker.Deployment

/-- What the services of a deployment are set up with. -/
def setup (d : Deployment) : Setup := ⟨d.lists, d.settings⟩

/-- Publishes the configuration that the services start with. -/
def publishInitial : Service Unit :=
  tryCatch (discard Service.readConfig) fun _ => discard Service.loadCopy

/-- The world after the start, where the table and the fast tier may hold a version already and
calls may be disturbed. -/
def start (d : Deployment) (stored copy : Option ConfigVersion)
    (plan : List Planned) : World :=
  let w := World.start ⟨.empty⟩ default
  let rows := stored.elim w.config.rows fun v => w.config.rows.insert v.id v
  (publishInitial.perform d.setup { w with config := ⟨rows⟩, configCopy := copy, plan }).2

/-- Whether the fast tiers of a deployment are kept in Redis. -/
def usesRedis (d : Deployment) : Except Error Bool :=
  match d.redisUrl with
  | none => .ok false
  | some url =>
    if (Url.parse? url).any CacheServer.isReached then .ok true
    else .error (.validation "invalid REDIS_URL: ")

end AccessBroker.Deployment
