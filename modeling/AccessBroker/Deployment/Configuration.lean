import AccessBroker.Authorization.Lists
import AccessBroker.Deployment.Environment
import AccessBroker.Settings
import AccessBroker.Text.Lowercase

/-! # The configuration of a deployment

What both programs, the interface and the maintenance worker, read from the
environment when they start.  The first fault in the order of reading counts.
-/

namespace AccessBroker

/-- Where roles are read from and policies are written to. -/
inductive RoleSource where
  | aws
  | memory
deriving DecidableEq, Repr

namespace RoleSource

def name : RoleSource → String
  | aws => "aws"
  | memory => "memory"

/-- The source that a text names, whatever its case and the blanks around it. -/
def parse (s : String) : Except Error RoleSource :=
  match Text.lower (Text.trim s) with
  | "aws" => .ok aws
  | "memory" => .ok memory
  | other =>
    .error (.validation s!"ROLEGATE_ROLE_SOURCE must be either 'aws' or 'memory', got '{other}'")

end RoleSource

structure Deployment where
  databaseUrl : String
  /-- Without one, the fast tiers are kept in memory. -/
  redisUrl : Option String
  /-- The first part of every key in Redis. -/
  keySpace : String
  roleSource : RoleSource
  /-- The accounts that the worker keeps fresh. -/
  accounts : List String
  /-- The role assumed in each account; without one, the program's own credentials are used. -/
  assumedRole : Option String
  /-- Who is told of events. -/
  webhookUrl : Option String
  /-- How often an event is sent at most. -/
  notifyAttempts : Nat
  /-- The pause after the first attempt to send an event, in milliseconds. -/
  notifyBackoff : Nat
  settings : Settings
  lists : FixedLists

namespace Deployment

def capabilityVariable (c : Capability) : String :=
  "ROLEGATE_CAPABILITY_" ++ c.name.toUpper

def variableNames : List String := [
  "DATABASE_URL", "REDIS_URL", "ROLEGATE_REDIS_KEY_PREFIX", "ROLEGATE_ROLE_SOURCE",
  "ROLEGATE_ACCOUNT_IDS", "ROLEGATE_ASSUME_ROLE_NAME", "ROLEGATE_NOTIFY_WEBHOOK_URL",
  "ROLEGATE_NOTIFY_MAX_ATTEMPTS", "ROLEGATE_NOTIFY_RETRY_BACKOFF_MS",
  "ROLEGATE_FAST_TIER_FRESHNESS_SECONDS", "ROLEGATE_DURABLE_TIER_TTL_SECONDS",
  "ROLEGATE_AUTHORIZATION_CACHE_TTL_SECONDS", "ROLEGATE_CONFIG_POLL_INTERVAL_SECONDS",
  "ROLEGATE_REOPEN_WINDOW_SECONDS", "ROLEGATE_RETRY_MAX_ATTEMPTS", "ROLEGATE_CALL_TIMEOUT_MS",
  "ROLEGATE_TEMPLATE_TAG_KEY", "ROLEGATE_ADMINS", "ROLEGATE_SELF_APPROVAL_GROUPS"]
  ++ Capability.all.map capabilityVariable

def readSettings (env : Environment) : Except Error Settings := do
  let d := Settings.standard
  let fast ← env.naturalOr 32 "ROLEGATE_FAST_TIER_FRESHNESS_SECONDS" d.fastFreshness
  let durable ← env.naturalOr 32 "ROLEGATE_DURABLE_TIER_TTL_SECONDS" d.durableLifetime
  let eligible ← env.naturalOr 32 "ROLEGATE_AUTHORIZATION_CACHE_TTL_SECONDS" d.eligibleLifetime
  let poll ← env.naturalOr 64 "ROLEGATE_CONFIG_POLL_INTERVAL_SECONDS" d.configPollInterval
  let reopen ← env.integerOr (.signed 64) "ROLEGATE_REOPEN_WINDOW_SECONDS" d.reopenWindow
  let attempts ← env.naturalOr 32 "ROLEGATE_RETRY_MAX_ATTEMPTS" d.retry.maxAttempts
  let timeout ← env.naturalOr 64 "ROLEGATE_CALL_TIMEOUT_MS" d.retry.callTimeout
  if poll = 0 then
    throw (.validation "ROLEGATE_CONFIG_POLL_INTERVAL_SECONDS must be positive")
  return {
    fastFreshness := fast
    durableLifetime := durable
    eligibleLifetime := eligible
    configPollInterval := poll
    reopenWindow := reopen
    templateTag := (env.text? "ROLEGATE_TEMPLATE_TAG_KEY").getD d.templateTag
    retry := { d.retry with maxAttempts := max attempts 1, callTimeout := timeout } }

/-- The allow-lists fixed for the deployment. -/
def readLists (env : Environment) : FixedLists where
  admins := env.list "ROLEGATE_ADMINS"
  holders c := env.list (capabilityVariable c)
  selfApprovalGroups := env.list "ROLEGATE_SELF_APPROVAL_GROUPS"

/-- The deployment that an environment describes. -/
def ofEnvironment (env : Environment) : Except Error Deployment := do
  let some databaseUrl := env.text? "DATABASE_URL"
    | throw (.validation "DATABASE_URL is required")
  let roleSource ← RoleSource.parse ((env "ROLEGATE_ROLE_SOURCE").getD RoleSource.aws.name)
  let settings ← readSettings env
  let notifyAttempts ← env.naturalOr 8 "ROLEGATE_NOTIFY_MAX_ATTEMPTS" 3
  let notifyBackoff ← env.naturalOr 64 "ROLEGATE_NOTIFY_RETRY_BACKOFF_MS" 250
  return {
    databaseUrl := databaseUrl
    redisUrl := env.text? "REDIS_URL"
    keySpace := (env.text? "ROLEGATE_REDIS_KEY_PREFIX").getD "rolegate"
    roleSource := roleSource
    accounts := env.list "ROLEGATE_ACCOUNT_IDS"
    assumedRole := (env.text? "ROLEGATE_ASSUME_ROLE_NAME").map Text.trim
    webhookUrl := env.text? "ROLEGATE_NOTIFY_WEBHOOK_URL"
    notifyAttempts := notifyAttempts
    notifyBackoff := notifyBackoff
    settings := settings
    lists := readLists env }

end Deployment

end AccessBroker
