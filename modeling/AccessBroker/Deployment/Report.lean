import AccessBroker.Deployment.Interface
import AccessBroker.Json.Tree

/-! # The configuration of a deployment as JSON -/

namespace AccessBroker

open Json (Tree)

namespace RetryPolicy

def toTree (p : RetryPolicy) : Tree :=
  .object [
    ("max_attempts", .ofNat p.maxAttempts),
    ("initial_backoff_ms", .ofNat p.initialBackoff),
    ("max_backoff_ms", .ofNat p.maxBackoff),
    ("call_timeout_ms", .ofNat p.callTimeout)]

end RetryPolicy

namespace FixedLists

/-- The capabilities that someone holds. -/
def heldTree (lists : FixedLists) : Tree :=
  .object ((Capability.all.filter fun c => !(lists.holders c).isEmpty).map fun c =>
    (c.name, .texts (lists.holders c)))

end FixedLists

namespace Deployment

def toTree (d : Deployment) : Tree :=
  .object [
    ("database_url", .string d.databaseUrl),
    ("redis_url", .ofText? d.redisUrl),
    ("redis_key_prefix", .string d.keySpace),
    ("role_source", .string d.roleSource.name),
    ("account_ids", .texts d.accounts),
    ("assume_role_name", .ofText? d.assumedRole),
    ("notify_webhook_url", .ofText? d.webhookUrl),
    ("notify_max_attempts", .ofNat d.notifyAttempts),
    ("notify_retry_backoff_ms", .ofNat d.notifyBackoff),
    ("fast_tier_freshness_seconds", .ofNat d.settings.fastFreshness),
    ("durable_tier_ttl_seconds", .ofNat d.settings.durableLifetime),
    ("authorization_cache_ttl_seconds", .ofNat d.settings.eligibleLifetime),
    ("config_poll_interval_seconds", .ofNat d.settings.configPollInterval),
    ("reopen_window_seconds", .ofInt d.settings.reopenWindow),
    ("template_tag_key", .string d.settings.templateTag),
    ("retry", d.settings.retry.toTree),
    ("admins", .texts d.lists.admins),
    ("capabilities", d.lists.heldTree),
    ("self_approval_groups", .texts d.lists.selfApprovalGroups)]

end Deployment

end AccessBroker
