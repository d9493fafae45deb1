/-! # Settings -/

namespace AccessBroker

/-- How calls to other systems are repeated; times in milliseconds. -/
structure RetryPolicy where
  /-- Attempts in all. -/
  maxAttempts : Nat
  /-- The pause after the first attempt; each further pause is twice as long. -/
  initialBackoff : Nat
  /-- The longest pause. -/
  maxBackoff : Nat
  /-- How long one attempt may take. -/
  callTimeout : Nat
deriving DecidableEq, Repr

namespace RetryPolicy

def standard : RetryPolicy := ⟨3, 200, 2000, 10000⟩

instance : Inhabited RetryPolicy := ⟨standard⟩

end RetryPolicy

/-- What can be tuned in the services; times in seconds. -/
structure Settings where
  /-- How long a role stays fresh in the fast tier after it was put there. -/
  fastFreshness : Nat
  /-- How long a role lives in the durable tier after it was read from the cloud. -/
  durableLifetime : Nat
  /-- How long a user's eligible roles stay in the cache. -/
  eligibleLifetime : Nat
  configPollInterval : Nat
  /-- How long a closed request can be opened again. -/
  reopenWindow : Int
  /-- The tag that names a role's template. -/
  templateTag : String
  retry : RetryPolicy
deriving DecidableEq, Repr

namespace Settings

def standard : Settings where
  fastFreshness := 60 * 60
  durableLifetime := 36 * 60 * 60
  eligibleLifetime := 5 * 60
  configPollInterval := 60
  reopenWindow := 24 * 60 * 60
  templateTag := "rolegate:template"
  retry := .standard

instance : Inhabited Settings := ⟨standard⟩

end Settings

end AccessBroker
