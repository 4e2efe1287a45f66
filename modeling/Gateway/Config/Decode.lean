import Gateway.Config.Basic
import Gateway.Settings.Basic

/-!
# Configurations from settings

The names, types and defaults of all settings. What is of another type, out of range,
missing or given twice makes the whole structure unreadable.
-/

namespace Gateway

open Settings

variable {σ : Type} [Settings σ]

def SocketAddress.ofSettings? (s : σ) : Option SocketAddress :=
  (text? s).bind SocketAddress.parse?

def Algorithm.ofSettings? (s : σ) : Option Algorithm :=
  (word? s).bind Algorithm.ofWord?

def FailoverPolicy.ofSettings? (s : σ) : Option FailoverPolicy := do
  let m ← members? ["max_attempts", "retryable_statuses", "backoff_base_ms", "backoff_max_ms"] s
  let d : FailoverPolicy := {}
  some {
    maxAttempts := ← m.withDefault "max_attempts" d.maxAttempts (orNull? (natOfBits? 32))
    retryableStatuses :=
      ← m.withDefault "retryable_statuses" d.retryableStatuses (list? (natOfBits? 16))
    backoffBase := ← m.withDefault "backoff_base_ms" d.backoffBase (natOfBits? 64)
    backoffMax := ← m.withDefault "backoff_max_ms" d.backoffMax (natOfBits? 64) }

def LimitSettings.ofSettings? (s : σ) : Option LimitSettings := do
  let m ← members? ["requests_per_second", "burst"] s
  some {
    rate := ← m.required "requests_per_second" real?
    burst := ← m.required "burst" (natOfBits? 32) }

def BreakerSettings.ofSettings? (s : σ) : Option BreakerSettings := do
  let m ← members? ["failure_threshold", "success_threshold", "timeout_ms"] s
  let d : BreakerSettings := {}
  some {
    failureThreshold := ← m.withDefault "failure_threshold" d.failureThreshold (natOfBits? 32)
    successThreshold := ← m.withDefault "success_threshold" d.successThreshold (natOfBits? 32)
    timeout := ← m.withDefault "timeout_ms" d.timeout (natOfBits? 64) }

def MetricsSettings.ofSettings? (s : σ) : Option MetricsSettings := do
  let m ← members? ["enabled", "port", "path"] s
  let d : MetricsSettings := {}
  some {
    enabled := ← m.withDefault "enabled" d.enabled bool?
    port := ← m.withDefault "port" d.port (natOfBits? 16)
    path := ← m.withDefault "path" d.path text? }

/-- The level of the log. -/
def logLevel? (s : σ) : Option String := do
  (← members? ["level"] s).withDefault "level" "info" text?

def LocationSettings.names : List String :=
  ["name", "host", "path_prefix", "endpoints", "algorithm", "trust_forward_header",
    "max_body_bytes", "body_read_timeout_ms", "backend_timeout_ms", "connect_timeout_ms",
    "failover", "rate_limit", "circuit_breaker"]

def LocationSettings.ofSettings? (s : σ) : Option LocationSettings := do
  let m ← members? LocationSettings.names s
  let d : LocationSettings := { name := "", endpoints := [] }
  some {
    name := ← m.required "name" text?
    host := ← m.optional "host" text?
    pathStart := ← m.withDefault "path_prefix" d.pathStart text?
    endpoints := ← m.required "endpoints" (list? text?)
    algorithm := ← m.withDefault "algorithm" d.algorithm Algorithm.ofSettings?
    trustForwarded := ← m.withDefault "trust_forward_header" d.trustForwarded bool?
    maxBodyBytes := ← m.optional "max_body_bytes" (natOfBits? 64)
    bodyReadTimeout := ← m.optional "body_read_timeout_ms" (natOfBits? 64)
    backendTimeout := ← m.withDefault "backend_timeout_ms" d.backendTimeout (natOfBits? 64)
    connectTimeout := ← m.withDefault "connect_timeout_ms" d.connectTimeout (natOfBits? 64)
    failover := ← m.withDefault "failover" d.failover FailoverPolicy.ofSettings?
    limit := ← m.optional "rate_limit" LimitSettings.ofSettings?
    breaker := ← m.optional "circuit_breaker" BreakerSettings.ofSettings? }

def Configuration.ofSettings? (s : σ) : Option Configuration := do
  let m ← members? ["listen", "logging", "metrics", "locations"] s
  let d : Configuration := { locations := [] }
  some {
    listen := ← m.withDefault "listen" d.listen SocketAddress.ofSettings?
    logLevel := ← m.withDefault "logging" d.logLevel logLevel?
    metrics := ← m.withDefault "metrics" d.metrics MetricsSettings.ofSettings?
    locations := ← m.required "locations" (list? LocationSettings.ofSettings?) }

end Gateway
