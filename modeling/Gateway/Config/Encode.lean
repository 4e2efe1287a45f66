import Gateway.Config.Basic
import Gateway.Json.Basic

/-!
# Configurations as JSON

Every setting with the value that it has, defaults included.
-/

namespace Gateway

def FailoverPolicy.toJson (p : FailoverPolicy) : Json :=
  .ofFields [
    ("max_attempts", .ofOption .ofNat p.maxAttempts),
    ("retryable_statuses", .arr (p.retryableStatuses.map .ofNat)),
    ("backoff_base_ms", .ofNat p.backoffBase),
    ("backoff_max_ms", .ofNat p.backoffMax)]

def LimitSettings.toJson (s : LimitSettings) : Json :=
  .ofFields [("requests_per_second", .real s.rate), ("burst", .ofNat s.burst)]

def BreakerSettings.toJson (s : BreakerSettings) : Json :=
  .ofFields [
    ("failure_threshold", .ofNat s.failureThreshold),
    ("success_threshold", .ofNat s.successThreshold),
    ("timeout_ms", .ofNat s.timeout)]

def MetricsSettings.toJson (s : MetricsSettings) : Json :=
  .ofFields [("enabled", .bool s.enabled), ("port", .ofNat s.port), ("path", .str s.path)]

def LocationSettings.toJson (s : LocationSettings) : Json :=
  .ofFields [
    ("name", .str s.name),
    ("host", .ofOption .str s.host),
    ("path_prefix", .str s.pathStart),
    ("endpoints", .arr (s.endpoints.map .str)),
    ("algorithm", .str s.algorithm.word),
    ("trust_forward_header", .bool s.trustForwarded),
    ("max_body_bytes", .ofOption .ofNat s.maxBodyBytes),
    ("body_read_timeout_ms", .ofOption .ofNat s.bodyReadTimeout),
    ("backend_timeout_ms", .ofNat s.backendTimeout),
    ("connect_timeout_ms", .ofNat s.connectTimeout),
    ("failover", s.failover.toJson),
    ("rate_limit", .ofOption LimitSettings.toJson s.limit),
    ("circuit_breaker", .ofOption BreakerSettings.toJson s.breaker)]

def Configuration.toJson (c : Configuration) : Json :=
  .ofFields [
    ("listen", .str c.listen.text),
    ("logging", .ofFields [("level", .str c.logLevel)]),
    ("metrics", c.metrics.toJson),
    ("locations", .arr (c.locations.map LocationSettings.toJson))]

def LocationOptions.toJson (o : LocationOptions) : Json :=
  .ofFields [
    ("trust_forward_header", .bool o.trustForwarded),
    ("max_body_bytes", .ofOption .ofNat o.maxBodyBytes),
    ("body_read_timeout_ms", .ofOption .ofNat o.bodyReadTimeout),
    ("backend_timeout_ms", .ofOption .ofNat o.backendTimeout),
    ("connect_timeout_ms", .ofOption .ofNat o.connectTimeout),
    ("failover", o.failover.toJson)]

end Gateway
