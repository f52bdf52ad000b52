import MessageBus.Json.Form
import MessageBus.Worker.Config

/-! Configurations as data. -/
namespace MessageBus

def BusConfig.report (c : BusConfig) : Json :=
  .ofMembers
    [("database_url", toJson c.databaseUrl), ("max_connections", toJson c.maxConnections),
      ("poll_interval", toJson c.pollInterval),
      ("heartbeat_interval", toJson c.heartbeatInterval), ("cache_ttl", toJson c.cache.ttl),
      ("cache_capacity", .nat c.cache.capacity), ("apply_schema", .bool c.applySchema),
      ("is_default", .bool (c == .default))]

def WorkerConfig.report (c : WorkerConfig) : Json :=
  .ofMembers
    [("name", .string c.name), ("poll_interval", toJson c.pollInterval),
      ("heartbeat_interval", toJson c.heartbeatInterval),
      ("error_backoff", toJson c.errorBackoff), ("eligible", toJson c.eligible),
      ("backoff", toJson c.backoff)]

end MessageBus
