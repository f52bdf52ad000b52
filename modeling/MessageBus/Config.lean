import MessageBus.Cache
import MessageBus.Text.Blank
import MessageBus.Text.Numeral

/-! The configuration of a process, read from named settings. A setting that is missing or blank
takes its default. -/
namespace MessageBus

namespace Setting

def databaseUrl : String := "DATABASE_URL"
def maxConnections : String := "BUSLINE_MAX_CONNECTIONS"
def pollInterval : String := "BUSLINE_POLL_INTERVAL_MS"
def heartbeatInterval : String := "BUSLINE_HEARTBEAT_INTERVAL_MS"
def cacheTtl : String := "BUSLINE_CATALOG_CACHE_TTL_SECS"
def cacheCapacity : String := "BUSLINE_CATALOG_CACHE_CAPACITY"
def applySchema : String := "BUSLINE_APPLY_SCHEMA"

/-- The settings that a configuration is read from. -/
def all : List String :=
  [databaseUrl, maxConnections, pollInterval, heartbeatInterval, cacheTtl, cacheCapacity,
    applySchema]

end Setting

inductive ConfigError where
  | missing (key : String)
  | invalid (key value reason : String)
  | connect (reason : String)
  deriving DecidableEq, Repr

def ConfigError.message : ConfigError → String
  | missing key => s!"{key} must be set"
  | invalid key value reason => s!"invalid value '{value}' for {key}: {reason}"
  | connect reason => s!"failed to connect to Postgres: {reason}"

structure BusConfig where
  /-- Not set in a process that needs no database. -/
  databaseUrl : Option String
  maxConnections : UInt32
  /-- The sleep of a consumer after a poll that found nothing. -/
  pollInterval : Duration
  /-- The time between two signs of life of a running handler. -/
  heartbeatInterval : Duration
  cache : CacheSettings
  /-- Create the tables on connecting. -/
  applySchema : Bool
  deriving DecidableEq

namespace BusConfig

def default : BusConfig where
  databaseUrl := none
  maxConnections := 10
  pollInterval := .ofMillis 500
  heartbeatInterval := .ofMillis 5000
  cache := .default
  applySchema := false

/-- The text of a setting that is not blank. -/
def present (lookup : String → Option String) (key : String) : Option String :=
  (lookup key).filter fun value => !Text.isAllBlank value

/-- A whole number below `bound`. -/
def readNat (lookup : String → Option String) (key : String) (bound byDefault : Nat) :
    Except ConfigError Nat :=
  match present lookup key with
  | none => .ok byDefault
  | some value =>
    (Text.readNatBelow bound (Text.trimmed value.toList)).mapError fun e =>
      .invalid key value e.message

def readFlag (lookup : String → Option String) (key : String) (byDefault : Bool) :
    Except ConfigError Bool :=
  match present lookup key with
  | none => .ok byDefault
  | some value =>
    let word := String.ofList ((Text.trimmed value.toList).map Char.toLower)
    if ["1", "true", "yes", "on"].contains word then .ok true
    else if ["0", "false", "no", "off"].contains word then .ok false
    else .error (.invalid key value "expected a boolean")

/-- The first setting that cannot be read is reported. -/
def ofLookup (lookup : String → Option String) : Except ConfigError BusConfig := do
  let maxConnections ← readNat lookup Setting.maxConnections UInt32.size default.maxConnections.toNat
  if maxConnections = 0 then
    throw (.invalid Setting.maxConnections "0" "pool needs at least one connection")
  let ttl ← readNat lookup Setting.cacheTtl UInt64.size default.cache.ttl.secs
  let capacity ← readNat lookup Setting.cacheCapacity UInt64.size default.cache.capacity
  let poll ← readNat lookup Setting.pollInterval UInt64.size default.pollInterval.millis
  let heartbeat ←
    readNat lookup Setting.heartbeatInterval UInt64.size default.heartbeatInterval.millis
  let applySchema ← readFlag lookup Setting.applySchema default.applySchema
  return {
    databaseUrl := present lookup Setting.databaseUrl
    maxConnections := maxConnections.toUInt32
    pollInterval := .ofMillis poll.toUInt64
    heartbeatInterval := .ofMillis heartbeat.toUInt64
    cache := ⟨.ofSecs ttl.toUInt64, capacity⟩
    applySchema }

end BusConfig
end MessageBus
