import MessageBus.Config
import MessageBus.Database.Delivery
import MessageBus.Database.Record
import MessageBus.Schema
import MessageBus.Store.Call

/-! A database as a store: the session that answers each call. -/
namespace MessageBus.Database

/-- A session on a connection that is taken first. -/
def connected {α : Type} (work : Session α) : Session α := do
  Session.acquire
  work

def perform (fresh : Store.Fresh) : (call : Store.Call) → Session call.Answer
  | .startUp plan now => startUp plan now
  | .registerHost host => connected (upsertHost host)
  | .startHostRuntime runtime => connected (insertHostRuntime runtime)
  | .endHostRuntime runtime now => endHostRuntime runtime now
  | .registerScenario scenario => connected (upsertScenario scenario)
  | .registerMessageType spec => connected (upsertMessageType spec)
  | .registerPublisher scenario spec => connected (registerPublisher scenario spec)
  | .registerSubscriber scenario spec => connected (registerSubscriber scenario spec)
  | .registerJob scenario spec => connected (registerJob scenario spec)
  | .startInstance record => connected (insertInstance record)
  | .touchInstance ref now => touchInstance ref now
  | .messageTypeByName name => connected (findMessageType name)
  | .messageTypeById id => messageTypeById id
  | .loadSubscriber id => connected (findSubscriber id)
  | .loadJob id => loadJob id
  | .resolveTargets scenario messageType => resolveTargets scenario messageType
  | .publish message targets => publish fresh message targets
  | .findNextFifo queue eligible timeout now => findNextFifo queue eligible timeout now
  | .findNextNonFifo queue eligible timeout now => findNextNonFifo queue eligible timeout now
  | .tryClaim candidate consumer timeout now => tryClaim fresh candidate consumer timeout now
  | .commit consumer ticket token update now => commit fresh consumer ticket token update now
  | .heartbeat consumer ticket token now => heartbeat consumer ticket token now
  | .loadTicket kind ticket => loadTicket kind ticket
  | .loadMessage message => loadMessage message
  | .ticketsForMessage message => ticketsForMessage message
  | .countByState queue => countByState queue
  | .saveSnapshot owner identifier data now => saveSnapshot owner identifier data now
  | .transferSnapshot owner identifier now => transferSnapshot owner identifier now
  | .loadSnapshot identifier => loadSnapshot identifier
  | .deleteSnapshot identifier => deleteSnapshot identifier
  | .appendLog record => appendLog record
  | .listLogs subject => listLogs subject
  | .currentState subject => currentState subject

/-- How connections are shared in a process. -/
structure PoolOptions where
  maxConnections : UInt32
  /-- The longest wait for a connection. -/
  acquireTimeout : Duration
  deriving DecidableEq

/-- Opens a pool for a configuration, and makes the tables where that is asked for. -/
def connect (config : BusConfig) : Dialogue (Except ConfigError PoolOptions) := do
  if config.databaseUrl.isNone then return .error (.missing Setting.databaseUrl)
  match ← (Program.request SqlRequest.acquire : Dialogue (Except SqlError Unit)) with
  | .error e => return .error (.connect e.message)
  | .ok () =>
    if config.applySchema then
      if let .error e ← (Session.execute "apply_schema" Schema.script []).run then
        return .error (.connect e.message)
    return .ok ⟨config.maxConnections, .ofSecs 10⟩

end MessageBus.Database
