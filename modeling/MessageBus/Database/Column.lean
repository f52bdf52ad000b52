import MessageBus.Database.Session
import MessageBus.Queue

/-! How values of the bus stand in columns, and how they come out of rows. Durations are kept in
whole milliseconds and counts in signed integers, so that large ones are cut to what fits. -/
namespace MessageBus.Database

def SqlParam.uuid (u : Uuid) : SqlParam := .value (.uuid u)
def SqlParam.text (s : String) : SqlParam := .value (.text s)
def SqlParam.int4 (n : Int32) : SqlParam := .value (.int4 n)
def SqlParam.time (t : Instant) : SqlParam := .value (.ofInstant t)
def SqlParam.bytes (b : Bytes) : SqlParam := .value (.bytes b)
def SqlParam.bool (b : Bool) : SqlParam := .value (.bool b)

/-- A state or level, by its code. -/
def SqlParam.code (n : Int) : SqlParam := .value (.int2 (.ofInt n))

/-- A parameter that may be absent. -/
def SqlParam.optional {α : Type} (param : α → SqlParam) : Option α → SqlParam
  | some a => param a
  | none => .null

/-- The largest number of a column of four octets. -/
def maxInt4 : Nat := 2_147_483_647

/-- The largest number of a column of eight octets. -/
def maxInt8 : Nat := 9_223_372_036_854_775_807

/-- A count, cut to the largest number of its column. -/
def countColumn (n : UInt32) : Int32 := .ofNat (min n.toNat maxInt4)

def countOfColumn (n : Int32) : UInt32 := n.toInt.toNat.toUInt32

def millisColumn (d : Duration) : Int64 := .ofNat (min d.millis maxInt8)

def millisOfColumn (ms : Int64) : Duration := .ofMillis ms.toInt.toNat.toUInt64

/-- The columns of a delivery policy: its order, its timeout and its limit of retries. -/
def policyParams (p : DeliveryPolicy) : List SqlParam :=
  [.bool p.fifo, .value (.int8 (millisColumn p.processingTimeout)),
    .optional (fun n => .int4 (countColumn n)) p.maxRetry]

def policyOfColumns (fifo : Bool) (timeout : Int64) (maxRetry : Option Int32) : DeliveryPolicy where
  fifo := fifo
  processingTimeout := millisOfColumn timeout
  maxRetry := maxRetry.map countOfColumn

/-- The key of a queue: an identifier for a subscriber and a number for a job. -/
def queueParam : QueueRef → SqlParam
  | .subscriber id => .uuid id.uuid
  | .job id => .int4 id.value

/-- A column of a row that was asked for by name; `wrap` puts the failure into words. -/
def cell (row : SqlRow) (wrap : String → String) (α : Type) [Column α] (name : String) :
    Except StoreError α :=
  (row.get α name).mapError fun e => .serialization (wrap e.message)

/-- The table of an instance, the column of its identifier, and the identifier. -/
def instanceTable : InstanceRef → String × String × Uuid
  | .publisher id => ("bus.publisher_instance", "id_publisher_instance", id.uuid)
  | .subscriber id => ("bus.subscriber_instance", "id_subscriber_instance", id.uuid)
  | .job id => ("bus.job_instance", "id_job_instance", id.uuid)

end MessageBus.Database
