import MessageBus.Catalog

/-! Records of the lifecycle log. A record with a status also moves its subject to that status. -/
namespace MessageBus

/-- What a log record is about. -/
inductive LogSubject where
  | hostRuntime (id : HostRuntimeId)
  | component (ref : InstanceRef)
  deriving DecidableEq

instance : ToString LogSubject where
  toString
    | .hostRuntime id => s!"host-runtime:{id}"
    | .component ref => toString ref

instance : Shown LogSubject where
  shown
    | .hostRuntime id => s!"HostRuntime({shown id})"
    | .component ref => s!"Instance({shown ref})"

structure LogRecord where
  id : LogId
  subject : LogSubject
  level : LogLevel
  text : String
  message : Option MessageId
  status : Option ComponentState
  correlationId : Option String
  created : Instant
  deriving DecidableEq

end MessageBus
