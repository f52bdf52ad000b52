import MessageBus.Report.Call
import MessageBus.Report.Config
import MessageBus.Report.Error
import MessageBus.Report.Named

/-! Everything that is reported as data: failures, outcomes, the answers of a store and
configurations. -/
