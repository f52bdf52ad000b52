import MessageBus.Report.Answer

/-! Calls to a store as data: the name of the call, and an object with its arguments. -/
namespace MessageBus.Store.Call

/-- An argument of a call; null where it is missing. -/
def argument {α : Type} [JsonForm α] (arguments : Json) (name : String) : Option α :=
  ofJson? ((arguments.get? name).getD .null)

/-- The states that a search for a ticket takes up. -/
def eligibleArgument (arguments : Json) : Option (List TicketState) := do
  let eligible : Option (List TicketState) ← argument arguments "eligible"
  return eligible.getD TicketState.defaultEligible

/-- The catalog call of a name. Times that a call needs are the given one. -/
def ofCatalogArguments? (name : String) (j : Json) (now : Instant) : Option Call := do
  match name with
  | "initialize" => return startUp (← argument j "plan") now
  | "register_host" => return registerHost (← argument j "host")
  | "start_host_runtime" => return startHostRuntime (← argument j "runtime")
  | "end_host_runtime" => return endHostRuntime (← argument j "runtime") now
  | "register_scenario" => return registerScenario (← argument j "scenario")
  | "register_message_type" => return registerMessageType (← ofJson? j)
  | "register_publisher" =>
    return registerPublisher (← argument j "scenario") (← argument j "spec")
  | "register_subscriber" =>
    return registerSubscriber (← argument j "scenario") (← argument j "spec")
  | "register_job" => return registerJob (← argument j "scenario") (← argument j "spec")
  | "start_instance" => return startInstance (← argument j "instance")
  | "touch_instance" => return touchInstance (← argument j "instance") now
  | "message_type_by_name" => return messageTypeByName (← argument j "name")
  | "message_type_by_id" => return messageTypeById (← argument j "id")
  | "load_subscriber" => return loadSubscriber (← argument j "id")
  | "load_job" => return loadJob (← argument j "id")
  | "resolve_targets" =>
    return resolveTargets (← argument j "scenario") (← argument j "message_type")
  | _ => none

/-- The call of a name about tickets, messages or logs. -/
def ofDeliveryArguments? (name : String) (j : Json) (now : Instant) : Option Call := do
  match name with
  | "find_next_fifo" =>
    return findNextFifo (← argument j "queue") (← eligibleArgument j) (← argument j "timeout") now
  | "find_next_non_fifo" =>
    return findNextNonFifo (← argument j "queue") (← eligibleArgument j) (← argument j "timeout")
      now
  | "try_claim" =>
    return tryClaim (← argument j "candidate") (← argument j "consumer") (← argument j "timeout")
      now
  | "commit" =>
    return commit (← argument j "consumer") (← argument j "ticket") (← argument j "token")
      (← argument j "update") now
  | "heartbeat" =>
    return heartbeat (← argument j "consumer") (← argument j "ticket") (← argument j "token") now
  | "load_ticket" => return loadTicket (← argument j "kind") (← argument j "ticket")
  | "load_message" => return loadMessage (← argument j "message")
  | "tickets_for_message" => return ticketsForMessage (← argument j "message")
  | "count_by_state" => return countByState (← argument j "queue")
  | "append_log" => return appendLog (← argument j "record")
  | "list_logs" => return listLogs (← argument j "subject")
  | "current_state" => return currentState (← argument j "subject")
  | _ => none

/-- The call of a name. Publications and snapshots are not read in this way. -/
def ofArguments? (name : String) (arguments : Json) (now : Instant) : Option Call :=
  (ofCatalogArguments? name arguments now).orElse fun _ =>
    ofDeliveryArguments? name arguments now

end MessageBus.Store.Call
