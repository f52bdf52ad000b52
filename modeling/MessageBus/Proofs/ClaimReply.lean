import MessageBus.Database.Delivery
import MessageBus.Proofs.Transaction

/-! Claims in a database. A claim is one statement, which takes effect by itself, and a second one
that looks up the message. What goes wrong after the first one is reported as an error, although the
ticket is claimed by then. -/
namespace MessageBus.Database

/-- What came back for a statement holds this message. -/
def Carries (answer : Except SqlError SqlReply) (message : Message) : Prop :=
  ∃ reply row, answer = .ok reply ∧ reply.rows.head? = some row ∧ messageOfRow row = .ok message

theorem Carries.unique {answer : Except SqlError SqlReply} {message other : Message}
    (h : Carries answer message) (k : Carries answer other) : message = other := by
  obtain ⟨reply, row, rfl, first, read⟩ := h
  obtain ⟨_, _, ⟨⟩, first', read'⟩ := k
  cases first.symm.trans first'
  exact Except.ok.inj (read.symm.trans read')

theorem carries_ok_iff {reply : SqlReply} {message : Message} :
    Carries (.ok reply) message ↔ reply.rows.head?.mapM messageOfRow = .ok (some message) := by
  constructor
  · rintro ⟨_, row, ⟨⟩, first, read⟩
    rw [first]
    change (messageOfRow row).map some = _
    rw [read]
    rfl
  · intro read
    cases first : reply.rows.head? with
    | none =>
      rw [first] at read
      cases read
    | some row =>
      rw [first] at read
      change (messageOfRow row).map some = _ at read
      cases holds : messageOfRow row with
      | error e =>
        rw [holds] at read
        cases read
      | ok found =>
        rw [holds] at read
        cases read
        exact ⟨reply, row, rfl, first, holds⟩

/-- What is said for a claim of the candidate, and how the claim ends. -/
inductive ClaimCourse (candidate : Ticket) :
    List Exchange → Except StoreError ClaimOutcome → Prop
  | unsent {e : StoreError} : ClaimCourse candidate [] (.error e)
  | failed {sql : String} {params : List SqlParam} {f : SqlError} {e : StoreError}
      (writes : (SqlRequest.execute sql params).writes = true) :
      ClaimCourse candidate [⟨.execute sql params, .error f⟩] (.error e)
  | lost {sql : String} {params : List SqlParam} {reply : SqlReply}
      (writes : (SqlRequest.execute sql params).writes = true) (none : reply.rows = []) :
      ClaimCourse candidate [⟨.execute sql params, .ok reply⟩] (.ok (.lost candidate.id))
  | several {sql : String} {params : List SqlParam} {reply : SqlReply} {e : StoreError}
      (writes : (SqlRequest.execute sql params).writes = true) (several : 1 < reply.rows.length) :
      ClaimCourse candidate [⟨.execute sql params, .ok reply⟩] (.error e)
  | unread {sql : String} {params : List SqlParam} {reply : SqlReply} {row : SqlRow}
      {e : StoreError} (writes : (SqlRequest.execute sql params).writes = true)
      (one : reply.rows = [row]) (unread : ticketOfRow candidate.kind row = .error e) :
      ClaimCourse candidate [⟨.execute sql params, .ok reply⟩] (.error e)
  | missing {sql query : String} {params : List SqlParam} {reply : SqlReply} {row : SqlRow}
      {ticket : Ticket} {answer : Except SqlError SqlReply} {e : StoreError}
      (writes : (SqlRequest.execute sql params).writes = true)
      (reads : (SqlRequest.execute query [.uuid ticket.message.uuid]).reads = true)
      (one : reply.rows = [row]) (read : ticketOfRow candidate.kind row = .ok ticket)
      (none : ∀ message, ¬ Carries answer message) :
      ClaimCourse candidate [⟨.execute sql params, .ok reply⟩,
        ⟨.execute query [.uuid ticket.message.uuid], answer⟩] (.error e)
  | claimed {sql query : String} {params : List SqlParam} {reply : SqlReply} {row : SqlRow}
      {ticket : Ticket} {answer : Except SqlError SqlReply} {message : Message}
      (writes : (SqlRequest.execute sql params).writes = true)
      (reads : (SqlRequest.execute query [.uuid ticket.message.uuid]).reads = true)
      (one : reply.rows = [row]) (read : ticketOfRow candidate.kind row = .ok ticket)
      (carries : Carries answer message) :
      ClaimCourse candidate [⟨.execute sql params, .ok reply⟩,
        ⟨.execute query [.uuid ticket.message.uuid], answer⟩] (.ok (.claimed ⟨ticket, message⟩))

namespace Ends
variable {α β : Type} {operation sql : String} {params : List SqlParam} {sent : List Exchange}

/-- What is made of the result of a session without a further request. -/
theorem of_map {m : Session β} {f : β → α} {outcome : Except StoreError α}
    (h : Ends (m >>= fun b => pure (f b)).run sent outcome) :
    ∃ result, Ends m.run sent result ∧ outcome = result.map f := by
  rcases h.bind_cases with ⟨e, failed, rfl⟩ | ⟨b, first, rest, rfl, early, late⟩
  · exact ⟨.error e, failed, rfl⟩
  · obtain ⟨rfl, rfl⟩ := late.of_done
    rw [List.append_nil]
    exact ⟨.ok b, early, rfl⟩

theorem execute {outcome : Except StoreError SqlReply}
    (h : Ends (Session.execute operation sql params).run sent outcome) :
    ∃ answer, sent = [⟨.execute sql params, answer⟩] ∧
      outcome = answer.mapError (SqlError.toStoreError operation) := by
  obtain ⟨answer, rest, rfl, late⟩ := h.ask_bind
  refine ⟨answer, ?_⟩
  cases answer with
  | error f =>
    obtain ⟨rfl, rfl⟩ := late.of_done
    exact ⟨rfl, rfl⟩
  | ok reply =>
    obtain ⟨rfl, rfl⟩ := late.of_done
    exact ⟨rfl, rfl⟩

theorem rows {outcome : Except StoreError (List SqlRow)}
    (h : Ends (Session.rows operation sql params).run sent outcome) :
    ∃ answer, sent = [⟨.execute sql params, answer⟩] ∧
      outcome = (answer.mapError (SqlError.toStoreError operation)).map SqlReply.rows := by
  obtain ⟨result, ends, rfl⟩ := h.of_map
  obtain ⟨answer, rfl, rfl⟩ := ends.execute
  exact ⟨answer, rfl, rfl⟩

theorem row? {outcome : Except StoreError (Option SqlRow)}
    (h : Ends (Session.row? operation sql params).run sent outcome) :
    ∃ answer, sent = [⟨.execute sql params, answer⟩] ∧
      outcome = (answer.mapError (SqlError.toStoreError operation)).map (·.rows.head?) := by
  obtain ⟨result, ends, rfl⟩ := h.of_map
  obtain ⟨answer, rfl, rfl⟩ := ends.rows
  refine ⟨answer, rfl, ?_⟩
  cases answer <;> rfl

theorem loadMessage {id : MessageId} {outcome : Except StoreError (Option Message)}
    (h : Ends (Database.loadMessage id).run sent outcome) :
    ∃ query answer, sent = [⟨.execute query [.uuid id.uuid], answer⟩] ∧
      (SqlRequest.execute query [.uuid id.uuid]).reads = true ∧
      ∀ message, outcome = .ok (some message) ↔ Carries answer message := by
  rcases h.bind_cases with ⟨e, failed, rfl⟩ | ⟨found, first, rest, rfl, early, late⟩
  · obtain ⟨answer, rfl, is⟩ := failed.row?
    refine ⟨_, answer, rfl, ?_, fun message => ⟨nofun, ?_⟩⟩
    · change String.startsWith _ _ = true
      decide +kernel
    · rintro ⟨reply, row, rfl, -, -⟩
      cases is
  · obtain ⟨answer, rfl, is⟩ := early.row?
    obtain ⟨rfl, rfl⟩ := late.of_pure
    refine ⟨_, answer, rfl, ?_, fun message => ?_⟩
    · change String.startsWith _ _ = true
      decide +kernel
    · cases answer with
      | error f => cases is
      | ok reply =>
        cases is
        exact carries_ok_iff.symm

end Ends

theorem Ends.claimTicket {token : ConcurrencyToken} {candidate : Ticket} {consumer : Consumer}
    {timeout : Duration} {now : Instant} {sent : List Exchange}
    {outcome : Except StoreError (List SqlRow)}
    (h : Ends (Database.claimTicket token candidate consumer timeout now).run sent outcome) :
    ∃ sql params answer, sent = [⟨.execute sql params, answer⟩] ∧
      (SqlRequest.execute sql params).writes = true ∧
      outcome = (answer.mapError (SqlError.toStoreError "claim_ticket")).map SqlReply.rows := by
  obtain ⟨answer, rfl, rfl⟩ := h.rows
  refine ⟨_, _, answer, rfl, ?_, rfl⟩
  change (!String.startsWith _ _) = true
  cases candidate.kind <;> decide +kernel

theorem tryClaim_course {fresh : Store.Fresh} {candidate : Ticket} {consumer : Consumer}
    {timeout : Duration} {now : Instant} {sent : List Exchange}
    {outcome : Except StoreError ClaimOutcome}
    (h : Ends (tryClaim fresh candidate consumer timeout now).run sent outcome) :
    ClaimCourse candidate sent outcome := by
  unfold tryClaim at h
  split at h
  · obtain ⟨rfl, rfl⟩ := h.of_done
    exact .unsent
  dsimp only at h
  rcases h.bind_cases with ⟨e, failed, rfl⟩ | ⟨rows, first, rest, rfl, early, late⟩
  · obtain ⟨sql, params, answer, rfl, writes, is⟩ := failed.claimTicket
    cases answer with
    | error f => exact .failed writes
    | ok reply => cases is
  obtain ⟨sql, params, answer, rfl, writes, is⟩ := early.claimTicket
  cases answer with
  | error f => cases is
  | ok reply =>
    cases is
    split at late
    · next none =>
      obtain ⟨rfl, rfl⟩ := late.of_done
      exact .lost writes none
    · next row one =>
      rcases late.bind_cases with ⟨e, refused, rfl⟩ | ⟨ticket, none, more, rfl, accepted, later⟩
      · obtain ⟨rfl, unread⟩ := refused.of_pure
        exact .unread writes one unread.symm
      obtain ⟨rfl, read⟩ := accepted.of_pure
      rcases later.bind_cases with ⟨e, failed, rfl⟩ | ⟨found, said, last, rfl, looked, ends⟩
      · obtain ⟨query, answer, rfl, reads, carries⟩ := failed.loadMessage
        refine .missing writes reads one read.symm fun message holds => ?_
        cases (carries message).2 holds
      · obtain ⟨query, answer, rfl, reads, carries⟩ := looked.loadMessage
        cases found with
        | some message =>
          obtain ⟨rfl, rfl⟩ := ends.of_done
          exact .claimed writes reads one read.symm ((carries message).1 rfl)
        | none =>
          obtain ⟨rfl, rfl⟩ := ends.of_done
          refine .missing writes reads one read.symm fun message holds => ?_
          cases (carries message).2 holds
    · next none one =>
      obtain ⟨rfl, rfl⟩ := late.of_done
      refine .several writes ?_
      match same : reply.rows with
      | [] => exact absurd same none
      | [row] => exact absurd same (one row)
      | _ :: _ :: _ => simp

/-- The statement that claims was carried out, and gave these rows. -/
def Took (said : List Exchange) (rows : List SqlRow) : Prop :=
  ∃ sql params reply, (SqlRequest.execute sql params).writes = true ∧
    ⟨.execute sql params, .ok reply⟩ ∈ said ∧ reply.rows = rows

/-- The message was asked for, and this came back. -/
def LookedUp (said : List Exchange) (message : MessageId) (answer : Except SqlError SqlReply) :
    Prop :=
  ∃ query, (SqlRequest.execute query [.uuid message.uuid]).reads = true ∧
    ⟨.execute query [.uuid message.uuid], answer⟩ ∈ said

/-- No delivery could be made of what the claim gave: it gave several rows, or one that does not
read as a ticket, or one of a message that was not found or does not read as one. -/
def Undelivered (candidate : Ticket) (said : List Exchange) (rows : List SqlRow) : Prop :=
  1 < rows.length ∨ ∃ row, rows = [row] ∧
    ((∃ e, ticketOfRow candidate.kind row = .error e) ∨
      ∃ ticket answer, ticketOfRow candidate.kind row = .ok ticket ∧
        LookedUp said ticket.message answer ∧ ∀ message, ¬ Carries answer message)

section
variable {sql query : String} {params keys : List SqlParam} {reply : SqlReply}
variable {answer : Except SqlError SqlReply} {said : List Exchange} {rows : List SqlRow}

theorem took_first (writes : (SqlRequest.execute sql params).writes = true) :
    Took (⟨.execute sql params, .ok reply⟩ :: said) reply.rows :=
  ⟨sql, params, reply, writes, List.mem_cons_self, rfl⟩

theorem not_took_of_failed {f : SqlError} : ¬ Took [⟨.execute sql params, .error f⟩] rows := by
  rintro ⟨_, _, _, -, mem, -⟩
  cases List.mem_singleton.1 mem

theorem rows_of_took (h : Took [⟨.execute sql params, .ok reply⟩] rows) : rows = reply.rows := by
  obtain ⟨_, _, _, -, mem, rfl⟩ := h
  cases List.mem_singleton.1 mem
  rfl

/-- A look-up is no claim. -/
theorem rows_of_took_reads (reads : (SqlRequest.execute query keys).reads = true)
    (h : Took [⟨.execute sql params, .ok reply⟩, ⟨.execute query keys, answer⟩] rows) :
    rows = reply.rows := by
  obtain ⟨_, _, _, writes, mem, rfl⟩ := h
  rcases List.mem_cons.1 mem with is | mem
  · cases is
    rfl
  · cases List.mem_singleton.1 mem
    rw [SqlRequest.not_writes_of_reads reads] at writes
    cases writes

/-- A claim is no look-up. -/
theorem answer_of_lookedUp {id : MessageId} {back : Except SqlError SqlReply}
    (writes : (SqlRequest.execute sql params).writes = true)
    (h : LookedUp [⟨.execute sql params, .ok reply⟩, ⟨.execute query keys, answer⟩] id back) :
    back = answer := by
  obtain ⟨_, reads, mem⟩ := h
  rcases List.mem_cons.1 mem with is | mem
  · cases is
    rw [SqlRequest.not_writes_of_reads reads] at writes
    cases writes
  · cases List.mem_singleton.1 mem
    rfl

end

/-- Where a claim ends with an error, its statement had no effect, or no delivery could be made of
what it gave; where it gave no row the ticket is lost, and where it gave one of which a delivery can
be made the ticket is claimed, as it stands there. -/
theorem failed_claim_undelivered (db : Script) (fresh : Store.Fresh) (candidate : Ticket)
    (consumer : Consumer) (timeout : Duration) (now : Instant) :
    let (said, outcome) := converse db [] (tryClaim fresh candidate consumer timeout now).run
    (∀ e, outcome = .error e →
      (∀ rows, ¬ Took said rows) ∨ ∃ rows, Took said rows ∧ Undelivered candidate said rows) ∧
    (Took said [] → outcome = .ok (.lost candidate.id)) ∧
    (∀ row ticket answer message, Took said [row] → ticketOfRow candidate.kind row = .ok ticket →
      LookedUp said ticket.message answer → Carries answer message →
      outcome = .ok (.claimed ⟨ticket, message⟩)) := by
  have course := tryClaim_course
    (converse_ends db [] (tryClaim fresh candidate consumer timeout now).run)
  revert course
  generalize converse db [] (tryClaim fresh candidate consumer timeout now).run = ended
  obtain ⟨said, outcome⟩ := ended
  intro course
  dsimp only at course ⊢
  cases course with
  | unsent =>
    have untaken : ∀ rows, ¬ Took [] rows := by
      rintro rows ⟨_, _, _, -, mem, -⟩
      cases mem
    refine ⟨fun _ _ => .inl untaken, fun took => ?_, fun _ _ _ _ took => ?_⟩
    · exact absurd took (untaken _)
    · exact absurd took (untaken _)
  | failed writes =>
    refine ⟨fun _ _ => .inl fun rows => not_took_of_failed, fun took => ?_, fun _ _ _ _ took => ?_⟩
    · exact absurd took not_took_of_failed
    · exact absurd took not_took_of_failed
  | lost writes none =>
    refine ⟨nofun, fun _ => rfl, fun row ticket answer message took => ?_⟩
    cases (rows_of_took took).trans none
  | several writes several =>
    refine ⟨fun _ _ => .inr ⟨_, took_first writes, .inl several⟩, fun took => ?_,
      fun row ticket answer message took => ?_⟩
    · rw [← rows_of_took took] at several
      cases several
    · rw [← rows_of_took took] at several
      simp at several
  | unread writes one unread =>
    refine ⟨fun _ _ => .inr ⟨_, took_first writes, .inr ⟨_, one, .inl ⟨_, unread⟩⟩⟩, fun took => ?_,
      fun row ticket answer message took read => ?_⟩
    · cases (rows_of_took took).trans one
    · cases (rows_of_took took).trans one
      cases unread.symm.trans read
  | @missing sql query params reply row ticket answer e writes reads one read none =>
    refine ⟨fun _ _ => .inr ⟨_, took_first writes, .inr ⟨_, one, .inr ⟨ticket, answer, read, ?_, none⟩⟩⟩,
      fun took => ?_, fun row ticket answer message took read' looked carries => ?_⟩
    · exact ⟨query, reads, by simp⟩
    · cases (rows_of_took_reads reads took).trans one
    · rw [answer_of_lookedUp writes looked] at carries
      exact absurd carries (none message)
  | @claimed sql query params reply row ticket answer message writes reads one read carries =>
    refine ⟨nofun, fun took => ?_, fun row' ticket' answer' message' took read' looked carries' => ?_⟩
    · cases (rows_of_took_reads reads took).trans one
    · cases (rows_of_took_reads reads took).trans one
      cases read.symm.trans read'
      rw [answer_of_lookedUp writes looked] at carries'
      rw [carries.unique carries']

/-- The row of the first ticket under a claim. -/
def claimedRow : SqlRow := [
  ("id_ticket", some (.uuid (.ofNat 1000))),
  ("id_message", some (.uuid (.ofNat 7))),
  ("id_queue", some (.uuid (.ofNat 5))),
  ("id_owner", some (.uuid (.ofNat 8))),
  ("last_access_utc", some (.time default)),
  ("state", some (.int2 2)),
  ("snapshot", none),
  ("retry_count", some (.int4 0)),
  ("delayed_to_utc", none),
  ("concurrency_token", some (.uuid (.ofNat 2000)))]

/-- A database that takes the first statement, gives this row for it, and is gone. -/
def goneAfterClaim : Script
  | [], .execute .. => .ok ⟨[claimedRow], 1⟩
  | _, .execute .. => .error .closed
  | _, .acquire => .ok ()
  | _, .begin => .ok ()
  | _, .commit => .ok ()
  | _, .rollback => .ok ()
  | _, .abandon => ()

/-- A claim is made, and an error reported. -/
theorem claim_made_and_failed :
    let ended := converse goneAfterClaim []
      (tryClaim (Store.freshFrom 2000) Store.ticketAtFirst Store.runner (.ofSecs 30) default).run
    (∃ e, ended.2 = .error e) ∧ Took ended.1 [claimedRow] := by
  intro ended
  constructor
  · have none : ended.2.toOption = none := by decide +kernel
    cases is : ended.2 with
    | error e => exact ⟨e, rfl⟩
    | ok outcome =>
      rw [is] at none
      cases none
  · have here : ¬ Store.ticketAtFirst.queue ≠ Store.runner.queue := by decide
    have writes : (ended.1.head?.any fun x => x.request.writes) = true := by decide +kernel
    have first : ∃ sql params later,
        ended.1 = ⟨.execute sql params, goneAfterClaim [] (.execute sql params)⟩ :: later := by
      unfold ended tryClaim
      rw [if_neg here]
      exact ⟨_, _, _, rfl⟩
    obtain ⟨sql, params, later, is⟩ := first
    rw [is] at writes ⊢
    exact took_first writes

end MessageBus.Database
