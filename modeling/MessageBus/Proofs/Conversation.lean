import MessageBus.Database.Session

/-! Conversations with a database: what a dialogue sends, what comes back for each request, and how
the dialogue ends. Of the database only its answers are known. -/
namespace MessageBus.Database

variable {α β : Type}

/-- A request and its answer. -/
structure Exchange where
  request : SqlRequest
  answer : request.Answer

/-- What a database answers to a request, after all that was said before. -/
abbrev Script := List Exchange → (request : SqlRequest) → request.Answer

/-- A dialogue with a database that answers by a script: what is said from now on, and the end. -/
def converse (db : Script) (said : List Exchange) : Dialogue α → List Exchange × α
  | .done a => ([], a)
  | .ask request next =>
    let answer := db said request
    let (later, a) := converse db (said ++ [⟨request, answer⟩]) (next answer)
    (⟨request, answer⟩ :: later, a)

/-- With these exchanges, whoever gives the answers, the dialogue comes to this end. -/
inductive Ends : Dialogue α → List Exchange → α → Prop
  | done {a : α} : Ends (.done a) [] a
  | asked {request : SqlRequest} {next : request.Answer → Dialogue α} {answer : request.Answer}
      {sent : List Exchange} {a : α} (rest : Ends (next answer) sent a) :
      Ends (.ask request next) (⟨request, answer⟩ :: sent) a

/-- Every dialogue comes to an end, whatever it is answered. -/
theorem converse_ends (db : Script) (said : List Exchange) (d : Dialogue α) :
    Ends d (converse db said d).1 (converse db said d).2 := by
  induction d generalizing said with
  | done a => exact .done
  | ask request next ih => exact .asked (ih _ _)

namespace Ends
variable {sent : List Exchange}

theorem of_done {a b : α} (h : Ends (.done a) sent b) : sent = [] ∧ b = a := by
  cases h with
  | done => exact ⟨rfl, rfl⟩

theorem split {d : Dialogue β} {f : β → Dialogue α} {a : α} (h : Ends (d.andThen f) sent a) :
    ∃ b first rest, sent = first ++ rest ∧ Ends d first b ∧ Ends (f b) rest a := by
  induction d generalizing sent with
  | done b => exact ⟨b, [], sent, rfl, .done, h⟩
  | ask request next ih =>
    cases h with
    | asked rest =>
      obtain ⟨b, first, later, rfl, early, late⟩ := ih _ rest
      exact ⟨b, _ :: first, later, rfl, .asked early, late⟩

variable {outcome : Except StoreError α}

/-- A session ends with its first part if that fails, and otherwise goes on. -/
theorem bind_cases {m : Session β} {f : β → Session α} (h : Ends (m >>= f).run sent outcome) :
    (∃ e, Ends m.run sent (.error e) ∧ outcome = .error e) ∨
    ∃ b first rest, sent = first ++ rest ∧ Ends m.run first (.ok b) ∧
      Ends (f b).run rest outcome := by
  obtain ⟨between, first, rest, rfl, early, late⟩ := split (d := m.run) h
  cases between with
  | error e =>
    obtain ⟨rfl, rfl⟩ := of_done late
    rw [List.append_nil]
    exact .inl ⟨e, early, rfl⟩
  | ok b => exact .inr ⟨b, first, rest, rfl, early, late⟩

/-- A computation sends nothing. -/
theorem of_pure {result : Except StoreError α}
    (h : Ends (ExceptT.mk (pure result) : Session α).run sent outcome) :
    sent = [] ∧ outcome = result := of_done h

theorem lift_bind {d : Dialogue β} {f : β → Session α}
    (h : Ends (ExceptT.lift d >>= f).run sent outcome) :
    ∃ b first rest, sent = first ++ rest ∧ Ends d first b ∧ Ends (f b).run rest outcome := by
  have flat : (ExceptT.lift d >>= f).run = d.andThen fun b => (f b).run :=
    Program.andThen_assoc d _ _
  rw [flat] at h
  exact h.split

/-- A session that asks first goes on from the answer. -/
theorem ask_bind {request : SqlRequest} {f : request.Answer → Session α}
    (h : Ends (Session.ask request >>= f).run sent outcome) :
    ∃ answer rest, sent = ⟨request, answer⟩ :: rest ∧ Ends (f answer).run rest outcome := by
  obtain ⟨answer, first, rest, rfl, asked, late⟩ := lift_bind (d := Program.request request) h
  cases asked with
  | asked ends =>
    obtain ⟨rfl, rfl⟩ := ends.of_done
    exact ⟨_, rest, rfl, late⟩

end Ends

/-! Sessions that send nothing, or a single statement. -/

/-- The session sends nothing, and comes to something with the property or to a failure. -/
def Silent (R : α → Prop) (m : Session α) : Prop :=
  ∀ sent outcome, Ends m.run sent outcome → sent = [] ∧ ∀ a, outcome = .ok a → R a

namespace Silent

theorem computed {R : α → Prop} {result : Except StoreError α} (h : ∀ a, result = .ok a → R a) :
    Silent R (ExceptT.mk (pure result)) := by
  intro sent outcome ends
  obtain ⟨rfl, rfl⟩ := ends.of_pure
  exact ⟨rfl, h⟩

theorem done {R : α → Prop} {a : α} (h : R a) : Silent R (pure a) :=
  computed fun _ is => Except.ok.inj is ▸ h

theorem failed (R : α → Prop) (e : StoreError) : Silent R (throw e) := computed nofun

theorem andThen {R : β → Prop} {S : α → Prop} {m : Session β} {f : β → Session α}
    (h : Silent R m) (k : ∀ b, R b → Silent S (f b)) : Silent S (m >>= f) := by
  intro sent outcome ends
  rcases ends.bind_cases with ⟨e, failed, rfl⟩ | ⟨b, first, rest, rfl, early, late⟩
  · exact ⟨(h _ _ failed).1, nofun⟩
  · obtain ⟨rfl, holds⟩ := h _ _ early
    exact k b (holds b rfl) _ _ late

end Silent

/-- The session sends this statement and nothing else; what it comes to, if it does not fail, it
gets from the reply. -/
def SendsOne (sql : String) (Q : SqlReply → α → Prop) (m : Session α) : Prop :=
  ∀ sent outcome, Ends m.run sent outcome → ∃ params answer,
    sent = [⟨.execute sql params, answer⟩] ∧
    ∀ a, outcome = .ok a → ∃ reply, answer = .ok reply ∧ Q reply a

namespace SendsOne
variable {fault : SqlError → StoreError} {operation sql : String} {params : List SqlParam}

theorem executeOr : SendsOne sql (· = ·) (Session.executeOr fault sql params) := by
  intro sent outcome ends
  obtain ⟨answer, rest, rfl, late⟩ := ends.ask_bind
  cases answer with
  | error e =>
    obtain ⟨rfl, rfl⟩ := late.of_done
    exact ⟨params, .error e, rfl, nofun⟩
  | ok reply =>
    obtain ⟨rfl, rfl⟩ := late.of_done
    exact ⟨params, .ok reply, rfl, fun a is => ⟨reply, rfl, Except.ok.inj is⟩⟩

theorem mono {Q R : SqlReply → α → Prop} {m : Session α} (h : SendsOne sql Q m)
    (k : ∀ reply a, Q reply a → R reply a) : SendsOne sql R m := by
  intro sent outcome ends
  obtain ⟨params, answer, rfl, replied⟩ := h _ _ ends
  refine ⟨params, answer, rfl, fun a is => ?_⟩
  obtain ⟨reply, rfl, holds⟩ := replied a is
  exact ⟨reply, rfl, k reply a holds⟩

theorem andThen {Q : SqlReply → β → Prop} {R : SqlReply → α → Prop} {m : Session β}
    {f : β → Session α} (h : SendsOne sql Q m)
    (k : ∀ reply b, Q reply b → Silent (R reply) (f b)) : SendsOne sql R (m >>= f) := by
  intro sent outcome ends
  rcases ends.bind_cases with ⟨e, failed, rfl⟩ | ⟨b, first, rest, rfl, early, late⟩
  · obtain ⟨params, answer, rfl, -⟩ := h _ _ failed
    exact ⟨params, answer, rfl, nofun⟩
  · obtain ⟨params, answer, rfl, replied⟩ := h _ _ early
    obtain ⟨reply, rfl, holds⟩ := replied b rfl
    obtain ⟨rfl, holds⟩ := k reply b holds _ _ late
    exact ⟨params, .ok reply, rfl, fun a is => ⟨reply, rfl, holds a is⟩⟩

theorem rows : SendsOne sql (fun reply rows => reply.rows = rows)
    (Session.rows operation sql params) :=
  executeOr.andThen fun _ _ same => Silent.done (congrArg SqlReply.rows same)

theorem row? : SendsOne sql (fun reply row? => reply.rows.head? = row?)
    (Session.row? operation sql params) :=
  rows.andThen fun _ _ same => Silent.done (congrArg List.head? same)

theorem rowOr : SendsOne sql (fun reply row => reply.rows.head? = some row)
    (Session.rowOr fault sql params) := by
  refine executeOr.andThen fun _ reply same => ?_
  subst same
  split
  · next row rest is => exact Silent.done (by rw [is, List.head?_cons])
  · exact Silent.failed _ _

theorem executeOne : SendsOne sql (fun reply _ => reply.affected = 1)
    (Session.executeOne operation sql params) :=
  executeOr.andThen fun _ _ same =>
    Silent.computed fun _ one => expectOne_eq_ok_iff.1 (same ▸ one)

end SendsOne
end MessageBus.Database
