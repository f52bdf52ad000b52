import MessageBus.Proofs.Conversation
import MessageBus.Proofs.Run

/-! Transactions of a client. The work of a transaction is sent in steps: a statement that is
answered and checked, with look-ups where the check needs them. From this follows what is said
before, at and after the COMMIT, whatever the database answers. -/
namespace MessageBus.Database

variable {α β : Type}

namespace SqlRequest

def isCommit : SqlRequest → Bool
  | commit => true
  | _ => false

/-- The request looks something up. -/
def reads : SqlRequest → Bool
  | execute sql _ => sql.startsWith "SELECT "
  | _ => false

/-- The request may change something: it is a statement, but not a look-up. -/
def writes (request : SqlRequest) : Bool :=
  match request with
  | execute .. => !request.reads
  | _ => false

theorem not_writes_of_reads {request : SqlRequest} (h : request.reads = true) :
    request.writes = false := by
  cases request with
  | execute sql params => rw [writes, h, Bool.not_true]
  | _ => rfl

end SqlRequest

def Exchange.failed : Exchange → Bool
  | ⟨.acquire, .error _⟩ | ⟨.execute .., .error _⟩ | ⟨.begin, .error _⟩ | ⟨.commit, .error _⟩
  | ⟨.rollback, .error _⟩ => true
  | _ => false

/-- What is said for one step of a work: a statement, and only look-ups after it. -/
def IsStep (said : List Exchange) : Prop :=
  ∃ sql params answer later, said = ⟨.execute sql params, answer⟩ :: later ∧
    ∀ x ∈ later, x.request.reads = true

/-- A step that is done: nothing in it failed, and it passed its check. -/
structure DoneStep (Passed : List Exchange → Prop) (said : List Exchange) : Prop where
  isStep : IsStep said
  answered : ∀ x ∈ said, x.failed = false
  passed : Passed said

namespace IsStep
variable {said before after : List Exchange} {x : Exchange}

theorem isStatement (h : IsStep said) (mem : x ∈ said) :
    ∃ sql params, x.request = .execute sql params := by
  obtain ⟨sql, params, answer, later, rfl, reads⟩ := h
  rcases List.mem_cons.1 mem with rfl | mem
  · exact ⟨sql, params, rfl⟩
  · have look := reads x mem
    cases is : x.request with
    | execute sql params => exact ⟨sql, params, rfl⟩
    | _ =>
      rw [is] at look
      cases look

/-- Only the first statement of a step may change something. -/
theorem first (h : IsStep (before ++ x :: after)) (writes : x.request.writes = true) :
    before = [] := by
  obtain ⟨sql, params, answer, later, is, reads⟩ := h
  cases before with
  | nil => rfl
  | cons y before =>
    obtain ⟨-, rfl⟩ := List.cons.inj is
    have look := reads x (List.mem_append_right _ (List.mem_cons_self ..))
    rw [SqlRequest.not_writes_of_reads look] at writes
    cases writes

end IsStep

/-- Where steps are said one after the other, whole steps come before a write. -/
theorem steps_before_write {steps : List (List Exchange)} {last before after : List Exchange}
    {x : Exchange} (all : ∀ step ∈ steps, IsStep step) (ending : last = [] ∨ IsStep last)
    (said : steps.flatten ++ last = before ++ x :: after) (writes : x.request.writes = true) :
    ∃ early, before = List.flatten early ∧ early ⊆ steps := by
  induction steps generalizing before with
  | nil =>
    rw [List.flatten_nil, List.nil_append] at said
    subst said
    rcases ending with none | step
    · simp at none
    · exact ⟨[], step.first writes, List.nil_subset _⟩
  | cons step steps ih =>
    rw [List.flatten_cons, List.append_assoc] at said
    rcases Store.split_append said with ⟨rest, rfl⟩ | ⟨middle, rfl, later⟩
    · exact ⟨[], (all _ (.head _)).first writes, List.nil_subset _⟩
    · obtain ⟨early, rfl, sub⟩ := ih (fun step mem => all step (.tail _ mem)) later
      exact ⟨step :: early, rfl, List.cons_subset_cons step sub⟩

/-! Work that is sent in steps. -/

/-- The work sends one step after the other, and each is done before the next; where it fails, the
last one may not be. -/
def InSteps (Passed : List Exchange → Prop) (work : Session α) : Prop :=
  ∀ sent outcome, Ends work.run sent outcome → ∃ steps last, sent = List.flatten steps ++ last ∧
    (∀ step ∈ steps, DoneStep Passed step) ∧ (last = [] ∨ IsStep last ∧ ∃ e, outcome = .error e)

/-- The session is one step, done if the session does not fail. -/
def Takes (Passed : List Exchange → α → Prop) (m : Session α) : Prop :=
  ∀ sent outcome, Ends m.run sent outcome → IsStep sent ∧
    ∀ a, outcome = .ok a → (∀ x ∈ sent, x.failed = false) ∧ Passed sent a

/-- The step was one statement, and the reply to it is as `Q` says. -/
def Replied (Q : SqlReply → α → Prop) (sent : List Exchange) (a : α) : Prop :=
  ∃ sql params reply, sent = [⟨.execute sql params, .ok reply⟩] ∧ Q reply a

theorem SendsOne.takes {sql : String} {Q : SqlReply → α → Prop} {m : Session α}
    (h : SendsOne sql Q m) : Takes (Replied Q) m := by
  intro sent outcome ends
  obtain ⟨params, answer, rfl, replied⟩ := h _ _ ends
  refine ⟨⟨sql, params, answer, [], rfl, nofun⟩, fun a is => ?_⟩
  obtain ⟨reply, rfl, holds⟩ := replied a is
  exact ⟨by simp [Exchange.failed], sql, params, reply, rfl, holds⟩

namespace InSteps
variable {Passed : List Exchange → Prop}

theorem of_silent {R : α → Prop} {m : Session α} (h : Silent R m) : InSteps Passed m :=
  fun _ _ ends => ⟨[], [], (h _ _ ends).1, nofun, .inl rfl⟩

theorem done (a : α) : InSteps Passed (pure a) :=
  of_silent (Silent.done (R := fun _ => True) trivial)

theorem failed (e : StoreError) : InSteps Passed (throw e : Session α) :=
  of_silent (Silent.failed (fun _ => True) e)

theorem of_takes {Q : List Exchange → α → Prop} {m : Session α} (h : Takes Q m)
    (pass : ∀ sent a, Ends m.run sent (.ok a) → Q sent a → Passed sent) : InSteps Passed m := by
  intro sent outcome ends
  obtain ⟨isStep, done⟩ := h _ _ ends
  cases outcome with
  | error e => exact ⟨[], sent, rfl, nofun, .inr ⟨isStep, e, rfl⟩⟩
  | ok a =>
    obtain ⟨answered, passed⟩ := done a rfl
    refine ⟨[sent], [], by simp, fun step mem => ?_, .inl rfl⟩
    obtain rfl := List.mem_singleton.1 mem
    exact ⟨isStep, answered, pass _ a ends passed⟩

theorem andThen {m : Session β} {f : β → Session α} (h : InSteps Passed m)
    (k : ∀ b, InSteps Passed (f b)) : InSteps Passed (m >>= f) := by
  intro sent outcome ends
  rcases ends.bind_cases with ⟨e, failed, rfl⟩ | ⟨b, first, rest, rfl, early, late⟩
  · obtain ⟨steps, last, is, done, ending⟩ := h _ _ failed
    exact ⟨steps, last, is, done, ending.imp_right fun ⟨step, _⟩ => ⟨step, e, rfl⟩⟩
  · obtain ⟨steps, last, rfl, done, rfl | ⟨-, e, ⟨⟩⟩⟩ := h _ _ early
    obtain ⟨more, last, rfl, doneToo, ending⟩ := k b _ _ late
    refine ⟨steps ++ more, last, by simp, fun step mem => ?_, ending⟩
    rcases List.mem_append.1 mem with mem | mem
    · exact done step mem
    · exact doneToo step mem

theorem forM {f : β → Session Unit} (h : ∀ b, InSteps Passed (f b)) (bs : List β) :
    InSteps Passed (bs.forM f) := by
  induction bs with
  | nil => exact done ()
  | cons b bs ih => exact (h b).andThen fun _ => ih

end InSteps

/-! The course of a transaction. -/

/-- How a transaction is ended, from what its work came to. -/
inductive Closing : Session.OnFailure → Except StoreError α → List Exchange →
    Except StoreError α → Prop
  | committed {onFailure : Session.OnFailure} (a : α) :
      Closing onFailure (.ok a) [⟨.commit, .ok ()⟩] (.ok a)
  /-- The COMMIT fails, and the transaction is dropped. -/
  | uncommitted {onFailure : Session.OnFailure} (a : α) (e : SqlError) :
      Closing onFailure (.ok a) [⟨.commit, .error e⟩, ⟨.abandon, ()⟩]
        (.error (e.toStoreError "commit_transaction"))
  | abandoned (e : StoreError) : Closing .abandon (.error e) [⟨.abandon, ()⟩] (.error e)
  | rolledBack (e : StoreError) :
      Closing .rollback (.error e) [⟨.rollback, .ok ()⟩] (.error e)
  /-- The ROLLBACK fails, and the transaction is dropped. -/
  | stuck (e : StoreError) (f : SqlError) :
      Closing .rollback (.error e) [⟨.rollback, .error f⟩, ⟨.abandon, ()⟩]
        (.error (f.toStoreError "rollback"))

/-- How a transaction goes: it cannot be begun, or its work is done and it is ended. -/
inductive Transacted (work : Session α) (onFailure : Session.OnFailure) :
    List Exchange → Except StoreError α → Prop
  | unstarted (e : SqlError) :
      Transacted work onFailure [⟨.begin, .error e⟩] (.error (e.toStoreError "begin_transaction"))
  | begun {worked closing : List Exchange} {result outcome : Except StoreError α}
      (ends : Ends work.run worked result) (closes : Closing onFailure result closing outcome) :
      Transacted work onFailure (⟨.begin, .ok ()⟩ :: (worked ++ closing)) outcome

namespace Ends
variable {sent : List Exchange}

theorem sendBegin_cases {outcome : Except StoreError Unit}
    (h : Ends Session.sendBegin.run sent outcome) :
    (∃ e, sent = [⟨.begin, .error e⟩] ∧ outcome = .error (e.toStoreError "begin_transaction")) ∨
    sent = [⟨.begin, .ok ()⟩] ∧ outcome = .ok () := by
  obtain ⟨answer, rest, rfl, late⟩ := h.ask_bind
  cases answer with
  | error e =>
    obtain ⟨rfl, rfl⟩ := late.of_done
    exact .inl ⟨e, rfl, rfl⟩
  | ok =>
    obtain ⟨rfl, rfl⟩ := late.of_done
    exact .inr ⟨rfl, rfl⟩

/-- A transaction that cannot be ended is dropped; otherwise the session goes on. -/
theorem finish_bind {operation : String} {answer : Except SqlError Unit} {f : Unit → Session α}
    {outcome : Except StoreError α}
    (h : Ends (Session.finish operation answer >>= f).run sent outcome) :
    (∃ e, answer = .error e ∧ sent = [⟨.abandon, ()⟩] ∧
      outcome = .error (e.toStoreError operation)) ∨
    answer = .ok () ∧ Ends (f ()).run sent outcome := by
  cases answer with
  | ok => exact .inr ⟨rfl, h⟩
  | error e =>
    rcases h.bind_cases with ⟨_, failed, rfl⟩ | ⟨_, first, rest, rfl, dropped, -⟩
    · obtain ⟨_, rest, rfl, late⟩ := failed.ask_bind
      obtain ⟨rfl, ⟨⟩⟩ := late.of_done
      exact .inl ⟨e, rfl, rfl, rfl⟩
    · obtain ⟨_, rest, rfl, late⟩ := dropped.ask_bind
      obtain ⟨-, ⟨⟩⟩ := late.of_done

end Ends

theorem transaction_goes {onFailure : Session.OnFailure} {work : Session α} {sent : List Exchange}
    {outcome : Except StoreError α}
    (h : Ends (Session.transaction onFailure work).run sent outcome) :
    Transacted work onFailure sent outcome := by
  unfold Session.transaction at h
  rcases h.bind_cases with ⟨e, failed, rfl⟩ | ⟨_, first, rest, rfl, begun, later⟩
  · rcases failed.sendBegin_cases with ⟨e, rfl, ⟨⟩⟩ | ⟨-, ⟨⟩⟩
    exact .unstarted e
  rcases begun.sendBegin_cases with ⟨e, -, ⟨⟩⟩ | ⟨rfl, -⟩
  obtain ⟨result, worked, rest, rfl, ends, ending⟩ := later.lift_bind
  rw [List.singleton_append]
  cases result with
  | ok a =>
    obtain ⟨answer, rest, rfl, answered⟩ := ending.ask_bind
    rcases answered.finish_bind with ⟨e, rfl, rfl, rfl⟩ | ⟨rfl, done⟩
    · exact .begun ends (.uncommitted a e)
    · obtain ⟨rfl, rfl⟩ := done.of_done
      exact .begun ends (.committed a)
  | error e =>
    cases onFailure with
    | abandon =>
      obtain ⟨_, rest, rfl, dropped⟩ := ending.ask_bind
      obtain ⟨rfl, rfl⟩ := dropped.of_done
      exact .begun ends (.abandoned e)
    | rollback =>
      obtain ⟨answer, rest, rfl, answered⟩ := ending.ask_bind
      rcases answered.finish_bind with ⟨f, rfl, rfl, rfl⟩ | ⟨rfl, done⟩
      · exact .begun ends (.stuck e f)
      · obtain ⟨rfl, rfl⟩ := done.of_done
        exact .begun ends (.rolledBack e)

/-! What the course of a transaction says of the COMMIT, and of what is sent before it. -/

/-- All that was said so far in a transaction went through. -/
def Through (Passed : List Exchange → Prop) (said : List Exchange) : Prop :=
  ∃ steps, said = ⟨.begin, .ok ()⟩ :: List.flatten steps ∧ ∀ step ∈ steps, DoneStep Passed step

/-- A transaction commits all of its work or nothing. Each part of the work that went through has
`Passed`. -/
structure AllOrNothing (Passed : List Exchange → Prop) (onFailure : Session.OnFailure)
    (work : Session α) (said : List Exchange) (outcome : Except StoreError α) : Prop where
  /-- What the work comes to decides how the transaction is ended, and with what. -/
  course : Transacted work onFailure said outcome
  /-- COMMIT is sent at most once. -/
  once : said.countP (fun x => x.request.isCommit) ≤ 1
  /-- Nothing follows the COMMIT, but the end of a dropped transaction where it fails. -/
  last : ∀ before answer after, said = before ++ ⟨.commit, answer⟩ :: after →
    answer = .ok () ∧ after = [] ∨ ∃ e, answer = .error e ∧ after = [⟨.abandon, ()⟩]
  /-- Before the COMMIT the whole work was done, and all of it went through. -/
  whole : ∀ before answer after, said = before ++ ⟨.commit, answer⟩ :: after →
    Through Passed before ∧ ∃ worked a, before = ⟨.begin, .ok ()⟩ :: worked ∧
      Ends work.run worked (.ok a)
  /-- Nothing is written once something has not gone through. -/
  stops : ∀ before x after, said = before ++ x :: after → x.request.writes = true →
    Through Passed before
  /-- A success is that of a COMMIT. -/
  committed : ∀ a, outcome = .ok a → ∃ worked, Ends work.run worked (.ok a) ∧
    said = ⟨.begin, .ok ()⟩ :: (worked ++ [⟨.commit, .ok ()⟩])

namespace InSteps
variable {Passed : List Exchange → Prop} {work : Session α} {worked : List Exchange}

theorem isStatement (h : InSteps Passed work) {result : Except StoreError α}
    (ends : Ends work.run worked result) {x : Exchange} (mem : x ∈ worked) :
    ∃ sql params, x.request = .execute sql params := by
  obtain ⟨steps, last, rfl, done, ending⟩ := h _ _ ends
  rcases List.mem_append.1 mem with early | late
  · obtain ⟨step, among, mem⟩ := List.mem_flatten.1 early
    exact (done step among).isStep.isStatement mem
  · rcases ending with rfl | ⟨step, -⟩
    · cases late
    · exact step.isStatement late

/-- Work that does not fail went through as a whole. -/
theorem through (h : InSteps Passed work) {a : α} (ends : Ends work.run worked (.ok a)) :
    Through Passed (⟨.begin, .ok ()⟩ :: worked) := by
  obtain ⟨steps, last, rfl, done, rfl | ⟨-, e, ⟨⟩⟩⟩ := h _ _ ends
  exact ⟨steps, by rw [List.append_nil], done⟩

/-- Work goes through up to each of its writes. -/
theorem through_before_write (h : InSteps Passed work) {result : Except StoreError α}
    {before after : List Exchange} {x : Exchange}
    (ends : Ends work.run (before ++ x :: after) result) (writes : x.request.writes = true) :
    Through Passed (⟨.begin, .ok ()⟩ :: before) := by
  obtain ⟨steps, last, is, done, ending⟩ := h _ _ ends
  obtain ⟨early, rfl, sub⟩ := steps_before_write (fun step mem => (done step mem).isStep)
    (ending.imp_right And.left) is.symm writes
  exact ⟨early, rfl, fun step mem => done step (sub mem)⟩

end InSteps

namespace Closing
variable {onFailure : Session.OnFailure} {result outcome : Except StoreError α}
variable {closing : List Exchange}

theorem not_writes (h : Closing onFailure result closing outcome) {x : Exchange}
    (mem : x ∈ closing) : x.request.writes = false := by
  have none : closing.all (fun x => !x.request.writes) = true := by cases h <;> rfl
  simpa using List.all_eq_true.1 none x mem

theorem commit_once (h : Closing onFailure result closing outcome) :
    closing.countP (fun x => x.request.isCommit) ≤ 1 := by
  cases h <;> simp [SqlRequest.isCommit]

/-- A COMMIT is sent where the work has not failed, and nothing follows it unless it fails. -/
theorem of_commit {before after : List Exchange} {answer : Except SqlError Unit}
    (h : Closing onFailure result (before ++ ⟨.commit, answer⟩ :: after) outcome) :
    before = [] ∧ (∃ a, result = .ok a) ∧
      (answer = .ok () ∧ after = [] ∨ ∃ e, answer = .error e ∧ after = [⟨.abandon, ()⟩]) := by
  generalize is : before ++ ⟨.commit, answer⟩ :: after = closing at h
  cases before with
  | nil =>
    cases h with
    | committed a =>
      cases is
      exact ⟨rfl, ⟨a, rfl⟩, .inl ⟨rfl, rfl⟩⟩
    | uncommitted a e =>
      cases is
      exact ⟨rfl, ⟨a, rfl⟩, .inr ⟨e, rfl, rfl⟩⟩
    | abandoned | rolledBack | stuck => cases is
  | cons x before =>
    -- A second request of a closing is never a COMMIT.
    cases h <;> cases before <;> simp at is

end Closing

namespace Transacted
variable {Passed : List Exchange → Prop} {onFailure : Session.OnFailure} {work : Session α}
variable {said before after : List Exchange} {outcome : Except StoreError α}

theorem commit_once (steps : InSteps Passed work) (h : Transacted work onFailure said outcome) :
    said.countP (fun x => x.request.isCommit) ≤ 1 := by
  cases h with
  | unstarted e => exact Nat.zero_le 1
  | @begun worked closing result outcome ends closes =>
    have none : worked.countP (fun x => x.request.isCommit) = 0 := by
      rw [List.countP_eq_zero]
      intro x mem
      obtain ⟨sql, params, is⟩ := steps.isStatement ends mem
      rw [is]
      exact Bool.false_ne_true
    rw [List.countP_cons_of_neg Bool.false_ne_true, List.countP_append, none, Nat.zero_add]
    exact closes.commit_once

/-- At the COMMIT the work is done, and nothing follows unless it fails. -/
theorem at_commit {answer : Except SqlError Unit} (steps : InSteps Passed work)
    (h : Transacted work onFailure (before ++ ⟨.commit, answer⟩ :: after) outcome) :
    (∃ worked a, before = ⟨.begin, .ok ()⟩ :: worked ∧ Ends work.run worked (.ok a)) ∧
      (answer = .ok () ∧ after = [] ∨ ∃ e, answer = .error e ∧ after = [⟨.abandon, ()⟩]) := by
  generalize is : before ++ ⟨.commit, answer⟩ :: after = said at h
  cases h with
  | unstarted e => cases before <;> simp at is
  | @begun worked closing result outcome ends closes =>
    cases before with
    | nil => cases is
    | cons x before =>
      obtain ⟨rfl, rest⟩ := List.cons.inj is
      rcases Store.split_append rest.symm with ⟨rest, rfl⟩ | ⟨middle, rfl, rfl⟩
      · obtain ⟨sql, params, ⟨⟩⟩ := steps.isStatement ends (x := ⟨.commit, answer⟩) (by simp)
      · obtain ⟨rfl, ⟨a, rfl⟩, following⟩ := closes.of_commit
        rw [List.append_nil]
        exact ⟨⟨worked, a, rfl, ends⟩, following⟩

theorem through_before_write (steps : InSteps Passed work) {x : Exchange}
    (h : Transacted work onFailure (before ++ x :: after) outcome)
    (writes : x.request.writes = true) : Through Passed before := by
  generalize is : before ++ x :: after = said at h
  cases h with
  | unstarted e =>
    cases before with
    | nil =>
      obtain ⟨rfl, -⟩ := List.cons.inj is
      cases writes
    | cons y before => simp at is
  | @begun worked closing result outcome ends closes =>
    cases before with
    | nil =>
      obtain ⟨rfl, -⟩ := List.cons.inj is
      cases writes
    | cons y before =>
      obtain ⟨rfl, rest⟩ := List.cons.inj is
      rcases Store.split_append rest.symm with ⟨rest, rfl⟩ | ⟨middle, rfl, rfl⟩
      · exact steps.through_before_write ends writes
      · rw [closes.not_writes (by simp)] at writes
        cases writes

theorem committed {a : α} (h : Transacted work onFailure said (.ok a)) :
    ∃ worked, Ends work.run worked (.ok a) ∧
      said = ⟨.begin, .ok ()⟩ :: (worked ++ [⟨.commit, .ok ()⟩]) := by
  cases h with
  | @begun worked closing result outcome ends closes =>
    cases closes with
    | committed a => exact ⟨worked, ends, rfl⟩

/-- A transaction whose work is sent in steps is all or nothing. -/
theorem allOrNothing (steps : InSteps Passed work)
    (h : Transacted work onFailure said outcome) :
    AllOrNothing Passed onFailure work said outcome where
  course := h
  once := h.commit_once steps
  last := by
    rintro before answer after rfl
    exact (h.at_commit steps).2
  whole := by
    rintro before answer after rfl
    obtain ⟨⟨worked, a, rfl, ends⟩, -⟩ := h.at_commit steps
    exact ⟨steps.through ends, worked, a, rfl, ends⟩
  stops := by
    rintro before x after rfl writes
    exact h.through_before_write steps writes
  committed := by
    rintro a rfl
    exact h.committed

end Transacted
end MessageBus.Database
