import MessageBus.Store.Call

/-! Runs of a store. A run is a list of calls, each with the identifiers that the store may give out
for it; the calls of all parties stand in it in the order in which the store takes them. The
identifiers that a run really gives out are counted from the answers. -/
namespace MessageBus.Store

structure Step where
  fresh : Fresh
  call : Call

namespace Step

def answer (step : Step) (s : Store) : Except StoreError step.call.Answer :=
  (s.perform step.fresh step.call).1

end Step

def after (s : Store) (step : Step) : Store := (s.perform step.fresh step.call).2

def run (s : Store) (steps : List Step) : Store := steps.foldl after s

@[simp] theorem run_nil (s : Store) : s.run [] = s := rfl

@[simp] theorem run_cons (s : Store) (step : Step) (steps : List Step) :
    s.run (step :: steps) = (s.after step).run steps := rfl

@[simp] theorem run_append (s : Store) (xs ys : List Step) :
    s.run (xs ++ ys) = (s.run xs).run ys := List.foldl_append

theorem run_concat (s : Store) (steps : List Step) (step : Step) :
    s.run (steps ++ [step]) = (s.run steps).after step := run_append s steps [step]

/-- What holds of a store and is kept by every step holds after every run. -/
theorem run_keeps {P : Store → Prop} (keeps : ∀ s step, P s → P (s.after step)) {s : Store}
    (h : P s) (steps : List Step) : P (s.run steps) := by
  induction steps generalizing s with
  | nil => exact h
  | cons step steps ih => exact ih (keeps s step h)

/-- Lists are built up at their end. -/
theorem concat_induction {α : Type} {P : List α → Prop} (new : P [])
    (next : ∀ as a, P as → P (as ++ [a])) (as : List α) : P as := by
  rw [← List.reverse_reverse as]
  induction as.reverse with
  | nil => exact new
  | cons a as ih =>
    rw [List.reverse_cons]
    exact next _ _ ih

/-- What holds of a new store and is kept by every further step holds after every run. -/
theorem run_induction {P : List Step → Store → Prop} (new : P [] .empty)
    (next : ∀ steps step, P steps (run .empty steps) →
      P (steps ++ [step]) ((run .empty steps).after step))
    (steps : List Step) : P steps (run .empty steps) := by
  refine concat_induction (P := fun steps => P steps (run .empty steps)) new ?_ steps
  intro steps step ih
  rw [run_concat]
  exact next steps step ih

/-- How many steps of a run pass a test in the store that they find. -/
def countAlong (test : Store → Step → Bool) (s : Store) : List Step → Nat
  | [] => 0
  | step :: rest => (if test s step then 1 else 0) + countAlong test (s.after step) rest

theorem countAlong_mono {p q : Store → Step → Bool} (h : ∀ s step, p s step → q s step)
    (s : Store) (steps : List Step) : countAlong p s steps ≤ countAlong q s steps := by
  induction steps generalizing s with
  | nil => exact Nat.le_refl 0
  | cons step steps ih =>
    have rest := ih (s.after step)
    have head := h s step
    simp only [countAlong]
    by_cases hp : p s step
    · rw [if_pos hp, if_pos (head hp)]
      omega
    · rw [if_neg hp]
      omega

theorem countAlong_eq_zero {test : Store → Step → Bool} {s : Store} {steps : List Step}
    (h : ∀ before step later, steps = before ++ step :: later → test (s.run before) step = false) :
    countAlong test s steps = 0 := by
  induction steps generalizing s with
  | nil => rfl
  | cons step steps ih =>
    have head := h [] step steps rfl
    rw [run_nil] at head
    have rest := ih fun before next later split =>
      h (step :: before) next later (by rw [split]; rfl)
    rw [countAlong, head, rest]
    rfl

/-- A test that no later step passes once one has passed it is passed at most once. -/
theorem countAlong_le_one {test : Store → Step → Bool} {s : Store} {steps : List Step}
    (h : ∀ before step later, steps = before ++ step :: later → test (s.run before) step = true →
      countAlong test ((s.run before).after step) later = 0) :
    countAlong test s steps ≤ 1 := by
  induction steps generalizing s with
  | nil => exact Nat.zero_le 1
  | cons step steps ih =>
    rw [countAlong]
    cases passed : test s step with
    | true =>
      have none := h [] step steps rfl passed
      rw [run_nil] at none
      simp [none]
    | false =>
      have rest := ih fun before next later split =>
        h (step :: before) next later (by rw [split]; rfl)
      simpa using rest

/-! The identifiers that a run gives out. -/

/-- How many tickets a call made. -/
def Call.ticketsMade : (call : Call) → Except StoreError call.Answer → Nat
  | .publish _ targets, .ok _ => targets.length
  | _, _ => 0

/-- How many tokens a call drew. A claim whose message is missing draws one before it fails. -/
def Call.tokensDrawn : (call : Call) → Except StoreError call.Answer → Nat
  | .publish _ targets, .ok _ => targets.length
  | .tryClaim .., .ok (.claimed _) => 1
  | .tryClaim .., .error (.notFound ..) => 1
  | .commit .., .ok (.committed _) => 1
  | _, _ => 0

/-- The tokens that the caller of a call shows. -/
def Call.presented : Call → List ConcurrencyToken
  | .tryClaim candidate .. => [candidate.token]
  | .commit _ _ token .. => [token]
  | .heartbeat _ _ token _ => [token]
  | _ => []

namespace Step

def issuedTickets (step : Step) (s : Store) : List TicketId :=
  (List.range (step.call.ticketsMade (step.answer s))).map step.fresh.ticket

def issuedTokens (step : Step) (s : Store) : List ConcurrencyToken :=
  (List.range (step.call.tokensDrawn (step.answer s))).map step.fresh.token

end Step

/-- The ticket identifiers that a run gives out, in order. -/
def issuedTickets (s : Store) : List Step → List TicketId
  | [] => []
  | step :: rest => step.issuedTickets s ++ (s.after step).issuedTickets rest

/-- The tokens that a run gives out, in order. -/
def issuedTokens (s : Store) : List Step → List ConcurrencyToken
  | [] => []
  | step :: rest => step.issuedTokens s ++ (s.after step).issuedTokens rest

/-- No token of a run was given out or shown before; `seen` has those from before the run. -/
def TokensUnseen (s : Store) (seen : List ConcurrencyToken) : List Step → Prop
  | [] => True
  | step :: rest =>
    (step.issuedTokens s).Nodup ∧
    (∀ token ∈ step.issuedTokens s, token ∉ step.call.presented ++ seen) ∧
    (s.after step).TokensUnseen (step.issuedTokens s ++ (step.call.presented ++ seen)) rest

instance decidableTokensUnseen (s : Store) (seen : List ConcurrencyToken) :
    (steps : List Step) → Decidable (s.TokensUnseen seen steps)
  | [] => .isTrue trivial
  | step :: rest =>
    have := decidableTokensUnseen (s.after step)
      (step.issuedTokens s ++ (step.call.presented ++ seen)) rest
    inferInstanceAs (Decidable (_ ∧ _ ∧ _))

theorem issuedTickets_append (s : Store) (xs ys : List Step) :
    s.issuedTickets (xs ++ ys) = s.issuedTickets xs ++ (s.run xs).issuedTickets ys := by
  induction xs generalizing s with
  | nil => rfl
  | cons step xs ih => simp [issuedTickets, ih]

theorem issuedTokens_append (s : Store) (xs ys : List Step) :
    s.issuedTokens (xs ++ ys) = s.issuedTokens xs ++ (s.run xs).issuedTokens ys := by
  induction xs generalizing s with
  | nil => rfl
  | cons step xs ih => simp [issuedTokens, ih]

/-- What repeats no identifier repeats none at its beginning. -/
theorem nodup_issuedTickets {s : Store} {xs ys : List Step}
    (h : (s.issuedTickets (xs ++ ys)).Nodup) : (s.issuedTickets xs).Nodup := by
  rw [issuedTickets_append] at h
  exact (List.nodup_append.1 h).1

theorem nodup_issuedTokens {s : Store} {xs ys : List Step}
    (h : (s.issuedTokens (xs ++ ys)).Nodup) : (s.issuedTokens xs).Nodup := by
  rw [issuedTokens_append] at h
  exact (List.nodup_append.1 h).1

/-- A token seen before a run is not given out by it. -/
theorem TokensUnseen.not_mem_issuedTokens {s : Store} {seen : List ConcurrencyToken}
    {steps : List Step} (h : s.TokensUnseen seen steps) {token : ConcurrencyToken}
    (known : token ∈ seen) : token ∉ s.issuedTokens steps := by
  induction steps generalizing s seen with
  | nil => exact List.not_mem_nil
  | cons step steps ih =>
    obtain ⟨-, unseen, rest⟩ := h
    rw [issuedTokens, List.mem_append]
    rintro (now | later)
    · exact unseen token now (List.mem_append_right _ known)
    · exact ih rest (List.mem_append_right _ (List.mem_append_right _ known)) later

theorem TokensUnseen.nodup {s : Store} {seen : List ConcurrencyToken} {steps : List Step}
    (h : s.TokensUnseen seen steps) : (s.issuedTokens steps).Nodup := by
  induction steps generalizing s seen with
  | nil => exact List.nodup_nil
  | cons step steps ih =>
    obtain ⟨distinct, -, rest⟩ := h
    refine List.nodup_append.2 ⟨distinct, ih rest, ?_⟩
    rintro a now b later rfl
    exact rest.not_mem_issuedTokens (List.mem_append_left _ now) later

/-- A token that a step shows is neither given out by it nor later in the run. -/
theorem TokensUnseen.of_presented {s : Store} {seen : List ConcurrencyToken}
    {before later : List Step} {step : Step} (h : s.TokensUnseen seen (before ++ step :: later))
    {token : ConcurrencyToken} (shown : token ∈ step.call.presented) :
    token ∉ step.issuedTokens (s.run before) ∧
      token ∉ ((s.run before).after step).issuedTokens later := by
  induction before generalizing s seen with
  | nil =>
    obtain ⟨-, unseen, rest⟩ := h
    constructor
    · intro drawn
      exact unseen token drawn (List.mem_append_left _ shown)
    · exact rest.not_mem_issuedTokens (List.mem_append_right _ (List.mem_append_left _ shown))
  | cons first before ih => exact ih h.2.2

/-- Where no identifier repeats, the later part of a run gives out none of the earlier part. -/
theorem not_mem_of_nodup_append {α : Type} {xs ys : List α} (h : (xs ++ ys).Nodup) {a : α}
    (earlier : a ∈ xs) : a ∉ ys :=
  fun later => (List.nodup_append.1 h).2.2 a earlier a later rfl

/-- An element of two parts stands in the first one or in the second one. -/
theorem split_append {α : Type} {xs ys before after : List α} {x : α}
    (h : xs ++ ys = before ++ x :: after) :
    (∃ rest, xs = before ++ x :: rest) ∨
      ∃ middle, before = xs ++ middle ∧ ys = middle ++ x :: after := by
  rcases List.append_eq_append_iff.1 h with ⟨middle, is, later⟩ | ⟨rest, is, later⟩
  · exact .inr ⟨middle, is, later⟩
  · cases rest with
    | nil => exact .inr ⟨[], by rw [is, List.append_nil, List.append_nil], later.symm⟩
    | cons y rest =>
      obtain ⟨rfl, -⟩ := List.cons.inj later
      exact .inl ⟨rest, is⟩

/-- A step of a run stands at one of its places. -/
theorem getElem?_of_split {steps before later : List Step} {step : Step}
    (split : steps = before ++ step :: later) :
    steps[before.length]? = some step ∧ before = steps.take before.length := by
  subst split
  exact ⟨by simp, by simp⟩

/-! A store at work, for looking at a statement about runs in one run. -/

/-- Identifiers that differ from those of another number by the difference. -/
def freshFrom (n : Nat) : Fresh := ⟨fun i => ⟨.ofNat (n + i)⟩, fun i => ⟨.ofNat (n + i)⟩⟩

/-- The message that the publisher below sends to its one queue. -/
def oneMessage : Message where
  id := ⟨.ofNat 7⟩
  messageType := ⟨1⟩
  publisherInstance := ⟨.ofNat 6⟩
  previousMessage := none
  created := default
  validTo := none
  isRecovery := false
  data := []

/-- One publisher, one subscriber, and a message published to it. -/
def oneTicket : List Step := [
  ⟨freshFrom 0, .registerHost ⟨⟨.ofNat 1⟩, "host"⟩⟩,
  ⟨freshFrom 0, .startHostRuntime
    ⟨⟨.ofNat 2⟩, ⟨.ofNat 1⟩, "user", "machine", default, none, .starting⟩⟩,
  ⟨freshFrom 0, .registerScenario ⟨⟨.ofNat 3⟩, "scenario"⟩⟩,
  ⟨freshFrom 0, .registerMessageType ⟨"type", "Type"⟩⟩,
  ⟨freshFrom 0, .registerPublisher ⟨.ofNat 3⟩ ⟨⟨.ofNat 4⟩, "publisher", "type"⟩⟩,
  ⟨freshFrom 0, .registerSubscriber ⟨.ofNat 3⟩ ⟨⟨.ofNat 5⟩, "subscriber", "type", .default⟩⟩,
  ⟨freshFrom 0, .startInstance
    (.publisher (.starting ⟨.ofNat 6⟩ ⟨.ofNat 4⟩ ⟨.ofNat 2⟩ default))⟩,
  ⟨freshFrom 1000, .publish oneMessage [.subscriber ⟨.ofNat 5⟩]⟩]

/-- The ticket of the message as it was published. -/
def ticketAtFirst : Ticket :=
  .fresh ⟨.ofNat 1000⟩ ⟨.ofNat 1000⟩ (.subscriber ⟨.ofNat 5⟩) ⟨.ofNat 7⟩

/-- Two instances of the subscriber. -/
def runner : Consumer := .subscriber ⟨.ofNat 5⟩ ⟨.ofNat 8⟩

def otherRunner : Consumer := .subscriber ⟨.ofNat 5⟩ ⟨.ofNat 9⟩

/-- The claim of the ticket by the first of them. -/
def firstClaim : Step := ⟨freshFrom 2000, .tryClaim ticketAtFirst runner (.ofSecs 30) default⟩

end MessageBus.Store
