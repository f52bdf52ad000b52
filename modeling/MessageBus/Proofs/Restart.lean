import MessageBus.Proofs.Failure
import MessageBus.Proofs.Settling

/-! A second startup with one plan. The first one leaves the components of the plan settled, so that
the second gives their rows again; only its process and its instances are new. -/
namespace MessageBus

/-- What a planned instance is an instance of. -/
inductive PlannedComponent where
  | publisher (id : PublisherId)
  | subscriber (id : SubscriberId)
  | job (name : String)
  deriving DecidableEq

namespace PlannedInstance

def component : PlannedInstance → PlannedComponent
  | publisher id _ => .publisher id
  | subscriber id _ => .subscriber id
  | job name _ => .job name

def ref : PlannedInstance → InstanceRef
  | publisher _ runner => .publisher runner
  | subscriber _ runner => .subscriber runner
  | job _ runner => .job runner

end PlannedInstance

namespace Store
open StartupPlan

/-! Instances. -/

section
variable {s t : Store}

/-- The component of an instance is there. -/
def HasComponent (s : Store) : InstanceRecord → Prop
  | .publisher row => ∃ component, s.publishers.get? row.component = some component
  | .subscriber row => ∃ component, s.subscribers.get? row.component = some component
  | .job row => ∃ component, s.jobs.get? row.component = some component

theorem requireParts_eq_ok_iff {record : InstanceRecord} :
    s.requireParts record = .ok () ↔
      (∃ runtime, s.runtimes.get? record.hostRuntime = some runtime) ∧ s.HasComponent record := by
  unfold requireParts HasComponent
  cases record <;> simp [require_eq_ok_iff]

theorem HasComponent.of_same {record : InstanceRecord} (h : s.HasComponent record)
    (same : SameCatalog s t) : t.HasComponent record := by
  cases record with
  | publisher row =>
    rw [HasComponent, same.publishers]
    exact h
  | subscriber row =>
    rw [HasComponent, same.subscribers]
    exact h
  | job row =>
    rw [HasComponent, same.jobs]
    exact h

theorem startInstance_eq_ok_iff {record : InstanceRecord} :
    s.startInstance record = (.ok (), t) ↔ s.requireParts record = .ok () ∧
      s.hasInstance record.ref = false ∧ t = s.putInstance record := by
  cases parts : s.requireParts record with
  | error e =>
    rw [startInstance_of_missing parts]
    simp
  | ok =>
    rw [startInstance_of_parts parts]
    cases s.hasInstance record.ref <;> simp [eq_comm (b := t)]

/-- Instances that were started have their components. -/
theorem hasComponent_of_started {record : PlannedInstance → Except StoreError InstanceRecord}
    {instances : List PlannedInstance} {rows : List InstanceRecord}
    (done : (startInstances registrar record instances).run s = (.ok rows, t)) :
    SameCatalog s t ∧
      ∀ planned ∈ instances, ∃ row, record planned = .ok row ∧ s.HasComponent row := by
  induction instances generalizing s rows with
  | nil =>
    cases done
    exact ⟨.refl _, nofun⟩
  | cons planned instances ih =>
    obtain ⟨row, s₁, is, done⟩ := run_bind_eq_ok done
    obtain ⟨_, s₂, started, done⟩ := run_bind_eq_ok done
    obtain ⟨rest, s₃, later, done⟩ := run_bind_eq_ok done
    cases done
    cases found : record planned with
    | error e =>
      rw [found] at is
      cases is
    | ok own =>
      rw [found] at is
      cases is
      obtain ⟨parts, -, rfl⟩ := startInstance_eq_ok_iff.1 started
      have same := SameCatalog.putInstance s row
      obtain ⟨more, components⟩ := ih later
      refine ⟨same.trans more, List.forall_mem_cons.2 ⟨⟨row, found, ?_⟩, fun planned mem => ?_⟩⟩
      · exact (requireParts_eq_ok_iff.1 parts).2
      · obtain ⟨other, is, component⟩ := components planned mem
        exact ⟨other, is, component.of_same same.symm⟩

end

/-! A whole plan again. -/

theorem startUp_eq_ok_iff {s t : Store} (h : Catalogued s) {plan : StartupPlan} (fresh : Fresh)
    {now : Instant} {receipt : StartupReceipt} :
    s.startUp plan now = (.ok receipt, t) ↔
      ∃ base u, (componentsOf fresh plan now).run s = (.ok base, u) ∧
        (startPlanned plan now base).run u = (.ok receipt, t) := by
  have alike : EndsAs (fun a b _ => a = b) ((plan.carryOut registrar now).run s)
      ((componentsOf fresh plan now >>= startPlanned plan now).run s) :=
    carryOut_endsAs h fresh plan now fun _ _ _ => (EndsAs.same _ _).mono fun _ _ _ => And.left
  have whole : s.startUp plan now = (.ok receipt, t) ↔
      (componentsOf fresh plan now >>= startPlanned plan now).run s = (.ok receipt, t) := by
    unfold startUp
    generalize (plan.carryOut registrar now).run s = x at alike ⊢
    generalize (componentsOf fresh plan now >>= startPlanned plan now).run s = y at alike ⊢
    cases alike with
    | ok same =>
      cases same
      rfl
    | error => exact ⟨nofun, nofun⟩
  refine whole.trans ⟨run_bind_eq_ok, ?_⟩
  rintro ⟨base, u, first, last⟩
  rw [run_bind_of_ok first, last]

/-- A startup that succeeds has settled the components of its plan and then started the instances. -/
theorem settled_of_startUp {s t : Store} (h : Catalogued s) {plan : StartupPlan} {now : Instant}
    {receipt : StartupReceipt} (done : s.startUp plan now = (.ok receipt, t)) :
    ∃ base rows u, receipt = { base with instances := rows } ∧
      (startInstances registrar (recordFor base now) plan.instances).run u = (.ok rows, t) ∧
      SameCatalog u t ∧ Settled t plan base ∧
      t.subscribers = s.subscribers.insertAll Subscriber.id base.subscribers ∧
      t.jobs = s.jobs.insertAll Job.id base.jobs := by
  obtain ⟨base, u, registered, started⟩ := (startUp_eq_ok_iff h (freshFrom 0)).1 done
  obtain ⟨settled, -, subscribers, jobs⟩ := settled_of_components h registered
  obtain ⟨rows, _, started, ends⟩ := run_bind_eq_ok started
  cases ends
  have same := (hasComponent_of_started started).1
  refine ⟨base, rows, u, rfl, started, same, settled.of_same same, ?_, ?_⟩
  · rw [same.subscribers, subscribers]
  · rw [same.jobs, jobs]

end Store
end MessageBus
