import MessageBus.Proofs.Catalog
import MessageBus.Proofs.Delivery

/-! Snapshots by what was done to them. Of a run only those calls count that succeed and are about
the identifier: from what they saved, handed over and deleted one can tell the snapshot that the
store has. -/
namespace MessageBus

/-- What a call does to a snapshot. -/
inductive Upkeep where
  | saved (owner : JobInstanceId) (data : Bytes) (now : Instant)
  | transferred (owner : JobInstanceId) (now : Instant)
  | deleted
  deriving DecidableEq

namespace Upkeep

def isDeletion : Upkeep → Bool
  | deleted => true
  | saved .. | transferred .. => false

/-- The data that are saved, and the time. -/
def save? : Upkeep → Option (Bytes × Instant)
  | saved _ data now => some (data, now)
  | transferred .. | deleted => none

/-- The owner that the snapshot gets, and the time. -/
def handover? : Upkeep → Option (JobInstanceId × Instant)
  | saved owner _ now | transferred owner now => some (owner, now)
  | deleted => none

/-- What was done since the last deletion. -/
def sinceDeletion (history : List Upkeep) : List Upkeep :=
  (history.reverse.takeWhile fun upkeep => !upkeep.isDeletion).reverse

/-- The snapshot that a history leaves, if anything was saved since the last deletion: the data of
the last save, the owner and the time of the last save or transfer, and the time of the first save.
-/
def snapshot? (identifier : SnapshotIdentifier) (history : List Upkeep) : Option Snapshot := do
  let recent := sinceDeletion history
  let (_, created) ← (recent.filterMap save?).head?
  let (data, _) ← (recent.filterMap save?).getLast?
  let (owner, updated) ← (recent.filterMap handover?).getLast?
  return ⟨identifier, owner, data, created, updated⟩

/-- The snapshot that a call makes of the one before it. -/
def appliedTo (identifier : SnapshotIdentifier) (before : Option Snapshot) :
    Upkeep → Option Snapshot
  | saved owner data now =>
    some ⟨identifier, owner, data, (before.map Snapshot.created).getD now, now⟩
  | transferred owner now => before.map ({ · with owner, updated := now })
  | deleted => none

theorem sinceDeletion_concat (history : List Upkeep) (upkeep : Upkeep) :
    sinceDeletion (history ++ [upkeep]) =
      if upkeep.isDeletion then [] else sinceDeletion history ++ [upkeep] := by
  simp only [sinceDeletion, List.reverse_append, List.reverse_singleton, List.singleton_append,
    List.takeWhile_cons]
  cases upkeep.isDeletion <;> simp

/-- After a save there is a last one, and a last owner. -/
theorem lasts_of_saved {recent : List Upkeep} {first : Bytes × Instant}
    (saved : (recent.filterMap save?).head? = some first) :
    (∃ save, (recent.filterMap save?).getLast? = some save) ∧
      ∃ owner, (recent.filterMap handover?).getLast? = some owner := by
  have mem := List.mem_of_head? saved
  obtain ⟨upkeep, done, is⟩ := List.mem_filterMap.1 mem
  have owned : ∃ owner, upkeep.handover? = some owner := by
    cases upkeep with
    | saved owner _ now => exact ⟨_, rfl⟩
    | transferred | deleted => cases is
  obtain ⟨owner, gets⟩ := owned
  have handed := List.mem_filterMap.2 ⟨upkeep, done, gets⟩
  exact ⟨⟨_, List.getLast?_eq_some_getLast (List.ne_nil_of_mem mem)⟩,
    ⟨_, List.getLast?_eq_some_getLast (List.ne_nil_of_mem handed)⟩⟩

theorem snapshot?_concat (identifier : SnapshotIdentifier) (history : List Upkeep)
    (upkeep : Upkeep) :
    snapshot? identifier (history ++ [upkeep]) =
      upkeep.appliedTo identifier (snapshot? identifier history) := by
  simp only [snapshot?, sinceDeletion_concat]
  generalize sinceDeletion history = recent
  cases saved : (recent.filterMap save?).head? with
  | none =>
    have never := List.head?_eq_none_iff.1 saved
    cases upkeep with
    | saved owner data now => simp [isDeletion, appliedTo, never, save?, handover?]
    | transferred owner now => simp [isDeletion, appliedTo, never, save?]
    | deleted => rfl
  | some first =>
    obtain ⟨⟨save, last⟩, owner, handed⟩ := lasts_of_saved saved
    cases upkeep with
    | saved owner data now =>
      simp [isDeletion, appliedTo, saved, last, handed, save?, handover?, List.head?_append]
    | transferred owner now =>
      simp [isDeletion, appliedTo, saved, last, handed, save?, handover?, List.head?_append,
        List.getLast?_append]
    | deleted => rfl

/-- There is no snapshot when nothing was saved since the last deletion. -/
theorem snapshot?_eq_none_iff {identifier : SnapshotIdentifier} {history : List Upkeep} :
    snapshot? identifier history = none ↔
      ∀ upkeep ∈ sinceDeletion history, upkeep.save? = none := by
  rw [← List.filterMap_eq_nil_iff]
  simp only [snapshot?]
  generalize sinceDeletion history = recent
  cases saved : (recent.filterMap save?).head? with
  | none => simp [List.head?_eq_none_iff.1 saved]
  | some first =>
    obtain ⟨⟨save, last⟩, owner, handed⟩ := lasts_of_saved saved
    have some : recent.filterMap save? ≠ [] := List.ne_nil_of_mem (List.mem_of_head? saved)
    simp [last, handed, some]

end Upkeep

namespace Store

/-- What the call does to the snapshot of an identifier when it succeeds. -/
def Call.upkeep? (identifier : SnapshotIdentifier) : Call → Option Upkeep
  | .saveSnapshot owner name data now =>
    if name = identifier then some (.saved owner data now) else none
  | .transferSnapshot owner name now =>
    if name = identifier then some (.transferred owner now) else none
  | .deleteSnapshot name => if name = identifier then some .deleted else none
  | _ => none

def Step.upkeep? (identifier : SnapshotIdentifier) (s : Store) (step : Step) : Option Upkeep :=
  match step.answer s with
  | .ok _ => step.call.upkeep? identifier
  | .error _ => none

/-- What the steps of a run do to the snapshot of an identifier. -/
def upkeep (identifier : SnapshotIdentifier) (s : Store) : List Step → List Upkeep
  | [] => []
  | step :: rest => (step.upkeep? identifier s).toList ++ upkeep identifier (s.after step) rest

theorem upkeep_concat (identifier : SnapshotIdentifier) (s : Store) (steps : List Step)
    (step : Step) : upkeep identifier s (steps ++ [step]) =
      upkeep identifier s steps ++ (step.upkeep? identifier (s.run steps)).toList := by
  induction steps generalizing s with
  | nil => exact List.append_nil _
  | cons first steps ih =>
    rw [List.cons_append, upkeep, ih, upkeep, List.append_assoc]
    rfl

/-! Calls and the table of snapshots. -/

/-- The snapshots of both stores are the same. -/
def SameSnapshots (s t : Store) : Prop := t.snapshots = s.snapshots

theorem SameSnapshots.of_frame {s t u : Store} (frame : t = u)
    (snapshots : u.snapshots = s.snapshots) : SameSnapshots s t := by
  subst frame
  exact snapshots

def Call.writesSnapshots : Call → Bool
  | .saveSnapshot .. | .transferSnapshot .. | .deleteSnapshot _ => true
  | _ => false

theorem perform_sameSnapshots {call : Call} (h : call.writesSnapshots = false) (s : Store)
    (fresh : Fresh) : SameSnapshots s (s.perform fresh call).2 := by
  have confined := perform_confined s fresh call
  cases call with
  | saveSnapshot | transferSnapshot | deleteSnapshot => cases h
  | _ => exact .of_frame confined rfl

theorem saveSnapshot_eq_ok {s t : Store} {owner : JobInstanceId} {identifier : SnapshotIdentifier}
    {data : Bytes} {now : Instant} {row : Snapshot}
    (done : s.saveSnapshot owner identifier data now = (.ok row, t)) :
    t.snapshots = s.snapshots.insert identifier ⟨identifier, owner, data,
      ((s.snapshots.get? identifier).map Snapshot.created).getD now, now⟩ := by
  simp only [saveSnapshot, attempt_eq_ok_iff, bind_eq_ok_iff, pure_eq_ok_iff] at done
  obtain ⟨_, -, is⟩ := done
  cases is
  rfl

theorem transferSnapshot_eq_ok {s t : Store} {owner : JobInstanceId}
    {identifier : SnapshotIdentifier} {now : Instant}
    (done : s.transferSnapshot owner identifier now = (.ok (), t)) :
    ∃ row, s.snapshots.get? identifier = some row ∧
      t.snapshots = s.snapshots.insert identifier { row with owner, updated := now } := by
  simp only [transferSnapshot, attempt_eq_ok_iff, bind_eq_ok_iff, pure_eq_ok_iff] at done
  obtain ⟨_, -, row, there, is⟩ := done
  cases is
  exact ⟨row, require_eq_ok_iff.1 there, rfl⟩

/-- A call that fails leaves the snapshots as they are. -/
theorem sameSnapshots_of_error {s : Store} {step : Step} {e : StoreError}
    (failed : step.answer s = .error e) : SameSnapshots s (s.after step) := by
  obtain ⟨fresh, call⟩ := step
  cases writes : call.writesSnapshots with
  | false => exact perform_sameSnapshots writes s fresh
  | true =>
    cases call with
    | saveSnapshot | transferSnapshot => exact congrArg snapshots (attempt_unchanged failed)
    | deleteSnapshot => cases failed
    | _ => cases writes

/-- What is done under a name is done to the snapshot of that name and to no other. -/
theorem snapshot_of_named {s t : Store} {name identifier : SnapshotIdentifier} {upkeep : Upkeep}
    (own : t.snapshots.get? name = upkeep.appliedTo name (s.snapshots.get? name))
    (other : identifier ≠ name → t.snapshots.get? identifier = s.snapshots.get? identifier) :
    t.snapshots.get? identifier =
      (if name = identifier then some upkeep else none).elim (s.snapshots.get? identifier)
        (Upkeep.appliedTo identifier (s.snapshots.get? identifier)) := by
  by_cases same : name = identifier
  · subst same
    rw [if_pos rfl]
    exact own
  · rw [if_neg same]
    exact other (Ne.symm same)

/-- What a step makes of the snapshot of an identifier. -/
theorem snapshot_after (identifier : SnapshotIdentifier) (s : Store) (step : Step) :
    (s.after step).snapshots.get? identifier =
      (step.upkeep? identifier s).elim (s.snapshots.get? identifier)
        (Upkeep.appliedTo identifier (s.snapshots.get? identifier)) := by
  cases answer : step.answer s with
  | error e =>
    have same := sameSnapshots_of_error answer
    rw [Step.upkeep?, answer, same]
    rfl
  | ok value =>
    rw [Step.upkeep?, answer]
    obtain ⟨fresh, call⟩ := step
    cases writes : call.writesSnapshots with
    | false =>
      have none : call.upkeep? identifier = none := by
        cases call <;> first | rfl | cases writes
      have same := perform_sameSnapshots writes s fresh
      rw [none, after, same]
      rfl
    | true =>
      cases call with
      | saveSnapshot owner name data now =>
        have saved := saveSnapshot_eq_ok (Prod.ext answer rfl)
        refine snapshot_of_named ?_ fun other => ?_
        · rw [after, perform, saved, Table.get?_insert_self]
          rfl
        · rw [after, perform, saved, Table.get?_insert, if_neg other]
      | transferSnapshot owner name now =>
        obtain ⟨row, there, transferred⟩ := transferSnapshot_eq_ok (Prod.ext answer rfl)
        refine snapshot_of_named ?_ fun other => ?_
        · rw [after, perform, transferred, Table.get?_insert_self, there]
          rfl
        · rw [after, perform, transferred, Table.get?_insert, if_neg other]
      | deleteSnapshot name =>
        refine snapshot_of_named ?_ fun other => ?_
        · exact (Table.get?_erase _ _ _).trans (if_pos rfl)
        · exact (Table.get?_erase _ _ _).trans (if_neg other)
      | _ => cases writes

/-- The snapshots of a store are those of their histories. -/
theorem snapshot_run (identifier : SnapshotIdentifier) (steps : List Step) :
    (run .empty steps).snapshots.get? identifier =
      Upkeep.snapshot? identifier (upkeep identifier .empty steps) := by
  refine run_induction (P := fun steps s => s.snapshots.get? identifier =
    Upkeep.snapshot? identifier (upkeep identifier .empty steps)) rfl ?_ steps
  intro steps step ih
  rw [snapshot_after, ih, upkeep_concat]
  cases step.upkeep? identifier (run .empty steps) with
  | none => rw [Option.toList, List.append_nil]; rfl
  | some upkeep => exact (Upkeep.snapshot?_concat identifier _ upkeep).symm

/-- Whatever has been done to a store, the snapshot of an identifier is loaded as its history has
left it, and a deletion says whether there is one. A call that fails or is not about the identifier
leaves it. -/
theorem snapshots_follow_history (identifier : SnapshotIdentifier) (steps : List Step)
    (fresh : Fresh) :
    let s := run .empty steps
    let history := upkeep identifier .empty steps
    let left := Upkeep.snapshot? identifier history
    (s.perform fresh (.loadSnapshot identifier)).1 = .ok left ∧
    (left = none ↔ ∀ upkeep ∈ Upkeep.sinceDeletion history, upkeep.save? = none) ∧
    (s.perform fresh (.deleteSnapshot identifier)).1 = .ok left.isSome ∧
    ∀ step, step.upkeep? identifier s = none →
      ((s.after step).perform fresh (.loadSnapshot identifier)).1 = .ok left := by
  intro s history left
  have is : s.snapshots.get? identifier = left := snapshot_run identifier steps
  have loaded (t : Store) : (t.perform fresh (.loadSnapshot identifier)).1 =
      .ok (t.snapshots.get? identifier) := rfl
  refine ⟨by rw [loaded, is], Upkeep.snapshot?_eq_none_iff, ?_, fun step none => ?_⟩
  · change Except.ok (s.snapshots.contains identifier) = _
    rw [Table.contains, is]
  · rw [loaded, snapshot_after, none, is]
    rfl

/-- The data of the second save, the owner of the transfer, the time of the first save. -/
example (identifier : SnapshotIdentifier) (first second : JobInstanceId) (early late : Bytes)
    (morning noon evening : Instant) :
    Upkeep.snapshot? identifier [.saved first early morning, .saved first late noon,
      .transferred second evening] = some ⟨identifier, second, late, morning, evening⟩ := rfl

end Store
end MessageBus
