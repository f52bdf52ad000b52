import MessageBus.Database.Record
import MessageBus.Json.RowForm
import MessageBus.Proofs.Checkpoints
import MessageBus.Proofs.ClaimReply
import MessageBus.Proofs.TicketRows

/-! Identifiers of snapshots. One that is new is checked, and so is one that comes back in a row of a
database; one that is read from data is not. In memory a snapshot is loaded back under either; in a
database it is written under either, but comes back only where the check lets it. -/
namespace MessageBus

theorem Text.isAllBlank_eq_false_iff {s : String} :
    isAllBlank s = false ↔ ∃ c ∈ s.toList, isBlank c = false := by
  simp [isAllBlank]

namespace SnapshotIdentifier

/-- The identifier has a character that shows, and is not too long. -/
structure Valid (i : SnapshotIdentifier) : Prop where
  visible : ∃ c ∈ i.text.toList, Text.isBlank c = false
  short : i.text.utf8ByteSize ≤ maxLength

theorem ofText_eq_ok_iff {text : String} {i : SnapshotIdentifier} :
    ofText text = .ok i ↔ i.text = text ∧ i.Valid := by
  unfold ofText
  split
  · next blank =>
    refine ⟨nofun, ?_⟩
    rintro ⟨rfl, valid⟩
    cases blank.symm.trans (Text.isAllBlank_eq_false_iff.2 valid.visible)
  · next shown =>
    split
    · next long =>
      refine ⟨nofun, ?_⟩
      rintro ⟨rfl, valid⟩
      exact absurd valid.short (Nat.not_le.2 long)
    · next short =>
      constructor
      · rintro ⟨⟩
        have visible := Text.isAllBlank_eq_false_iff.1 (Bool.eq_false_iff.2 shown)
        exact ⟨rfl, visible, Nat.not_lt.1 short⟩
      · rintro ⟨rfl, -⟩
        rfl

/-- Data are read as an identifier exactly if they are a text, whatever it is. -/
theorem ofJson?_eq_some_iff {j : Json} {i : SnapshotIdentifier} :
    ofJson? j = some i ↔ j = .string i.text := by
  obtain ⟨text⟩ := i
  cases j <;> simp [ofJson?, eq_comm]

end SnapshotIdentifier

namespace Store

/-- Steps that do nothing to a snapshot leave it. -/
theorem snapshot_run_of_untouched {identifier : SnapshotIdentifier} {s : Store} {steps : List Step}
    (untouched : upkeep identifier s steps = []) :
    (s.run steps).snapshots.get? identifier = s.snapshots.get? identifier := by
  induction steps generalizing s with
  | nil => rfl
  | cons step steps ih =>
    obtain ⟨first, rest⟩ := List.append_eq_nil_iff.1 untouched
    rw [run_cons, ih rest, snapshot_after, Option.toList_eq_nil_iff.1 first]
    rfl

/-- Whoever is a registered instance saves a snapshot under the identifier, and until something is
done to it the same snapshot is loaded back. -/
def LoadsBack (identifier : SnapshotIdentifier) : Prop :=
  ∀ (s : Store) (fresh : Fresh) (owner : JobInstanceId) (data : Bytes) (now : Instant),
    s.jobInstances.contains owner = true → ∃ created,
      let step : Step := ⟨fresh, .saveSnapshot owner identifier data now⟩
      let row : Snapshot := ⟨identifier, owner, data, created, now⟩
      step.answer s = .ok row ∧
      ∀ steps, upkeep identifier (s.after step) steps = [] → ∀ later,
        (((s.after step).run steps).perform later (.loadSnapshot identifier)).1 = .ok (some row)

theorem loadsBack (identifier : SnapshotIdentifier) : LoadsBack identifier := by
  intro s fresh owner data now registered
  obtain ⟨runner, found⟩ := Option.isSome_iff_exists.1 registered
  have there : require s.jobInstances "job instance" owner = .ok runner :=
    require_eq_ok_iff.2 found
  refine ⟨((s.snapshots.get? identifier).map Snapshot.created).getD now, ?_, ?_⟩
  · change (s.saveSnapshot owner identifier data now).1 = _
    rw [saveSnapshot, there]
    rfl
  · intro steps untouched later
    change Except.ok ((run _ steps).snapshots.get? identifier) = _
    rw [snapshot_run_of_untouched untouched]
    change Except.ok ((s.saveSnapshot owner identifier data now).2.snapshots.get? identifier) = _
    rw [saveSnapshot, there]
    exact congrArg Except.ok (Table.get?_insert_self ..)

end Store

namespace Database
variable {α : Type}

/-- The row of a snapshot, column by column as a save writes it. -/
def rowOfSnapshot (x : Snapshot) : SqlRow :=
  let column (name : String) (param : SqlParam) := (name, param.stored?)
  [column "identifier" (.text x.identifier.text),
    column "id_job_instance" (.uuid x.owner.uuid),
    column "data" (.bytes x.data),
    column "created_utc" (.time x.created),
    column "updated_utc" (.time x.updated)]

/-- The snapshot as a database keeps it: times have no parts of a microsecond. -/
def keptSnapshot (x : Snapshot) : Snapshot :=
  { x with created := wholeMicros x.created, updated := wholeMicros x.updated }

theorem snapshotOfRow_rowOfSnapshot (x : Snapshot) : snapshotOfRow (rowOfSnapshot x) = do
    let identifier ← (SnapshotIdentifier.ofText x.identifier.text).mapError .domain
    return { keptSnapshot x with identifier } := by
  rfl

theorem snapshotOfRow_rowOfSnapshot_of_valid {x : Snapshot} (valid : x.identifier.Valid) :
    snapshotOfRow (rowOfSnapshot x) = .ok (keptSnapshot x) := by
  have passes : SnapshotIdentifier.ofText x.identifier.text = .ok x.identifier :=
    SnapshotIdentifier.ofText_eq_ok_iff.2 ⟨rfl, valid⟩
  rw [snapshotOfRow_rowOfSnapshot, passes]
  rfl

theorem snapshotOfRow_rowOfSnapshot_of_error {x : Snapshot} {e : DomainError}
    (refused : SnapshotIdentifier.ofText x.identifier.text = .error e) :
    snapshotOfRow (rowOfSnapshot x) = .error (.domain e) := by
  rw [snapshotOfRow_rowOfSnapshot, refused]
  rfl

theorem mapError_eq_ok_iff {ε δ : Type} {x : Except ε α} {f : ε → δ} {a : α} :
    x.mapError f = .ok a ↔ x = .ok a := by
  cases x <;> simp [Except.mapError]

/-- Whatever the row, a snapshot that is read from it has a valid identifier. -/
theorem valid_of_snapshotOfRow {row : SqlRow} {x : Snapshot} (read : snapshotOfRow row = .ok x) :
    x.identifier.Valid := by
  simp only [snapshotOfRow, Store.bind_eq_ok_iff, Store.pure_eq_ok_iff] at read
  obtain ⟨text, -, owner, -, data, -, created, -, updated, -, identifier, checked, rfl⟩ := read
  exact (SnapshotIdentifier.ofText_eq_ok_iff.1 (mapError_eq_ok_iff.1 checked)).2

/-! What is said for a snapshot. -/

/-- One statement was sent, and this row came back for it. -/
def Gave (said : List Exchange) (row : SqlRow) : Prop :=
  ∃ sql params reply, said = [⟨.execute sql params, .ok reply⟩] ∧ reply.rows.head? = some row

namespace Ends
variable {operation sql : String} {params : List SqlParam} {sent : List Exchange}
variable {ofRow : SqlRow → Except StoreError α}

theorem row {outcome : Except StoreError SqlRow}
    (h : Ends (Session.row operation sql params).run sent outcome) :
    ∃ answer, sent = [⟨.execute sql params, answer⟩] ∧
      ∀ row, Gave sent row → outcome = .ok row := by
  rcases h.bind_cases with ⟨e, failed, rfl⟩ | ⟨reply, first, rest, rfl, early, late⟩
  · obtain ⟨answer, rfl, is⟩ := failed.execute
    refine ⟨answer, rfl, ?_⟩
    -- A statement that failed gave no row.
    rintro row ⟨_, _, reply, ⟨⟩, -⟩
    cases is
  · obtain ⟨answer, rfl, is⟩ := early.execute
    cases answer with
    | error f => cases is
    | ok answered =>
      cases is
      split at late
      · next front others rows =>
        obtain ⟨rfl, rfl⟩ := late.of_done
        refine ⟨_, rfl, ?_⟩
        rintro row ⟨_, _, _, ⟨⟩, head⟩
        rw [rows] at head
        cases head
        rfl
      · next rows =>
        obtain ⟨rfl, rfl⟩ := late.of_done
        refine ⟨_, rfl, ?_⟩
        rintro row ⟨_, _, _, ⟨⟩, head⟩
        rw [rows] at head
        cases head

/-- A statement that must give a row, which is then read. -/
theorem readRow {outcome : Except StoreError α}
    (h : Ends (Session.row operation sql params >>= Database.readRow ofRow).run sent outcome) :
    ∃ answer, sent = [⟨.execute sql params, answer⟩] ∧
      ∀ row, Gave sent row → outcome = ofRow row := by
  rcases h.bind_cases with ⟨e, failed, rfl⟩ | ⟨given, first, rest, rfl, early, late⟩
  · obtain ⟨answer, is, gives⟩ := failed.row
    refine ⟨answer, is, fun row gave => ?_⟩
    cases gives row gave
  · obtain ⟨answer, rfl, gives⟩ := early.row
    obtain ⟨rfl, rfl⟩ := late.of_pure
    refine ⟨answer, rfl, fun row gave => ?_⟩
    cases gives row gave
    rfl

/-- A statement that may give a row, which is then read. -/
theorem readRow? {outcome : Except StoreError (Option α)}
    (h : Ends (Session.row? operation sql params >>= Database.readRow? ofRow).run sent outcome) :
    ∃ answer, sent = [⟨.execute sql params, answer⟩] ∧
      ∀ row, Gave sent row → outcome = (ofRow row).map some := by
  rcases h.bind_cases with ⟨e, failed, rfl⟩ | ⟨given, first, rest, rfl, early, late⟩
  · obtain ⟨answer, rfl, is⟩ := failed.row?
    refine ⟨answer, rfl, ?_⟩
    rintro row ⟨_, _, reply, ⟨⟩, -⟩
    cases is
  · obtain ⟨answer, rfl, is⟩ := early.row?
    obtain ⟨rfl, rfl⟩ := late.of_pure
    refine ⟨answer, rfl, ?_⟩
    rintro row ⟨_, _, reply, ⟨⟩, head⟩
    cases is
    dsimp only
    rw [head]
    rfl

end Ends

/-- When the row of a snapshot comes back, the session ends with what is made of the snapshot if its
identifier is valid, and otherwise with the fault for which a new one would be refused. -/
def Rechecks (make : Snapshot → α) (work : Session α) : Prop :=
  ∀ (db : Script) (x : Snapshot),
    let (said, outcome) := converse db [] work.run
    Gave said (rowOfSnapshot x) →
      (x.identifier.Valid → outcome = .ok (make (keptSnapshot x))) ∧
      ∀ e, SnapshotIdentifier.ofText x.identifier.text = .error e → outcome = .error (.domain e)

theorem Rechecks.of_reads {make : Snapshot → α} {work : Session α}
    (reads : ∀ sent outcome, Ends work.run sent outcome → ∀ row, Gave sent row →
      outcome = (snapshotOfRow row).map make) : Rechecks make work := by
  intro db x
  have read := reads _ _ (converse_ends db [] work.run) (rowOfSnapshot x)
  refine fun gave => ⟨fun valid => ?_, fun e refused => ?_⟩
  · rw [read gave, snapshotOfRow_rowOfSnapshot_of_valid valid]
    rfl
  · rw [read gave, snapshotOfRow_rowOfSnapshot_of_error refused]
    rfl

theorem saveSnapshot_rechecks (owner : JobInstanceId) (identifier : SnapshotIdentifier)
    (data : Bytes) (now : Instant) : Rechecks id (saveSnapshot owner identifier data now) := by
  refine .of_reads fun sent outcome ends row gave => ?_
  obtain ⟨answer, -, reads⟩ := Ends.readRow ends
  rw [reads row gave]
  cases snapshotOfRow row <;> rfl

theorem loadSnapshot_rechecks (identifier : SnapshotIdentifier) :
    Rechecks some (loadSnapshot identifier) := by
  refine .of_reads fun sent outcome ends row gave => ?_
  obtain ⟨answer, -, reads⟩ := Ends.readRow? ends
  exact reads row gave

/-- The session sends one statement, with the columns of the snapshot but for the time of its first
save. -/
def SendsColumns (x : Snapshot) (work : Session α) : Prop :=
  ∀ sent outcome, Ends work.run sent outcome → ∃ sql params answer,
    sent = [⟨.execute sql params, answer⟩] ∧
      params.map SqlParam.stored? =
        ["identifier", "id_job_instance", "data", "updated_utc"].map fun name =>
          (List.lookup name (rowOfSnapshot x)).join

/-- Whatever the identifier, a save writes the snapshot. -/
theorem saveSnapshot_sends (owner : JobInstanceId) (identifier : SnapshotIdentifier) (data : Bytes)
    (now : Instant) : SendsColumns ⟨identifier, owner, data, now, now⟩
      (saveSnapshot owner identifier data now) := by
  intro sent outcome ends
  obtain ⟨answer, is, -⟩ := Ends.readRow ends
  exact ⟨_, _, answer, is, rfl⟩

/-- A new identifier is accepted exactly if it is valid, while it is read from data whatever it is;
the two agree on the valid ones and on no others. In memory snapshots are loaded back under all
identifiers. In a database they are written under all of them, and come back, from the save itself
and from then on, under the valid ones only. -/
theorem identifier_checked_iff_valid (i : SnapshotIdentifier) :
    (∀ text, SnapshotIdentifier.ofText text = .ok i ↔ i.text = text ∧ i.Valid) ∧
    (∀ j : Json, ofJson? j = some i ↔ j = .string i.text) ∧
    (((∃ k : SnapshotIdentifier, ofJson? (.string i.text) = some k) ↔
      ∃ k, SnapshotIdentifier.ofText i.text = .ok k) ↔ i.Valid) ∧
    Store.LoadsBack i ∧
    (∀ owner data now,
      SendsColumns ⟨i, owner, data, now, now⟩ (saveSnapshot owner i data now) ∧
      Rechecks id (saveSnapshot owner i data now)) ∧
    Rechecks some (loadSnapshot i) ∧
    ∀ row x, snapshotOfRow row = .ok x → x.identifier = i → i.Valid := by
  refine ⟨fun text => SnapshotIdentifier.ofText_eq_ok_iff,
    fun j => SnapshotIdentifier.ofJson?_eq_some_iff, ?_, Store.loadsBack i,
    fun owner data now => ⟨saveSnapshot_sends owner i data now,
      saveSnapshot_rechecks owner i data now⟩, loadSnapshot_rechecks i, ?_⟩
  · have read : ∃ k : SnapshotIdentifier, ofJson? (.string i.text) = some k :=
      ⟨i, SnapshotIdentifier.ofJson?_eq_some_iff.2 rfl⟩
    simp only [read, true_iff]
    constructor
    · rintro ⟨k, accepted⟩
      obtain ⟨same, valid⟩ := SnapshotIdentifier.ofText_eq_ok_iff.1 accepted
      have is : k = i := congrArg SnapshotIdentifier.mk same
      exact is ▸ valid
    · intro valid
      exact ⟨i, SnapshotIdentifier.ofText_eq_ok_iff.2 ⟨rfl, valid⟩⟩
  · rintro row x read rfl
    exact valid_of_snapshotOfRow read

/-- A checkpoint of an import. -/
def importSnapshot : Snapshot := ⟨⟨"import/2024"⟩, ⟨.ofNat 8⟩, [1, 2, 255], default, default⟩

/-- A database that answers every statement with this row. -/
def answering (row : SqlRow) : Script := fun _ request =>
  match request with
  | .execute .. => .ok ⟨[row], 1⟩
  | .acquire => .ok ()
  | .begin => .ok ()
  | .commit => .ok ()
  | .rollback => .ok ()
  | .abandon => ()

theorem identifier_checked_iff_valid_import :
    importSnapshot.identifier.Valid ∧
      (converse (answering (rowOfSnapshot importSnapshot)) []
        (loadSnapshot importSnapshot.identifier).run).2 =
          .ok (some (keptSnapshot importSnapshot)) := by
  obtain ⟨accepted, -, -, -, -, loads, -⟩ :=
    identifier_checked_iff_valid importSnapshot.identifier
  have valid := ((accepted "import/2024").1 (by decide +kernel)).2
  have given := loads (answering (rowOfSnapshot importSnapshot)) importSnapshot
  exact ⟨valid, (given ⟨_, _, _, rfl, rfl⟩).1 valid⟩

/-- A text of blanks is refused as a new identifier and is read as one from data. The row of a
snapshot under it is refused as well. -/
theorem blank_identifier_read :
    let x := { importSnapshot with identifier := ⟨"  "⟩ }
    ofJson? (.string "  ") = some x.identifier ∧
    SnapshotIdentifier.ofText "  " = .error (.invalidId "SnapshotIdentifier cannot be empty") ∧
    snapshotOfRow (rowOfSnapshot x) =
      .error (.domain (.invalidId "SnapshotIdentifier cannot be empty")) := by
  decide +kernel

end Database
end MessageBus
