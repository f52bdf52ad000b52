import MessageBus.Key
import MessageBus.Text.Blank
import MessageBus.Text.Utf8
import MessageBus.Time.Instant

/-! Checkpoints of jobs, stored under an identifier that the application chooses. -/
namespace MessageBus

structure SnapshotIdentifier where
  text : String
  deriving DecidableEq

namespace SnapshotIdentifier

/-- The greatest length, in octets. -/
def maxLength : Nat := 256

/-- An identifier must show something and must not be too long. -/
def ofText (text : String) : Except DomainError SnapshotIdentifier :=
  if Text.isAllBlank text then .error (.invalidId "SnapshotIdentifier cannot be empty")
  else if maxLength < text.utf8ByteSize then
    .error (.invalidId s!"SnapshotIdentifier exceeds {maxLength} characters")
  else .ok ⟨text⟩

instance : ToString SnapshotIdentifier := ⟨text⟩

instance : Shown SnapshotIdentifier := ⟨fun i => s!"SnapshotIdentifier({shown i.text})"⟩

end SnapshotIdentifier

structure Snapshot where
  identifier : SnapshotIdentifier
  owner : JobInstanceId
  data : Bytes
  created : Instant
  updated : Instant
  deriving DecidableEq

end MessageBus
