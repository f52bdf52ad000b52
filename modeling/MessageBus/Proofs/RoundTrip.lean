import MessageBus.Proofs.Encoding

/-! Payloads that come back from JSON as they were. From a type one can tell that every value of it
does, and so that different values have different texts. -/
namespace MessageBus
namespace Shape
open Json

mutual

/-- Types of whole numbers of 64 bits, truth values, texts, choices, optional values, lists and
records, with at most so many lists and records inside each other. No optional value is directly
inside another, the fields of a record have different names, and the least of these is not the one
that marks texts. -/
def Portable : (depth : Nat) → Shape → Prop
  | _, int _ least greatest => isWholeNumber least = true ∧ isWholeNumber greatest = true
  | depth, optional inner => inner.isOptional = false ∧ Portable depth inner
  | 0, list _ => False
  | depth + 1, list inner => Portable depth inner
  | 0, record _ _ => False
  | depth + 1, record _ fields =>
    (fields.map Prod.fst).Nodup ∧ ¬ Marked fields ∧ PortableFields depth fields
  | _, bool => True
  | _, text => True
  | _, choice _ => True

def PortableFields : (depth : Nat) → List (String × Shape) → Prop
  | _, [] => True
  | depth, (_, shape) :: rest => Portable depth shape ∧ PortableFields depth rest

end

theorem isWholeNumber_of_between {least n greatest : Int} (low : isWholeNumber least = true)
    (high : isWholeNumber greatest = true) (bounds : least ≤ n ∧ n ≤ greatest) :
    isWholeNumber n = true := by
  simp only [isWholeNumber, Bool.and_eq_true, decide_eq_true_eq] at low high ⊢
  exact ⟨Int.le_trans low.1 bounds.1, Int.lt_of_le_of_lt bounds.2 high.2⟩

mutual

theorem plain_of_portable {depth : Nat} : (shape : Shape) → Portable depth shape → Plain shape
  | int _ _ _, _ => trivial
  | bool, _ => trivial
  | text, _ => trivial
  | choice _, _ => trivial
  | optional inner, portable => ⟨portable.1, plain_of_portable inner portable.2⟩
  | list inner, portable => by
    match depth with
    | 0 => exact portable.elim
    | depth + 1 => exact plain_of_portable inner portable
  | record _ fields, portable => by
    match depth with
    | 0 => exact portable.elim
    | depth + 1 => exact ⟨portable.1, plainFields_of_portable fields portable.2.2⟩

theorem plainFields_of_portable {depth : Nat} : (fields : List (String × Shape)) →
    PortableFields depth fields → PlainFields fields
  | [], _ => trivial
  | (_, shape) :: rest, portable =>
    ⟨plain_of_portable shape portable.1, plainFields_of_portable rest portable.2⟩

end

mutual

/-- The values of these types can be read where so many levels can. -/
theorem readable_of_portable {depth limit : Nat} (shallow : depth ≤ limit) : (shape : Shape) →
    (v : shape.Value) → Portable depth shape → Readable limit shape v
  | int _ _ _, _, _ => trivial
  | bool, _, _ => trivial
  | text, _, _ => trivial
  | choice _, _, _ => trivial
  | optional _, none, _ => trivial
  | optional inner, some v, portable => readable_of_portable shallow inner v portable.2
  | list inner, vs, portable => by
    match depth, limit with
    | 0, _ => exact portable.elim
    | depth + 1, limit + 1 =>
      exact fun v _ => readable_of_portable (Nat.le_of_succ_le_succ shallow) inner v portable
  | record _ fields, vs, portable => by
    match depth, limit with
    | 0, _ => exact portable.elim
    | depth + 1, limit + 1 =>
      exact ⟨portable.2.1, readableFields_of_portable (Nat.le_of_succ_le_succ shallow) fields vs
        portable.2.2⟩

theorem readableFields_of_portable {depth limit : Nat} (shallow : depth ≤ limit) :
    (fields : List (String × Shape)) → (vs : Values fields) → PortableFields depth fields →
    ReadableFields limit fields vs
  | [], _, _ => trivial
  | (_, shape) :: rest, (v, vs), portable =>
    ⟨readable_of_portable shallow shape v portable.1,
      readableFields_of_portable shallow rest vs portable.2⟩

end

mutual

/-- And data can hold them. -/
theorem fits_of_portable {depth : Nat} : (shape : Shape) → (v : shape.Value) →
    Portable depth shape → fits shape v = true
  | int _ _ _, n, portable => isWholeNumber_of_between portable.1 portable.2 n.property
  | bool, _, _ => rfl
  | text, _, _ => rfl
  | choice _, _, _ => rfl
  | optional _, none, _ => rfl
  | optional inner, some v, portable => fits_of_portable inner v portable.2
  | list inner, vs, portable => by
    match depth with
    | 0 => exact portable.elim
    | depth + 1 => exact List.all_eq_true.2 fun v _ => fits_of_portable inner v portable
  | record _ fields, vs, portable => by
    match depth with
    | 0 => exact portable.elim
    | depth + 1 => exact fieldsFit_of_portable fields vs portable.2.2

theorem fieldsFit_of_portable {depth : Nat} : (fields : List (String × Shape)) →
    (vs : Values fields) → PortableFields depth fields → fieldsFit fields vs = true
  | [], _, _ => rfl
  | (_, shape) :: rest, (v, vs), portable => Bool.and_eq_true_iff.2
    ⟨fits_of_portable shape v portable.1, fieldsFit_of_portable rest vs portable.2⟩

end

end Shape

namespace Serializer

/-- Every value of such a type is written as JSON and read again as it was, and different values are
written differently. -/
theorem json_round_trip {type : PayloadType} {depth : Nat} (portable : type.shape.Portable depth)
    (shallow : depth < 100) (taken : ∀ v, type.refusal? v = none) :
    (∀ v, ∃ b, json.encode ⟨type, v⟩ = .ok b ∧ json.decode type b = .ok v) ∧
    ∀ v w, v ≠ w → json.encode ⟨type, v⟩ ≠ json.encode ⟨type, w⟩ := by
  have within : depth ≤ Json.depthLimit := Nat.le_trans (Nat.le_of_lt shallow) (by decide)
  have back (v : type.shape.Value) :
      ∃ b, json.encode ⟨type, v⟩ = .ok b ∧ json.decode type b = .ok v := by
    have fit := Shape.fits_of_portable _ v portable
    have written : json.encode ⟨type, v⟩ = .ok (type.shape.encode v).toBytes :=
      encode_json_eq_ok_iff.2 ⟨taken v, fit, rfl⟩
    exact ⟨_, written, decode_json written (Shape.plain_of_portable _ portable)
      (Shape.readable_of_portable within _ v portable)⟩
  refine ⟨back, fun v w other same => other ?_⟩
  obtain ⟨b, written, read⟩ := back v
  obtain ⟨c, writtenToo, readToo⟩ := back w
  cases written.symm.trans (same.trans writtenToo)
  exact Except.ok.inj (read.symm.trans readToo)

def invoice : PayloadType where
  messageType := "billing.invoice-issued"
  typeName := "Invoice"
  shape := .record "Invoice" [("number", .text), ("total_cents", .i64)]
  refusal? _ := none

/-- Its number has a quote, a control character and one outside the basic plane; the sum is the
least one. -/
def oddInvoice : invoice.shape.Value :=
  ("\"\x01😀", ⟨Int64.minValue.toInt, by decide⟩, ())

theorem json_round_trip_invoice : ∃ b, json.encode ⟨invoice, oddInvoice⟩ = .ok b ∧
    json.decode invoice b = .ok oddInvoice := by
  have portable : invoice.shape.Portable 1 :=
    ⟨by decide, fun marked => absurd marked.1 (by decide), trivial, ⟨by decide, by decide⟩, trivial⟩
  exact (json_round_trip portable (by decide) fun _ => rfl).1 oddInvoice

/-- A note whose only field bears the name that marks texts. -/
def markedNote : PayloadType where
  messageType := "notes.marked"
  typeName := "Note"
  shape := .record "Note" [(Json.textKey, .text)]
  refusal? _ := none

/-- Such a note is written, and does not come back: the text of its field is read in its place. -/
theorem marked_note_lost : markedNote.shape.Plain ∧
    ∃ b, json.encode ⟨markedNote, ("7", ())⟩ = .ok b ∧
      ∃ e, json.decode markedNote b = .error e := by
  let b := (markedNote.shape.encode ("7", ())).toBytes
  have unread : (json.decode markedNote b).isOk = false := by decide +kernel
  refine ⟨⟨by decide, trivial, trivial⟩, b, encode_json_eq_ok_iff.2 ⟨rfl, rfl, rfl⟩, ?_⟩
  cases read : json.decode markedNote b with
  | error e => exact ⟨e, rfl⟩
  | ok v =>
    rw [read] at unread
    cases unread

end Serializer
end MessageBus
