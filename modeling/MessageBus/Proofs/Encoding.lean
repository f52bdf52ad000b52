import MessageBus.Payload.Serializer
import MessageBus.Proofs.JsonText

/-! Decoding undoes encoding, for values of types that can be told apart by their data. -/
namespace MessageBus
namespace Shape
open Json

def isOptional : Shape → Bool
  | optional _ => true
  | _ => false

/-- The names of the fields, with that of a marked text first. -/
def Marked (fields : List (String × Shape)) : Prop :=
  textKey ∈ fields.map Prod.fst ∧ ∀ name ∈ fields.map Prod.fst, ¬ name < textKey

mutual

/-- Types whose values can be told apart by their data: no optional value is directly inside
another, and the fields of a record have different names. -/
def Plain : Shape → Prop
  | optional inner => inner.isOptional = false ∧ Plain inner
  | list inner => Plain inner
  | record _ fields => (fields.map Prod.fst).Nodup ∧ PlainFields fields
  | int .. | bool | text | choice _ => True

def PlainFields : List (String × Shape) → Prop
  | [] => True
  | (_, shape) :: rest => Plain shape ∧ PlainFields rest

end

/-- The values in a list. -/
def items {inner : Shape} (vs : (list inner).Value) : List inner.Value := vs

mutual

/-- Values whose text can be read again: they have at most so many lists and records inside each
other, and the first of the fields of a record, in the order of the names, does not bear the name that
marks texts. -/
def Readable : (depth : Nat) → (shape : Shape) → shape.Value → Prop
  | _, int _ _ _, _ => True
  | _, optional _, none => True
  | depth, optional inner, some v => Readable depth inner v
  | 0, list _, _ => False
  | depth + 1, list inner, vs => ∀ v ∈ items vs, Readable depth inner v
  | 0, record _ _, _ => False
  | depth + 1, record _ fields, vs => ¬ Marked fields ∧ ReadableFields depth fields vs
  | _, bool, _ => True
  | _, text, _ => True
  | _, choice _, _ => True

def ReadableFields : (depth : Nat) → (fields : List (String × Shape)) → Values fields → Prop
  | _, [], _ => True
  | depth, (_, shape) :: rest, (v, vs) => Readable depth shape v ∧ ReadableFields depth rest vs

end

/-- The fields are written under their names. -/
theorem map_encodeFields (fields : List (String × Shape)) (vs : Values fields) :
    (encodeFields fields vs).map Prod.fst = fields.map Prod.fst := by
  induction fields with
  | nil => simp [encodeFields]
  | cons field fields ih =>
    obtain ⟨name, shape⟩ := field
    obtain ⟨v, vs⟩ := vs
    rw [encodeFields, List.map_cons, List.map_cons, ih]

/-- The first member of a record is the one with the least name. -/
theorem unmarked_encodeFields {fields : List (String × Shape)} {vs : Values fields}
    (distinct : (fields.map Prod.fst).Nodup) (unmarked : ¬ Marked fields) :
    ∀ m ∈ (setMembers (encodeFields fields vs) []).head?, m.1 ≠ textKey := by
  intro m first marked
  have sorted : (setMembers (encodeFields fields vs) []).Pairwise fun m n => m.1 < n.1 :=
    sorted_setMembers .nil
  rw [← map_encodeFields fields vs] at distinct
  have names := keys_setMembers distinct
  rw [map_encodeFields] at names
  obtain ⟨rest, is⟩ := List.head?_eq_some_iff.1 first
  rw [is] at sorted names
  refine unmarked ⟨?_, fun name mem less => ?_⟩
  · rw [← names, ← marked]
    exact List.mem_cons_self
  · rcases List.mem_cons.1 ((names name).2 mem) with rfl | mem
    · exact String.lt_irrefl _ (marked ▸ less)
    · obtain ⟨n, later, rfl⟩ := List.mem_map.1 mem
      exact String.lt_asymm ((List.pairwise_cons.1 sorted).1 n later) (marked ▸ less)

mutual

theorem legible_encode {depth : Nat} : (shape : Shape) → (v : shape.Value) → Plain shape →
    Readable depth shape v → fits shape v = true → Legible depth (encode shape v)
  | int _ _ _, _, _, _, fit => .int fit
  | bool, b, _, _, _ => .bool b
  | text, s, _, _, _ => .string s
  | choice _, name, _, _, _ => .string name.val
  | optional _, none, _, _, _ => .null
  | optional inner, some v, plain, readable, fit => legible_encode inner v plain.2 readable fit
  | list inner, vs, plain, readable, fit => by
    match depth with
    | 0 => exact readable.elim
    | depth + 1 =>
      refine .array fun j mem => ?_
      obtain ⟨v, item, rfl⟩ := List.mem_map.1 mem
      exact legible_encode inner v plain (readable v item) (List.all_eq_true.1 fit v item)
  | record _ fields, vs, plain, readable, fit => by
    match depth with
    | 0 => exact readable.elim
    | depth + 1 =>
      refine .object (sorted_setMembers .nil) (unmarked_encodeFields plain.1 readable.1) ?_
      intro m mem
      rcases mem_setMembers mem with mem | mem
      · exact legible_encodeFields fields vs plain.2 readable.2 fit m mem
      · cases mem

theorem legible_encodeFields {depth : Nat} : (fields : List (String × Shape)) →
    (vs : Values fields) → PlainFields fields → ReadableFields depth fields vs →
    fieldsFit fields vs = true → ∀ m ∈ encodeFields fields vs, Legible depth m.2
  | [], _, _, _, _ => fun m mem => by cases mem
  | (name, shape) :: rest, (v, vs), plain, readable, fit => fun m mem => by
    obtain ⟨first, others⟩ := Bool.and_eq_true_iff.1 fit
    rcases List.mem_cons.1 mem with rfl | mem
    · exact legible_encode shape v plain.1 readable.1 first
    · exact legible_encodeFields rest vs plain.2 readable.2 others m mem

end

/-- No value but the missing one of an optional type is written as `null`. -/
theorem encode_ne_null {shape : Shape} (v : shape.Value) (plain : shape.isOptional = false) :
    encode shape v ≠ .null := by
  cases shape with
  | optional => cases plain
  | _ => rw [encode]; rintro ⟨⟩

section
variable {inner shape : Shape} {name : String} {fields : List (String × Shape)}
  {members : List (String × Json)}

theorem decode_optional {j : Json} (present : j ≠ .null) :
    decode (optional inner) j =
      (decode inner j).map (some : inner.Value → Option inner.Value) := by
  cases j with
  | null => exact absurd rfl present
  | _ => rfl

theorem decode_list (js : List Json) :
    decode (list inner) (.array js) = (js.mapM (decode inner) : Except Misfit (List _)) := rfl

/-- A record is read field by field when the member of each field fits. -/
theorem decode_record (fit : misfits fields members = []) :
    decode (record name fields) (.object members) = decodeMembers fields members := by
  rw [decode.eq_def]
  dsimp only
  rw [fit, List.findSome?_eq_none_iff.2]
  intro m _
  rfl

theorem misfits_cons {j : Json} {v : shape.Value} (found : members.lookup name = some j)
    (read : decode shape j = .ok v) :
    misfits ((name, shape) :: fields) members = misfits fields members := by
  rw [misfits, found, Option.map_some, read]

theorem decodeMembers_cons {j : Json} {v : shape.Value} {vs : Values fields}
    (found : members.lookup name = some j) (read : decode shape j = .ok v)
    (rest : decodeMembers fields members = .ok vs) :
    decodeMembers ((name, shape) :: fields) members = .ok (v, vs) := by
  rw [decodeMembers, found]
  dsimp only
  rw [read, rest]
  rfl

end

theorem mapM_map_of_ok {α β ε : Type} {f : β → Except ε α} {g : α → β} {as : List α}
    (h : ∀ a ∈ as, f (g a) = .ok a) : (as.map g).mapM f = .ok as := by
  induction as with
  | nil => rfl
  | cons a as ih =>
    rw [List.map_cons, List.mapM_cons, h a List.mem_cons_self,
      ih fun b mem => h b (List.mem_cons_of_mem _ mem)]
    rfl

mutual

/-- Decoding undoes encoding. -/
theorem decode_encode : (shape : Shape) → (v : shape.Value) → Plain shape →
    decode shape (encode shape v) = .ok v
  | int _ least greatest, ⟨n, bounds⟩, _ => dif_pos bounds
  | bool, b, _ => rfl
  | text, s, _ => rfl
  | choice names, ⟨name, known⟩, _ => dif_pos known
  | optional _, none, _ => rfl
  | optional inner, some v, plain => by
    refine (decode_optional (encode_ne_null v plain.1)).trans ?_
    rw [decode_encode inner v plain.2]
    rfl
  | list inner, vs, plain =>
    (decode_list _).trans (mapM_map_of_ok fun v _ => decode_encode inner v plain)
  | record _ fields, vs, plain => by
    have distinct : ((encodeFields fields vs).map Prod.fst).Nodup :=
      map_encodeFields fields vs ▸ plain.1
    have found (m) (mem : m ∈ encodeFields fields vs) :
        (setMembers (encodeFields fields vs) []).lookup m.1 = some m.2 :=
      lookup_setMembers distinct mem
    obtain ⟨fit, made⟩ := decodeMembers_encodeFields fields vs _ plain.2 found
    exact (decode_record fit).trans made

theorem decodeMembers_encodeFields : (fields : List (String × Shape)) → (vs : Values fields) →
    (members : List (String × Json)) → PlainFields fields →
    (∀ m ∈ encodeFields fields vs, members.lookup m.1 = some m.2) →
    misfits fields members = [] ∧ decodeMembers fields members = .ok vs
  | [], _, _, _, _ => ⟨rfl, rfl⟩
  | (name, shape) :: rest, (v, vs), members, plain, found => by
    have first := found _ List.mem_cons_self
    have read := decode_encode shape v plain.1
    obtain ⟨fit, made⟩ := decodeMembers_encodeFields rest vs members plain.2 fun m mem =>
      found m (List.mem_cons_of_mem _ mem)
    exact ⟨(misfits_cons first read).trans fit, decodeMembers_cons first read made⟩

end

end Shape

/-- What was written as JSON is read again as it was. -/
theorem Serializer.decode_json {payload : Payload} {b : Bytes}
    (written : Serializer.json.encode payload = .ok b) (plain : payload.type.shape.Plain)
    (readable : Shape.Readable Json.depthLimit payload.type.shape payload.value) :
    Serializer.json.decode payload.type b = .ok payload.value := by
  obtain ⟨-, fit, rfl⟩ := Serializer.encode_json_eq_ok_iff.1 written
  have text := Json.ofBytes_toBytes (Shape.legible_encode _ payload.value plain readable fit)
  have read : Serializer.json.read (payload.type.shape.encode payload.value).toBytes =
      .ok (payload.type.shape.encode payload.value) :=
    congrArg (Except.mapError Json.ReadError.message) text
  rw [Serializer.decode, read]
  dsimp only
  rw [Shape.decode_encode _ _ plain]
  rfl

end MessageBus
