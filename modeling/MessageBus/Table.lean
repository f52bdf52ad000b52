/-! Finite tables: rows under distinct keys, in the order in which the keys were first set. What a
table holds is seen through `get?`; each operation has a lemma that says what it does to it. -/
namespace MessageBus

structure Table (κ α : Type) where
  rows : List (κ × α)
  nodup : (rows.map Prod.fst).Nodup

namespace Table
variable {κ α : Type} [DecidableEq κ]

def empty : Table κ α := ⟨[], List.nodup_nil⟩

instance : Inhabited (Table κ α) := ⟨empty⟩

def keys (t : Table κ α) : List κ := t.rows.map Prod.fst

def values (t : Table κ α) : List α := t.rows.map Prod.snd

def size (t : Table κ α) : Nat := t.rows.length

def get? (t : Table κ α) (key : κ) : Option α := t.rows.lookup key

def contains (t : Table κ α) (key : κ) : Bool := (t.get? key).isSome

/-- The row under `key` replaced by `a`, in its place. -/
def replaceIn (key : κ) (a : α) (rows : List (κ × α)) : List (κ × α) :=
  rows.map fun (k, v) => if k = key then (k, a) else (k, v)

theorem map_fst_replaceIn (key : κ) (a : α) (rows : List (κ × α)) :
    (replaceIn key a rows).map Prod.fst = rows.map Prod.fst := by
  induction rows with
  | nil => rfl
  | cons row rows ih =>
    simp only [replaceIn, List.map_cons] at ih ⊢
    rw [ih]
    split <;> rfl

theorem lookup_replaceIn (key k : κ) (a : α) (rows : List (κ × α)) :
    (replaceIn key a rows).lookup k =
      if k = key then (rows.lookup k).map fun _ => a else rows.lookup k := by
  induction rows with
  | nil => simp [replaceIn]
  | cons row rows ih =>
    obtain ⟨x, v⟩ := row
    simp only [replaceIn, List.map_cons] at ih ⊢
    by_cases hk : k = x
    · subst hk
      by_cases hx : k = key <;> simp [hx]
    · have hb : (k == x) = false := by simpa using hk
      by_cases hx : x = key
      · subst hx; simp [List.lookup_cons, hb, hk, ih]
      · simp only [hx, if_false, List.lookup_cons, hb, ih]

theorem lookup_eq_none_iff (k : κ) (rows : List (κ × α)) :
    rows.lookup k = none ↔ k ∉ rows.map Prod.fst := by
  induction rows with
  | nil => simp
  | cons row rows ih =>
    obtain ⟨x, v⟩ := row
    by_cases hk : k = x
    · subst hk; simp
    · have hb : (k == x) = false := by simpa using hk
      simp [List.lookup_cons, hb, hk, ih]

/-- Sets the row of a key. -/
def insert (t : Table κ α) (key : κ) (a : α) : Table κ α :=
  if h : key ∈ t.rows.map Prod.fst then
    ⟨replaceIn key a t.rows, by rw [map_fst_replaceIn]; exact t.nodup⟩
  else
    ⟨t.rows ++ [(key, a)], by
      simp only [List.map_append, List.map_cons, List.map_nil]
      exact List.nodup_append.2 ⟨t.nodup, by simp, by
        intro x hx y hy
        simp only [List.mem_singleton] at hy
        subst hy
        exact fun e => h (e ▸ hx)⟩⟩

/-- Applies `f` to the row of a key, if there is one. -/
def update (t : Table κ α) (key : κ) (f : α → α) : Table κ α :=
  match t.get? key with
  | some a => ⟨replaceIn key (f a) t.rows, by rw [map_fst_replaceIn]; exact t.nodup⟩
  | none => t

/-- The rows that pass a test. -/
def filter (t : Table κ α) (p : κ → α → Bool) : Table κ α :=
  ⟨t.rows.filter fun (k, a) => p k a, List.Nodup.sublist (List.filter_sublist.map _) t.nodup⟩

def erase (t : Table κ α) (key : κ) : Table κ α :=
  t.filter fun k _ => k != key

@[simp] theorem get?_empty (k : κ) : (empty : Table κ α).get? k = none := rfl

theorem lookup_append_singleton (rows : List (κ × α)) (key k : κ) (a : α) :
    (rows ++ [(key, a)]).lookup k =
      (rows.lookup k).or (if k = key then some a else none) := by
  induction rows with
  | nil =>
    by_cases h : k = key
    · simp [h]
    · have hb : (k == key) = false := by simpa using h
      simp [List.lookup_cons, hb, h]
  | cons row rows ih =>
    obtain ⟨x, v⟩ := row
    by_cases hk : k = x
    · subst hk; simp
    · have hb : (k == x) = false := by simpa using hk
      simp [List.lookup_cons, hb, ih]

@[simp] theorem get?_insert (t : Table κ α) (key k : κ) (a : α) :
    (t.insert key a).get? k = if k = key then some a else t.get? k := by
  unfold insert get?
  split
  · next h =>
    rw [lookup_replaceIn]
    by_cases hk : k = key
    · subst hk
      obtain ⟨b, hb⟩ := Option.ne_none_iff_exists'.1
        (mt (lookup_eq_none_iff k t.rows).1 (by simpa using h))
      simp [hb]
    · simp [hk]
  · next h =>
    rw [lookup_append_singleton]
    by_cases hk : k = key
    · subst hk
      simp [(lookup_eq_none_iff k t.rows).2 h]
    · simp [hk]

theorem get?_insert_self (t : Table κ α) (key : κ) (a : α) :
    (t.insert key a).get? key = some a := by simp

/-- A row was there before or is the one that was set. -/
theorem stored_or_set {t : Table κ α} {key k : κ} {a row : α} {P : α → Prop} (set : P row)
    (there : (t.insert key row).get? k = some a) : t.get? k = some a ∨ P a := by
  rw [get?_insert] at there
  split at there
  · cases there
    exact .inr set
  · exact .inl there

theorem get?_update (t : Table κ α) (key k : κ) (f : α → α) :
    (t.update key f).get? k = if k = key then (t.get? k).map f else t.get? k := by
  unfold update
  split
  · next a h =>
    simp only [get?, lookup_replaceIn] at h ⊢
    by_cases hk : k = key
    · subst hk; simp [h]
    · simp [hk]
  · next h =>
    by_cases hk : k = key
    · subst hk; simp [h]
    · simp [hk]

theorem lookup_filter_ne (rows : List (κ × α)) (key k : κ) :
    (rows.filter fun (x, _) => x != key).lookup k = if k = key then none else rows.lookup k := by
  induction rows with
  | nil => simp
  | cons row rows ih =>
    obtain ⟨x, v⟩ := row
    by_cases hx : x = key <;> by_cases hk : k = x
    · subst hx; subst hk; simpa using ih
    · subst hx
      have hb : (k == x) = false := by simpa using hk
      simp [List.lookup_cons, hb, hk] at ih ⊢
      exact ih
    · subst hk; simp [hx]
    · have hb : (k == x) = false := by simpa using hk
      simp only [bne_iff_ne, ne_eq, hx, not_false_eq_true, List.filter_cons_of_pos,
        List.lookup_cons, hb]
      exact ih

@[simp] theorem get?_erase (t : Table κ α) (key k : κ) :
    (t.erase key).get? k = if k = key then none else t.get? k :=
  lookup_filter_ne t.rows key k

theorem contains_iff (t : Table κ α) (k : κ) : t.contains k = true ↔ ∃ a, t.get? k = some a := by
  simp [contains, Option.isSome_iff_exists]

theorem lookup_eq_some_iff_mem {rows : List (κ × α)} (h : (rows.map Prod.fst).Nodup) (k : κ)
    (a : α) : rows.lookup k = some a ↔ (k, a) ∈ rows := by
  induction rows with
  | nil => simp
  | cons row rows ih =>
    obtain ⟨x, v⟩ := row
    simp only [List.map_cons, List.nodup_cons] at h
    by_cases hk : k = x
    · subst hk
      constructor
      · intro e; simp at e; simp [e]
      · intro e
        rcases List.mem_cons.1 e with e | e
        · simp_all
        · exact absurd (List.mem_map.2 ⟨_, e, rfl⟩) h.1
    · have hb : (k == x) = false := by simpa using hk
      simp [List.lookup_cons, hb, hk, ih h.2]

theorem mem_rows_iff (t : Table κ α) (k : κ) (a : α) : (k, a) ∈ t.rows ↔ t.get? k = some a :=
  (lookup_eq_some_iff_mem t.nodup k a).symm

theorem mem_values_iff (t : Table κ α) (a : α) : a ∈ t.values ↔ ∃ k, t.get? k = some a := by
  simp [values, ← mem_rows_iff]

theorem mem_keys_iff (t : Table κ α) (k : κ) : k ∈ t.keys ↔ ∃ a, t.get? k = some a := by
  simp [keys, ← mem_rows_iff]

@[simp] theorem length_keys {κ α : Type} (t : Table κ α) : t.keys.length = t.size :=
  List.length_map _

theorem size_insert_of_stored {t : Table κ α} {key : κ} {b : α} (stored : t.get? key = some b)
    (a : α) : (t.insert key a).size = t.size := by
  have there : key ∈ t.rows.map Prod.fst :=
    List.mem_map.2 ⟨(key, b), (mem_rows_iff t key b).2 stored, rfl⟩
  simp only [insert, dif_pos there, size, replaceIn, List.length_map]

theorem size_insert_of_new {t : Table κ α} {key : κ} (new : t.get? key = none) (a : α) :
    (t.insert key a).size = t.size + 1 := by
  have absent : key ∉ t.rows.map Prod.fst := (lookup_eq_none_iff key t.rows).1 new
  simp only [insert, dif_neg absent, size, List.length_append, List.length_singleton]

theorem size_insert_le (t : Table κ α) (key : κ) (a : α) : (t.insert key a).size ≤ t.size + 1 := by
  cases stored : t.get? key with
  | some b =>
    rw [size_insert_of_stored stored]
    exact Nat.le_succ _
  | none => exact Nat.le_of_eq (size_insert_of_new stored a)

/-- A table is known by its keys, in their order, and by what it holds. -/
theorem ext_get? {t u : Table κ α} (keys : t.keys = u.keys) (holds : ∀ k, t.get? k = u.get? k) :
    t = u := by
  have rows_eq (t : Table κ α) :
      t.rows.map (fun row => (row.1, some row.2)) = t.keys.map fun k => (k, t.get? k) := by
    rw [Table.keys, List.map_map]
    refine List.map_congr_left ?_
    rintro ⟨k, a⟩ mem
    rw [Function.comp_apply, (mem_rows_iff t k a).1 mem]
  have same : t.rows = u.rows := by
    refine (List.map_inj_right (f := fun row : κ × α => (row.1, some row.2)) ?_).1 ?_
    · rintro ⟨k, a⟩ ⟨l, b⟩ is
      simpa using is
    · rw [rows_eq, rows_eq, keys]
      simp only [holds]
  cases t
  cases u
  cases same
  rfl

theorem keys_insert_of_new {t : Table κ α} {key : κ} (new : t.get? key = none) (a : α) :
    (t.insert key a).keys = t.keys ++ [key] := by
  have absent : key ∉ t.rows.map Prod.fst := (lookup_eq_none_iff key t.rows).1 new
  simp only [insert, dif_neg absent, keys, List.map_append, List.map_cons, List.map_nil]

theorem keys_insert_of_stored {t : Table κ α} {key : κ} {b : α} (stored : t.get? key = some b)
    (a : α) : (t.insert key a).keys = t.keys := by
  have there : key ∈ t.rows.map Prod.fst := (mem_keys_iff t key).2 ⟨b, stored⟩
  simp only [insert, dif_pos there, keys, map_fst_replaceIn]

theorem values_insert_of_new {t : Table κ α} {key : κ} (new : t.get? key = none) (a : α) :
    (t.insert key a).values = t.values ++ [a] := by
  have absent : key ∉ t.rows.map Prod.fst := (lookup_eq_none_iff key t.rows).1 new
  simp only [insert, dif_neg absent, values, List.map_append, List.map_cons, List.map_nil]

/-- A row that is set anew keeps its place, so that what stays the same about it stays the same
about the list of all rows. -/
theorem map_values_insert_of_same {β : Type} {f : α → β} {t : Table κ α} {key : κ} {a b : α}
    (stored : t.get? key = some b) (same : f a = f b) :
    (t.insert key a).values.map f = t.values.map f := by
  have there : key ∈ t.rows.map Prod.fst :=
    List.mem_map.2 ⟨(key, b), (mem_rows_iff t key b).2 stored, rfl⟩
  simp only [insert, dif_pos there, values, replaceIn, List.map_map]
  refine List.map_congr_left ?_
  rintro ⟨k, v⟩ mem
  have found := (mem_rows_iff t k v).1 mem
  by_cases is : k = key
  · subst is
    cases found.symm.trans stored
    simp [same]
  · simp [is]

/-- Setting a row to what it is changes nothing, not even the order of the rows. -/
theorem insert_eq_self_iff (t : Table κ α) (key : κ) (a : α) :
    t.insert key a = t ↔ t.get? key = some a := by
  constructor
  · intro same
    rw [← same, get?_insert_self]
  · intro stored
    have there : key ∈ t.rows.map Prod.fst :=
      List.mem_map.2 ⟨(key, a), (mem_rows_iff t key a).2 stored, rfl⟩
    have same : replaceIn key a t.rows = t.rows := by
      refine (List.map_congr_left ?_).trans (List.map_id t.rows)
      rintro ⟨k, v⟩ mem
      have found := (mem_rows_iff t k v).1 mem
      by_cases is : k = key
      · subst is
        cases found.symm.trans stored
        simp
      · simp [is]
    cases t with
    | mk rows nodup => simp only [insert, dif_pos there, same]

theorem get?_filter (t : Table κ α) (p : κ → α → Bool) (k : κ) :
    (t.filter p).get? k = (t.get? k).filter (p k) := by
  ext a
  rw [← mem_rows_iff, Option.filter_eq_some_iff, ← mem_rows_iff]
  simp [filter]

theorem filter_eq_self {t : Table κ α} {p : κ → α → Bool}
    (passes : ∀ k a, t.get? k = some a → p k a = true) : t.filter p = t := by
  have same : (t.rows.filter fun (k, a) => p k a) = t.rows :=
    List.filter_eq_self.2 fun (k, a) mem => passes k a ((mem_rows_iff t k a).1 mem)
  cases t
  simp only [filter, same]

theorem size_filter_le {κ α : Type} (t : Table κ α) (p : κ → α → Bool) : (t.filter p).size ≤ t.size :=
  List.length_filter_le _ _

theorem size_filter_lt {t : Table κ α} {p : κ → α → Bool} {k : κ} {a : α}
    (there : t.get? k = some a) (fails : p k a = false) : (t.filter p).size < t.size :=
  List.length_filter_lt_length_iff_exists.2
    ⟨(k, a), (mem_rows_iff t k a).2 there, by simp [fails]⟩

theorem keys_erase (t : Table κ α) (key : κ) : (t.erase key).keys = t.keys.erase key := by
  change _ = (t.rows.map Prod.fst).erase key
  rw [List.Nodup.erase_eq_filter t.nodup, List.filter_map]
  rfl

theorem size_erase_of_stored {t : Table κ α} {key : κ} {a : α} (there : t.get? key = some a) :
    (t.erase key).size + 1 = t.size := by
  have mem : key ∈ t.keys := (mem_keys_iff t key).2 ⟨a, there⟩
  rw [← length_keys, ← length_keys, keys_erase, List.length_erase_of_mem mem]
  exact Nat.succ_pred_eq_of_pos (List.length_pos_of_mem mem)

end Table
end MessageBus
