import MessageBus.Json.Reader
import MessageBus.Json.Writer

/-! Reading undoes writing. What is written of a value ends where the next sign of the text begins, so
that a reader which is given more than the text of a value stops right behind it. Two kinds of data
are read as something else, and are left out: those too deeply inside each other, and objects whose
first key marks a text. -/
namespace MessageBus

namespace Text

/-- The UTF-8 form of characters one after another. -/
def octets (cs : List Char) : Bytes := cs.flatMap String.utf8EncodeChar

@[simp] theorem octets_nil : octets [] = [] := rfl

@[simp] theorem octets_cons (c : Char) (cs : List Char) :
    octets (c :: cs) = String.utf8EncodeChar c ++ octets cs := List.flatMap_cons

@[simp] theorem octets_append (xs ys : List Char) : octets (xs ++ ys) = octets xs ++ octets ys :=
  List.flatMap_append

theorem toBytes_ofList (cs : List Char) : toBytes (String.ofList cs) = octets cs := by
  rw [toBytes, String.toUTF8, String.toByteArray_ofList, List.utf8Encode]
  simp [octets]

theorem length_le_length_octets (cs : List Char) : cs.length ≤ (octets cs).length := by
  induction cs with
  | nil => exact Nat.le_refl 0
  | cons c cs ih =>
    have size := c.utf8Size_pos
    rw [octets_cons, List.length_append, String.length_utf8EncodeChar, List.length_cons]
    omega

end Text

namespace Json
open Text

theorem octets_ascii {c : Char} (ascii : c.toNat < 128) (cs : List Char) :
    octets (c :: cs) = octet c :: octets cs := by
  have small : c.val.toNat ≤ 127 := Nat.le_of_lt_succ ascii
  rw [octets_cons, String.utf8EncodeChar, if_pos small]
  rfl

theorem toNat_octet {c : Char} (ascii : c.toNat < 128) : (octet c).toNat = c.toNat := by
  rw [octet, UInt8.toNat_ofNat']
  omega

/-! Strings. -/

theorem ofUInt8_octet {c : Char} (ascii : c.toNat < 128) : Char.ofUInt8 (octet c) = c := by
  have same : (octet c).toNat = c.toNat := toNat_octet ascii
  rw [← Char.toNat_inj, ← same]
  rfl

/-- The first octet of a character says whether it is ASCII. -/
theorem utf8EncodeChar_eq_cons (c : Char) :
    ∃ b rest, String.utf8EncodeChar c = b :: rest ∧ (b.toNat = c.toNat ∨ 128 ≤ b.toNat) := by
  have toNat : c.toNat = c.val.toNat := rfl
  unfold String.utf8EncodeChar
  simp only
  split
  · refine ⟨_, _, rfl, .inl ?_⟩
    rw [UInt8.toNat_ofNat']
    omega
  split
  · refine ⟨_, _, rfl, .inr ?_⟩
    rw [UInt8.toNat_ofNat']
    omega
  split
  · refine ⟨_, _, rfl, .inr ?_⟩
    rw [UInt8.toNat_ofNat']
    omega
  · refine ⟨_, _, rfl, .inr ?_⟩
    rw [UInt8.toNat_ofNat']
    omega

theorem readPart_plain {c : Char} (quote : c ≠ '"') (backslash : c ≠ '\\') (printable : 32 ≤ c.toNat)
    (rest : Bytes) : readPart (String.utf8EncodeChar c ++ rest) = .ok (.char c, rest) := by
  obtain ⟨b, more, is, first⟩ := utf8EncodeChar_eq_cons c
  have next := nextChar?_utf8EncodeChar_append c rest
  rw [is, List.cons_append] at next ⊢
  have differs {a : Char} (ascii : a.toNat < 128) (ne : c ≠ a) : b ≠ octet a := by
    rintro rfl
    rw [toNat_octet ascii] at first
    rcases first with same | large
    · exact ne (Char.toNat_inj.1 same.symm)
    · omega
  have space : ¬ b < 32 := by
    rw [UInt8.lt_iff_toNat_lt]
    change ¬ b.toNat < 32
    omega
  rw [readPart, if_neg (differs (by decide) quote), if_neg (differs (by decide) backslash),
    if_neg space, next]

theorem valueOf?_octet_digitChar {n : Nat} (h : n < 16) :
    readHex.valueOf? (octet (Nat.digitChar n)) = some n := by
  have ascii : ∀ n < 16, (Nat.digitChar n).toNat < 128 := by decide
  rw [readHex.valueOf?, ofUInt8_octet (ascii n h), hexValue?_digitChar n h]

theorem readPart_control {c : Char} (control : c.toNat < 32) (rest : Bytes) :
    readPart (octets (['\\', 'u', '0', '0'] ++ hexPair c.toNat) ++ rest) = .ok (.char c, rest) := by
  have ascii : ∀ n < 16, (Nat.digitChar n).toNat < 128 := by decide
  have high := valueOf?_octet_digitChar (n := c.toNat / 16 % 16) (by omega)
  have low := valueOf?_octet_digitChar (n := c.toNat % 16) (by omega)
  have zero : readHex.valueOf? (octet '0') = some 0 := by decide
  have value : ((0 * 16 + 0) * 16 + c.toNat / 16 % 16) * 16 + c.toNat % 16 = c.toNat := by omega
  have hex : readHex (octet '0' :: octet '0' :: octet (Nat.digitChar (c.toNat / 16 % 16)) ::
      octet (Nat.digitChar (c.toNat % 16)) :: rest) = .ok (c.toNat, rest) := by
    rw [readHex, zero, high, low]
    simp only [value]
  have unicode : readUnicode (octet '0' :: octet '0' :: octet (Nat.digitChar (c.toNat / 16 % 16)) ::
      octet (Nat.digitChar (c.toNat % 16)) :: rest) = .ok (c, rest) := by
    rw [readUnicode, hex]
    simp only [bind, Except.bind]
    rw [if_neg (by omega), if_pos (by omega), Char.ofNat_toNat]
  have written : octets (['\\', 'u', '0', '0'] ++ hexPair c.toNat) ++ rest =
      octet '\\' :: octet 'u' :: octet '0' :: octet '0' ::
        octet (Nat.digitChar (c.toNat / 16 % 16)) :: octet (Nat.digitChar (c.toNat % 16)) :: rest := by
    simp only [hexPair, List.cons_append, List.nil_append]
    rw [octets_ascii (by decide), octets_ascii (by decide), octets_ascii (by decide),
      octets_ascii (by decide), octets_ascii (ascii _ (by omega)), octets_ascii (ascii _ (by omega))]
    rfl
  have escape : readEscape (octet 'u' :: octet '0' :: octet '0' ::
      octet (Nat.digitChar (c.toNat / 16 % 16)) :: octet (Nat.digitChar (c.toNat % 16)) :: rest) =
      .ok (c, rest) := unicode
  rw [written, readPart, if_neg (by decide), if_pos rfl, escape]
  rfl

/-- A character is read back from its escaped form. -/
theorem readPart_escaped (c : Char) (rest : Bytes) :
    readPart (octets (escaped c) ++ rest) = .ok (.char c, rest) := by
  unfold escaped
  split
  · next is => subst is; rfl
  next quote =>
  split
  · next is => subst is; rfl
  next backslash =>
  split
  · next is => subst is; rfl
  split
  · next is => subst is; rfl
  split
  · next is => subst is; rfl
  split
  · next is => subst is; rfl
  split
  · next is => subst is; rfl
  split
  · next control => exact readPart_control control rest
  · next printable =>
    rw [octets_cons, octets_nil, List.append_nil]
    exact readPart_plain quote backslash (by omega) rest

theorem readStringParts_escaped (cs seen : List Char) (rest : Bytes) {fuel : Nat}
    (enough : cs.length < fuel) :
    readStringParts fuel seen none (octets (cs.flatMap escaped) ++ octet '"' :: rest) =
      .ok (String.ofList (seen.reverse ++ cs), rest) := by
  induction cs generalizing seen fuel with
  | nil =>
    obtain ⟨fuel, rfl⟩ := Nat.exists_eq_add_of_lt enough
    rw [List.append_nil]
    rfl
  | cons c cs ih =>
    match fuel with
    | fuel + 1 =>
      rw [List.flatMap_cons, octets_append, List.append_assoc, readStringParts, readPart_escaped]
      have rest_read := ih (c :: seen) (Nat.lt_of_succ_lt_succ enough)
      rw [List.reverse_cons, List.append_assoc] at rest_read
      exact rest_read

theorem length_le_length_escaped (cs : List Char) : cs.length ≤ (cs.flatMap escaped).length := by
  induction cs with
  | nil => exact Nat.le_refl 0
  | cons c cs ih =>
    have one : 1 ≤ (escaped c).length := by
      unfold escaped
      repeat' split
      all_goals simp [hexPair]
    rw [List.flatMap_cons, List.length_append, List.length_cons]
    omega

theorem octets_stringChars (s : String) :
    octets (stringChars s) = octet '"' :: (octets (s.toList.flatMap escaped) ++ [octet '"']) := by
  rw [stringChars, List.cons_append, octets_ascii (by decide), octets_append]
  rfl

/-- A string is read back from what is written after its opening quote. -/
theorem readString_written (s : String) (rest : Bytes) :
    readString (octets (s.toList.flatMap escaped) ++ octet '"' :: rest) = .ok (s, rest) := by
  have enough : s.toList.length <
      (octets (s.toList.flatMap escaped) ++ octet '"' :: rest).length + 1 := by
    have escapes := length_le_length_escaped s.toList
    have encodes := length_le_length_octets (s.toList.flatMap escaped)
    rw [List.length_append]
    omega
  rw [readString, readStringParts_escaped s.toList [] rest enough]
  simp

/-! Numbers. -/

theorem le_ofDigitChars (cs : List Char) (value : Nat) :
    value ≤ Nat.ofDigitChars 10 cs value := by
  rw [Nat.ofDigitChars_eq_ofDigitChars_zero]
  have one : 1 ≤ 10 ^ cs.length := Nat.one_le_pow _ _ (by decide)
  exact Nat.le_trans (Nat.le_mul_of_pos_left value one) (Nat.le_add_right _ _)

theorem toNat_of_isDigit {c : Char} (digit : c.isDigit = true) : 48 ≤ c.toNat ∧ c.toNat ≤ 57 := by
  simp only [Char.isDigit, Bool.and_eq_true, decide_eq_true_eq] at digit
  exact ⟨UInt32.le_iff_toNat_le.1 digit.1, UInt32.le_iff_toNat_le.1 digit.2⟩

theorem ascii_of_isDigit {c : Char} (digit : c.isDigit = true) : c.toNat < 128 :=
  Nat.lt_of_le_of_lt (toNat_of_isDigit digit).2 (by decide)

theorem isDigit_octet {c : Char} (digit : c.isDigit = true) : isDigit (octet c) = true := by
  obtain ⟨low, high⟩ := toNat_of_isDigit digit
  have toNat := toNat_octet (ascii_of_isDigit digit)
  rw [isDigit, Bool.and_eq_true, decide_eq_true_eq, decide_eq_true_eq, UInt8.le_iff_toNat_le,
    UInt8.le_iff_toNat_le, toNat]
  exact ⟨low, high⟩

/-- What may follow a number: neither another digit nor what makes it a fraction or a power. -/
def EndsNumber : Bytes → Prop
  | [] => True
  | b :: _ => isDigit b = false ∧ b ≠ octet '.' ∧ b ≠ octet 'e' ∧ b ≠ octet 'E'

theorem readDigits_written (negative : Bool) (cs : List Char) (value : Nat) (rest : Bytes)
    (digits : ∀ c ∈ cs, c.isDigit = true) (small : Nat.ofDigitChars 10 cs value < UInt64.size)
    (ends : EndsNumber rest) :
    readDigits negative value (octets cs ++ rest) =
      readAfterDigits negative (Nat.ofDigitChars 10 cs value) rest := by
  induction cs generalizing value with
  | nil =>
    rw [octets_nil, List.nil_append, Nat.ofDigitChars_nil]
    cases rest with
    | nil => rfl
    | cons b rest => rw [readDigits, ends.1, if_neg Bool.false_ne_true]
  | cons c cs ih =>
    have digit := digits c List.mem_cons_self
    have ascii := ascii_of_isDigit digit
    have is : digitOf (octet c) = c.toNat - '0'.toNat := by
      rw [digitOf, toNat_octet ascii]
      rfl
    rw [Nat.ofDigitChars_cons, ← is] at small ⊢
    have next := Nat.lt_of_le_of_lt (le_ofDigitChars cs _) small
    rw [octets_ascii ascii, List.cons_append, readDigits, if_pos (isDigit_octet digit)]
    dsimp only
    rw [if_pos next]
    exact ih _ (fun d mem => digits d (List.mem_cons_of_mem _ mem)) small

/-- Whole numbers are written without leading zeros. -/
theorem toDigits_head {n : Nat} (positive : 0 < n) :
    ∃ c cs, Nat.toDigits 10 n = c :: cs ∧ c ≠ '0' := by
  induction n using Nat.strongRecOn with
  | _ n ih =>
    by_cases small : n < 10
    · have digit : ∀ n < 10, 0 < n → Nat.digitChar n ≠ '0' := by decide
      exact ⟨_, [], Nat.toDigits_of_lt_base small, digit n small positive⟩
    · obtain ⟨c, cs, is, head⟩ := ih (n / 10) (by omega) (by omega)
      refine ⟨c, cs ++ [Nat.digitChar (n % 10)], ?_, head⟩
      rw [Nat.toDigits_of_base_le (by decide) (by omega), is]
      rfl

theorem readNumber_written (negative : Bool) {n : Nat} (small : n < UInt64.size) {rest : Bytes}
    (ends : EndsNumber rest) :
    readNumber negative (octets (Nat.toDigits 10 n) ++ rest) =
      readAfterDigits negative n rest := by
  have digits : ∀ c ∈ Nat.toDigits 10 n, c.isDigit = true := fun c mem =>
    Nat.isDigit_of_mem_toDigits (by decide) (by decide) mem
  have value : Nat.ofDigitChars 10 (Nat.toDigits 10 n) 0 = n := Nat.ofDigitChars_ten_toDigits
  by_cases zero : n = 0
  · subst zero
    rw [Nat.toDigits_zero, octets_ascii (by decide), octets_nil, List.cons_append, List.nil_append,
      readNumber.eq_def]
    dsimp only
    rw [if_pos rfl]
    cases rest with
    | nil => rfl
    | cons b rest =>
      dsimp only
      rw [ends.1, if_neg Bool.false_ne_true]
  · obtain ⟨c, cs, is, head⟩ := toDigits_head (Nat.pos_of_ne_zero zero)
    rw [is] at digits value ⊢
    have digit := digits c List.mem_cons_self
    have ascii := ascii_of_isDigit digit
    have differs : octet c ≠ octet '0' := by
      intro same
      have toNat := congrArg UInt8.toNat same
      rw [toNat_octet ascii, toNat_octet (by decide)] at toNat
      exact head (Char.toNat_inj.1 toNat)
    have first : digitOf (octet c) = 10 * 0 + (c.toNat - '0'.toNat) := by
      rw [digitOf, toNat_octet ascii, Nat.zero_add]
      rfl
    rw [Nat.ofDigitChars_cons, ← first] at value
    rw [octets_ascii ascii, List.cons_append, readNumber.eq_def]
    dsimp only
    rw [if_neg differs, if_pos (isDigit_octet digit),
      readDigits_written negative cs _ rest (fun d mem => digits d (List.mem_cons_of_mem _ mem))
        (value.symm ▸ small) ends, value]

theorem readAfterDigits_ends (negative : Bool) (n : Nat) {rest : Bytes} (ends : EndsNumber rest) :
    readAfterDigits negative n rest = .ok (readAfterDigits.whole negative n, rest) := by
  cases rest with
  | nil => rfl
  | cons b rest =>
    obtain ⟨-, point, small, large⟩ := ends
    rw [readAfterDigits, if_neg point, if_neg (by simp [small, large])]

/-! Data. -/

/-- Data that stay the same when they are written and read, inside so many arrays and objects at most.
An object whose first key is the marker of texts is read as something else. -/
inductive Legible : (depth : Nat) → Json → Prop
  | null {depth} : Legible depth null
  | bool {depth} (value : Bool) : Legible depth (bool value)
  | int {depth n} (fits : isWholeNumber n = true) : Legible depth (int n)
  | string {depth} (value : String) : Legible depth (string value)
  | array {depth items} (legible : ∀ x ∈ items, Legible depth x) : Legible (depth + 1) (array items)
  | object {depth members} (sorted : members.Pairwise fun m n => m.1 < n.1)
      (unmarked : ∀ m ∈ members.head?, m.1 ≠ textKey)
      (legible : ∀ m ∈ members, Legible depth m.2) : Legible (depth + 1) (object members)

/-- The reader gives the data back, whatever follows them. -/
def ReadsBack (item : Reader Json) (j : Json) : Prop :=
  ∀ rest, EndsNumber rest → item (octets (chars j) ++ rest) = .ok (j, rest)

theorem skipSpace_cons {b : UInt8} (h : isSpace b = false) (rest : Bytes) :
    skipSpace (b :: rest) = b :: rest := by
  rw [skipSpace, List.dropWhile_cons, if_neg (by simp [h])]

/-- Where a value may begin. -/
def Begins (b : Bytes) : Prop :=
  ∃ c rest, b = c :: rest ∧ isSpace c = false ∧ c ≠ octet ']'

theorem begins_ascii {c : Char} (ascii : c.toNat < 128) (space : isSpace (octet c) = false)
    (close : octet c ≠ octet ']') (cs : List Char) : Begins (octets (c :: cs)) :=
  ⟨_, _, octets_ascii ascii cs, space, close⟩

theorem Begins.append {b : Bytes} (h : Begins b) (rest : Bytes) : Begins (b ++ rest) := by
  obtain ⟨c, more, rfl, open_⟩ := h
  exact ⟨c, more ++ rest, rfl, open_⟩

/-- After a value there comes a comma or a closing sign. -/
theorem endsNumber_octet {c : Char} (h : c = ',' ∨ c = ']' ∨ c = '\x7d') (rest : Bytes) :
    EndsNumber (octet c :: rest) := by
  rcases h with rfl | rfl | rfl <;> exact ⟨by decide, by decide, by decide, by decide⟩

theorem endsNumber_more {α : Type} {close : Char} (h : close = ']' ∨ close = '\x7d')
    (f : α → List Char) (as : List α) (rest : Bytes) :
    EndsNumber (octets (as.flatMap fun a => ',' :: f a) ++ octet close :: rest) := by
  cases as with
  | nil => exact endsNumber_octet (.inr h) rest
  | cons a as =>
    rw [List.flatMap_cons, List.cons_append, octets_ascii (by decide)]
    exact endsNumber_octet (.inl rfl) _

theorem octet_ne {c d : Char} (first : c.toNat < 128) (second : d.toNat < 128) (ne : c ≠ d) :
    octet c ≠ octet d := by
  intro same
  have same := congrArg UInt8.toNat same
  rw [toNat_octet first, toNat_octet second] at same
  exact ne (Char.toNat_inj.1 same)

/-- A digit is none of the other signs of the format. -/
theorem octet_ne_of_isDigit {c d : Char} (digit : c.isDigit = true) (other : d.isDigit = false)
    (ascii : d.toNat < 128) : octet c ≠ octet d := by
  refine octet_ne (ascii_of_isDigit digit) ascii ?_
  rintro rfl
  rw [digit] at other
  cases other

theorem isSpace_octet_of_isDigit {c : Char} (digit : c.isDigit = true) :
    isSpace (octet c) = false := by
  simp only [isSpace, Bool.or_eq_false_iff, beq_eq_false_iff_ne]
  exact ⟨⟨⟨octet_ne_of_isDigit digit (by decide) (by decide),
    octet_ne_of_isDigit digit (by decide) (by decide)⟩,
    octet_ne_of_isDigit digit (by decide) (by decide)⟩,
    octet_ne_of_isDigit digit (by decide) (by decide)⟩

theorem toDigits_eq_cons (n : Nat) : ∃ c cs, Nat.toDigits 10 n = c :: cs ∧ c.isDigit = true := by
  obtain ⟨c, cs, is⟩ := List.exists_cons_of_ne_nil (Nat.toDigits_ne_nil (n := n) (b := 10))
  refine ⟨c, cs, is, Nat.isDigit_of_mem_toDigits (b := 10) (n := n) (by decide) (by decide) ?_⟩
  rw [is]
  exact List.mem_cons_self

theorem toList_toString_natCast (n : Nat) : (toString (n : Int)).toList = Nat.toDigits 10 n := by
  rw [Int.toString_eq_repr, Int.repr_eq_if, if_pos (Int.natCast_nonneg n), Int.toNat_natCast]
  exact Nat.toList_repr

theorem toList_toString_neg {n : Nat} (positive : 0 < n) :
    (toString (-(n : Int))).toList = '-' :: Nat.toDigits 10 n := by
  rw [Int.toString_eq_repr, Int.repr_eq_if, if_neg (by omega), Int.neg_neg, Int.toNat_natCast,
    String.toList_append, Nat.toList_repr]
  rfl

/-- A whole number is written with its digits, after a sign if it is negative. -/
theorem chars_int_cases (n : Int) :
    chars (int n) = Nat.toDigits 10 n.natAbs ∧ n = n.natAbs ∨
      chars (int n) = '-' :: Nat.toDigits 10 n.natAbs ∧ n = -n.natAbs ∧ 0 < n.natAbs := by
  by_cases negative : n < 0
  · right
    have is : n = -(n.natAbs : Int) := by omega
    refine ⟨?_, is, by omega⟩
    rw [← toList_toString_neg (by omega), ← is]
    rfl
  · left
    have is : n = (n.natAbs : Int) := by omega
    refine ⟨?_, is⟩
    rw [← toList_toString_natCast, ← is]
    rfl

theorem begins_chars {depth : Nat} {j : Json} (h : Legible depth j) : Begins (octets (chars j)) := by
  cases h with
  | null => exact begins_ascii (by decide) (by decide) (by decide) _
  | bool value => cases value <;> exact begins_ascii (by decide) (by decide) (by decide) _
  | @int _ n =>
    rcases chars_int_cases n with ⟨written, -⟩ | ⟨written, -⟩
    · obtain ⟨c, cs, is, digit⟩ := toDigits_eq_cons n.natAbs
      rw [written, is]
      exact begins_ascii (ascii_of_isDigit digit) (isSpace_octet_of_isDigit digit)
        (octet_ne_of_isDigit digit (by decide) (by decide)) cs
    · rw [written]
      exact begins_ascii (by decide) (by decide) (by decide) _
  | string value => exact begins_ascii (by decide) (by decide) (by decide) _
  | array => exact begins_ascii (by decide) (by decide) (by decide) _
  | object => exact begins_ascii (by decide) (by decide) (by decide) _

section
variable {text : Bytes → Except ReadError Json} {depth : Nat}

theorem readValue_of_digit {c : Char} (digit : c.isDigit = true) (b : Bytes) :
    readValue text depth (octet c :: b) =
      readValue.asNumber (readNumber false (octet c :: b)) := by
  have differs {d : Char} (other : d.isDigit = false) (ascii : d.toNat < 128) :=
    octet_ne_of_isDigit digit other ascii
  rw [readValue.eq_def]
  dsimp only
  rw [skipSpace_cons (isSpace_octet_of_isDigit digit)]
  dsimp only
  rw [if_neg (differs (d := 'n') rfl (by decide)), if_neg (differs (d := 't') rfl (by decide)),
    if_neg (differs (d := 'f') rfl (by decide)), if_neg (differs (d := '-') rfl (by decide)),
    if_pos (isDigit_octet digit)]

theorem readsBack_int {n : Int} (fits : isWholeNumber n = true) :
    ReadsBack (readValue text depth) (int n) := by
  intro rest ends
  have fits : Int64.minValue.toInt ≤ n ∧ n < UInt64.size := by
    simpa [isWholeNumber] using fits
  have least : Int64.minValue.toInt = -9223372036854775808 := rfl
  have size : UInt64.size = 18446744073709551616 := rfl
  have small : n.natAbs < UInt64.size := by omega
  rcases chars_int_cases n with ⟨written, is⟩ | ⟨written, is, positive⟩
  · have read := readNumber_written false small ends
    obtain ⟨c, cs, digits, digit⟩ := toDigits_eq_cons n.natAbs
    rw [readAfterDigits_ends _ _ ends, digits, octets_ascii (ascii_of_isDigit digit)] at read
    rw [written, digits, octets_ascii (ascii_of_isDigit digit), List.cons_append,
      readValue_of_digit digit, ← List.cons_append, read, readAfterDigits.whole]
    simp only [Bool.not_false, if_true, readValue.asNumber]
    rw [← is]
    rfl
  · have read := readNumber_written true small ends
    rw [readAfterDigits_ends _ _ ends] at read
    have whole : readAfterDigits.whole true n.natAbs = .int n := by
      rw [readAfterDigits.whole]
      simp only [Bool.not_true, Bool.false_eq_true, if_false]
      rw [if_pos ⟨positive, by omega⟩, ← is]
    have begun : readValue text depth (octet '-' :: (octets (Nat.toDigits 10 n.natAbs) ++ rest)) =
        readValue.asNumber (readNumber true (octets (Nat.toDigits 10 n.natAbs) ++ rest)) := by
      cases depth <;> rfl
    rw [written, octets_ascii (by decide), List.cons_append, begun, read, whole]
    rfl

theorem readValue_quote {b rest : Bytes} {s : String} (read : readString b = .ok (s, rest)) :
    readValue text depth (octet '"' :: b) = .ok (string s, rest) := by
  rw [readValue, skipSpace_cons (by decide)]
  simp only [read]
  rfl

theorem readsBack_string (s : String) : ReadsBack (readValue text depth) (string s) := by
  intro rest _
  rw [chars, octets_stringChars, List.cons_append, List.append_assoc, List.singleton_append]
  exact readValue_quote (readString_written s rest)

end

/-! Arrays and objects. -/

theorem itemChars_cons (x : Json) (xs : List Json) :
    itemChars (x :: xs) = chars x ++ xs.flatMap fun y => ',' :: chars y := by
  induction xs generalizing x with
  | nil => rw [itemChars, List.flatMap_nil, List.append_nil]
  | cons y ys ih => rw [itemChars, ih, List.flatMap_cons, List.cons_append]

/-- A member without the quote that opens its key. -/
def memberRest (m : String × Json) : List Char :=
  m.1.toList.flatMap escaped ++ '"' :: ':' :: chars m.2

theorem memberChars_cons (m : String × Json) (ms : List (String × Json)) :
    memberChars (m :: ms) = '"' :: memberRest m ++ ms.flatMap fun n => ',' :: '"' :: memberRest n := by
  induction ms generalizing m with
  | nil => simp [memberChars, memberRest, stringChars]
  | cons n ns ih => simp [memberChars, memberRest, stringChars, ih]

section
variable {item : Reader Json} {x : Json} {b after rest : Bytes} {fuel : Nat}

theorem readMoreItems_comma {seen : List Json} (begins : Begins b)
    (read : item b = .ok (x, after)) :
    readMoreItems item (fuel + 1) seen (octet ',' :: b) =
      readMoreItems item fuel (x :: seen) after := by
  obtain ⟨c, more, rfl, space, close⟩ := begins
  rw [readMoreItems, skipSpace_cons (by decide)]
  dsimp only
  rw [if_neg (by decide), if_pos rfl, skipSpace_cons space]
  dsimp only
  rw [if_neg close, read]

theorem readItems_begins (begins : Begins b) (read : item b = .ok (x, after)) :
    readItems item b = readMoreItems item (after.length + 1) [x] after := by
  obtain ⟨c, more, rfl, space, close⟩ := begins
  rw [readItems, skipSpace_cons space]
  dsimp only
  rw [if_neg close, read]

theorem readMoreItems_written (xs seen : List Json) (enough : xs.length < fuel)
    (begins : ∀ x ∈ xs, Begins (octets (chars x))) (reads : ∀ x ∈ xs, ReadsBack item x) :
    readMoreItems item fuel seen
        (octets (xs.flatMap fun y => ',' :: chars y) ++ octet ']' :: rest) =
      .ok (array (seen.reverse ++ xs), rest) := by
  induction xs generalizing seen fuel with
  | nil =>
    obtain ⟨fuel, rfl⟩ := Nat.exists_eq_add_of_lt enough
    rw [List.append_nil]
    rfl
  | cons x xs ih =>
    match fuel with
    | fuel + 1 =>
      have next := ih (x :: seen) (Nat.lt_of_succ_lt_succ enough)
        (fun y mem => begins y (List.mem_cons_of_mem _ mem))
        (fun y mem => reads y (List.mem_cons_of_mem _ mem))
      have read := reads x List.mem_cons_self _ (endsNumber_more (.inl rfl) chars xs rest)
      rw [List.reverse_cons, List.append_assoc] at next
      rw [List.flatMap_cons, List.cons_append, octets_ascii (by decide), octets_append,
        List.cons_append, List.append_assoc,
        readMoreItems_comma ((begins x List.mem_cons_self).append _) read]
      exact next

/-- Every octet string is longer than the list of what it separates by commas. -/
theorem length_le_length_more {α : Type} (f : α → List Char) (as : List α) :
    as.length ≤ (octets (as.flatMap fun a => ',' :: f a)).length := by
  refine Nat.le_trans ?_ (length_le_length_octets _)
  induction as with
  | nil => exact Nat.le_refl 0
  | cons a as ih =>
    rw [List.flatMap_cons, List.length_append, List.length_cons, List.length_cons]
    omega

theorem readItems_written (xs : List Json) (begins : ∀ x ∈ xs, Begins (octets (chars x)))
    (reads : ∀ x ∈ xs, ReadsBack item x) :
    readItems item (octets (itemChars xs) ++ octet ']' :: rest) = .ok (array xs, rest) := by
  cases xs with
  | nil => rfl
  | cons x xs =>
    have read := reads x List.mem_cons_self _ (endsNumber_more (.inl rfl) chars xs rest)
    rw [itemChars_cons, octets_append, List.append_assoc,
      readItems_begins ((begins x List.mem_cons_self).append _) read]
    refine readMoreItems_written xs [x] ?_ (fun y mem => begins y (List.mem_cons_of_mem _ mem))
      (fun y mem => reads y (List.mem_cons_of_mem _ mem))
    have enough := length_le_length_more chars xs
    rw [List.length_append]
    omega

/-! Objects. -/

theorem readKey_written (key : String) (rest : Bytes) :
    readKey (octets (key.toList.flatMap escaped) ++ octet '"' :: octet ':' :: rest) =
      .ok (key, rest) := by
  rw [readKey, readString_written]
  rfl

theorem octets_memberRest (m : String × Json) (rest : Bytes) :
    octets (memberRest m) ++ rest = octets (m.1.toList.flatMap escaped) ++
      octet '"' :: octet ':' :: (octets (chars m.2) ++ rest) := by
  rw [memberRest, octets_append, octets_ascii (by decide), octets_ascii (by decide),
    List.append_assoc]
  rfl

theorem readMember_written {m : String × Json} (reads : ReadsBack item m.2)
    (ends : EndsNumber rest) :
    readMember item (octets (memberRest m) ++ rest) = .ok (m, rest) := by
  rw [octets_memberRest, readMember, readKey_written]
  dsimp only
  rw [reads rest ends]

theorem setMember_of_greatest {key : String} {members : List (String × Json)}
    (greatest : ∀ m ∈ members, m.1 < key) :
    setMember key x members = members ++ [(key, x)] := by
  induction members with
  | nil => rfl
  | cons m members ih =>
    have less := greatest m List.mem_cons_self
    have ne : key ≠ m.1 := by
      rintro rfl
      exact String.lt_irrefl _ less
    rw [setMember, if_neg (String.lt_asymm less), if_neg ne,
      ih fun n mem => greatest n (List.mem_cons_of_mem _ mem)]
    rfl

theorem readMoreMembers_comma {m : String × Json} {seen : List (String × Json)}
    (read : readMember item b = .ok (m, after)) :
    readMoreMembers item (fuel + 1) seen (octet ',' :: octet '"' :: b) =
      readMoreMembers item fuel (setMember m.1 m.2 seen) after := by
  rw [readMoreMembers, skipSpace_cons (by decide)]
  dsimp only
  rw [if_neg (by decide), if_pos rfl, skipSpace_cons (by decide)]
  dsimp only
  rw [if_pos rfl, read]

theorem readMoreMembers_written (ms seen : List (String × Json)) (enough : ms.length < fuel)
    (sorted : (seen ++ ms).Pairwise fun m n => m.1 < n.1)
    (reads : ∀ m ∈ ms, ReadsBack item m.2) :
    readMoreMembers item fuel seen
        (octets (ms.flatMap fun m => ',' :: '"' :: memberRest m) ++ octet '\x7d' :: rest) =
      .ok (object (seen ++ ms), rest) := by
  induction ms generalizing seen fuel with
  | nil =>
    obtain ⟨fuel, rfl⟩ := Nat.exists_eq_add_of_lt enough
    rw [List.append_nil]
    rfl
  | cons m ms ih =>
    match fuel with
    | fuel + 1 =>
      have greatest : ∀ n ∈ seen, n.1 < m.1 := fun n mem =>
        (List.pairwise_append.1 sorted).2.2 n mem m List.mem_cons_self
      rw [List.append_cons seen m ms] at sorted ⊢
      have next := ih (seen ++ [m]) (Nat.lt_of_succ_lt_succ enough) sorted
        (fun n mem => reads n (List.mem_cons_of_mem _ mem))
      have read := readMember_written (reads m List.mem_cons_self)
        (endsNumber_more (.inr rfl) (fun n => '"' :: memberRest n) ms rest)
      have written : octets ((m :: ms).flatMap fun m => ',' :: '"' :: memberRest m) ++
          octet '\x7d' :: rest = octet ',' :: octet '"' :: (octets (memberRest m) ++
            (octets (ms.flatMap fun m => ',' :: '"' :: memberRest m) ++ octet '\x7d' :: rest)) := by
        rw [List.flatMap_cons, List.cons_append, List.cons_append, octets_ascii (by decide),
          octets_ascii (by decide), octets_append]
        simp only [List.cons_append, List.append_assoc]
      rw [written, readMoreMembers_comma read, setMember_of_greatest greatest]
      exact next

theorem readMembers_quote {text : Bytes → Except ReadError Json} {key : String}
    (unmarked : key ≠ textKey) (named : readKey b = .ok (key, rest))
    (read : item rest = .ok (x, after)) :
    readMembers text item (octet '"' :: b) =
      readMoreMembers item (after.length + 1) [(key, x)] after := by
  rw [readMembers, skipSpace_cons (by decide)]
  dsimp only
  rw [if_neg (by decide), if_pos rfl, named]
  dsimp only
  rw [if_neg unmarked, read]

theorem readMembers_written {text : Bytes → Except ReadError Json} (ms : List (String × Json))
    (sorted : ms.Pairwise fun m n => m.1 < n.1) (unmarked : ∀ m ∈ ms.head?, m.1 ≠ textKey)
    (reads : ∀ m ∈ ms, ReadsBack item m.2) :
    readMembers text item (octets (memberChars ms) ++ octet '\x7d' :: rest) =
      .ok (object ms, rest) := by
  cases ms with
  | nil => rfl
  | cons m ms =>
    have ends := endsNumber_more (.inr rfl) (fun n : String × Json => '"' :: memberRest n) ms rest
    have read := reads m List.mem_cons_self _ ends
    rw [memberChars_cons, List.cons_append, octets_ascii (by decide), octets_append,
      List.cons_append, List.append_assoc, octets_memberRest,
      readMembers_quote (unmarked m rfl) (readKey_written _ _) read]
    refine readMoreMembers_written ms [m] ?_ sorted
      (fun n mem => reads n (List.mem_cons_of_mem _ mem))
    have enough := length_le_length_more (fun n : String × Json => '"' :: memberRest n) ms
    rw [List.length_append]
    omega

end

/-- Legible data are read back from what is written. -/
theorem readsBack_of_legible {text : Bytes → Except ReadError Json} {depth : Nat} {j : Json}
    (h : Legible depth j) : ReadsBack (readValue text depth) j := by
  induction h with
  | null =>
    intro rest _
    cases ‹Nat› <;> rfl
  | bool value =>
    intro rest _
    cases value <;> cases ‹Nat› <;> rfl
  | int fits => exact readsBack_int fits
  | string value => exact readsBack_string value
  | @array depth items legible ih =>
    intro rest _
    have begun (b : Bytes) : readValue text (depth + 1) (octet '[' :: b) =
        readItems (readValue text depth) b := rfl
    rw [chars, List.cons_append, octets_ascii (by decide), octets_append, List.cons_append,
      List.append_assoc, begun]
    exact readItems_written items (fun x mem => begins_chars (legible x mem)) ih
  | @object depth members sorted unmarked legible ih =>
    intro rest _
    have begun (b : Bytes) : readValue text (depth + 1) (octet '\x7b' :: b) =
        readMembers text (readValue text depth) b := rfl
    rw [chars, List.cons_append, octets_ascii (by decide), octets_append, List.cons_append,
      List.append_assoc, begun]
    exact readMembers_written members sorted unmarked ih

/-- Reading undoes writing. -/
theorem ofBytes_toBytes {j : Json} (h : Legible depthLimit j) : ofBytes (toBytes j) = .ok j := by
  have written : toBytes j = octets (chars j) := toBytes_ofList _
  have reads : ReadsBack (readValue (readText (toBytes j).length) depthLimit) j :=
    readsBack_of_legible h
  have read := reads [] trivial
  rw [List.append_nil, ← written] at read
  rw [ofBytes, readText, readAll, read]
  rfl

/-! The members of an object. -/

theorem lookup_member (name : String) (m : String × Json) (members : List (String × Json)) :
    (m :: members).lookup name = if name = m.1 then some m.2 else members.lookup name := by
  rw [List.lookup_cons]
  by_cases same : name = m.1
  · rw [if_pos same, beq_iff_eq.2 same]
  · rw [if_neg same, beq_eq_false_iff_ne.2 same]

theorem lookup_setMember (key name : String) (x : Json) (members : List (String × Json)) :
    (setMember key x members).lookup name =
      if name = key then some x else members.lookup name := by
  induction members with
  | nil => exact lookup_member name (key, x) []
  | cons m members ih =>
    rw [setMember]
    split
    · exact lookup_member name (key, x) (m :: members)
    · split
      · rename_i same
        rw [lookup_member, lookup_member, ← same]
        split <;> rfl
      · rename_i ne
        rw [lookup_member, lookup_member, ih]
        by_cases same : name = key
        · rw [if_neg (same ▸ ne), if_pos same, if_pos same]
        · rw [if_neg same, if_neg same]

theorem mem_setMember {key : String} {x : Json} {members : List (String × Json)}
    {m : String × Json} (mem : m ∈ setMember key x members) : m = (key, x) ∨ m ∈ members := by
  induction members with
  | nil => exact .inl (List.mem_singleton.1 mem)
  | cons n members ih =>
    rw [setMember] at mem
    split at mem
    · exact List.mem_cons.1 mem
    · split at mem
      · exact (List.mem_cons.1 mem).imp_right (List.mem_cons_of_mem _)
      · rcases List.mem_cons.1 mem with rfl | mem
        · exact .inr List.mem_cons_self
        · exact (ih mem).imp_right (List.mem_cons_of_mem _)

theorem sorted_setMember (key : String) (x : Json) {members : List (String × Json)}
    (sorted : members.Pairwise fun m n => m.1 < n.1) :
    (setMember key x members).Pairwise fun m n => m.1 < n.1 := by
  induction sorted with
  | nil => exact List.pairwise_singleton _ _
  | @cons m members least sorted ih =>
    rw [setMember]
    split
    · rename_i less
      refine List.pairwise_cons.2 ⟨fun n mem => ?_, List.pairwise_cons.2 ⟨least, sorted⟩⟩
      rcases List.mem_cons.1 mem with rfl | mem
      · exact less
      · exact String.lt_trans less (least n mem)
    · split
      · rename_i same
        exact List.pairwise_cons.2 ⟨fun n mem => same ▸ least n mem, sorted⟩
      · rename_i less ne
        refine List.pairwise_cons.2 ⟨fun n mem => ?_, ih⟩
        rcases mem_setMember mem with rfl | mem
        · exact String.not_le.1 fun le => ne (String.le_antisymm le (String.not_lt.1 less))
        · exact least n mem

/-- Members set one after the other. -/
def setMembers (members sorted : List (String × Json)) : List (String × Json) :=
  members.foldl (fun sorted (k, v) => setMember k v sorted) sorted

section
variable {members sorted : List (String × Json)}

theorem sorted_setMembers (h : sorted.Pairwise fun m n => m.1 < n.1) :
    (setMembers members sorted).Pairwise fun m n => m.1 < n.1 := by
  induction members generalizing sorted with
  | nil => exact h
  | cons m members ih => exact ih (sorted_setMember m.1 m.2 h)

theorem mem_setMembers {m : String × Json} (mem : m ∈ setMembers members sorted) :
    m ∈ members ∨ m ∈ sorted := by
  induction members generalizing sorted with
  | nil => exact .inr mem
  | cons n members ih =>
    rcases ih mem with mem | mem
    · exact .inl (List.mem_cons_of_mem _ mem)
    · rcases mem_setMember mem with rfl | mem
      · exact .inl List.mem_cons_self
      · exact .inr mem

theorem lookup_setMembers_of_not_mem {name : String} (other : name ∉ members.map Prod.fst) :
    (setMembers members sorted).lookup name = sorted.lookup name := by
  induction members generalizing sorted with
  | nil => rfl
  | cons m members ih =>
    rw [List.map_cons, List.mem_cons, not_or] at other
    refine (ih other.2).trans ?_
    rw [lookup_setMember, if_neg other.1]

/-- Among members with different names each is found. -/
theorem lookup_setMembers (distinct : (members.map Prod.fst).Nodup) {m : String × Json}
    (mem : m ∈ members) : (setMembers members sorted).lookup m.1 = some m.2 := by
  induction members generalizing sorted with
  | nil => cases mem
  | cons n members ih =>
    rw [List.map_cons, List.nodup_cons] at distinct
    rcases List.mem_cons.1 mem with rfl | mem
    · refine (lookup_setMembers_of_not_mem distinct.1).trans ?_
      rw [lookup_setMember, if_pos rfl]
    · exact ih distinct.2 mem

theorem keys_setMembers (distinct : (members.map Prod.fst).Nodup) (name : String) :
    name ∈ (setMembers members []).map Prod.fst ↔ name ∈ members.map Prod.fst := by
  constructor
  · intro set
    obtain ⟨m, mem, rfl⟩ := List.mem_map.1 set
    rcases mem_setMembers mem with mem | mem
    · exact List.mem_map_of_mem mem
    · cases mem
  · intro given
    obtain ⟨m, mem, rfl⟩ := List.mem_map.1 given
    have found : (setMembers members []).lookup m.1 = some m.2 := lookup_setMembers distinct mem
    obtain ⟨before, after, is, -⟩ := List.lookup_eq_some_iff.1 found
    rw [is, List.map_append, List.map_cons]
    exact List.mem_append_right _ List.mem_cons_self

end

end Json
end MessageBus
