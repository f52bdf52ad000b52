import MessageBus.Proofs.TicketRows

/-! Delivery policies and their columns. A timeout is kept in whole milliseconds and a limit of
retries in a signed number, so that a policy is cut to what its columns hold. What has come back once
is kept from then on. -/
namespace MessageBus.Database

/-! Timeouts. -/

theorem toInt_millisColumn (d : Duration) : (millisColumn d).toInt = min d.millis maxInt8 := by
  have small : min d.millis maxInt8 < 2 ^ 63 :=
    Nat.lt_of_le_of_lt (Nat.min_le_right _ _) (by decide)
  rw [millisColumn, Int64.toInt_ofNat_of_lt small]

theorem nanos_millisOfColumn (ms : Int64) :
    (millisOfColumn ms).nanos = ms.toInt.toNat * 1_000_000 := by
  have below := ms.toInt_lt
  have fits : ms.toInt.toNat < UInt64.size := Nat.lt_trans (by omega : _ < 2 ^ 63) (by decide)
  have same : ms.toInt.toNat.toUInt64.toNat = ms.toInt.toNat := UInt64.toNat_ofNat_of_lt' fits
  exact congrArg (· * 1_000_000) same

theorem millis_millisOfColumn (ms : Int64) : (millisOfColumn ms).millis = ms.toInt.toNat := by
  rw [Duration.millis, nanos_millisOfColumn, Nat.mul_div_cancel _ (by decide)]

/-- A number of milliseconds that was read is written back as it was. -/
theorem millisColumn_millisOfColumn {ms : Int64} (nonneg : 0 ≤ ms.toInt) :
    millisColumn (millisOfColumn ms) = ms := by
  have below := ms.toInt_lt
  refine Int64.toInt_inj.1 ?_
  rw [toInt_millisColumn, millis_millisOfColumn, maxInt8]
  omega

theorem millisColumn_nonneg (d : Duration) : 0 ≤ (millisColumn d).toInt := by
  rw [toInt_millisColumn]
  exact Int.natCast_nonneg _

/-- The timeout that comes back from the column of a timeout. -/
theorem nanos_millisOfColumn_millisColumn (d : Duration) :
    (millisOfColumn (millisColumn d)).nanos = min d.millis maxInt8 * 1_000_000 := by
  rw [nanos_millisOfColumn, toInt_millisColumn, Int.toNat_natCast]

theorem millisOfColumn_millisColumn_le (d : Duration) : millisOfColumn (millisColumn d) ≤ d := by
  change (millisOfColumn (millisColumn d)).nanos ≤ d.nanos
  rw [nanos_millisOfColumn_millisColumn, Duration.millis]
  omega

theorem millisOfColumn_millisColumn_eq_iff {d : Duration} :
    millisOfColumn (millisColumn d) = d ↔ 1_000_000 ∣ d.nanos ∧ d.millis ≤ maxInt8 := by
  have back := nanos_millisOfColumn_millisColumn d
  constructor
  · intro same
    rw [same, Duration.millis] at back
    rw [Duration.millis]
    omega
  · rintro ⟨whole, fits⟩
    refine Duration.ext ?_
    rw [back, Nat.min_eq_left fits, Duration.millis, Nat.div_mul_cancel whole]

/-! Limits of retries. -/

theorem toNat_countOfColumn_countColumn (n : UInt32) :
    (countOfColumn (countColumn n)).toNat = min n.toNat maxInt4 := by
  have small : min n.toNat maxInt4 < UInt32.size :=
    Nat.lt_of_le_of_lt (Nat.min_le_right _ _) (by decide)
  rw [countOfColumn, toUInt32_countColumn, UInt32.toNat_ofNat_of_lt' small]

theorem countOfColumn_countColumn_eq_iff {n : UInt32} :
    countOfColumn (countColumn n) = n ↔ n.toNat ≤ maxInt4 := by
  rw [← UInt32.toNat_inj, toNat_countOfColumn_countColumn]
  omega

/-- A count that was written comes back as what stands in its column. -/
theorem countColumn_countOfColumn_countColumn (n : UInt32) :
    countColumn (countOfColumn (countColumn n)) = countColumn n :=
  countColumn_of_toInt (Int32.le_iff_toInt_le.1 (countColumn_nonneg n))

/-! Policies. -/

/-- The policy that comes back from the columns of a policy. -/
def storedPolicy (p : DeliveryPolicy) : DeliveryPolicy :=
  policyOfColumns p.fifo (millisColumn p.processingTimeout) (p.maxRetry.map countColumn)

/-- The columns of a policy, in the order in which they are written. -/
def policyColumns : List String := ["is_fifo", "processing_timeout_ms", "max_retry"]

/-- In these columns of the row stands what is written for the policy. -/
def StandsIn (p : DeliveryPolicy) (row : SqlRow) : Prop :=
  ∀ column ∈ policyColumns.zip (policyParams p),
    List.lookup column.1 row.reverse = some column.2.stored?

/-- A policy that was written is read as what is left of it. -/
theorem policyOfRow_of_standsIn {p : DeliveryPolicy} {row : SqlRow} (stands : StandsIn p row) :
    policyOfRow row = .ok (storedPolicy p) := by
  simp only [StandsIn, policyColumns, policyParams, List.zip_cons_cons, List.zip_nil_right,
    List.forall_mem_cons] at stands
  obtain ⟨fifo, timeout, limit, -⟩ := stands
  have written : (SqlParam.optional (fun n => .int4 (countColumn n)) p.maxRetry).stored? =
      (p.maxRetry.map countColumn).map SqlValue.int4 := by
    cases p.maxRetry <;> rfl
  rw [written] at limit
  have readFifo : catalogCell row Bool "is_fifo" = .ok p.fifo := cell_required fifo rfl _
  have readTimeout : catalogCell row Int64 "processing_timeout_ms" =
      .ok (millisColumn p.processingTimeout) := cell_required timeout rfl _
  have readLimit : catalogCell row (Option Int32) "max_retry" = .ok (p.maxRetry.map countColumn) :=
    cell_optional limit (fun _ => rfl) _
  rw [policyOfRow, readFifo, readTimeout, readLimit]
  rfl

/-- Nothing of the policy is lost in its columns. -/
structure FitsColumns (p : DeliveryPolicy) : Prop where
  wholeMillis : 1_000_000 ∣ p.processingTimeout.nanos
  timeout : p.processingTimeout.millis ≤ maxInt8
  limit : ∀ n, p.maxRetry = some n → n.toNat ≤ maxInt4

theorem storedPolicy_idem (p : DeliveryPolicy) : storedPolicy (storedPolicy p) = storedPolicy p := by
  -- What came out of the columns goes back into the same ones.
  have timeout := millisColumn_millisOfColumn (millisColumn_nonneg p.processingTimeout)
  have limit : ((p.maxRetry.map countColumn).map countOfColumn).map countColumn =
      p.maxRetry.map countColumn := by
    cases p.maxRetry with
    | none => rfl
    | some n => exact congrArg some (countColumn_countOfColumn_countColumn n)
  simp only [storedPolicy, policyOfColumns, timeout, limit]

theorem storedPolicy_eq_iff {p : DeliveryPolicy} : storedPolicy p = p ↔ FitsColumns p := by
  obtain ⟨fifo, timeout, maxRetry⟩ := p
  have limit : (maxRetry.map countColumn).map countOfColumn = maxRetry ↔
      ∀ n, maxRetry = some n → n.toNat ≤ maxInt4 := by
    cases maxRetry <;> simp [countOfColumn_countColumn_eq_iff]
  simp only [storedPolicy, policyOfColumns, DeliveryPolicy.mk.injEq, true_and, limit,
    millisOfColumn_millisColumn_eq_iff]
  exact ⟨fun ⟨⟨whole, small⟩, few⟩ => ⟨whole, small, few⟩,
    fun ⟨whole, small, few⟩ => ⟨⟨whole, small⟩, few⟩⟩

/-- The numbers of failures on which a policy and what comes back of it do not agree. -/
theorem retriesExhausted_storedPolicy_ne_iff {p : DeliveryPolicy} {failures : UInt32} :
    (storedPolicy p).retriesExhausted failures ≠ p.retriesExhausted failures ↔
      ∃ n, p.maxRetry = some n ∧ maxInt4 ≤ failures.toNat ∧ failures < n := by
  obtain ⟨fifo, timeout, maxRetry⟩ := p
  cases maxRetry with
  | none => simp [storedPolicy, policyOfColumns, DeliveryPolicy.retriesExhausted]
  | some n =>
    -- A limit that fits is kept; any other one is used up at the largest number of its column.
    have cut := toNat_countOfColumn_countColumn n
    simp only [storedPolicy, policyOfColumns, DeliveryPolicy.retriesExhausted, Option.map_some,
      Option.any_some, ne_eq, decide_eq_decide, UInt32.le_iff_toNat_le, UInt32.lt_iff_toNat_lt, cut,
      Option.some.injEq, exists_eq_left']
    omega

/-- From the columns of a policy comes a policy of the same order, with the timeout in whole
milliseconds and both numbers cut to the largest of their columns. It is the same policy exactly if
nothing was lost, it is kept from then on, and it agrees on every number of failures below the
largest limit. -/
theorem policy_cut_to_columns (p : DeliveryPolicy) :
    let q := policyOfColumns p.fifo (millisColumn p.processingTimeout) (p.maxRetry.map countColumn)
    (∀ row, StandsIn p row → policyOfRow row = .ok q) ∧
    q.fifo = p.fifo ∧
    (q.processingTimeout.nanos = min p.processingTimeout.millis maxInt8 * 1_000_000 ∧
      q.processingTimeout ≤ p.processingTimeout) ∧
    q.maxRetry.map UInt32.toNat = p.maxRetry.map (fun n => min n.toNat maxInt4) ∧
    policyOfColumns q.fifo (millisColumn q.processingTimeout) (q.maxRetry.map countColumn) = q ∧
    (q = p ↔ FitsColumns p) ∧
    ∀ failures : UInt32, failures.toNat < maxInt4 →
      q.retriesExhausted failures = p.retriesExhausted failures := by
  intro q
  refine ⟨fun row => policyOfRow_of_standsIn, rfl, ⟨?_, ?_⟩, ?_, storedPolicy_idem p,
    storedPolicy_eq_iff, fun failures few => ?_⟩
  · exact nanos_millisOfColumn_millisColumn p.processingTimeout
  · exact millisOfColumn_millisColumn_le p.processingTimeout
  · change ((p.maxRetry.map countColumn).map countOfColumn).map UInt32.toNat = _
    cases p.maxRetry with
    | none => rfl
    | some n => exact congrArg some (toNat_countOfColumn_countColumn n)
  · by_contra differ
    obtain ⟨n, -, many, -⟩ := retriesExhausted_storedPolicy_ne_iff.1 differ
    omega

/-- A policy with a timeout and a limit that are both too large, and a part of a millisecond. -/
def boundlessPolicy : DeliveryPolicy where
  fifo := true
  processingTimeout := ⟨18_446_744_073_709_551_615 * 1_000_000_000 + 1, by decide⟩
  maxRetry := some 4_294_967_295

def boundlessRow : SqlRow :=
  [("is_fifo", some (.bool true)), ("processing_timeout_ms", some (.int8 Int64.maxValue)),
    ("max_retry", some (.int4 Int32.maxValue))]

theorem policy_cut_to_columns_boundless :
    policyOfRow boundlessRow = .ok ⟨true, .ofMillis 9_223_372_036_854_775_807, some 2_147_483_647⟩ ∧
    storedPolicy boundlessPolicy ≠ boundlessPolicy ∧
    (storedPolicy boundlessPolicy).retriesExhausted 2_147_483_646 =
      boundlessPolicy.retriesExhausted 2_147_483_646 := by
  obtain ⟨read, -, -, -, -, same, agree⟩ := policy_cut_to_columns boundlessPolicy
  refine ⟨?_, fun is => ?_, agree 2_147_483_646 (by decide)⟩
  · refine (read boundlessRow ?_).trans (by decide +kernel)
    simp only [StandsIn, policyColumns, policyParams, List.zip_cons_cons, List.zip_nil_right,
      List.forall_mem_cons]
    decide +kernel
  · exact absurd (same.1 is).wholeMillis (by decide)

end MessageBus.Database
