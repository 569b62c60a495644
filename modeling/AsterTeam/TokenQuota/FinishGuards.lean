import AsterTeam.TokenQuota.FinishOnce

/-! The checks of storage on the transactions that end a reservation: what Control prepares
passes them, and where the check of a settlement computes out of range.
-/

namespace AsterTeam

open MachineInteger Relational

variable {auth : AuthCore} {db : Database} {snapshot : QuotaStateSnapshot}
  {transition : FinishTransition}

section

variable {reservation : QuotaReservation} {rawTokens billed : Int64}

def otherReservations (snapshot : QuotaStateSnapshot) (row : QuotaReservationRecord) : Int :=
  ((snapshot.activeReservations.erase row).map (·.reservedTokens.toInt)).sum

/-- An entry charges the bill of a usage as far as the other reservations leave tokens. -/
structure Charges (snapshot : QuotaStateSnapshot) (row : QuotaReservationRecord)
    (usage : ModelUsage) (entry : QuotaLedgerEntry)
    : Prop where
  raw
    : entry.rawTokens.toInt
      = usage.uncachedInput.toInt + usage.cachedInput.toInt + usage.cacheWrite.toInt
        + usage.outputTokens.toInt
  billed
    : entry.billedTokens.toInt
      = ⌈(entry.rawTokens.toInt * usage.multiplierMicros.toInt : ℚ) / 10 ^ 6⌉
  charged
    : -entry.amountTokens.toInt
      = min entry.billedTokens.toInt
          (snapshot.balance.balanceTokens.toInt - otherReservations snapshot row)
  uncovered
    : entry.uncoveredTokens.toInt = entry.billedTokens.toInt - -entry.amountTokens.toInt

theorem charges_of_prepared (free : auth.CollisionFree)
    (hv : verifiedQuotaSnapshot auth db reservation.identityId = .ok snapshot)
    (hme : MeteredUsage usage rawTokens)
    (billing : billedTokens rawTokens usage.multiplierMicros = .ok billed)
    (made : prepareSettlement auth reservation usage rawTokens billed snapshot draw
        = .ok (settlement, transition))
    : ∃ rows ledger,
        transition = .settle rows ledger
        ∧ PreparedFinish auth snapshot reservation rows
        ∧ transition.Valid
        ∧ Charges snapshot rows.expectedReservation usage ledger := by
  have hbi := billedTokens_nonneg hme.rawNonneg hme.multiplier billing
  obtain ⟨rows, ledger, amountTokens, rfl, hc, settling, hb, _, prepared,
    valid⟩ := prepareSettlement_valid free hv hme hbi made
  obtain ⟨read, account⟩ := verifiedQuotaSnapshot_eq_ok.mp hv
  obtain ⟨_, reservations, _⟩ := quotaStateSnapshot_rows read
  have hs := reservations.mem_iff.mp prepared.row
  have hr
      : snapshot.balance.totals .reserved
        = rows.expectedReservation.reservedTokens.toInt
          + otherReservations snapshot rows.expectedReservation := by
    rw [account.reserved, ← (reservations.map (·.reservedTokens.toInt)).sum_eq,
      ← List.sum_map_erase (·.reservedTokens.toInt) prepared.row]
    rfl
  obtain ⟨hch, _, hun⟩ :=
    (settlementOf_eq_ok hbi (account.held_le hs)
      (account.reservations _ hs).positive.le account.covered).mp settling
  have hu := valid.metered.uncovered
  have bill := billedTokens_eq_ceil hme.rawNonneg hme.multiplier billing
  have total : snapshot.balance.totals .balance = snapshot.balance.balanceTokens.toInt := rfl
  refine ⟨rows, ledger, rfl, prepared, valid, ?_⟩
  rw [hc] at hu ⊢
  simp only [usageEntry, hb] at hu ⊢
  refine ⟨hme.raw, bill, ?_, ?_⟩
  · simp only
    omega
  · simp only
    omega

end

/-- The transaction is the one of the call and passes its check; a settlement charges what the
other reservations leave.
-/
def ReservationCall.Accepted (call : ReservationCall) (snapshot : QuotaStateSnapshot)
    (transition : FinishTransition)
    : Prop :=
  match call, transition with
  | .release _, .release rows =>
    validReleaseTransition rows.expectedBalance rows.nextBalance rows.expectedReservation
        rows.nextReservation
      = true
  | .fail _ _, .fail rows ledger =>
    validFailedRequestTransition rows.expectedBalance rows.nextBalance rows.expectedReservation
        rows.nextReservation ledger
      = true
  | .settle _ usage, .settle rows ledger =>
    validSettlementTransition rows.expectedBalance rows.nextBalance rows.expectedReservation
          rows.nextReservation ledger
        = true
      ∧ Charges snapshot rows.expectedReservation usage ledger
  | _, _ => False

/-- Control prepares each call for the reservation it names, with the transaction of that call,
and storage runs it: the check of storage never refuses what Control has prepared.
-/
theorem prepared_calls_accepted {call : ReservationCall} {draw : Draw}
    (free : auth.CollisionFree)
    (verified : verifiedQuotaSnapshot auth db call.reservation.identityId = .ok snapshot)
    (made : call.prepare auth snapshot draw = .ok transition)
    : PreparedFinish auth snapshot call.reservation transition.rows
      ∧ call.Accepted snapshot transition
      ∧ ∀ stored, transition.execute stored = transaction transition.body stored := by
  cases call with
  | release reservation =>
    obtain ⟨rows, rfl, prepared, valid⟩ := prepareRelease_valid free verified made
    have guarded := FinishTransition.guard_of_valid valid
    exact ⟨prepared, guarded, FinishTransition.execute_of_guard guarded⟩
  | fail reservation failure =>
    obtain ⟨hr, made⟩ := guard_of_ok made
    have ha : validFailure failure := by simpa using hr
    obtain ⟨rows, ledger, rfl, _, _, prepared, valid⟩ :=
      prepareFailure_valid free verified ha made
    have guarded := FinishTransition.guard_of_valid valid
    exact ⟨prepared, guarded, FinishTransition.execute_of_guard guarded⟩
  | settle reservation usage =>
    obtain ⟨rawTokens, hc, made⟩ := bind_ok made
    obtain ⟨hb, billing, made⟩ := bind_ok made
    obtain ⟨⟨_, prepared⟩, hs, he⟩ := bind_ok made
    cases he
    obtain ⟨rows, ledger, rfl, prepared, valid, charges⟩ :=
      charges_of_prepared free verified (checkedRawTokens_eq_ok.mp hc) billing hs
    have guarded := FinishTransition.guard_of_valid valid
    exact ⟨prepared, ⟨guarded, charges⟩, FinishTransition.execute_of_guard guarded⟩

theorem sampleRelease_prepared (balance : snapshot.balance = openBalance)
    (hf : findReservation sampleReservation snapshot = .ok openReservation)
    : ∃ rows,
        prepareRelease .transparent sampleReservation snapshot (sampleDraws 0)
        = .ok (.release rows) := by
  obtain ⟨row, finished, _⟩ := @finishedReservation_of_room openReservation .transparent
    ⟨by decide, by decide +kernel⟩ .released (sampleDraws 0).now
  obtain ⟨next, revised, _⟩ := @revisedBalance_of_room { openBalance with reservedTokens := 0 }
    openBalance.lastLedgerHmac .transparent ⟨by decide, by decide +kernel⟩ (sampleDraws 0).now
  refine ⟨_, bind_eq_ok.mpr ⟨_, hf, bind_eq_ok.mpr ⟨row, finished, bind_eq_ok.mpr ⟨next, ?_, rfl⟩⟩⟩⟩
  rw [balance]
  exact bind_eq_ok.mpr ⟨0, okOr_eq_ok.mpr (checkedSub_eq_some.mpr (by decide)), revised⟩

/-- A settlement, a failure and a release on one account. -/
theorem sample_calls_accepted
    : ∃ snapshot,
        ∀ call
          ∈ [sampleCall none, .fail sampleReservation expiredFailure, .release sampleReservation],
          ∃ transition,
            call.prepare .transparent snapshot (sampleDraws 0) = .ok transition
            ∧ transition.rows.expectedReservation.id = "reservation"
            ∧ call.Accepted snapshot transition := by
  obtain ⟨snapshot, hv, balance, hf⟩ := openAccount_snapshot
  have verified
      : verifiedQuotaSnapshot .transparent openAccount sampleReservation.identityId
        = .ok snapshot :=
    hv
  have accepted (call : ReservationCall) (own : call.reservation = sampleReservation)
      (prepares : ∃ transition, call.prepare .transparent snapshot (sampleDraws 0) = .ok transition)
      : ∃ transition,
          call.prepare .transparent snapshot (sampleDraws 0) = .ok transition
          ∧ transition.rows.expectedReservation.id = "reservation"
          ∧ call.Accepted snapshot transition := by
    obtain ⟨transition, made⟩ := prepares
    obtain ⟨prepared, accepted, _⟩ :=
      prepared_calls_accepted AuthCore.transparent_collisionFree (own ▸ verified) made
    exact ⟨transition, made, prepared.id.trans (congrArg QuotaReservation.id own), accepted⟩
  refine ⟨snapshot, List.forall_mem_cons.mpr ⟨accepted _ rfl ?_,
    List.forall_mem_cons.mpr
      ⟨accepted _ rfl ?_, List.forall_mem_singleton.mpr (accepted _ rfl ?_)⟩⟩⟩
  · obtain ⟨_, rows, ledger, made, _⟩ := prepareSettlement_of_room verified hf
      (sampleUsage_metered none) (by decide) (sampleSettlement_room (by decide) balance)
    refine ⟨.settle rows ledger, bind_eq_ok.mpr
      ⟨3, checkedRawTokens_eq_ok.mpr (sampleUsage_metered none), ?_⟩⟩
    exact bind_eq_ok.mpr ⟨3, sampleUsage_billing, bind_eq_ok.mpr ⟨_, made, rfl⟩⟩
  · obtain ⟨rows, ledger, made, _⟩ :=
      prepareFailure_of_room verified hf (expiredFailure_room balance)
    refine ⟨.fail rows ledger, ?_⟩
    rw [ReservationCall.prepare, if_neg (by decide +kernel)]
    exact made
  · obtain ⟨_, made⟩ := sampleRelease_prepared balance hf
    exact ⟨_, made⟩

-- The arithmetic of the check on a settlement

section

variable (expected next : UserBalanceRecord) (row nextRow : QuotaReservationRecord)
  (ledger : QuotaLedgerEntry)

/-- The conjuncts of `validSettlementTransition` that do not look at the charge. All of them
come first.
-/
def settlementOpens (rawTokens : Int64) : Bool :=
  validBalanceShape expected
    && validBalanceShape next
    && finishesReservation row nextRow .settled
    && ledger.kind = "usage"
    && ledger.description ≠ ""
    && ledger.identityId = expected.identityId
    && ledger.apiKeyId = some row.apiKeyId
    && ledger.runnerId.any (· ≠ "")
    && ledger.referenceId = row.requestId
    && ledger.previousEntryHmac = expected.lastLedgerHmac
    && ledger.integrityHmac ≠ ""
    && 0 < ledger.multiplierMicros
    && 0 ≤ rawTokens
    && ledger.rawTokens = rawTokens

/-- The subtractions of `validSettlementTransition` that are not checked, in the order of
its conjuncts, each with what has been found true before it.
-/
def settlementSubtractions (charge rawTokens : Int64) : List (Bool × Int64 × Int64) :=
  let opening :=
    settlementOpens expected next row nextRow ledger rawTokens && charge ≤ ledger.billedTokens
  let affordable :=
    opening
      && ledger.uncoveredTokens = ledger.billedTokens - charge
      && (checkedSub expected.balanceTokens
          ((checkedSub expected.reservedTokens row.reservedTokens).getD
            Int64.maxValue)).any (fun available => 0 ≤ charge && charge ≤ available)
      && next.identityId = expected.identityId
  [(opening, ledger.billedTokens, charge),
    (affordable, expected.balanceTokens, charge),
    (affordable && next.balanceTokens = expected.balanceTokens - charge,
      expected.reservedTokens, row.reservedTokens)]

def settlementOverflows : Bool :=
  match checkedNeg ledger.amountTokens, entryRawTokens ledger with
  | some charge, some rawTokens =>
    (settlementSubtractions expected next row nextRow ledger charge rawTokens).any
      fun (reached, left, right) => reached && (checkedSub left right).isNone
  | _, _ => false

end

variable {expected next : UserBalanceRecord} {row nextRow : QuotaReservationRecord}
  {ledger : QuotaLedgerEntry}

theorem checkedSub_isNone {left right : Int64}
    : (checkedSub left right).isNone = true
      ↔ left.toInt - right.toInt < -2 ^ 63 ∨ 2 ^ 63 ≤ left.toInt - right.toInt := by
  unfold checkedSub fit
  split_ifs with range
  · simp only [Option.isNone_some, Bool.false_eq_true, false_iff]
    omega
  · simp only [Option.isNone_none, true_iff]
    omega

/-- A difference of amounts that are not negative is in range. -/
theorem checkedSub_isNone_of_nonneg {left right : Int64} (hl : 0 ≤ left.toInt)
    (hr : 0 ≤ right.toInt)
    : (checkedSub left right).isNone = false := by
  have hle := left.toInt_lt
  have hri := right.toInt_lt
  rw [Bool.eq_false_iff, ne_eq, checkedSub_isNone]
  omega

/-- The only settlement that reaches the difference of the reserved amounts out of range: it
charges nothing of the largest balance there is.
-/
structure HeldOutOfRange (expected next : UserBalanceRecord) (row : QuotaReservationRecord)
    (ledger : QuotaLedgerEntry)
    : Prop where
  charge : ledger.amountTokens = 0
  billed : 0 ≤ ledger.billedTokens.toInt
  uncovered : ledger.uncoveredTokens = ledger.billedTokens
  balance : expected.balanceTokens = Int64.maxValue
  identity : next.identityId = expected.identityId
  unchanged : next.balanceTokens = expected.balanceTokens
  difference : 2 ^ 63 ≤ expected.reservedTokens.toInt - row.reservedTokens.toInt

theorem nonneg_of_opens {rawTokens : Int64}
    (opens : settlementOpens expected next row nextRow ledger rawTokens) (counter : Counter)
    : 0 ≤ expected.totals counter := by
  simp only [settlementOpens, Bool.and_eq_true] at opens
  exact (validBalanceShape_iff.mp (by tauto)).nonneg counter

/-- What is left for a charge when the difference of the reserved amounts is out of range. -/
theorem affordable_out_of_range {charge : Int64}
    (outside : (checkedSub expected.reservedTokens row.reservedTokens).isNone)
    : (checkedSub expected.balanceTokens
          ((checkedSub expected.reservedTokens row.reservedTokens).getD
            Int64.maxValue)).any (fun available => 0 ≤ charge && charge ≤ available) = true
      ↔ charge = 0 ∧ expected.balanceTokens = Int64.maxValue := by
  have largest : Int64.maxValue.toInt = 2 ^ 63 - 1 := rfl
  have high := expected.balanceTokens.toInt_lt
  rw [Option.isNone_iff_eq_none.mp outside, Option.getD_none]
  simp only [Option.any_eq_true, checkedSub_eq_some, Bool.and_eq_true, decide_eq_true_eq,
    Int64.le_iff_toInt_le, ← Int64.toInt_inj, Int64.toInt_zero, largest]
  constructor
  · rintro ⟨available, rest, nonneg, within⟩
    omega
  · rintro ⟨free, full⟩
    exact ⟨0, by rw [Int64.toInt_zero, full, sub_self], by omega, by rw [Int64.toInt_zero]; omega⟩

theorem subtractions_out_of_range {charge rawTokens : Int64}
    (opens : settlementOpens expected next row nextRow ledger rawTokens)
    (hc : charge.toInt = -ledger.amountTokens.toInt)
    : ((settlementSubtractions expected next row nextRow ledger charge rawTokens).any
          fun (reached, left, right) => reached && (checkedSub left right).isNone) = true
      ↔ 2 ^ 63 ≤ ledger.billedTokens.toInt + ledger.amountTokens.toInt
        ∨ HeldOutOfRange expected next row ledger := by
  have balance : 0 ≤ expected.balanceTokens.toInt := nonneg_of_opens opens .balance
  have reserved : 0 ≤ expected.reservedTokens.toInt := nonneg_of_opens opens .reserved
  simp only [settlementSubtractions, opens, Bool.true_and, List.any_cons, List.any_nil,
    Bool.or_false, Bool.or_eq_true, Bool.and_eq_true, decide_eq_true_eq]
  constructor
  · rintro (⟨below, outside⟩ | ⟨reached, outside⟩ | ⟨reached, outside⟩)
    · left
      rw [checkedSub_isNone] at outside
      rw [Int64.le_iff_toInt_le] at below
      omega
    · obtain ⟨⟨_, affordable⟩, _⟩ := reached
      obtain ⟨_, _, within⟩ := (Option.any_eq_true _ _).mp affordable
      simp only [Bool.and_eq_true, decide_eq_true_eq, nonneg_iff] at within
      rw [checkedSub_isNone_of_nonneg balance within.1] at outside
      cases outside
    · obtain ⟨⟨⟨⟨below, uncovered⟩, affordable⟩, identity⟩, unchanged⟩ := reached
      obtain ⟨rfl, full⟩ := (affordable_out_of_range outside).mp affordable
      have low := row.reservedTokens.toInt_lt
      rw [checkedSub_isNone] at outside
      rw [Int64.sub_zero] at uncovered unchanged
      rw [Int64.toInt_zero] at hc
      exact .inr ⟨Int64.toInt_inj.mp (by rw [Int64.toInt_zero]; omega), nonneg_iff.mp below,
        uncovered, full, identity, unchanged, by omega⟩
  · rintro (large | held)
    · refine .inl ⟨Int64.le_iff_toInt_le.mpr (by omega), checkedSub_isNone.mpr (by omega)⟩
    · have free : charge = 0 := by
        rw [← Int64.toInt_inj, hc, held.charge]
        rfl
      have outside : (checkedSub expected.reservedTokens row.reservedTokens).isNone :=
        checkedSub_isNone.mpr (.inr held.difference)
      rw [free, Int64.sub_zero, Int64.sub_zero]
      exact .inr (.inr ⟨⟨⟨⟨⟨nonneg_iff.mpr held.billed, held.uncovered⟩,
        (affordable_out_of_range outside).mpr ⟨rfl, held.balance⟩⟩, held.identity⟩,
        held.unchanged⟩, outside⟩)

/-- The check of a settlement computes out of range exactly if the conjuncts before hold and
the bill exceeds a negative charge by too much, or a held amount is too far below zero; and a
change that the check accepts is the exact one.
-/
theorem settlement_check_exact
    : (settlementOverflows expected next row nextRow ledger = true
        ↔ ∃ rawTokens, entryRawTokens ledger = some rawTokens
          ∧ settlementOpens expected next row nextRow ledger rawTokens = true
          ∧ (2 ^ 63 ≤ ledger.billedTokens.toInt + ledger.amountTokens.toInt
            ∨ HeldOutOfRange expected next row ledger))
      ∧ (validSettlementTransition expected next row nextRow ledger = true
        → next.balanceTokens.toInt
            = expected.balanceTokens.toInt - -ledger.amountTokens.toInt
          ∧ 0 ≤ -ledger.amountTokens.toInt
          ∧ -ledger.amountTokens.toInt
            ≤ expected.balanceTokens.toInt
              - (expected.reservedTokens.toInt - row.reservedTokens.toInt)) := by
  refine ⟨?_, ?_⟩
  · unfold settlementOverflows
    cases negated : checkedNeg ledger.amountTokens with
    | none =>
      have lowest : ledger.amountTokens.toInt ≤ -2 ^ 63 := by
        by_contra above
        obtain ⟨charge, fits, _⟩ := exists_fit (-ledger.amountTokens.toInt)
          (by have := ledger.amountTokens.toInt_lt; omega) (by omega)
        rw [checkedNeg, fits] at negated
        cases negated
      have high := ledger.billedTokens.toInt_lt
      refine ⟨fun within => absurd within Bool.false_ne_true, ?_⟩
      rintro ⟨_, _, _, large | held⟩
      · omega
      · rw [held.charge] at lowest
        exact absurd lowest (by decide)
    | some charge =>
      have hc := checkedNeg_eq_some.mp negated
      cases raw : entryRawTokens ledger with
      | none => simp
      | some rawTokens =>
        by_cases opens : settlementOpens expected next row nextRow ledger rawTokens
        · simp only [Option.some.injEq, exists_eq_left']
          rw [and_iff_right opens]
          exact subtractions_out_of_range opens hc
        · simp [settlementSubtractions, opens]
  · intro valid
    have hs := validSettlementTransition_iff.mp valid
    have balance := hs.step.totals .balance
    have hr := hs.step.totals .reserved
    have hco := hs.step.nextShape.covered
    have charge := hs.metered.charge
    simp only [effect_of_settlement hs.kind, UserBalanceRecord.totals,
      UserBalanceRecord.column] at balance hr hco
    exact ⟨by omega, by omega, by omega⟩

def heldBalance : UserBalanceRecord := { unsignedBalance with integrityHmac := "tag" }

def heldRow : QuotaReservationRecord := { unsignedReservation with integrityHmac := "tag" }

def settledRow : QuotaReservationRecord :=
  { heldRow with status := .settled, revision := 1, settledAt := some "" }

def chargeEntry (billedTokens amountTokens : Int64) : QuotaLedgerEntry :=
  { usageEntry sampleReservation (sampleUsage none) ⟨heldBalance, [], []⟩ heldRow
      ⟨0, billedTokens, 0⟩ 3 amountTokens (sampleDraws 0) with
    integrityHmac := "tag" }

def chargedSample : UserBalanceRecord :=
  { heldBalance with
    balanceTokens := 7, reservedTokens := 0, consumedTokens := 3, requestCount := 1
    rawTokens := 3, billedTokens := 3, uncachedInput := 2, outputTokens := 1
    revision := 3, lastLedgerHmac := "tag" }

theorem sample_settlement_exact
    : settlementOverflows heldBalance chargedSample heldRow settledRow (chargeEntry 3 (-3)) = false
      ∧ chargedSample.balanceTokens.toInt
        = heldBalance.balanceTokens.toInt - -(chargeEntry 3 (-3)).amountTokens.toInt := by
  have checked := @settlement_check_exact heldBalance chargedSample heldRow settledRow
    (chargeEntry 3 (-3))
  refine ⟨Bool.eq_false_iff.mpr fun overflows => ?_, (checked.2 (by decide +kernel)).1⟩
  obtain ⟨_, _, _, large | held⟩ := checked.1.mp overflows
  · exact absurd large (by decide)
  · exact absurd held.charge (by decide)

/-- A bill at the end of the range and a negative charge: the difference is out of range,
and only the next conjunct refuses the charge.
-/
theorem negative_charge_overflows
    : settlementOverflows heldBalance heldBalance heldRow settledRow
          (chargeEntry Int64.maxValue 5)
        = true
      ∧ validSettlementTransition heldBalance heldBalance heldRow settledRow
          (chargeEntry Int64.maxValue 5)
        = false := by
  decide +kernel

end AsterTeam
