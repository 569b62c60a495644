import AsterTeam.TokenQuota.Calls

/-! What Control prepares from a verified snapshot is what storage accepts: the checks of
storage and the arithmetic of Control are written separately and agree.
-/

namespace AsterTeam

open MachineInteger Relational

variable {reservation : QuotaReservation} {snapshot : QuotaStateSnapshot}
  {row : QuotaReservationRecord}

theorem findReservation_eq_ok
    : findReservation reservation snapshot = .ok row
      ↔ snapshot.activeReservations.find? (fun row => row.id = reservation.id) = some row
        ∧ row.requestId = reservation.requestId
        ∧ row.reservedTokens = reservation.reservedTokens := by
  unfold findReservation
  cases snapshot.activeReservations.find? (fun row => row.id = reservation.id) with
  | none => simp
  | some hf =>
    refine ⟨?_, ?_⟩
    · intro hm
      obtain ⟨same, hm⟩ := guard_of_ok hm
      cases hm
      simpa [not_or] using same
    · intro good
      obtain ⟨hr, requestId, reservedTokens⟩ := good
      cases hr
      simp [requestId, reservedTokens]

/-- A finished row as Control writes it. -/
structure FinishedRow (auth : AuthCore) (row next : QuotaReservationRecord)
    (status : ReservationStatus) (now : DatabaseTime)
    : Prop where
  revision : checkedSucc row.revision = some next.revision
  signed : reservationIntegrityHmac auth next = .ok next.integrityHmac
  kept
    : next
      = { row with
          status
          revision := next.revision
          settledAt := some now.text
          integrityHmac := next.integrityHmac }

variable {auth : AuthCore} {status : ReservationStatus} {now : DatabaseTime}

theorem FinishedRow.of_made {next : QuotaReservationRecord}
    (hm : finishedReservation auth row status now = .ok next)
    : FinishedRow auth row next status now := by
  obtain ⟨revision, ha, hm⟩ := bind_ok hm
  obtain ⟨tag, signed, hm⟩ := bind_ok hm
  cases hm
  exact ⟨okOr_eq_ok.mp ha, signed, rfl⟩

theorem FinishedRow.finishes {next : QuotaReservationRecord} (free : auth.CollisionFree)
    (ha : row.status = .active) (finished : FinishedRow auth row next status now)
    : Finishes row next status := by
  have revision := (saturatingSucc_of_checkedSucc finished.revision).symm
  have signed := AuthCore.sign_ne_empty free quotaReservationIntegrityKey_valid finished.signed
  have kept := finished.kept
  refine ⟨ha, by rw [kept], revision, by rw [kept]; rfl, signed, ?_⟩
  rw [← revision]
  rw [kept]

/-- A new balance as Control signs it. -/
structure RevisedBalance (auth : AuthCore) (balance next : UserBalanceRecord)
    (lastLedgerHmac : String) (now : DatabaseTime)
    : Prop where
  revision : checkedSucc balance.revision = some next.revision
  signed : balanceIntegrityHmac auth next = .ok next.integrityHmac
  kept
    : next
      = { balance with
          revision := next.revision
          lastLedgerHmac
          updatedAt := now.text
          integrityHmac := next.integrityHmac }

variable {next balance : UserBalanceRecord} {lastLedgerHmac : String}

theorem RevisedBalance.of_made (hm : revisedBalance auth balance lastLedgerHmac now = .ok next)
    : RevisedBalance auth balance next lastLedgerHmac now := by
  obtain ⟨revision, ha, hm⟩ := bind_ok hm
  obtain ⟨tag, signed, hm⟩ := bind_ok hm
  cases hm
  exact ⟨okOr_eq_ok.mp ha, signed, rfl⟩

theorem RevisedBalance.totals (revised : RevisedBalance auth balance next lastLedgerHmac now)
    (counter : Counter)
    : next.totals counter = balance.totals counter := by
  rw [revised.kept]
  cases counter <;> rfl

/-- A signed balance whose counters the given effect leaves in range is one revision of the
old balance.
-/
theorem RevisedBalance.step (revised : RevisedBalance auth balance next lastLedgerHmac now)
    (free : auth.CollisionFree) (shape : WellShaped expected)
    (identity : balance.identityId = expected.identityId)
    (hs : balance.revision = expected.revision)
    (totals : ∀ counter, balance.totals counter = expected.totals counter + effect counter)
    (hn : ∀ counter, 0 ≤ balance.totals counter)
    (hc : balance.totals .reserved ≤ balance.totals .balance)
    : BalanceStep expected next effect := by
  have signed := AuthCore.sign_ne_empty free quotaBalanceIntegrityKey_valid revised.signed
  refine ⟨shape, ⟨?_, ?_, signed⟩, ?_, ?_, ?_⟩
  · intro counter
    rw [revised.totals]
    exact hn counter
  · rw [revised.totals, revised.totals]
    exact hc
  · rw [revised.kept]
    exact identity
  · intro counter
    rw [revised.totals]
    exact totals counter
  · rw [← hs]
    exact (saturatingSucc_of_checkedSucc revised.revision).symm

variable {db : Database} {identityId : String}

theorem VerifiedAccount.shape (free : auth.CollisionFree)
    (account : VerifiedAccount auth db identityId balance)
    : WellShaped balance :=
  ⟨account.nonneg, account.covered,
    AuthCore.sign_ne_empty free quotaBalanceIntegrityKey_valid account.signed⟩

theorem VerifiedAccount.held_le (account : VerifiedAccount auth db identityId balance)
    (hm : row ∈ db.activeReservations identityId)
    : row.reservedTokens.toInt ≤ balance.totals .reserved := by
  rw [account.reserved]
  apply List.single_le_sum
  · intro value hv
    obtain ⟨other, ho, rfl⟩ := List.mem_map.mp hv
    exact (account.reservations other ho).positive.le
  · exact List.mem_map.mpr ⟨row, hm, rfl⟩

theorem returnedBalance_step (free : auth.CollisionFree)
    (account : VerifiedAccount auth db identityId balance)
    (hme : row ∈ db.activeReservations identityId)
    (hm : returnedBalance auth balance row lastLedgerHmac now = .ok next)
    : BalanceStep balance next (fun counter => -row.hold counter)
      ∧ next.lastLedgerHmac = lastLedgerHmac
      ∧ balanceIntegrityHmac auth next = .ok next.integrityHmac := by
  obtain ⟨reservedTokens, difference, hm⟩ := bind_ok hm
  have value := checkedSub_eq_some.mp (okOr_eq_ok.mp difference)
  have revised := RevisedBalance.of_made hm
  have held := account.held_le hme
  have hp := (account.reservations row hme).positive
  have hc := account.covered
  have totals (counter)
      : ({ balance with reservedTokens } : UserBalanceRecord).totals counter
        = balance.totals counter + -row.hold counter := by
    cases counter <;> try exact (add_zero _).symm
    exact value
  refine ⟨?_, by rw [revised.kept], revised.signed⟩
  refine revised.step free (account.shape free) rfl rfl totals ?_ ?_
  · intro counter
    have hn := account.nonneg counter
    rw [totals]
    cases counter <;> simp only [QuotaReservationRecord.hold, neg_zero, add_zero] <;> omega
  · rw [totals, totals]
    simp only [QuotaReservationRecord.hold, neg_zero, add_zero]
    omega

theorem signedLedger_eq_ok (hm : signedLedger auth entry = .ok signed)
    : ledgerIntegrityHmac auth signed = .ok signed.integrityHmac
      ∧ signed = { entry with integrityHmac := signed.integrityHmac } := by
  obtain ⟨tag, ht, hm⟩ := bind_ok hm
  cases hm
  exact ⟨ht, rfl⟩

/-- The rows that an attempt prepares belong to its snapshot and its reservation, and the
new balance carries its tag.
-/
structure PreparedFinish (auth : AuthCore) (snapshot : QuotaStateSnapshot)
    (reservation : QuotaReservation) (rows : Finish)
    : Prop where
  balance : rows.expectedBalance = snapshot.balance
  row : rows.expectedReservation ∈ snapshot.activeReservations
  id : rows.expectedReservation.id = reservation.id
  requestId : rows.expectedReservation.requestId = reservation.requestId
  reservedTokens : rows.expectedReservation.reservedTokens = reservation.reservedTokens
  balanceSigned
    : balanceIntegrityHmac auth rows.nextBalance = .ok rows.nextBalance.integrityHmac

def FinishTransition.Valid : FinishTransition → Prop
  | .release rows =>
    Releases rows.expectedBalance rows.nextBalance rows.expectedReservation rows.nextReservation
  | .fail rows ledger =>
    Fails rows.expectedBalance rows.nextBalance rows.expectedReservation rows.nextReservation ledger
  | .settle rows ledger =>
    Settles rows.expectedBalance rows.nextBalance rows.expectedReservation
      rows.nextReservation ledger

def FinishTransition.guard : FinishTransition → Bool
  | .release rows =>
    validReleaseTransition rows.expectedBalance rows.nextBalance rows.expectedReservation
      rows.nextReservation
  | .fail rows ledger =>
    validFailedRequestTransition rows.expectedBalance rows.nextBalance
      rows.expectedReservation rows.nextReservation ledger
  | .settle rows ledger =>
    validSettlementTransition rows.expectedBalance rows.nextBalance
      rows.expectedReservation rows.nextReservation ledger

theorem FinishTransition.guard_of_valid {transition : FinishTransition}
    (valid : transition.Valid) : transition.guard := by
  cases transition with
  | release rows => exact validReleaseTransition_iff.mpr valid
  | fail rows ledger => exact validFailedRequestTransition_iff.mpr valid
  | settle rows ledger => exact validSettlementTransition_iff.mpr valid

def FinishTransition.body (transition : FinishTransition)
    : Database → Except StorageError (QuotaMutationOutcome × Option Database) :=
  finishReservationBody transition.rows.expectedBalance transition.rows.nextBalance
    transition.rows.expectedReservation transition.rows.nextReservation transition.entry

theorem FinishTransition.execute_of_guard {transition : FinishTransition}
    (hp : transition.guard) (db : Database)
    : transition.execute db = transaction transition.body db := by
  have checked
      : transition.execute db
        = transaction
            (fun db => if !transition.guard then rollback .conflict else transition.body db)
            db := by
    cases transition <;> rfl
  rw [checked, hp]
  rfl

theorem findReservation_member (hf : findReservation reservation snapshot = .ok row)
    : row ∈ snapshot.activeReservations ∧ row.id = reservation.id := by
  obtain ⟨hr, _⟩ := findReservation_eq_ok.mp hf
  exact ⟨List.mem_of_find?_eq_some hr, by simpa using List.find?_some hr⟩

theorem quotaStateSnapshot_rows (read : db.quotaStateSnapshot identityId = some snapshot)
    : db.balance? identityId = some snapshot.balance
      ∧ snapshot.activeReservations.Perm (db.activeReservations identityId)
      ∧ snapshot.ledgerEntries.Perm (db.ledgerOf identityId) := by
  obtain ⟨balance, hs, rows⟩ := Option.bind_eq_some_iff.mp read
  cases rows
  exact ⟨hs, List.perm_insertionSort _ _, List.perm_insertionSort _ _⟩

theorem verifiedSnapshot_row (hv : verifiedQuotaSnapshot auth db identityId = .ok snapshot)
    (hm : row ∈ snapshot.activeReservations)
    : VerifiedAccount auth db identityId snapshot.balance
      ∧ row ∈ db.activeReservations identityId := by
  obtain ⟨read, account⟩ := verifiedQuotaSnapshot_eq_ok.mp hv
  obtain ⟨_, reservations, _⟩ := quotaStateSnapshot_rows read
  exact ⟨account, reservations.mem_iff.mp hm⟩

structure MeteredUsage (usage : ModelUsage) (rawTokens : Int64) : Prop where
  uncachedInput : 0 ≤ usage.uncachedInput.toInt
  cachedInput : 0 ≤ usage.cachedInput.toInt
  cacheWrite : 0 ≤ usage.cacheWrite.toInt
  outputTokens : 0 ≤ usage.outputTokens.toInt
  multiplier : 0 < usage.multiplierMicros.toInt
  protocol : 1 ≤ usage.protocol.utf8ByteSize ∧ usage.protocol.utf8ByteSize ≤ 64
  model : 1 ≤ usage.model.utf8ByteSize ∧ usage.model.utf8ByteSize ≤ 256
  runnerId : 1 ≤ usage.runnerId.utf8ByteSize ∧ usage.runnerId.utf8ByteSize ≤ 256
  raw
    : rawTokens.toInt
      = usage.uncachedInput.toInt + usage.cachedInput.toInt + usage.cacheWrite.toInt
        + usage.outputTokens.toInt

variable {usage : ModelUsage} {rawTokens : Int64}

/-- No partial sum overflows when the counts are not negative and their sum is in range. -/
theorem checkedRawTokens_eq_ok
    : checkedRawTokens usage = .ok rawTokens ↔ MeteredUsage usage rawTokens := by
  unfold checkedRawTokens
  refine ⟨?_, ?_⟩
  · intro hc
    obtain ⟨hp, hc⟩ := guard_of_ok hc
    simp only [not_or, not_not, Int64.not_lt, Int64.not_le, nonneg_iff, pos_iff] at hp
    obtain ⟨h1, h2, h3, h4, multiplier, protocol, model, runnerId⟩ := hp
    simp only [okOr_eq_ok, Option.bind_eq_bind, Option.bind_eq_some_iff, checkedAdd_eq_some] at hc
    obtain ⟨input, inputSum, read, readSum, sum⟩ := hc
    exact ⟨h1, h2, h3, h4, multiplier, protocol, model, runnerId, by omega⟩
  · intro hm
    obtain ⟨h1, h2, h3, h4, multiplier, protocol, model, runnerId, raw⟩ := hm
    have high := rawTokens.toInt_lt
    obtain ⟨input, inputSum, inputValue⟩ :=
      exists_fit (usage.uncachedInput.toInt + usage.cachedInput.toInt) (by omega) (by omega)
    obtain ⟨read, readSum, readValue⟩ :=
      exists_fit (input.toInt + usage.cacheWrite.toInt) (by omega) (by omega)
    rw [if_neg]
    · simp only [okOr_eq_ok, Option.bind_eq_bind, Option.bind_eq_some_iff, checkedAdd_eq_some]
      exact ⟨input, inputValue, read, readValue, by omega⟩
    · simp only [not_or, not_not, Int64.not_lt, Int64.not_le, nonneg_iff, pos_iff]
      exact ⟨h1, h2, h3, h4, multiplier, protocol, model, runnerId⟩

theorem MeteredUsage.rawNonneg (hm : MeteredUsage usage rawTokens) : 0 ≤ rawTokens.toInt := by
  obtain ⟨h1, h2, h3, h4, _, _, _, _, raw⟩ := hm
  omega

variable {billed : Int64}

theorem billedTokens_nonneg {multiplierMicros : Int64} (rawNonneg : 0 ≤ rawTokens.toInt)
    (hp : 0 < multiplierMicros.toInt) (hm : billedTokens rawTokens multiplierMicros = .ok billed)
    : 0 ≤ billed.toInt := by
  have value := fit_eq_some.mp (okOr_eq_ok.mp hm)
  rw [value]
  exact Int.tdiv_nonneg (by positivity) (by decide)

/-- The bill is the product with the multiplier, rounded up. -/
theorem billedTokens_eq_ceil {multiplierMicros : Int64} (rawNonneg : 0 ≤ rawTokens.toInt)
    (hp : 0 < multiplierMicros.toInt) (hm : billedTokens rawTokens multiplierMicros = .ok billed)
    : billed.toInt = ⌈(rawTokens.toInt * multiplierMicros.toInt : ℚ) / 10 ^ 6⌉ := by
  have value := fit_eq_some.mp (okOr_eq_ok.mp hm)
  have product : 0 ≤ rawTokens.toInt * multiplierMicros.toInt := by positivity
  have ceil := Rat.ceil_intCast_div_natCast (rawTokens.toInt * multiplierMicros.toInt) 1000000
  push_cast at ceil
  norm_num at ceil ⊢
  rw [value, Int.tdiv_eq_ediv_of_nonneg (by omega), ceil]
  omega

theorem checkedAddNonnegative_eq_ok {value delta next : Int64}
    : checkedAddNonnegative value delta = .ok next
      ↔ next.toInt = value.toInt + delta.toInt ∧ 0 ≤ next.toInt := by
  simp only [checkedAddNonnegative, okOr_eq_ok, Option.filter_eq_some_iff,
    checkedAdd_eq_some, decide_eq_true_eq, nonneg_iff]

/-- A charge covers the bill as far as the account can, and the rest is uncovered. -/
theorem settlementOf_eq_ok (hb : 0 ≤ billed.toInt)
    (held : row.reservedTokens.toInt ≤ balance.totals .reserved) (hh : 0 ≤ row.reservedTokens.toInt)
    (hco : balance.totals .reserved ≤ balance.totals .balance)
    : settlementOf balance row billed = .ok settlement
      ↔ settlement.chargedTokens.toInt
          = min billed.toInt
              (balance.totals .balance - (balance.totals .reserved - row.reservedTokens.toInt))
        ∧ settlement.billedTokens = billed
        ∧ settlement.uncoveredTokens.toInt = billed.toInt - settlement.chargedTokens.toInt := by
  have hr : balance.reservedTokens.toInt = balance.totals .reserved := rfl
  have total : balance.balanceTokens.toInt = balance.totals .balance := rfl
  have hre := balance.reservedTokens.toInt_lt
  have hba := balance.balanceTokens.toInt_lt
  obtain ⟨other, otherFits, otherValue⟩ :=
    exists_fit (balance.reservedTokens.toInt - row.reservedTokens.toInt) (by omega) (by omega)
  obtain ⟨ha, availableFits, availableValue⟩ :=
    exists_fit (balance.balanceTokens.toInt - other.toInt) (by omega) (by omega)
  have hcha : (min billed ha).toInt = min billed.toInt ha.toInt := by
    show (if billed ≤ ha then billed else ha).toInt = _
    rw [min_def]
    simp only [Int64.le_iff_toInt_le]
    split <;> rfl
  have ho
      : settlementOf balance row billed
        = (okOr .dataIntegrityInvalid (checkedSub billed (min billed ha))).map
            (fun hun => ⟨min billed ha, billed, hun⟩) := by
    unfold settlementOf
    rw [checkedSub, otherFits]
    show (okOr _ (checkedSub balance.balanceTokens other) >>= _) = _
    rw [checkedSub, availableFits]
    rfl
  rw [ho]
  obtain ⟨hun, uncoveredFits, uncoveredValue⟩ :=
    exists_fit (billed.toInt - (min billed ha).toInt)
      (by have := billed.toInt_lt; omega) (by have := billed.toInt_lt; omega)
  rw [checkedSub, uncoveredFits]
  simp only [okOr, Except.map, Except.ok.injEq]
  rw [← hr, ← total, ← otherValue, ← availableValue, ← hcha]
  refine ⟨?_, ?_⟩
  · intro same
    rw [← same]
    exact ⟨rfl, rfl, uncoveredValue⟩
  · intro good
    obtain ⟨hc, rfl, hu⟩ := good
    rw [← hc] at uncoveredValue
    have hch := Int64.toInt_inj.mp hc
    have hunc := Int64.toInt_inj.mp (hu.trans uncoveredValue.symm)
    rw [← hch, ← hunc]

/-- A charge adds the effect of its entry and returns the held tokens, when no counter
overflows or becomes negative.
-/
theorem chargedBalance_eq_ok {ledger : QuotaLedgerEntry} {charged : Int64}
    (kind : ledger.kind = "usage") (charge : charged.toInt = -ledger.amountTokens.toInt)
    : chargedBalance balance row ledger charged = .ok next
      ↔ (∀ counter,
          next.totals counter
          = balance.totals counter + (ledger.effect counter - row.hold counter))
        ∧ (∀ counter, counter ≠ .reserved → counter ≠ .granted → 0 ≤ next.totals counter)
        ∧ next
          = { next with
              identityId := balance.identityId
              revision := balance.revision
              lastLedgerHmac := balance.lastLedgerHmac
              integrityHmac := balance.integrityHmac
              updatedAt := balance.updatedAt } := by
  simp only [effect_of_settlement kind]
  refine ⟨?_, ?_⟩
  · intro hm
    obtain ⟨balanceTokens, c1, hm⟩ := bind_ok hm
    obtain ⟨reservedTokens, c2, hm⟩ := bind_ok hm
    obtain ⟨consumedTokens, c3, hm⟩ := bind_ok hm
    obtain ⟨requestCount, c4, hm⟩ := bind_ok hm
    obtain ⟨rawTokens, c5, hm⟩ := bind_ok hm
    obtain ⟨billedTokens, c6, hm⟩ := bind_ok hm
    obtain ⟨uncachedInput, c7, hm⟩ := bind_ok hm
    obtain ⟨cachedInput, c8, hm⟩ := bind_ok hm
    obtain ⟨cacheWrite, c9, hm⟩ := bind_ok hm
    obtain ⟨outputTokens, c10, hm⟩ := bind_ok hm
    cases hm
    simp only [checkedAddNonnegative_eq_ok, okOr_eq_ok, checkedSub_eq_some, charge]
      at c1 c2 c3 c4 c5 c6 c7 c8 c9 c10
    refine ⟨?_, ?_, rfl⟩
    · intro counter
      cases counter with
      | balance => exact c1.1
      | reserved => exact c2
      | granted => exact (add_zero _).symm
      | consumed => exact c3.1
      | requests => exact c4.1
      | raw => exact c5.1
      | billed => exact c6.1
      | uncachedInput => exact c7.1
      | cachedInput => exact c8.1
      | cacheWrite => exact c9.1
      | output => exact c10.1
    · intro counter notReserved notGranted
      cases counter with
      | balance => exact c1.2
      | reserved => contradiction
      | granted => contradiction
      | consumed => exact c3.2
      | requests => exact c4.2
      | raw => exact c5.2
      | billed => exact c6.2
      | uncachedInput => exact c7.2
      | cachedInput => exact c8.2
      | cacheWrite => exact c9.2
      | output => exact c10.2
  · intro good
    obtain ⟨totals, nonneg, kept⟩ := good
    have sum (counter) (other : counter ≠ .reserved ∧ counter ≠ .granted)
        {delta : Int64}
        (isDelta : next.totals counter = balance.totals counter + delta.toInt)
        : checkedAddNonnegative (balance.column counter) delta = .ok (next.column counter) :=
      checkedAddNonnegative_eq_ok.mpr ⟨isDelta, nonneg counter other.1 other.2⟩
    refine bind_eq_ok.mpr ⟨_, sum .balance (by simp) (totals .balance), ?_⟩
    refine bind_eq_ok.mpr
      ⟨next.reservedTokens, okOr_eq_ok.mpr (checkedSub_eq_some.mpr (totals .reserved)), ?_⟩
    refine bind_eq_ok.mpr
      ⟨_, sum .consumed (by simp) ((totals .consumed).trans (by rw [charge])), ?_⟩
    refine bind_eq_ok.mpr ⟨_, sum .requests (by simp) (totals .requests), ?_⟩
    refine bind_eq_ok.mpr ⟨_, sum .raw (by simp) (totals .raw), ?_⟩
    refine bind_eq_ok.mpr ⟨_, sum .billed (by simp) (totals .billed), ?_⟩
    refine bind_eq_ok.mpr ⟨_, sum .uncachedInput (by simp) (totals .uncachedInput), ?_⟩
    refine bind_eq_ok.mpr ⟨_, sum .cachedInput (by simp) (totals .cachedInput), ?_⟩
    refine bind_eq_ok.mpr ⟨_, sum .cacheWrite (by simp) (totals .cacheWrite), ?_⟩
    refine bind_eq_ok.mpr ⟨_, sum .output (by simp) (totals .output), ?_⟩
    have granted : next.grantedTokens = balance.grantedTokens :=
      Int64.toInt_inj.mp ((totals .granted).trans (add_zero _))
    refine congrArg Except.ok ?_
    rw [kept]
    simp only [UserBalanceRecord.column, granted]

section

variable {draw : Draw} {transition : FinishTransition}

theorem prepareRelease_valid (free : auth.CollisionFree)
    (hv : verifiedQuotaSnapshot auth db reservation.identityId = .ok snapshot)
    (hm : prepareRelease auth reservation snapshot draw = .ok transition)
    : ∃ rows,
        transition = .release rows
        ∧ PreparedFinish auth snapshot reservation rows
        ∧ transition.Valid := by
  obtain ⟨row, hf, hm⟩ := bind_ok hm
  obtain ⟨nextReservation, finished, hm⟩ := bind_ok hm
  obtain ⟨nextBalance, hr, hm⟩ := bind_ok hm
  cases hm
  obtain ⟨hme, id⟩ := findReservation_member hf
  obtain ⟨_, requestId, reservedTokens⟩ := findReservation_eq_ok.mp hf
  obtain ⟨account, hs⟩ := verifiedSnapshot_row hv hme
  have row := account.reservations _ hs
  have hfi := (FinishedRow.of_made finished).finishes free row.active
  obtain ⟨step, last, signed⟩ := returnedBalance_step free account hs hr
  exact ⟨
    _, rfl, ⟨rfl, hme, id, requestId, reservedTokens, signed⟩,
    step, hfi, row.owner.trans account.identity.symm, last
  ⟩

theorem prepareFailure_valid {failure : FailedModelRequest} (free : auth.CollisionFree)
    (hv : verifiedQuotaSnapshot auth db reservation.identityId = .ok snapshot)
    (ha : validFailure failure)
    (hm : prepareFailure auth reservation failure snapshot draw = .ok transition)
    : ∃ rows ledger,
        transition = .fail rows ledger
        ∧ ledger
          = { failureEntry reservation failure snapshot rows.expectedReservation draw with
              integrityHmac := ledger.integrityHmac }
        ∧ ledgerIntegrityHmac auth ledger = .ok ledger.integrityHmac
        ∧ PreparedFinish auth snapshot reservation rows
        ∧ transition.Valid := by
  obtain ⟨row, hf, hm⟩ := bind_ok hm
  obtain ⟨nextReservation, finished, hm⟩ := bind_ok hm
  obtain ⟨ledger, hsi, hm⟩ := bind_ok hm
  obtain ⟨nextBalance, hr, hm⟩ := bind_ok hm
  cases hm
  obtain ⟨ledgerSigned, entry⟩ := signedLedger_eq_ok hsi
  obtain ⟨hme, id⟩ := findReservation_member hf
  obtain ⟨_, requestId, reservedTokens⟩ := findReservation_eq_ok.mp hf
  obtain ⟨account, hs⟩ := verifiedSnapshot_row hv hme
  have row := account.reservations _ hs
  have hfi := (FinishedRow.of_made finished).finishes free row.active
  obtain ⟨step, last, signed⟩ := returnedBalance_step free account hs hr
  have tagged := AuthCore.sign_ne_empty free quotaLedgerIntegrityKey_valid ledgerSigned
  refine ⟨
    _, ledger, rfl, entry, ledgerSigned,
    ⟨rfl, hme, id, requestId, reservedTokens, signed⟩,
    step, hfi, row.owner.trans account.identity.symm, ⟨?_, ?_, tagged, last⟩,
    ?_, ?_, ?_, ?_, ?_, ?_
  ⟩
  · rw [entry]
    exact account.identity.symm
  · rw [entry]
    rfl
  · rw [entry]
    exact ⟨rfl, rfl, rfl, rfl, rfl, rfl, rfl, rfl⟩
  · rw [entry]
    rfl
  · rw [entry]
    rfl
  · rw [entry]
    intro empty
    simp [validFailure, show failure.description = "" from empty] at ha
  · rw [entry]
    rfl
  · rw [entry]
    exact requestId.symm

variable {settlement : QuotaSettlement}

/-- A usage entry made from an accepted usage and its settlement is metered. -/
theorem usageEntry_metered {amountTokens : Int64} (hme : MeteredUsage usage rawTokens)
    (amount : amountTokens.toInt = -settlement.chargedTokens.toInt)
    (hc : 0 ≤ settlement.chargedTokens.toInt)
    (hch : settlement.chargedTokens.toInt ≤ settlement.billedTokens.toInt)
    (hu : settlement.uncoveredTokens.toInt
        = settlement.billedTokens.toInt - settlement.chargedTokens.toInt)
    (hm : entry
        = { usageEntry reservation usage snapshot row settlement rawTokens amountTokens
              draw with
            integrityHmac := entry.integrityHmac })
    : Metered entry := by
  have ⟨h1, h2, h3, h4, _, _, _, _, raw⟩ := hme
  have rawHigh := rawTokens.toInt_lt
  have hcha := settlement.chargedTokens.toInt_lt
  rw [hm]
  refine ⟨?_, ?_, ?_, ?_, raw, ?_, ?_, ?_, hme.multiplier⟩
  · simp only [usageEntry]
    omega
  · simp only [usageEntry]
    omega
  · exact Option.isSome_iff_exists.mpr
      ⟨_, if_pos ⟨by simp only [usageEntry]; omega, by simp only [usageEntry]; omega⟩⟩
  · exact Option.isSome_iff_exists.mpr
      ⟨_, if_pos ⟨by simp only [usageEntry]; omega, by simp only [usageEntry]; omega⟩⟩
  · simp only [usageEntry]
    omega
  · simp only [usageEntry]
    omega
  · simp only [usageEntry]
    omega

theorem prepareSettlement_valid (free : auth.CollisionFree)
    (hv : verifiedQuotaSnapshot auth db reservation.identityId = .ok snapshot)
    (hme : MeteredUsage usage rawTokens) (hbi : 0 ≤ billed.toInt)
    (hm : prepareSettlement auth reservation usage rawTokens billed snapshot draw
        = .ok (settlement, transition))
    : ∃ rows ledger amountTokens,
        transition = .settle rows ledger
        ∧ ledger
          = { usageEntry reservation usage snapshot rows.expectedReservation settlement
                rawTokens amountTokens draw with
              integrityHmac := ledger.integrityHmac }
        ∧ settlementOf snapshot.balance rows.expectedReservation billed = .ok settlement
        ∧ settlement.billedTokens = billed
        ∧ ledgerIntegrityHmac auth ledger = .ok ledger.integrityHmac
        ∧ PreparedFinish auth snapshot reservation rows
        ∧ transition.Valid := by
  obtain ⟨row, hf, hm⟩ := bind_ok hm
  obtain ⟨hse, settling, hm⟩ := bind_ok hm
  obtain ⟨nextReservation, finished, hm⟩ := bind_ok hm
  obtain ⟨amountTokens, negated, hm⟩ := bind_ok hm
  obtain ⟨ledger, hsi, hm⟩ := bind_ok hm
  obtain ⟨hcha, hch, hm⟩ := bind_ok hm
  obtain ⟨nextBalance, revising, hm⟩ := bind_ok hm
  cases hm
  obtain ⟨ledgerSigned, entry⟩ := signedLedger_eq_ok hsi
  obtain ⟨hmem, id⟩ := findReservation_member hf
  obtain ⟨_, requestId, reservedTokens⟩ := findReservation_eq_ok.mp hf
  obtain ⟨account, hs⟩ := verifiedSnapshot_row hv hmem
  have ha := account.reservations _ hs
  have held := account.held_le hs
  have hp := ha.positive
  have hco := account.covered
  obtain ⟨hc, hb, hu⟩ :=
    (settlementOf_eq_ok hbi held hp.le hco).mp settling
  have amount := checkedNeg_eq_some.mp (okOr_eq_ok.mp negated)
  have metering : Metered ledger :=
    usageEntry_metered hme amount (by omega) (by rw [hb]; omega) (by rw [hb]; exact hu) entry
  have kind : ledger.kind = "usage" := by
    rw [entry]
    rfl
  have ledgerAmount : ledger.amountTokens = amountTokens := by
    rw [entry]
    rfl
  obtain ⟨totals, hn, kept⟩ :=
    (chargedBalance_eq_ok kind (by rw [ledgerAmount]; omega)).mp hch
  have hfi := (FinishedRow.of_made finished).finishes free ha.active
  have revised := RevisedBalance.of_made revising
  have tagged := AuthCore.sign_ne_empty free quotaLedgerIntegrityKey_valid ledgerSigned
  have hre := totals .reserved
  have hba := totals .balance
  simp only [effect_of_settlement kind, ledgerAmount] at hre hba
  have step
      : BalanceStep snapshot.balance nextBalance
          (fun counter => ledger.effect counter - row.hold counter) := by
    refine revised.step free (account.shape free) ?_ ?_ totals ?_ (by omega)
    · rw [kept]
    · rw [kept]
    · intro counter
      by_cases hr : counter = .reserved
      · rw [hr]
        omega
      by_cases hg : counter = .granted
      · rw [hg, totals .granted, effect_of_settlement kind, add_zero]
        exact account.nonneg .granted
      · exact hn counter hr hg
  refine ⟨
    _, ledger, amountTokens, rfl, entry, settling, hb, ledgerSigned,
    ⟨rfl, hmem, id, requestId, reservedTokens, revised.signed⟩,
    step, hfi, ⟨?_, ?_, tagged, ?_⟩, metering, kind, ?_, ?_, ?_, ?_
  ⟩
  · rw [entry]
    exact account.identity.symm
  · rw [entry]
    rfl
  · rw [revised.kept]
  · rw [entry]
    exact (by decide : "API 请求" ≠ "")
  · rw [entry]
    rfl
  · rw [entry]
    refine ⟨usage.runnerId, rfl, ?_⟩
    intro empty
    have size := hme.runnerId.1
    rw [empty] at size
    exact absurd size (by decide)
  · rw [entry]
    exact requestId.symm

end

end AsterTeam
