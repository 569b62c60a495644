import AsterTeam.TokenQuota.Transitions

/-! The integer effect of every accepted change on the counters of a token account. -/

namespace AsterTeam

open MachineInteger

inductive Counter
  | balance
  | reserved
  | granted
  | consumed
  | requests
  | raw
  | billed
  | uncachedInput
  | cachedInput
  | cacheWrite
  | output
  deriving DecidableEq

def UserBalanceRecord.column (balance : UserBalanceRecord) : Counter → Int64
  | .balance => balance.balanceTokens
  | .reserved => balance.reservedTokens
  | .granted => balance.grantedTokens
  | .consumed => balance.consumedTokens
  | .requests => balance.requestCount
  | .raw => balance.rawTokens
  | .billed => balance.billedTokens
  | .uncachedInput => balance.uncachedInput
  | .cachedInput => balance.cachedInput
  | .cacheWrite => balance.cacheWrite
  | .output => balance.outputTokens

def UserBalanceRecord.totals (balance : UserBalanceRecord) (counter : Counter) : Int :=
  (balance.column counter).toInt

def QuotaReservationRecord.hold (reservation : QuotaReservationRecord) : Counter → Int
  | .reserved => reservation.reservedTokens.toInt
  | _ => 0

/-- A value that only entries of one kind contribute. -/
def QuotaLedgerEntry.whenKind (entry : QuotaLedgerEntry) (kind : String) (value : Int) : Int :=
  if entry.kind = kind then value else 0

def QuotaLedgerEntry.effect (entry : QuotaLedgerEntry) : Counter → Int
  | .balance => entry.amountTokens.toInt
  | .reserved => 0
  | .granted => entry.whenKind "grant" entry.amountTokens.toInt
  | .consumed => entry.whenKind "usage" (-entry.amountTokens.toInt)
  | .requests => entry.whenKind "usage" 1
  | .raw => entry.whenKind "usage" entry.rawTokens.toInt
  | .billed => entry.whenKind "usage" entry.billedTokens.toInt
  | .uncachedInput => entry.whenKind "usage" entry.uncachedInput.toInt
  | .cachedInput => entry.whenKind "usage" entry.cachedInput.toInt
  | .cacheWrite => entry.whenKind "usage" entry.cacheWrite.toInt
  | .output => entry.whenKind "usage" entry.outputTokens.toInt

/-- A stored balance: no counter is negative, and no more is reserved than there is. -/
structure WellShaped (balance : UserBalanceRecord) : Prop where
  nonneg : ∀ counter, 0 ≤ balance.totals counter
  covered : balance.totals .reserved ≤ balance.totals .balance
  signed : balance.integrityHmac ≠ ""

variable {balance : UserBalanceRecord}

theorem validBalanceShape_iff : validBalanceShape balance ↔ WellShaped balance := by
  simp only [validBalanceShape, decide_eq_true_eq, Int64.le_iff_toInt_le]
  constructor
  · rintro ⟨h1, h2, h3, h4, h5, h6, h7, h8, h9, h10, h11, hc, signed⟩
    refine ⟨?_, hc, signed⟩
    intro counter
    cases counter <;> assumption
  · rintro ⟨hn, hc, signed⟩
    exact ⟨
      hn .balance, hn .reserved, hn .granted, hn .consumed,
      hn .requests, hn .raw, hn .billed, hn .uncachedInput,
      hn .cachedInput, hn .cacheWrite, hn .output, hc, signed
    ⟩

/-- A counter that storage compares with a checked sum or the sentinel is that sum. -/
theorem WellShaped.checked_iff (shape : WellShaped balance) (counter : Counter)
    : balance.column counter = (fit value).getD (-1) ↔ balance.totals counter = value :=
  eq_fit_getD_iff (nonneg_iff.mpr (shape.nonneg counter))

/-- One revision of a balance, which adds the given effect to its counters. -/
structure BalanceStep (expected next : UserBalanceRecord) (effect : Counter → Int)
    : Prop where
  expectedShape : WellShaped expected
  nextShape : WellShaped next
  identity : next.identityId = expected.identityId
  totals : ∀ counter, next.totals counter = expected.totals counter + effect counter
  revision : next.revision = saturatingSucc expected.revision

structure Finishes (expected next : QuotaReservationRecord) (status : ReservationStatus)
    : Prop where
  active : expected.status = .active
  finished : next.status = status
  revision : next.revision = saturatingSucc expected.revision
  settled : next.settledAt.isSome
  signed : next.integrityHmac ≠ ""
  kept
    : next
      = { expected with
          status
          revision := saturatingSucc expected.revision
          integrityHmac := next.integrityHmac
          settledAt := next.settledAt }

theorem finishesReservation_iff {expected next : QuotaReservationRecord}
    : finishesReservation expected next status ↔ Finishes expected next status := by
  simp only [finishesReservation, sameReservationIdentity, decide_eq_true_eq]
  constructor
  · rintro ⟨ha, rfl, ⟨h1, h2, h3, h4, h5, h6, h7⟩, revision, hs, signed⟩
    refine ⟨ha, rfl, revision, hs, signed, ?_⟩
    rw [← h1, ← h2, ← h3, ← h4, ← h5, ← h6, ← h7, ← revision]
  · rintro ⟨ha, finished, revision, hs, signed, kept⟩
    rw [kept]
    exact ⟨ha, rfl, ⟨rfl, rfl, rfl, rfl, rfl, rfl, rfl⟩, rfl, hs, signed⟩

-- Reserving and granting

variable {expected next : UserBalanceRecord}

theorem unchangedBalanceCounters_iff
    : unchangedBalanceCounters expected next
      ↔ ∀ counter,
          counter ≠ .balance → counter ≠ .reserved
          → next.totals counter = expected.totals counter := by
  simp only [unchangedBalanceCounters, decide_eq_true_eq, ← Int64.toInt_inj]
  constructor
  · rintro ⟨h1, h2, h3, h4, h5, h6, h7, h8, h9⟩ counter notBalance notReserved
    cases counter <;> first | assumption | contradiction
  · intro same
    exact ⟨
      same .granted nofun nofun, same .consumed nofun nofun, same .requests nofun nofun,
      same .raw nofun nofun, same .billed nofun nofun, same .uncachedInput nofun nofun,
      same .cachedInput nofun nofun, same .cacheWrite nofun nofun,
      same .output nofun nofun
    ⟩

/-- A change of the reserved tokens only, checked as reserve, release and failure do. -/
theorem reservedStep_iff {effect : Counter → Int}
    (ho : ∀ counter, counter ≠ .reserved → effect counter = 0) (hn : WellShaped next)
    : (next.balanceTokens = expected.balanceTokens
        ∧ next.reservedTokens = (fit (expected.reservedTokens.toInt + effect .reserved)).getD (-1)
        ∧ unchangedBalanceCounters expected next)
      ↔ ∀ counter, next.totals counter = expected.totals counter + effect counter := by
  have hre : 0 ≤ next.reservedTokens := nonneg_iff.mpr (hn.nonneg .reserved)
  rw [eq_fit_getD_iff hre, unchangedBalanceCounters_iff, ← Int64.toInt_inj]
  constructor
  · rintro ⟨balance, hres, others⟩ counter
    by_cases hr : counter = .reserved
    · rw [hr]
      exact hres
    · rw [ho counter hr, add_zero]
      by_cases hb : counter = .balance
      · rw [hb]
        exact balance
      · exact others counter hb hr
  · intro totals
    refine ⟨?_, totals .reserved, ?_⟩
    · have same := totals .balance
      rw [ho .balance nofun, add_zero] at same
      exact same
    · intro counter _ notReserved
      rw [totals counter, ho counter notReserved, add_zero]

structure Reserves (expected next : UserBalanceRecord)
    (reservation : QuotaReservationRecord)
    : Prop where
  step : BalanceStep expected next reservation.hold
  owner : reservation.identityId = expected.identityId
  positive : 0 < reservation.reservedTokens.toInt
  active : reservation.status = .active
  initial : reservation.revision = 0
  unsettled : reservation.settledAt = none
  signed : reservation.integrityHmac ≠ ""
  last : next.lastLedgerHmac = expected.lastLedgerHmac

variable {reservation : QuotaReservationRecord}

theorem Reserves.of_valid (valid : validReserveTransition expected next reservation)
    : Reserves expected next reservation := by
  have ho (counter) (other : counter ≠ .reserved)
      : reservation.hold counter = 0 := by
    cases counter <;> first | rfl | contradiction
  simp only [validReserveTransition, decide_eq_true_eq, validBalanceShape_iff, pos_iff]
    at valid
  obtain ⟨shape, hn, owner, hp, ha, initial, unsettled, signed,
    identity, balance, hr, others, revision, last⟩ := valid
  have totals := (reservedStep_iff ho hn).mp ⟨balance, hr, others⟩
  exact ⟨
    ⟨shape, hn, identity, totals, revision⟩,
    owner, hp, ha, initial, unsettled, signed, last
  ⟩

/-- The entry continues the chain that the balance ends. -/
structure Appends (expected next : UserBalanceRecord) (entry : QuotaLedgerEntry)
    : Prop where
  owner : entry.identityId = expected.identityId
  previous : entry.previousEntryHmac = expected.lastLedgerHmac
  signed : entry.integrityHmac ≠ ""
  last : next.lastLedgerHmac = entry.integrityHmac

/-- An entry without token counts, as grants and failures are. -/
structure Unmetered (entry : QuotaLedgerEntry) : Prop where
  uncachedInput : entry.uncachedInput = 0
  cachedInput : entry.cachedInput = 0
  cacheWrite : entry.cacheWrite = 0
  outputTokens : entry.outputTokens = 0
  uncoveredTokens : entry.uncoveredTokens = 0
  rawTokens : entry.rawTokens = 0
  billedTokens : entry.billedTokens = 0
  multiplierMicros : entry.multiplierMicros = 1000000

structure Grants (expected next : UserBalanceRecord) (entry : QuotaLedgerEntry)
    : Prop where
  step : BalanceStep expected next entry.effect
  appends : Appends expected next entry
  unmetered : Unmetered entry
  kind : entry.kind = "grant"
  positive : 0 < entry.amountTokens.toInt
  referenced : entry.referenceId ≠ ""
  described : entry.description ≠ ""
  protocol : entry.protocol = ""
  model : entry.model = ""
  apiKeyId : entry.apiKeyId = none
  runnerId : entry.runnerId = none

variable {entry : QuotaLedgerEntry}

theorem effect_of_grant (kind : entry.kind = "grant") (counter : Counter)
    : entry.effect counter
      = if counter = .balance ∨ counter = .granted then entry.amountTokens.toInt
        else 0 := by
  cases counter <;> simp [QuotaLedgerEntry.effect, QuotaLedgerEntry.whenKind, kind]

theorem Grants.of_valid (valid : validGrantTransition expected next entry)
    : Grants expected next entry := by
  simp only [validGrantTransition, decide_eq_true_eq, validBalanceShape_iff, pos_iff] at valid
  obtain ⟨shape, hn, kind, owner, hp, u1, u2, u3, u4, u5, u6, u7, u8,
    hr, described, protocol, model, apiKeyId, runnerId, previous, signed,
    identity, balance, reserved, granted, consumed, requests, raw, billed, uncached,
    cached, write, output, revision, last⟩ := valid
  have hb := (hn.checked_iff .balance).mp balance
  have hg := (hn.checked_iff .granted).mp granted
  refine ⟨
    ⟨shape, hn, identity, ?_, revision⟩, ⟨owner, previous, signed, last⟩,
    ⟨u1, u2, u3, u4, u5, u6, u7, u8⟩,
    kind, hp, hr, described, protocol, model, apiKeyId, runnerId
  ⟩
  intro counter
  rw [effect_of_grant kind]
  cases counter with
  | balance => exact hb
  | granted => exact hg
  | _ =>
    simp [UserBalanceRecord.totals, UserBalanceRecord.column, reserved, consumed,
      requests, raw, billed, uncached, cached, write, output]

-- Finishing a reservation

/-- What release and failure do to the balance: the held tokens are free again. -/
theorem returnsHeldTokens_iff (shape : WellShaped expected) (hn : WellShaped next)
    : returnsHeldTokens expected next reservation
      ↔ BalanceStep expected next (fun counter => -reservation.hold counter)
        ∧ reservation.identityId = expected.identityId := by
  have ho (counter) (other : counter ≠ .reserved)
      : -reservation.hold counter = 0 := by
    cases counter <;> first | rfl | contradiction
  simp only [returnsHeldTokens, decide_eq_true_eq]
  constructor
  · rintro ⟨identity, owner, balance, hr, others, revision⟩
    have totals := (reservedStep_iff ho hn).mp ⟨balance, hr, others⟩
    exact ⟨⟨shape, hn, identity, totals, revision⟩, owner⟩
  · rintro ⟨⟨_, _, identity, totals, revision⟩, owner⟩
    obtain ⟨balance, hr, others⟩ := (reservedStep_iff ho hn).mpr totals
    exact ⟨identity, owner, balance, hr, others, revision⟩

structure Releases (expected next : UserBalanceRecord)
    (reservation nextReservation : QuotaReservationRecord)
    : Prop where
  step : BalanceStep expected next (fun counter => -reservation.hold counter)
  finishes : Finishes reservation nextReservation .released
  owner : reservation.identityId = expected.identityId
  last : next.lastLedgerHmac = expected.lastLedgerHmac

variable {nextReservation : QuotaReservationRecord}

theorem validReleaseTransition_iff
    : validReleaseTransition expected next reservation nextReservation
      ↔ Releases expected next reservation nextReservation := by
  simp only [validReleaseTransition, decide_eq_true_eq, validBalanceShape_iff,
    finishesReservation_iff]
  constructor
  · rintro ⟨shape, hn, hf, hr, last⟩
    obtain ⟨step, owner⟩ := (returnsHeldTokens_iff shape hn).mp hr
    exact ⟨step, hf, owner, last⟩
  · rintro ⟨step, hf, owner, last⟩
    have hr := (returnsHeldTokens_iff step.expectedShape step.nextShape).mpr ⟨step, owner⟩
    exact ⟨step.expectedShape, step.nextShape, hf, hr, last⟩

/-- An accepted failure, which also leaves an entry without effect. -/
structure Fails (expected next : UserBalanceRecord)
    (reservation nextReservation : QuotaReservationRecord) (entry : QuotaLedgerEntry)
    : Prop where
  step : BalanceStep expected next (fun counter => -reservation.hold counter)
  finishes : Finishes reservation nextReservation .released
  owner : reservation.identityId = expected.identityId
  appends : Appends expected next entry
  unmetered : Unmetered entry
  kind : entry.kind = "usage_failed"
  amount : entry.amountTokens = 0
  described : entry.description ≠ ""
  apiKeyId : entry.apiKeyId = some reservation.apiKeyId
  referenceId : entry.referenceId = reservation.requestId

theorem validFailedRequestTransition_iff
    : validFailedRequestTransition expected next reservation nextReservation entry
      ↔ Fails expected next reservation nextReservation entry := by
  simp only [validFailedRequestTransition, decide_eq_true_eq, validBalanceShape_iff,
    finishesReservation_iff]
  constructor
  · rintro ⟨shape, hn, hf, kind, amount, u1, u2, u3, u4, u5, u6, u7, u8,
      described, entryOwner, apiKeyId, referenceId, previous, signed, hr, last⟩
    obtain ⟨step, owner⟩ := (returnsHeldTokens_iff shape hn).mp hr
    exact ⟨
      step, hf, owner,
      ⟨entryOwner, previous, signed, last⟩, ⟨u1, u2, u3, u4, u5, u6, u7, u8⟩,
      kind, amount, described, apiKeyId, referenceId
    ⟩
  · rintro ⟨step, hf, owner, ⟨entryOwner, previous, signed, last⟩,
      ⟨u1, u2, u3, u4, u5, u6, u7, u8⟩, kind, amount, described, apiKeyId, referenceId⟩
    have hr := (returnsHeldTokens_iff step.expectedShape step.nextShape).mpr ⟨step, owner⟩
    exact ⟨
      step.expectedShape, step.nextShape, hf, kind, amount, u1, u2, u3, u4, u5, u6,
      u7, u8, described, entryOwner, apiKeyId, referenceId, previous, signed, hr, last
    ⟩

/-- A usage entry that charges at most what it bills. -/
structure Metered (entry : QuotaLedgerEntry) : Prop where
  charge : entry.amountTokens.toInt ≤ 0
  negatable : -2 ^ 63 < entry.amountTokens.toInt
  inputFits
    : (fit (entry.uncachedInput.toInt + entry.cachedInput.toInt)).isSome
  readFits
    : (fit (entry.uncachedInput.toInt + entry.cachedInput.toInt + entry.cacheWrite.toInt)).isSome
  raw
    : entry.rawTokens.toInt
      = entry.uncachedInput.toInt + entry.cachedInput.toInt + entry.cacheWrite.toInt
        + entry.outputTokens.toInt
  rawNonneg : 0 ≤ entry.rawTokens.toInt
  billed : -entry.amountTokens.toInt ≤ entry.billedTokens.toInt
  uncovered
    : entry.uncoveredTokens.toInt = entry.billedTokens.toInt + entry.amountTokens.toInt
  multiplier : 0 < entry.multiplierMicros.toInt

/-- An accepted settlement. Unlike release and failure, nothing relates the owner of the
reservation to the owner of the balance.
-/
structure Settles (expected next : UserBalanceRecord)
    (reservation nextReservation : QuotaReservationRecord) (entry : QuotaLedgerEntry)
    : Prop where
  step
    : BalanceStep expected next (fun counter => entry.effect counter - reservation.hold counter)
  finishes : Finishes reservation nextReservation .settled
  appends : Appends expected next entry
  metered : Metered entry
  kind : entry.kind = "usage"
  described : entry.description ≠ ""
  apiKeyId : entry.apiKeyId = some reservation.apiKeyId
  runnerId : ∃ runner ∈ entry.runnerId, runner ≠ ""
  referenceId : entry.referenceId = reservation.requestId

theorem entryRawTokens_iff
    : entryRawTokens entry = some rawTokens
      ↔ (fit (entry.uncachedInput.toInt + entry.cachedInput.toInt)).isSome
        ∧ (fit (entry.uncachedInput.toInt + entry.cachedInput.toInt
            + entry.cacheWrite.toInt)).isSome
        ∧ rawTokens.toInt
          = entry.uncachedInput.toInt + entry.cachedInput.toInt + entry.cacheWrite.toInt
            + entry.outputTokens.toInt := by
  simp only [entryRawTokens, Option.bind_eq_bind, Option.bind_eq_some_iff,
    checkedAdd_eq_some, Option.isSome_iff_exists, fit_eq_some]
  constructor
  · rintro ⟨input, inputFits, read, readFits, raw⟩
    rw [inputFits] at readFits
    exact ⟨⟨input, inputFits⟩, ⟨read, readFits⟩, readFits ▸ raw⟩
  · rintro ⟨⟨input, inputFits⟩, ⟨read, readFits⟩, raw⟩
    exact ⟨input, inputFits, read, inputFits ▸ readFits, readFits ▸ raw⟩

/-- The amount a settlement may charge: the balance without what other reservations
hold. For the balance after a valid settlement this bound is implied by its shape.
-/
theorem availableForThis_iff (shape : WellShaped expected) (hne : WellShaped next)
    : ((∃ rest ∈ checkedSub expected.balanceTokens
          ((checkedSub expected.reservedTokens reservation.reservedTokens).getD Int64.maxValue),
          0 ≤ charge ∧ charge ≤ rest)
        ∧ next.balanceTokens = expected.balanceTokens - charge
        ∧ next.reservedTokens = expected.reservedTokens - reservation.reservedTokens)
      ↔ 0 ≤ charge.toInt
        ∧ next.totals .balance = expected.totals .balance - charge.toInt
        ∧ next.totals .reserved = expected.totals .reserved - reservation.reservedTokens.toInt := by
  have hb := shape.nonneg .balance
  have hre := shape.nonneg .reserved
  have hn := hne.nonneg .reserved
  have nextBalance := hne.nonneg .balance
  have hco := hne.covered
  simp only [UserBalanceRecord.totals, UserBalanceRecord.column] at *
  have hba := expected.balanceTokens.toInt_lt
  have hch := charge.toInt_lt
  constructor
  · rintro ⟨⟨_, _, hc, _⟩, balance, hr⟩
    rw [nonneg_iff] at hc
    rw [hr] at hn ⊢
    rw [balance]
    exact ⟨
      hc,
      toInt_sub_of_range (by omega) (by omega),
      toInt_sub_of_nonneg hre hn
    ⟩
  · rintro ⟨hc, balance, hr⟩
    have others
        : checkedSub expected.reservedTokens reservation.reservedTokens
          = some next.reservedTokens :=
      checkedSub_eq_some.mpr hr
    obtain ⟨rest, hf, availableValue⟩ :=
      exists_fit (expected.balanceTokens.toInt - next.reservedTokens.toInt) (by omega) (by omega)
    refine ⟨⟨rest, ?_, nonneg_iff.mpr hc, ?_⟩, ?_, ?_⟩
    · rw [others, Option.getD_some]
      exact hf
    · rw [Int64.le_iff_toInt_le]
      omega
    · rw [← Int64.toInt_inj, toInt_sub_of_range (by omega) (by omega)]
      exact balance
    · rw [← Int64.toInt_inj, toInt_sub_of_range (by omega) (by omega)]
      exact hr

theorem effect_of_settlement (kind : entry.kind = "usage") (reservation : QuotaReservationRecord)
    (counter : Counter)
    : entry.effect counter - reservation.hold counter
      = match counter with
        | .balance => entry.amountTokens.toInt
        | .reserved => -reservation.reservedTokens.toInt
        | .granted => 0
        | .consumed => -entry.amountTokens.toInt
        | .requests => 1
        | .raw => entry.rawTokens.toInt
        | .billed => entry.billedTokens.toInt
        | .uncachedInput => entry.uncachedInput.toInt
        | .cachedInput => entry.cachedInput.toInt
        | .cacheWrite => entry.cacheWrite.toInt
        | .output => entry.outputTokens.toInt := by
  cases counter <;>
    simp [QuotaLedgerEntry.effect, QuotaLedgerEntry.whenKind, kind, QuotaReservationRecord.hold]

/-- An accepted settlement has the integer effect of its usage entry on every counter. -/
theorem Settles.of_valid
    (valid : validSettlementTransition expected next reservation nextReservation entry)
    : Settles expected next reservation nextReservation entry := by
  unfold validSettlementTransition at valid
  split at valid
  case h_2 => cases valid
  case h_1 charge rawTokens negated rawFits =>
    simp only [decide_eq_true_eq, validBalanceShape_iff, finishesReservation_iff, pos_iff] at valid
    obtain ⟨shape, hn, hf, kind, described, owner, apiKeyId, runnerId,
      referenceId, previous, signed, multiplier, rawNonneg, raw, hb, hu,
      available, identity, balance, reserved, granted, consumed, requests, rawSum,
      billedSum, uncached, cached, write, output, revision, last⟩ := valid
    rw [checkedNeg_eq_some] at negated
    obtain ⟨inputFits, readFits, rawValue⟩ := entryRawTokens_iff.mp rawFits
    obtain ⟨hc, hba, hr⟩ :=
      (availableForThis_iff shape hn).mp ⟨available, balance, reserved⟩
    subst raw
    rw [Int64.le_iff_toInt_le] at hb
    have hbi := entry.billedTokens.toInt_lt
    have hch := charge.toInt_lt
    refine ⟨
      ⟨shape, hn, identity, ?_, revision⟩,
      hf,
      ⟨owner, previous, signed, last⟩,
      ⟨by omega, by omega, inputFits, readFits, rawValue, nonneg_iff.mp rawNonneg,
        by omega, ?_, multiplier⟩,
      kind, described, apiKeyId, runnerId, referenceId
    ⟩
    · intro counter
      rw [effect_of_settlement kind]
      cases counter with
      | balance =>
        change next.totals .balance = expected.totals .balance + entry.amountTokens.toInt
        omega
      | reserved => exact hr
      | granted => exact (congrArg Int64.toInt granted).trans (add_zero _).symm
      | consumed => exact negated ▸ (hn.checked_iff .consumed).mp consumed
      | requests => exact (hn.checked_iff .requests).mp requests
      | raw => exact (hn.checked_iff .raw).mp rawSum
      | billed => exact (hn.checked_iff .billed).mp billedSum
      | uncachedInput => exact (hn.checked_iff .uncachedInput).mp uncached
      | cachedInput => exact (hn.checked_iff .cachedInput).mp cached
      | cacheWrite => exact (hn.checked_iff .cacheWrite).mp write
      | output => exact (hn.checked_iff .output).mp output
    · rw [hu, toInt_sub_of_range (by omega) (by omega)]
      omega

/-- Every change with the effect of a metered usage entry is accepted. -/
theorem Settles.valid (hs : Settles expected next reservation nextReservation entry)
    : validSettlementTransition expected next reservation nextReservation entry := by
  obtain ⟨⟨shape, hn, identity, totals, revision⟩, hf,
    ⟨owner, previous, signed, last⟩, hm, kind, described, apiKeyId, runnerId,
    referenceId⟩ := hs
  simp only [effect_of_settlement kind] at totals
  obtain ⟨charge, negated, chargeValue⟩ :=
    exists_fit (-entry.amountTokens.toInt)
      (by have := hm.charge; omega) (by have := hm.negatable; omega)
  have hc : 0 ≤ charge.toInt := by
    have := hm.charge
    omega
  have hb : charge.toInt ≤ entry.billedTokens.toInt := chargeValue ▸ hm.billed
  have hbi := entry.billedTokens.toInt_lt
  have rawFits : entryRawTokens entry = some entry.rawTokens :=
    entryRawTokens_iff.mpr ⟨hm.inputFits, hm.readFits, hm.raw⟩
  have hba : next.totals .balance = expected.totals .balance - charge.toInt := by
    rw [totals .balance, chargeValue, sub_neg_eq_add]
  obtain ⟨ha, balance, hr⟩ :=
    (availableForThis_iff shape hn).mpr ⟨hc, hba, totals .reserved⟩
  have hu : entry.uncoveredTokens = entry.billedTokens - charge := by
    rw [← Int64.toInt_inj, toInt_sub_of_range (by omega) (by omega), hm.uncovered,
      chargeValue, sub_neg_eq_add]
  have hch : checkedNeg entry.amountTokens = some charge := negated
  simp only [validSettlementTransition, hch, rawFits, decide_eq_true_eq, validBalanceShape_iff,
    finishesReservation_iff, pos_iff, Int64.le_iff_toInt_le] at ha ⊢
  exact ⟨
    shape, hn, hf, kind, described, owner, apiKeyId, runnerId, referenceId,
    previous, signed, hm.multiplier, hm.rawNonneg, trivial, hb, hu,
    ha, identity, balance, hr,
    Int64.toInt_inj.mp ((totals .granted).trans (add_zero _)),
    (hn.checked_iff .consumed).mpr (chargeValue ▸ totals .consumed),
    (hn.checked_iff .requests).mpr (totals .requests), (hn.checked_iff .raw).mpr (totals .raw),
    (hn.checked_iff .billed).mpr (totals .billed),
    (hn.checked_iff .uncachedInput).mpr (totals .uncachedInput),
    (hn.checked_iff .cachedInput).mpr (totals .cachedInput),
    (hn.checked_iff .cacheWrite).mpr (totals .cacheWrite),
    (hn.checked_iff .output).mpr (totals .output),
    revision, last
  ⟩

theorem validSettlementTransition_iff
    : validSettlementTransition expected next reservation nextReservation entry
      ↔ Settles expected next reservation nextReservation entry :=
  ⟨Settles.of_valid, Settles.valid⟩

end AsterTeam
