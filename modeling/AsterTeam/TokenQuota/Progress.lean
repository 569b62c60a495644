import AsterTeam.TokenQuota.AccountIntegrity

/-! A prepared transaction that nobody disturbs is applied: storage has room for the new
rows, and the rows that the attempt has read are still the stored ones.
-/

namespace AsterTeam

open MachineInteger Relational

/-- Storage still has the rows that the attempt has read and room for the new ones. -/
structure FinishTransition.Storable (transition : FinishTransition) (db : Database)
    : Prop where
  balance : transition.rows.expectedBalance ∈ db.balances.rows
  reservation : transition.rows.expectedReservation ∈ db.reservations.rows
  balanceRevision : transition.rows.nextBalance.revision.toNat < 2 ^ 63
  reservationRevision : transition.rows.nextReservation.revision.toNat < 2 ^ 63
  checks : ∀ entry ∈ transition.entry, ledgerChecks entry = true
  fresh
    : ∀ entry ∈ transition.entry, ∀ row ∈ db.ledger.rows, ¬ ledgerKeys.conflicts row entry

variable {value : UInt64}

/-- A revision that still fits a signed column was reached from one that fits. -/
theorem fitsSigned_of_succ {next : UInt64} (succ : next = saturatingSucc value)
    (hf : next.toNat < 2 ^ 63)
    : fitsSigned value ∧ fitsSigned next := by
  have hs : value.toNat < 2 ^ 63 := by
    cases ha : checkedSucc value with
    | none =>
      rw [saturatingSucc, ha, Option.getD_none] at succ
      exact succ ▸ hf
    | some result =>
      rw [saturatingSucc_of_checkedSucc ha] at succ
      have had := checkedSucc_eq_some.mp ha
      rw [← succ] at had
      omega
  exact ⟨decide_eq_true hs, decide_eq_true hf⟩

variable {db : Database}

theorem updateBalance_of_fits {expected next : UserBalanceRecord}
    (revision : next.revision = saturatingSucc expected.revision)
    (hf : next.revision.toNat < 2 ^ 63) (hs : expected ∈ db.balances.rows)
    (identity : next.identityId = expected.identityId)
    : ∃ balances, updateBalance db expected next = .ok (true, { db with balances }) := by
  obtain ⟨old, new⟩ := fitsSigned_of_succ revision hf
  have hu : ∃ result, updateBalance db expected next = .ok result := by
    rw [updateBalance, old, new]
    exact ⟨_, rfl⟩
  obtain ⟨result, hu⟩ := hu
  obtain ⟨balances, rfl, _⟩ := updateBalance_eq_ok hu hs identity
  exact ⟨balances, hu⟩

theorem updateReservation_of_fits {expected next : QuotaReservationRecord}
    (revision : next.revision = saturatingSucc expected.revision)
    (hf : next.revision.toNat < 2 ^ 63) (hs : expected ∈ db.reservations.rows)
    (kept : setReservation next expected = next)
    : ∃ reservations,
        updateReservation db expected next = .ok (true, { db with reservations }) := by
  obtain ⟨old, new⟩ := fitsSigned_of_succ revision hf
  have hu : ∃ result, updateReservation db expected next = .ok result := by
    rw [updateReservation, old, new]
    exact ⟨_, rfl⟩
  obtain ⟨result, hu⟩ := hu
  obtain ⟨reservations, rfl, _⟩ := updateReservation_eq_ok hu hs kept
  exact ⟨reservations, hu⟩

variable {transition : FinishTransition}

theorem finishReservationBody_of_storable (storable : transition.Storable db)
    (identity : transition.rows.nextBalance.identityId = transition.rows.expectedBalance.identityId)
    (revision : transition.rows.nextBalance.revision
        = saturatingSucc transition.rows.expectedBalance.revision)
    (hf : Finishes transition.rows.expectedReservation transition.rows.nextReservation status)
    : ∃ after, transition.body db = .ok (.applied, some after) := by
  have balance : db.balance? transition.rows.expectedBalance.identityId = some _ :=
    balance?_eq_some.mpr ⟨storable.balance, rfl⟩
  have reservation : db.reservation? transition.rows.expectedReservation.id = some _ :=
    reservation?_eq_some.mpr ⟨storable.reservation, rfl⟩
  have kept
      : setReservation transition.rows.nextReservation transition.rows.expectedReservation
        = transition.rows.nextReservation := by
    rw [setReservation, hf.revision, hf.finished, ← hf.kept]
  obtain ⟨ledger, hi⟩
      : ∃ ledger, transition.entry.elim (some db) (insertLedger db) = some { db with ledger } := by
    cases he : transition.entry with
    | none => exact ⟨db.ledger, rfl⟩
    | some entry =>
      obtain ⟨ledger, ha⟩ : ∃ ledger, db.ledger.insert? entry = some ledger :=
        ⟨_, dif_pos (storable.fresh entry he)⟩
      refine ⟨ledger, insertLedger_eq_some.mpr ?_⟩
      exact ⟨storable.checks entry he, storable.fresh entry he, ledger, rfl,
        (Table.insert?_eq_some.mp ha).2⟩
  unfold FinishTransition.body finishReservationBody
  rw [if_neg (by simp [balance, reservation]), hi]
  obtain ⟨reservations, updatedRow⟩
      : ∃ reservations,
          updateReservation { db with ledger } transition.rows.expectedReservation
            transition.rows.nextReservation
          = .ok (true, { db with ledger, reservations }) :=
    updateReservation_of_fits hf.revision storable.reservationRevision storable.reservation kept
  obtain ⟨balances, hu⟩
      : ∃ balances,
          updateBalance { db with ledger, reservations } transition.rows.expectedBalance
            transition.rows.nextBalance
          = .ok (true, { db with ledger, reservations, balances }) :=
    updateBalance_of_fits revision storable.balanceRevision storable.balance identity
  exact ⟨_, bind_eq_ok.mpr ⟨_, updatedRow, bind_eq_ok.mpr ⟨_, hu, rfl⟩⟩⟩

/-- An accepted transaction with room in storage is applied. -/
theorem FinishTransition.execute_of_storable (valid : transition.Valid)
    (storable : transition.Storable db)
    : (transition.execute db).1 = .ok .applied := by
  have he : ∃ after, transition.body db = .ok (.applied, some after) := by
    cases transition with
    | release rows =>
      exact finishReservationBody_of_storable storable valid.step.identity
        valid.step.revision valid.finishes
    | fail rows ledger =>
      exact finishReservationBody_of_storable storable valid.step.identity
        valid.step.revision valid.finishes
    | settle rows ledger =>
      exact finishReservationBody_of_storable storable valid.step.identity
        valid.step.revision valid.finishes
  obtain ⟨after, he⟩ := he
  rw [FinishTransition.execute_of_guard (FinishTransition.guard_of_valid valid), transaction, he]

variable {auth : AuthCore} {identityId : String}

/-- An undisturbed call whose first attempt is accepted and finds room succeeds. -/
theorem finishReservation_of_storable {Value : Type}
    {prepare : QuotaStateSnapshot → Draw → Except ControlError (Value × FinishTransition)}
    {duplicate : ControlError} {draw : Draw} {rest : List Draw} {snapshot : QuotaStateSnapshot}
    {value : Value} (hv : verifiedQuotaSnapshot auth db identityId = .ok snapshot)
    (prepared : prepare snapshot draw = .ok (value, transition)) (valid : transition.Valid)
    (storable : transition.Storable db)
    : finishReservation auth identityId prepare duplicate (draw :: rest) db
      = (.ok value, (transition.execute db).2) := by
  have ha := FinishTransition.execute_of_storable valid storable
  have hm
      : (verifiedQuotaSnapshot auth db identityId >>= (prepare · draw)) = .ok (value, transition) :=
    bind_eq_ok.mpr ⟨snapshot, hv, prepared⟩
  rw [finishReservation, hm]
  cases he : transition.execute db with
  | mk answer after =>
    rw [he] at ha
    cases ha
    simp only [he]

-- Preparing succeeds when there is room

/-- The largest text columns for which the payload of a row is sure to be signed. -/
def columnLimit : Nat := 174000

theorem checkedSucc_of_lt (room : value.toNat + 1 < 2 ^ 63)
    : ∃ next, checkedSucc value = some next ∧ next.toNat < 2 ^ 63 := by
  have ha : checkedSucc value = some (value + 1) := if_pos (by omega)
  have value := checkedSucc_eq_some.mp ha
  exact ⟨_, ha, by omega⟩

/-- The row of a reservation can be finished. -/
structure ReservationRoom (row : QuotaReservationRecord) : Prop where
  revision : row.revision.toNat + 1 < 2 ^ 63
  columns
    : row.id.utf8ByteSize + row.identityId.utf8ByteSize + row.apiKeyId.utf8ByteSize
        + row.requestId.utf8ByteSize + row.createdAt.utf8ByteSize
        + row.expiresAt.utf8ByteSize + 24
      ≤ columnLimit

variable {row : QuotaReservationRecord}

theorem finishedReservation_of_room (auth : AuthCore) (room : ReservationRoom row)
    (status : ReservationStatus) (now : DatabaseTime)
    : ∃ next,
        finishedReservation auth row status now = .ok next
        ∧ next.revision.toNat < 2 ^ 63 := by
  obtain ⟨revision, ha, hs⟩ := checkedSucc_of_lt room.revision
  let unsigned := { row with status, revision, settledAt := some now.text }
  have hc := room.columns
  have hse : optionalSize (some now.text) = 24 := now.length
  have hf : (reservationIntegrityPayload unsigned).text.utf8ByteSize ≤ 1048576 := by
    refine (reservationIntegrityPayload_size _).trans ?_
    simp only [unsigned, hse, columnLimit] at hc ⊢
    omega
  have signed : reservationIntegrityHmac auth unsigned = .ok _ :=
    (AuthCore.sign_eq_ok quotaReservationIntegrityKey_valid).mpr ⟨hf, rfl⟩
  exact ⟨
    _,
    bind_eq_ok.mpr ⟨revision, okOr_eq_ok.mpr ha, bind_eq_ok.mpr ⟨_, signed, rfl⟩⟩,
    hs
  ⟩

structure BalanceRoom (balance : UserBalanceRecord) (lastLedgerHmac : String) : Prop where
  revision : balance.revision.toNat + 1 < 2 ^ 63
  columns : balance.identityId.utf8ByteSize + lastLedgerHmac.utf8ByteSize ≤ columnLimit

variable {balance : UserBalanceRecord}

theorem revisedBalance_of_room (auth : AuthCore) (room : BalanceRoom balance lastLedgerHmac)
    (now : DatabaseTime)
    : ∃ next,
        revisedBalance auth balance lastLedgerHmac now = .ok next
        ∧ next.revision.toNat < 2 ^ 63 := by
  obtain ⟨revision, ha, hs⟩ := checkedSucc_of_lt room.revision
  let unsigned := { balance with revision, lastLedgerHmac, updatedAt := now.text }
  have hc := room.columns
  have hf : (balanceIntegrityPayload unsigned).text.utf8ByteSize ≤ 1048576 := by
    refine (balanceIntegrityPayload_size _).trans ?_
    simp only [unsigned, columnLimit] at hc ⊢
    omega
  have signed : balanceIntegrityHmac auth unsigned = .ok _ :=
    (AuthCore.sign_eq_ok quotaBalanceIntegrityKey_valid).mpr ⟨hf, rfl⟩
  exact ⟨
    _,
    bind_eq_ok.mpr ⟨revision, okOr_eq_ok.mpr ha, bind_eq_ok.mpr ⟨_, signed, rfl⟩⟩,
    hs
  ⟩

def QuotaLedgerEntry.columnSize (entry : QuotaLedgerEntry) : Nat :=
  entry.id.utf8ByteSize + entry.identityId.utf8ByteSize + entry.kind.utf8ByteSize
    + entry.referenceId.utf8ByteSize + optionalSize entry.clientRequestId
    + entry.description.utf8ByteSize + entry.protocol.utf8ByteSize
    + entry.model.utf8ByteSize + optionalSize entry.requestedModel
    + optionalSize entry.processingTier + optionalSize entry.reasoningEffort
    + optionalSize entry.apiKeyId + optionalSize entry.runnerId
    + entry.previousEntryHmac.utf8ByteSize + entry.createdAt.utf8ByteSize

theorem signedLedger_of_room (auth : AuthCore) {entry : QuotaLedgerEntry}
    (hc : entry.columnSize ≤ columnLimit)
    : signedLedger auth entry
      = .ok { entry with
              integrityHmac :=
                auth.securityStateTag
                  ⟨quotaLedgerIntegrityKey, (ledgerIntegrityPayload entry).text, 0⟩ } := by
  have hf : (ledgerIntegrityPayload entry).text.utf8ByteSize ≤ 1048576 := by
    refine (ledgerIntegrityPayload_size _).trans ?_
    simp only [QuotaLedgerEntry.columnSize, columnLimit] at hc
    omega
  have signed : ledgerIntegrityHmac auth entry = .ok _ :=
    (AuthCore.sign_eq_ok quotaLedgerIntegrityKey_valid).mpr ⟨hf, rfl⟩
  exact bind_eq_ok.mpr ⟨_, signed, rfl⟩

def UserBalanceRecord.withTotals (balance : UserBalanceRecord) (value : Counter → Int)
    : UserBalanceRecord :=
  { balance with
    balanceTokens := Int64.ofInt (value .balance)
    reservedTokens := Int64.ofInt (value .reserved)
    grantedTokens := Int64.ofInt (value .granted)
    consumedTokens := Int64.ofInt (value .consumed)
    requestCount := Int64.ofInt (value .requests)
    rawTokens := Int64.ofInt (value .raw)
    billedTokens := Int64.ofInt (value .billed)
    uncachedInput := Int64.ofInt (value .uncachedInput)
    cachedInput := Int64.ofInt (value .cachedInput)
    cacheWrite := Int64.ofInt (value .cacheWrite)
    outputTokens := Int64.ofInt (value .output) }

theorem UserBalanceRecord.totals_withTotals (balance : UserBalanceRecord)
    {value : Counter → Int} (range : ∀ counter, -2 ^ 63 ≤ value counter ∧ value counter < 2 ^ 63)
    (counter : Counter)
    : (balance.withTotals value).totals counter = value counter := by
  have exact := toInt_ofInt_of_range (range counter).1 (range counter).2
  cases counter <;> exact exact

theorem settlementOf_of_account {billed : Int64}
    (account : VerifiedAccount auth db identityId balance)
    (member : row ∈ db.activeReservations identityId) (hb : 0 ≤ billed.toInt)
    : ∃ settlement,
        settlementOf balance row billed = .ok settlement
        ∧ 0 ≤ settlement.chargedTokens.toInt
        ∧ settlement.chargedTokens.toInt ≤ billed.toInt
        ∧ settlement.chargedTokens.toInt
          ≤ balance.totals .balance - (balance.totals .reserved - row.reservedTokens.toInt)
        ∧ settlement.billedTokens = billed := by
  have held := account.held_le member
  have hp := (account.reservations row member).positive
  have hc := account.covered
  have hbi := billed.toInt_lt
  obtain ⟨charged, chargedFits, chargedValue⟩ :=
    exists_fit
      (min billed.toInt
        (balance.totals .balance - (balance.totals .reserved - row.reservedTokens.toInt)))
      (by omega) (by omega)
  obtain ⟨hu, uncoveredFits, uncoveredValue⟩ :=
    exists_fit (billed.toInt - charged.toInt) (by omega) (by omega)
  refine ⟨⟨charged, billed, hu⟩, ?_, by simp only; omega, by simp only; omega,
    by simp only; omega, rfl⟩
  exact (settlementOf_eq_ok hb held hp.le hc).mpr ⟨chargedValue, rfl, uncoveredValue⟩

def ModelUsage.totals (usage : ModelUsage) (rawTokens billed : Int64) : Counter → Int
  | .balance | .reserved | .granted => 0
  | .consumed => billed.toInt
  | .requests => 1
  | .raw => rawTokens.toInt
  | .billed => billed.toInt
  | .uncachedInput => usage.uncachedInput.toInt
  | .cachedInput => usage.cachedInput.toInt
  | .cacheWrite => usage.cacheWrite.toInt
  | .output => usage.outputTokens.toInt

/-- No addition of a settlement overflows, its rows can be signed, and its entry is new. -/
structure SettlementRoom (auth : AuthCore) (db : Database) (reservation : QuotaReservation)
    (usage : ModelUsage) (rawTokens billed : Int64) (snapshot : QuotaStateSnapshot)
    (row : QuotaReservationRecord) (draw : Draw)
    : Prop where
  finish : ReservationRoom row
  revision : snapshot.balance.revision.toNat + 1 < 2 ^ 63
  counters
    : ∀ counter, snapshot.balance.totals counter + usage.totals rawTokens billed counter < 2 ^ 63
  columns
    : ∀ settlement amountTokens,
        (usageEntry reservation usage snapshot row settlement rawTokens amountTokens
          draw).columnSize
        ≤ columnLimit
  tag
    : ∀ settlement amountTokens ledger,
        signedLedger auth
            (usageEntry reservation usage snapshot row settlement rawTokens amountTokens draw)
          = .ok ledger
        → reservation.identityId.utf8ByteSize + ledger.integrityHmac.utf8ByteSize ≤ columnLimit
  fresh
    : ∀ stored ∈ db.ledger.rows,
        stored.id ≠ randomIdentifier "ledger" draw.random
        ∧ (stored.identityId, stored.kind, stored.referenceId)
          ≠ (reservation.identityId, "usage", reservation.requestId)

theorem chargedBalance_of_range {ledger : QuotaLedgerEntry} {charged : Int64}
    (kind : ledger.kind = "usage") (charge : charged.toInt = -ledger.amountTokens.toInt)
    (range : ∀ counter,
          0 ≤ balance.totals counter + (ledger.effect counter - row.hold counter)
          ∧ balance.totals counter + (ledger.effect counter - row.hold counter) < 2 ^ 63)
    : chargedBalance balance row ledger charged
      = .ok (balance.withTotals (fun counter =>
          balance.totals counter + (ledger.effect counter - row.hold counter))) := by
  have totals :=
    balance.totals_withTotals fun counter =>
      ⟨by have := (range counter).1; omega, (range counter).2⟩
  refine (chargedBalance_eq_ok kind charge).mpr ⟨totals, ?_, rfl⟩
  intro counter _ _
  rw [totals]
  exact (range counter).1

section

variable {reservation : QuotaReservation} {usage : ModelUsage} {rawTokens billed : Int64}
  {snapshot : QuotaStateSnapshot} {draw : Draw} {settlement : QuotaSettlement}
  {amountTokens : Int64} {ledger : QuotaLedgerEntry}

/-- The counters after a settlement are in range: what is charged is affordable, and no
addition overflows.
-/
theorem usageEntry_range (account : VerifiedAccount auth db reservation.identityId snapshot.balance)
    (hs : row ∈ db.activeReservations reservation.identityId) (hme : MeteredUsage usage rawTokens)
    (counters
      : ∀ counter, snapshot.balance.totals counter + usage.totals rawTokens billed counter < 2 ^ 63)
    (amount : amountTokens.toInt = -settlement.chargedTokens.toInt)
    (hc : 0 ≤ settlement.chargedTokens.toInt) (hch : settlement.chargedTokens.toInt ≤ billed.toInt)
    (ha : settlement.chargedTokens.toInt
        ≤ snapshot.balance.totals .balance
          - (snapshot.balance.totals .reserved - row.reservedTokens.toInt))
    (hb : settlement.billedTokens = billed)
    (hm : ledger
        = { usageEntry reservation usage snapshot row settlement rawTokens amountTokens
              draw with
            integrityHmac := ledger.integrityHmac }) (counter : Counter)
    : 0 ≤ snapshot.balance.totals counter + (ledger.effect counter - row.hold counter)
      ∧ snapshot.balance.totals counter + (ledger.effect counter - row.hold counter) < 2 ^ 63 := by
  have kind : ledger.kind = "usage" := by
    rw [hm]
    rfl
  have hn := account.nonneg counter
  have high := counters counter
  have held := account.held_le hs
  have hp := (account.reservations row hs).positive
  have hco := account.covered
  have ⟨h1, h2, h3, h4, _, _, _, _, raw⟩ := hme
  rw [effect_of_settlement kind, hm]
  cases counter <;>
    simp only [usageEntry, ModelUsage.totals, hb] at high ⊢ <;>
    omega

theorem usageEntry_checks (ha : MeteredUsage usage rawTokens) (hme : Metered ledger)
    (hm : ledger
        = { usageEntry reservation usage snapshot row settlement rawTokens amountTokens
              draw with
            integrityHmac := ledger.integrityHmac })
    : ledgerChecks ledger := by
  have charge := hme.charge
  have hb := hme.billed
  have hu := hme.uncovered
  have multiplier := hme.multiplier
  have raw := hme.rawNonneg
  have hc
      : 0 ≤ ledger.uncachedInput.toInt ∧ 0 ≤ ledger.cachedInput.toInt
        ∧ 0 ≤ ledger.cacheWrite.toInt ∧ 0 ≤ ledger.outputTokens.toInt := by
    rw [hm]
    exact ⟨ha.uncachedInput, ha.cachedInput, ha.cacheWrite, ha.outputTokens⟩
  obtain ⟨h1, h2, h3, h4⟩ := hc
  simp only [ledgerChecks, decide_eq_true_eq, nonneg_iff, pos_iff]
  exact ⟨h1, h2, h3, h4, by omega, raw, by omega, multiplier⟩

theorem prepareSettlement_of_room
    (hv : verifiedQuotaSnapshot auth db reservation.identityId = .ok snapshot)
    (hf : findReservation reservation snapshot = .ok row)
    (hme : MeteredUsage usage rawTokens) (hbi : 0 ≤ billed.toInt)
    (room : SettlementRoom auth db reservation usage rawTokens billed snapshot row draw)
    : ∃ settlement rows ledger,
        prepareSettlement auth reservation usage rawTokens billed snapshot draw
          = .ok (settlement, .settle rows ledger)
        ∧ rows.nextBalance.revision.toNat < 2 ^ 63
        ∧ rows.nextReservation.revision.toNat < 2 ^ 63 := by
  obtain ⟨account, hs⟩ := verifiedSnapshot_row hv (findReservation_member hf).1
  obtain ⟨settlement, hse, hc, hch, ha, hb⟩ :=
    settlementOf_of_account account hs hbi
  obtain ⟨nextReservation, finished, reservationRevision⟩ :=
    finishedReservation_of_room auth room.finish .settled draw.now
  have hchar := settlement.chargedTokens.toInt_lt
  obtain ⟨amountTokens, negated, amount⟩ :=
    exists_fit (-settlement.chargedTokens.toInt) (by omega) (by omega)
  obtain ⟨ledger, hsi⟩
      : ∃ ledger,
          signedLedger auth
              (usageEntry reservation usage snapshot row settlement rawTokens amountTokens draw)
            = .ok ledger :=
    ⟨_, signedLedger_of_room auth (room.columns settlement amountTokens)⟩
  obtain ⟨_, hm⟩ := signedLedger_eq_ok hsi
  have kind : ledger.kind = "usage" := by
    rw [hm]
    rfl
  have charge : settlement.chargedTokens.toInt = -ledger.amountTokens.toInt := by
    rw [hm]
    show _ = -amountTokens.toInt
    omega
  have hcha :=
    chargedBalance_of_range kind charge
      (usageEntry_range account hs hme room.counters amount hc hch ha hb hm)
  have tagSize := room.tag settlement amountTokens ledger hsi
  rw [← account.identity] at tagSize
  have hba (value : Counter → Int)
      : BalanceRoom (snapshot.balance.withTotals value) ledger.integrityHmac :=
    ⟨room.revision, tagSize⟩
  obtain ⟨nextBalance, revised, balanceRevision⟩ :=
    revisedBalance_of_room auth (hba _) draw.now
  refine ⟨settlement, ⟨snapshot.balance, nextBalance, row, nextReservation⟩, ledger, ?_,
    balanceRevision, reservationRevision⟩
  refine bind_eq_ok.mpr ⟨row, hf, ?_⟩
  refine bind_eq_ok.mpr ⟨settlement, hse, ?_⟩
  refine bind_eq_ok.mpr ⟨nextReservation, finished, ?_⟩
  refine bind_eq_ok.mpr ⟨amountTokens, okOr_eq_ok.mpr negated, ?_⟩
  refine bind_eq_ok.mpr ⟨ledger, hsi, ?_⟩
  refine bind_eq_ok.mpr ⟨_, hcha, ?_⟩
  exact bind_eq_ok.mpr ⟨nextBalance, revised, rfl⟩

/-- An undisturbed settlement with room succeeds. -/
theorem settleModelQuota_of_room {draws : Nat → Draw} (free : auth.CollisionFree)
    (hv : verifiedQuotaSnapshot auth db reservation.identityId = .ok snapshot)
    (hf : findReservation reservation snapshot = .ok row) (hme : MeteredUsage usage rawTokens)
    (billing : billedTokens rawTokens usage.multiplierMicros = .ok billed)
    (room : SettlementRoom auth db reservation usage rawTokens billed snapshot row (draws 0))
    : (settleModelQuota auth reservation usage draws db).1.isOk := by
  have hbi := billedTokens_nonneg hme.rawNonneg hme.multiplier billing
  obtain ⟨settlement, rows, ledger, hm, balanceRevision, reservationRevision⟩ :=
    prepareSettlement_of_room hv hf hme hbi room
  obtain ⟨_, _, amountTokens, same, entry, _, hb, _, prepared, valid⟩ :=
    prepareSettlement_valid free hv hme hbi hm
  cases same
  obtain ⟨read, account⟩ := verifiedQuotaSnapshot_eq_ok.mp hv
  obtain ⟨balance, reservations, _⟩ := quotaStateSnapshot_rows read
  have hs := List.mem_of_mem_filter (reservations.mem_iff.mp prepared.row)
  have storable : (FinishTransition.settle rows ledger).Storable db := by
    refine ⟨prepared.balance ▸ (balance?_eq_some.mp balance).1, hs, balanceRevision,
      reservationRevision, ?_, ?_⟩
    · intro had ha
      cases ha
      exact usageEntry_checks hme valid.metered entry
    · intro had ha row member hc
      cases ha
      have hap := room.fresh row member
      rw [entry] at hc
      rcases hc with hsa | sameReference
      · exact hap.1 hsa
      · exact hap.2 sameReference
  have runs : ∃ rest, retries draws = draws 0 :: rest := ⟨_, rfl⟩
  obtain ⟨rest, runs⟩ := runs
  have he
      : finishReservation auth reservation.identityId
          (prepareSettlement auth reservation usage rawTokens billed)
          .duplicateGatewayRequest (draws 0 :: rest) db
        = (.ok settlement, _) :=
    finishReservation_of_storable hv hm valid storable
  simp only [settleModelQuota, checkedRawTokens_eq_ok.mpr hme, billing, runs, he]
  rfl

end

-- A failure with room

/-- The rows of a failed request can be signed, and its entry is new. -/
structure FailureRoom (auth : AuthCore) (db : Database) (reservation : QuotaReservation)
    (failure : FailedModelRequest) (snapshot : QuotaStateSnapshot)
    (row : QuotaReservationRecord) (draw : Draw)
    : Prop where
  finish : ReservationRoom row
  revision : snapshot.balance.revision.toNat + 1 < 2 ^ 63
  columns : (failureEntry reservation failure snapshot row draw).columnSize ≤ columnLimit
  tag
    : ∀ ledger,
        signedLedger auth (failureEntry reservation failure snapshot row draw) = .ok ledger
        → reservation.identityId.utf8ByteSize + ledger.integrityHmac.utf8ByteSize ≤ columnLimit
  fresh
    : ∀ stored ∈ db.ledger.rows,
        stored.id ≠ randomIdentifier "ledger" draw.random
        ∧ (stored.identityId, stored.kind, stored.referenceId)
          ≠ (reservation.identityId, "usage_failed", reservation.requestId)

section

variable {reservation : QuotaReservation} {failure : FailedModelRequest}
  {snapshot : QuotaStateSnapshot} {draw : Draw}

theorem prepareFailure_of_room
    (hv : verifiedQuotaSnapshot auth db reservation.identityId = .ok snapshot)
    (hf : findReservation reservation snapshot = .ok row)
    (room : FailureRoom auth db reservation failure snapshot row draw)
    : ∃ rows ledger,
        prepareFailure auth reservation failure snapshot draw = .ok (.fail rows ledger)
        ∧ rows.nextBalance.revision.toNat < 2 ^ 63
        ∧ rows.nextReservation.revision.toNat < 2 ^ 63 := by
  obtain ⟨account, hs⟩ := verifiedSnapshot_row hv (findReservation_member hf).1
  obtain ⟨nextReservation, finished, reservationRevision⟩ :=
    finishedReservation_of_room auth room.finish .released draw.now
  obtain ⟨ledger, hsi⟩
      : ∃ ledger,
          signedLedger auth (failureEntry reservation failure snapshot row draw) = .ok ledger :=
    ⟨_, signedLedger_of_room auth room.columns⟩
  have held : row.reservedTokens.toInt ≤ snapshot.balance.reservedTokens.toInt :=
    account.held_le hs
  have hp := (account.reservations row hs).positive
  have high := snapshot.balance.reservedTokens.toInt_lt
  obtain ⟨reservedTokens, difference, _⟩ :=
    exists_fit (snapshot.balance.reservedTokens.toInt - row.reservedTokens.toInt)
      (by omega) (by omega)
  have tagSize := room.tag ledger hsi
  rw [← account.identity] at tagSize
  have hb
      : BalanceRoom { snapshot.balance with reservedTokens } ledger.integrityHmac :=
    ⟨room.revision, tagSize⟩
  obtain ⟨nextBalance, revised, balanceRevision⟩ :=
    revisedBalance_of_room auth hb draw.now
  have hr
      : returnedBalance auth snapshot.balance row ledger.integrityHmac draw.now = .ok nextBalance :=
    bind_eq_ok.mpr ⟨reservedTokens, okOr_eq_ok.mpr difference, revised⟩
  refine ⟨⟨snapshot.balance, nextBalance, row, nextReservation⟩, ledger, ?_,
    balanceRevision, reservationRevision⟩
  refine bind_eq_ok.mpr ⟨row, hf, ?_⟩
  refine bind_eq_ok.mpr ⟨nextReservation, finished, ?_⟩
  refine bind_eq_ok.mpr ⟨ledger, hsi, ?_⟩
  exact bind_eq_ok.mpr ⟨nextBalance, hr, rfl⟩

/-- An undisturbed failure with room succeeds. -/
theorem failModelRequest_of_room {draws : Nat → Draw} (free : auth.CollisionFree)
    (hv : verifiedQuotaSnapshot auth db reservation.identityId = .ok snapshot)
    (hf : findReservation reservation snapshot = .ok row) (hac : validFailure failure)
    (room : FailureRoom auth db reservation failure snapshot row (draws 0))
    : (failModelRequest auth reservation failure draws db).1 = .ok () := by
  obtain ⟨rows, ledger, hm, balanceRevision, reservationRevision⟩ :=
    prepareFailure_of_room hv hf room
  obtain ⟨_, _, same, entry, _, prepared, valid⟩ :=
    prepareFailure_valid free hv hac hm
  cases same
  obtain ⟨read, account⟩ := verifiedQuotaSnapshot_eq_ok.mp hv
  obtain ⟨balance, reservations, _⟩ := quotaStateSnapshot_rows read
  have hs := List.mem_of_mem_filter (reservations.mem_iff.mp prepared.row)
  have storable : (FinishTransition.fail rows ledger).Storable db := by
    refine ⟨prepared.balance ▸ (balance?_eq_some.mp balance).1, hs, balanceRevision,
      reservationRevision, ?_, ?_⟩
    · intro had ha
      cases ha
      rw [entry]
      rfl
    · intro had ha row member hc
      cases ha
      have hap := room.fresh row member
      rw [entry] at hc
      rcases hc with hsa | sameReference
      · exact hap.1 hsa
      · exact hap.2 sameReference
  have runs : ∃ rest, retries draws = draws 0 :: rest := ⟨_, rfl⟩
  obtain ⟨rest, runs⟩ := runs
  have he
      : finishReservation auth reservation.identityId
          (fun snapshot draw =>
            (prepareFailure auth reservation failure snapshot draw).map (((), ·)))
          .dataIntegrityInvalid (draws 0 :: rest) db
        = (.ok (), _) :=
    finishReservation_of_storable hv (by rw [hm]; rfl) valid storable
  rw [failModelRequest, hac, runs]
  exact congrArg Prod.fst he

end

end AsterTeam
