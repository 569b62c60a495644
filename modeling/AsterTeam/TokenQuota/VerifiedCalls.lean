import AsterTeam.TokenQuota.Progress

/-! Which calls of Control on a verified account leave it verified. -/

namespace AsterTeam

open MachineInteger Relational

def accountVerified (auth : AuthCore) (db : Database) (identityId : String) : Bool :=
  (verifiedQuotaSnapshot auth db identityId).isOk

inductive ReservationCall
  | release (reservation : QuotaReservation)
  | fail (reservation : QuotaReservation) (failure : FailedModelRequest)
  | settle (reservation : QuotaReservation) (usage : ModelUsage)

def ReservationCall.reservation : ReservationCall → QuotaReservation
  | .release reservation => reservation
  | .fail reservation _ => reservation
  | .settle reservation _ => reservation

def ReservationCall.run (call : ReservationCall) (auth : AuthCore) (draws : Nat → Draw)
    (db : Database)
    : Except ControlError Unit × Database :=
  match call with
  | .release reservation => releaseModelQuota auth reservation draws db
  | .fail reservation failure => failModelRequest auth reservation failure draws db
  | .settle reservation usage =>
    let settled := settleModelQuota auth reservation usage draws db
    (settled.1.map fun _ => (), settled.2)

/-- The columns that the entry takes from the call and from the stored reservation are
those that verification accepts.
-/
def ReservationCall.Admissible (call : ReservationCall) (db : Database) : Prop :=
  match call with
  | .release _ => True
  | .fail reservation failure =>
    (∀ row ∈ db.activeReservations reservation.identityId,
      row.id = reservation.id → AdmissibleReservation reservation row.apiKeyId)
    ∧ failure.runnerId ≠ some ""
  | .settle reservation usage =>
    (∀ row ∈ db.activeReservations reservation.identityId,
      row.id = reservation.id → AdmissibleReservation reservation row.apiKeyId)
    ∧ AdmissibleUsage usage

theorem ReservationCall.run_settle_db (auth : AuthCore) (reservation : QuotaReservation)
    (usage : ModelUsage) (draws : Nat → Draw) (db : Database)
    : ((ReservationCall.settle reservation usage).run auth draws db).2
      = (settleModelQuota auth reservation usage draws db).2 :=
  rfl

theorem isOk_iff {Error Value : Type} {result : Except Error Value}
    : result.isOk ↔ ∃ value, result = .ok value := by
  cases result <;> simp [Except.isOk, Except.toBool]

theorem accountVerified_iff
    : accountVerified auth db identityId ↔ ∃ balance, VerifiedAccount auth db identityId balance :=
  isOk_iff.trans verified_iff

section

variable {auth : AuthCore} {db : Database} {reservation : QuotaReservation}
  {snapshot : QuotaStateSnapshot} {transition : FinishTransition}

/-- An applied transaction that was prepared from the account leaves it verified exactly
when its entry has the shape of its kind.
-/
theorem prepared_verified_iff (free : auth.CollisionFree)
    (ha : (transition.execute db).1 = .ok .applied)
    (hv : verifiedQuotaSnapshot auth db reservation.identityId = .ok snapshot)
    (prepared : PreparedFinish auth snapshot reservation transition.rows)
    (he : ∀ entry ∈ transition.entry, ledgerIntegrityHmac auth entry = .ok entry.integrityHmac)
    : accountVerified auth (transition.execute db).2 reservation.identityId
      ↔ ∀ entry ∈ transition.entry, validSignedLedgerShape entry := by
  obtain ⟨valid, effect⟩ := FinishTransition.execute_applied ha
  obtain ⟨account, hm⟩ := verifiedSnapshot_row hv prepared.row
  have hs := account.reservations _ hm
  rw [accountVerified_iff]
  exact VerifiedAccount.finish_iff free (prepared.balance ▸ account) valid effect
    hs.owner prepared.balanceSigned he

/-- The row of the reservation is the only active one with its id. -/
theorem prepared_row_iff {rows : Finish}
    (hv : verifiedQuotaSnapshot auth db reservation.identityId = .ok snapshot)
    (prepared : PreparedFinish auth snapshot reservation rows)
    {property : QuotaReservationRecord → Prop}
    : (∀ row ∈ db.activeReservations reservation.identityId,
        row.id = reservation.id → property row)
      ↔ property rows.expectedReservation := by
  have hm := (verifiedSnapshot_row hv prepared.row).2
  refine ⟨fun all => all _ hm prepared.id, ?_⟩
  intro hh row rowMember hs
  have same : row = rows.expectedReservation :=
    Table.eq_of_conflicts (List.mem_of_mem_filter rowMember)
      (List.mem_of_mem_filter hm) (.inl (hs.trans prepared.id.symm))
  exact same ▸ hh

theorem map_unit_eq_ok {Value : Type} {source : Except ControlError Value}
    {pair : Unit × Value} (mapped : source.map (((), ·)) = .ok pair)
    : source = .ok pair.2 := by
  cases source with
  | error _ => cases mapped
  | ok value =>
    cases mapped
    rfl

variable {draws : Nat → Draw}

theorem releaseModelQuota_verified (free : auth.CollisionFree)
    (hs : (releaseModelQuota auth reservation draws db).1.isOk)
    : accountVerified auth (releaseModelQuota auth reservation draws db).2
        reservation.identityId := by
  obtain ⟨_, he⟩ := isOk_iff.mp hs
  obtain ⟨draw, snapshot, transition, read, hm, ha, after⟩ :=
    finishReservation_eq_ok he
  obtain ⟨rows, rfl, prepared, _⟩ := prepareRelease_valid free read (map_unit_eq_ok hm)
  rw [releaseModelQuota, after]
  refine (prepared_verified_iff free ha read prepared ?_).mpr ?_
  · intro _ absent
    cases absent
  · intro _ absent
    cases absent

theorem failModelRequest_verified_iff {failure : FailedModelRequest} (free : auth.CollisionFree)
    (hs : (failModelRequest auth reservation failure draws db).1.isOk)
    : accountVerified auth (failModelRequest auth reservation failure draws db).2
          reservation.identityId
      ↔ (∀ row ∈ db.activeReservations reservation.identityId,
          row.id = reservation.id → AdmissibleReservation reservation row.apiKeyId)
        ∧ failure.runnerId ≠ some "" := by
  by_cases hr : !validFailure failure
  · rw [failModelRequest, if_pos hr] at hs
    cases hs
  rw [failModelRequest, if_neg hr] at hs ⊢
  have ha : validFailure failure := by simpa using hr
  obtain ⟨_, hen⟩ := isOk_iff.mp hs
  obtain ⟨draw, snapshot, transition, read, hm, hap, after⟩ :=
    finishReservation_eq_ok hen
  obtain ⟨rows, ledger, rfl, entry, signed, prepared, valid⟩ :=
    prepareFailure_valid free read ha (map_unit_eq_ok hm)
  have kept :=
    prepared_verified_iff free hap read prepared (fun _ he => Option.some.inj he ▸ signed)
  rw [after, kept, prepared_row_iff read prepared,
    ← failureEntry_shape_iff ha valid.appends.signed entry]
  exact ⟨fun all => all _ rfl, fun shape _ he => Option.some.inj he ▸ shape⟩

variable {usage : ModelUsage}

/-- The arguments of a settlement that starts, and what it runs. -/
theorem settleModelQuota_eq_ok (hs : (settleModelQuota auth reservation usage draws db).1.isOk)
    : ∃ rawTokens billed,
        MeteredUsage usage rawTokens
        ∧ billedTokens rawTokens usage.multiplierMicros = .ok billed
        ∧ settleModelQuota auth reservation usage draws db
          = finishReservation auth reservation.identityId
              (prepareSettlement auth reservation usage rawTokens billed)
              .duplicateGatewayRequest (retries draws) db := by
  unfold settleModelQuota at hs ⊢
  cases counting : checkedRawTokens usage with
  | error _ =>
    rw [counting] at hs
    cases hs
  | ok rawTokens =>
    cases billing : billedTokens rawTokens usage.multiplierMicros with
    | error _ =>
      simp only [counting, billing] at hs
      cases hs
    | ok billed =>
      refine ⟨rawTokens, billed, checkedRawTokens_eq_ok.mp counting, billing, ?_⟩
      simp only [billing]

theorem settleModelQuota_verified_iff (free : auth.CollisionFree)
    (hs : (settleModelQuota auth reservation usage draws db).1.isOk)
    : accountVerified auth (settleModelQuota auth reservation usage draws db).2
          reservation.identityId
      ↔ (∀ row ∈ db.activeReservations reservation.identityId,
          row.id = reservation.id → AdmissibleReservation reservation row.apiKeyId)
        ∧ AdmissibleUsage usage := by
  obtain ⟨rawTokens, hbi, hme, billing, runs⟩ := settleModelQuota_eq_ok hs
  rw [runs] at hs ⊢
  obtain ⟨_, hen⟩ := isOk_iff.mp hs
  obtain ⟨draw, snapshot, transition, read, hm, ha, after⟩ :=
    finishReservation_eq_ok hen
  have hb := billedTokens_nonneg hme.rawNonneg hme.multiplier billing
  obtain ⟨rows, ledger, amountTokens, rfl, entry, _, _, signed, prepared, valid⟩ :=
    prepareSettlement_valid free read hme hb hm
  have kept :=
    prepared_verified_iff free ha read prepared (fun _ he => Option.some.inj he ▸ signed)
  rw [after, kept, prepared_row_iff read prepared,
    ← usageEntry_shape_iff hme valid.metered valid.appends.signed entry]
  exact ⟨fun all => all _ rfl, fun shape _ he => Option.some.inj he ▸ shape⟩

end

/-- A call succeeds only on a verified account, and it leaves the account verified exactly
when its arguments are admissible. Releases always are, and failures check all names of the
request; settlements check neither the requested model nor the tier nor the effort.
-/
theorem reservation_calls_keep_account_verified {auth : AuthCore}
    (free : auth.CollisionFree) (call : ReservationCall) (draws : Nat → Draw)
    (db : Database) (succeeded : (call.run auth draws db).1.isOk = true)
    : accountVerified auth (call.run auth draws db).2 call.reservation.identityId = true
      ↔ call.Admissible db := by
  cases call with
  | release reservation =>
    exact iff_of_true (releaseModelQuota_verified free succeeded) trivial
  | fail reservation failure => exact failModelRequest_verified_iff free succeeded
  | settle reservation usage =>
    have hs : (settleModelQuota auth reservation usage draws db).1.isOk := by
      obtain ⟨_, mapped⟩ := isOk_iff.mp succeeded
      cases ha : (settleModelQuota auth reservation usage draws db).1 with
      | error _ =>
        simp only [ReservationCall.run, ha] at mapped
        cases mapped
      | ok _ => rfl
    exact settleModelQuota_verified_iff free hs

-- One account

def sampleTime : DatabaseTime := ⟨"2026-01-01T00:00:00.000Z", by decide⟩

def sampleDraws (_ : Nat) : Draw := ⟨sampleTime, ⟨List.replicate 16 0, by decide⟩⟩

def unsignedBalance : UserBalanceRecord :=
  { identityId := "member", balanceTokens := 10, reservedTokens := 5
    grantedTokens := 10, consumedTokens := 0, requestCount := 0, rawTokens := 0
    billedTokens := 0, uncachedInput := 0, cachedInput := 0, cacheWrite := 0
    outputTokens := 0, revision := 2, lastLedgerHmac := "", integrityHmac := ""
    updatedAt := sampleTime.text }

def openBalance : UserBalanceRecord :=
  { unsignedBalance with
    integrityHmac :=
      AuthCore.transparent.securityStateTag
        ⟨quotaBalanceIntegrityKey, (balanceIntegrityPayload unsignedBalance).text, 2⟩ }

def unsignedReservation : QuotaReservationRecord :=
  { id := "reservation", identityId := "member", apiKeyId := "key"
    requestId := "request", reservedTokens := 5, status := .active, revision := 0
    integrityHmac := "", createdAt := sampleTime.text, expiresAt := sampleTime.text
    settledAt := none }

def openReservation : QuotaReservationRecord :=
  { unsignedReservation with
    integrityHmac :=
      AuthCore.transparent.securityStateTag
        ⟨quotaReservationIntegrityKey, (reservationIntegrityPayload unsignedReservation).text, 0⟩ }

def openAccount : Database :=
  { Database.empty with
    balances := ⟨[openBalance], by simp⟩, reservations := ⟨[openReservation], by simp⟩ }

def sampleReservation : QuotaReservation :=
  { id := "reservation", identityId := "member", requestId := "request"
    clientRequestId := none, reservedTokens := 5, billing := none }

def sampleUsage (processingTier : Option String) : ModelUsage :=
  { uncachedInput := 2, cachedInput := 0, cacheWrite := 0, outputTokens := 1
    multiplierMicros := 1000000, protocol := "openai", model := "model"
    requestedModel := none, processingTier, reasoningEffort := none, runnerId := "runner" }

theorem activeReservations_openAccount
    : openAccount.activeReservations "member" = [openReservation] := by
  simp [Database.activeReservations, openAccount, openReservation, unsignedReservation]

/-- The account of the sample verifies: its rows carry their tags and it has no ledger. -/
theorem openAccount_verified : VerifiedAccount .transparent openAccount "member" openBalance := by
  have hb :=
    balanceIntegrityHmac_of_tag .transparent unsignedBalance
      ((balanceIntegrityPayload_size _).trans (by decide +kernel))
  have hr :=
    reservationIntegrityHmac_of_tag .transparent unsignedReservation
      ((reservationIntegrityPayload_size _).trans (by decide +kernel))
  refine ⟨?_, ?_, by decide, ?_, ?_, ?_, ?_⟩
  · exact balance?_eq_some.mpr ⟨by simp [openAccount], rfl⟩
  · intro counter
    cases counter <;> decide
  · exact hb
  · exact ⟨⟨[], .refl _, rfl⟩, .nil, fun _ absent => absurd absent List.not_mem_nil⟩
  · intro row hm
    rw [activeReservations_openAccount, List.mem_singleton] at hm
    rw [hm]
    exact ⟨rfl, rfl, by decide, rfl, hr⟩
  · rw [activeReservations_openAccount]
    decide

theorem openAccount_snapshot
    : ∃ snapshot,
        verifiedQuotaSnapshot .transparent openAccount "member" = .ok snapshot
        ∧ snapshot.balance = openBalance
        ∧ findReservation sampleReservation snapshot = .ok openReservation := by
  obtain ⟨snapshot, hv⟩ := verified_iff.mpr ⟨openBalance, openAccount_verified⟩
  obtain ⟨read, _⟩ := verifiedQuotaSnapshot_eq_ok.mp hv
  obtain ⟨balance, reservations, _⟩ := quotaStateSnapshot_rows read
  rw [activeReservations_openAccount] at reservations
  have rows := List.perm_singleton.mp reservations
  refine ⟨snapshot, hv, ?_, findReservation_eq_ok.mpr ⟨?_, rfl, rfl⟩⟩
  · exact Option.some.inj (balance.symm.trans openAccount_verified.stored)
  · rw [rows]
    exact List.find?_cons_of_pos (by decide)

theorem sampleEntry_columnSize {snapshot : QuotaStateSnapshot}
    (balance : snapshot.balance = openBalance) (tier : Option String) (settlement : QuotaSettlement)
    (rawTokens amountTokens : Int64)
    : (usageEntry sampleReservation (sampleUsage tier) snapshot openReservation settlement
        rawTokens amountTokens (sampleDraws 0)).columnSize
      ≤ 200 + optionalSize tier := by
  have hc
      : (usageEntry sampleReservation (sampleUsage none) ⟨openBalance, [], []⟩
          openReservation ⟨0, 0, 0⟩ 0 0 (sampleDraws 0)).columnSize
        ≤ 200 := by
    decide +kernel
  simp only [QuotaLedgerEntry.columnSize, usageEntry, sampleUsage, balance] at hc ⊢
  have none : optionalSize none = 0 := rfl
  omega

theorem sampleLedger_tagSize {entry ledger : QuotaLedgerEntry} (hs : entry.columnSize ≤ 300)
    (signed : signedLedger .transparent entry = .ok ledger)
    : sampleReservation.identityId.utf8ByteSize + ledger.integrityHmac.utf8ByteSize
      ≤ columnLimit := by
  obtain ⟨tagged, hm⟩ := signedLedger_eq_ok signed
  have tag := ((AuthCore.sign_eq_ok quotaLedgerIntegrityKey_valid).mp tagged).2
  have tagSize := transparent_tag_size
    ⟨quotaLedgerIntegrityKey, (ledgerIntegrityPayload ledger).text, 0⟩
  have hp := ledgerIntegrityPayload_size ledger
  have hc : ledger.columnSize = entry.columnSize := by
    rw [hm]
    rfl
  have key : quotaLedgerIntegrityKey.utf8ByteSize = 21 := by decide
  have identity : sampleReservation.identityId.utf8ByteSize = 6 := by decide
  rw [tag] at tagSize
  simp only [key] at tagSize
  rw [← QuotaLedgerEntry.columnSize] at hp
  rw [identity]
  simp only [columnLimit]
  omega

variable {tier : Option String}

theorem sampleUsage_metered (tier : Option String) : MeteredUsage (sampleUsage tier) 3 := by
  have sample : MeteredUsage (sampleUsage none) 3 :=
    ⟨by decide, by decide, by decide, by decide, by decide, by decide, by decide,
      by decide, by decide⟩
  exact ⟨sample.uncachedInput, sample.cachedInput, sample.cacheWrite, sample.outputTokens,
    sample.multiplier, sample.protocol, sample.model, sample.runnerId, sample.raw⟩

theorem sampleUsage_billing : billedTokens 3 1000000 = .ok 3 :=
  okOr_eq_ok.mpr (fit_eq_some.mpr (by decide))

theorem sampleSettlement_room {snapshot : QuotaStateSnapshot} (hsm : optionalSize tier ≤ 100)
    (balance : snapshot.balance = openBalance)
    : SettlementRoom .transparent openAccount sampleReservation (sampleUsage tier) 3 3 snapshot
        openReservation (sampleDraws 0) := by
  refine ⟨⟨by decide, by decide +kernel⟩, ?_, ?_, ?_, ?_, ?_⟩
  · rw [balance]
    decide
  · rw [balance]
    intro counter
    have hsm : openBalance.totals counter + (sampleUsage none).totals 3 3 counter < 2 ^ 63 := by
      cases counter <;> decide
    cases counter <;> exact hsm
  · intro settlement amountTokens
    have size := sampleEntry_columnSize balance tier settlement 3 amountTokens
    simp only [columnLimit]
    omega
  · intro settlement amountTokens ledger signed
    have size := sampleEntry_columnSize balance tier settlement 3 amountTokens
    exact sampleLedger_tagSize (by omega) signed
  · intro hs absent
    exact absurd absent List.not_mem_nil

theorem sampleSettlement_succeeds (hsm : optionalSize tier ≤ 100)
    : (settleModelQuota .transparent sampleReservation (sampleUsage tier) sampleDraws
        openAccount).1.isOk := by
  obtain ⟨snapshot, hv, balance, hf⟩ := openAccount_snapshot
  exact settleModelQuota_of_room AuthCore.transparent_collisionFree hv hf (sampleUsage_metered tier)
    sampleUsage_billing (sampleSettlement_room hsm balance)

def sampleCall (processingTier : Option String) : ReservationCall :=
  .settle sampleReservation (sampleUsage processingTier)

theorem sampleCall_succeeds (hs : optionalSize tier ≤ 100)
    : ((sampleCall tier).run .transparent sampleDraws openAccount).1.isOk := by
  obtain ⟨_, ha⟩ := isOk_iff.mp (sampleSettlement_succeeds hs)
  simp only [sampleCall, ReservationCall.run, ha]
  rfl

theorem sample_settlement_keeps_account_verified
    : ((sampleCall none).run .transparent sampleDraws openAccount).1.isOk = true
      ∧ accountVerified .transparent
          ((sampleCall none).run .transparent sampleDraws openAccount).2
          (sampleCall none).reservation.identityId
        = true := by
  have hs : ((sampleCall none).run .transparent sampleDraws openAccount).1.isOk = true :=
    sampleCall_succeeds (by decide)
  refine ⟨hs, ?_⟩
  refine (reservation_calls_keep_account_verified AuthCore.transparent_collisionFree _ _ _
    hs).mpr ⟨?_, rfl, rfl, rfl⟩
  intro row hm _
  have hr := List.mem_singleton.mp (activeReservations_openAccount ▸ hm)
  rw [hr]
  exact ⟨by decide, by decide, rfl, by decide⟩

/-- A settlement with an unknown processing tier succeeds and locks its account. -/
theorem unknown_tier_locks_account
    : accountVerified .transparent openAccount
          (sampleCall (some "priority")).reservation.identityId
        = true
      ∧ ((sampleCall (some "priority")).run .transparent sampleDraws openAccount).1.isOk = true
      ∧ accountVerified .transparent
          ((sampleCall (some "priority")).run .transparent sampleDraws openAccount).2
          (sampleCall (some "priority")).reservation.identityId
        = false := by
  have hs := sampleSettlement_succeeds (by decide : optionalSize (some "priority") ≤ 100)
  have kept := settleModelQuota_verified_iff AuthCore.transparent_collisionFree hs
  refine ⟨accountVerified_iff.mpr ⟨openBalance, openAccount_verified⟩,
    sampleCall_succeeds (by decide), ?_⟩
  rw [← Bool.not_eq_true, sampleCall, ReservationCall.run_settle_db,
    ReservationCall.reservation, kept]
  intro admissible
  exact absurd admissible.2.processingTier (by decide)

end AsterTeam
