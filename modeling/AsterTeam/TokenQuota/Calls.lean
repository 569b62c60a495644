import AsterTeam.Billing.Plan
import AsterTeam.TokenQuota.Operations
import AsterTeam.TokenQuota.VerifiedSnapshot

/-! The three ways Control ends a reservation of tokens: release, failure and settlement.
Each attempt reads a verified snapshot, prepares the new rows and submits them in one
transaction; storage conflicts are retried on a new snapshot.
-/

namespace AsterTeam

open MachineInteger Relational

/-- The reservation that a request carries, without its process-local permits. -/
structure QuotaReservation where
  (id identityId requestId : String)
  clientRequestId : Option String
  reservedTokens : Int64
  billing : Option FrozenBillingContext
  deriving DecidableEq

structure ModelUsage where
  (uncachedInput cachedInput cacheWrite outputTokens multiplierMicros : Int64)
  (protocol model : String)
  (requestedModel processingTier reasoningEffort : Option String)
  runnerId : String
  deriving DecidableEq

structure FailedModelRequest where
  (protocol model : String)
  (requestedModel processingTier reasoningEffort runnerId : Option String)
  description : String
  deriving DecidableEq

structure QuotaSettlement where
  (chargedTokens billedTokens uncoveredTokens : Int64)
  deriving DecidableEq

/-- What one attempt takes from the clock and from the random source. -/
structure Draw where
  now : DatabaseTime
  random : RandomBytes

def quotaMutationRetries : Nat := 4

def okOr {Value : Type} (error : ControlError) : Option Value → Except ControlError Value
  | none => .error error
  | some value => .ok value

theorem okOr_eq_ok {Value : Type} {error : ControlError} {source : Option Value} {value : Value}
    : okOr error source = .ok value ↔ source = some value := by
  cases source <;> simp [okOr]

/-- The tokens of a request, when all counts and names are in range. -/
def checkedRawTokens (usage : ModelUsage) : Except ControlError Int64 :=
  if usage.uncachedInput < 0
      ∨ usage.cachedInput < 0
      ∨ usage.cacheWrite < 0
      ∨ usage.outputTokens < 0
      ∨ usage.multiplierMicros ≤ 0
      ∨ ¬ (1 ≤ usage.protocol.utf8ByteSize ∧ usage.protocol.utf8ByteSize ≤ 64)
      ∨ ¬ (1 ≤ usage.model.utf8ByteSize ∧ usage.model.utf8ByteSize ≤ 256)
      ∨ ¬ (1 ≤ usage.runnerId.utf8ByteSize ∧ usage.runnerId.utf8ByteSize ≤ 256) then
    .error .usageSettlementInvalid
  else
    okOr .usageSettlementInvalid do
      let input ← checkedAdd usage.uncachedInput usage.cachedInput
      let read ← checkedAdd input usage.cacheWrite
      checkedAdd read usage.outputTokens

/-- The tokens times the multiplier, rounded up. The 128-bit product of two 64-bit numbers
is always in range.
-/
def billedTokens (rawTokens multiplierMicros : Int64) : Except ControlError Int64 :=
  okOr .usageSettlementInvalid
    (fit ((rawTokens.toInt * multiplierMicros.toInt + 999999).tdiv 1000000))

def checkedAddNonnegative (value delta : Int64) : Except ControlError Int64 :=
  okOr .dataIntegrityInvalid ((checkedAdd value delta).filter (fun next => 0 ≤ next))

variable (auth : AuthCore) (reservation : QuotaReservation)

def findReservation (snapshot : QuotaStateSnapshot)
    : Except ControlError QuotaReservationRecord :=
  match snapshot.activeReservations.find? (fun row => row.id = reservation.id) with
  | none => .error .quotaSettlementConflict
  | some row =>
    if row.requestId ≠ reservation.requestId
        ∨ row.reservedTokens ≠ reservation.reservedTokens then
      .error .dataIntegrityInvalid
    else .ok row

def finishedReservation (row : QuotaReservationRecord) (status : ReservationStatus)
    (now : DatabaseTime)
    : Except ControlError QuotaReservationRecord := do
  let revision ← okOr .dataIntegrityInvalid (checkedSucc row.revision)
  let next := { row with status, revision, settledAt := some now.text }
  let integrityHmac ← reservationIntegrityHmac auth next
  return { next with integrityHmac }

/-- The last steps of every new balance: the next revision, the time and the tag. -/
def revisedBalance (balance : UserBalanceRecord) (lastLedgerHmac : String) (now : DatabaseTime)
    : Except ControlError UserBalanceRecord := do
  let revision ← okOr .dataIntegrityInvalid (checkedSucc balance.revision)
  let next := { balance with revision, lastLedgerHmac, updatedAt := now.text }
  let integrityHmac ← balanceIntegrityHmac auth next
  return { next with integrityHmac }

def returnedBalance (balance : UserBalanceRecord) (row : QuotaReservationRecord)
    (lastLedgerHmac : String) (now : DatabaseTime)
    : Except ControlError UserBalanceRecord := do
  let reservedTokens ←
    okOr .dataIntegrityInvalid (checkedSub balance.reservedTokens row.reservedTokens)
  revisedBalance auth { balance with reservedTokens } lastLedgerHmac now

def signedLedger (entry : QuotaLedgerEntry) : Except ControlError QuotaLedgerEntry := do
  let integrityHmac ← ledgerIntegrityHmac auth entry
  return { entry with integrityHmac }

/-- The rows that an attempt has read and the rows it wants to write. -/
structure Finish where
  (expectedBalance nextBalance : UserBalanceRecord)
  (expectedReservation nextReservation : QuotaReservationRecord)

inductive FinishTransition
  | release (rows : Finish)
  | fail (rows : Finish) (ledger : QuotaLedgerEntry)
  | settle (rows : Finish) (ledger : QuotaLedgerEntry)

def FinishTransition.rows : FinishTransition → Finish
  | .release rows => rows
  | .fail rows _ => rows
  | .settle rows _ => rows

def FinishTransition.entry : FinishTransition → Option QuotaLedgerEntry
  | .release _ => none
  | .fail _ ledger => some ledger
  | .settle _ ledger => some ledger

def FinishTransition.execute (transition : FinishTransition) (db : Database)
    : Except StorageError QuotaMutationOutcome × Database :=
  match transition with
  | .release rows =>
    releaseQuotaReservation rows.expectedBalance rows.nextBalance
      rows.expectedReservation rows.nextReservation db
  | .fail rows ledger =>
    failQuotaReservation rows.expectedBalance rows.nextBalance
      rows.expectedReservation rows.nextReservation ledger db
  | .settle rows ledger =>
    settleQuotaReservation rows.expectedBalance rows.nextBalance
      rows.expectedReservation rows.nextReservation ledger db

def prepareRelease (snapshot : QuotaStateSnapshot) (draw : Draw)
    : Except ControlError FinishTransition := do
  let row ← findReservation reservation snapshot
  let nextReservation ← finishedReservation auth row .released draw.now
  let nextBalance ←
    returnedBalance auth snapshot.balance row snapshot.balance.lastLedgerHmac draw.now
  return .release ⟨snapshot.balance, nextBalance, row, nextReservation⟩

def failureEntry (failure : FailedModelRequest) (snapshot : QuotaStateSnapshot)
    (row : QuotaReservationRecord) (draw : Draw)
    : QuotaLedgerEntry where
  id := randomIdentifier "ledger" draw.random
  identityId := reservation.identityId
  kind := "usage_failed"
  amountTokens := 0
  uncachedInput := 0
  cachedInput := 0
  cacheWrite := 0
  outputTokens := 0
  uncoveredTokens := 0
  rawTokens := 0
  billedTokens := 0
  multiplierMicros := 1000000
  referenceId := reservation.requestId
  clientRequestId := reservation.clientRequestId
  description := failure.description
  protocol := failure.protocol
  model := failure.model
  requestedModel := failure.requestedModel
  processingTier := failure.processingTier
  reasoningEffort := failure.reasoningEffort
  apiKeyId := some row.apiKeyId
  runnerId := failure.runnerId
  previousEntryHmac := snapshot.balance.lastLedgerHmac
  integrityHmac := ""
  createdAt := draw.now.text

def prepareFailure (failure : FailedModelRequest) (snapshot : QuotaStateSnapshot) (draw : Draw)
    : Except ControlError FinishTransition := do
  let row ← findReservation reservation snapshot
  let nextReservation ← finishedReservation auth row .released draw.now
  let ledger ← signedLedger auth (failureEntry reservation failure snapshot row draw)
  let nextBalance ←
    returnedBalance auth snapshot.balance row ledger.integrityHmac draw.now
  return .fail ⟨snapshot.balance, nextBalance, row, nextReservation⟩ ledger

/-- The part of the bill that the account covers: everything that other reservations do
not hold can be charged.
-/
def settlementOf (balance : UserBalanceRecord) (row : QuotaReservationRecord)
    (billedTokens : Int64)
    : Except ControlError QuotaSettlement := do
  let otherReserved ←
    okOr .dataIntegrityInvalid (checkedSub balance.reservedTokens row.reservedTokens)
  let availableForRequest ←
    okOr .dataIntegrityInvalid (checkedSub balance.balanceTokens otherReserved)
  let chargedTokens := min billedTokens availableForRequest
  let uncoveredTokens ← okOr .dataIntegrityInvalid (checkedSub billedTokens chargedTokens)
  return ⟨chargedTokens, billedTokens, uncoveredTokens⟩

def usageEntry (usage : ModelUsage) (snapshot : QuotaStateSnapshot)
    (row : QuotaReservationRecord) (settlement : QuotaSettlement)
    (rawTokens amountTokens : Int64) (draw : Draw)
    : QuotaLedgerEntry where
  id := randomIdentifier "ledger" draw.random
  identityId := reservation.identityId
  kind := "usage"
  amountTokens
  uncachedInput := usage.uncachedInput
  cachedInput := usage.cachedInput
  cacheWrite := usage.cacheWrite
  outputTokens := usage.outputTokens
  uncoveredTokens := settlement.uncoveredTokens
  rawTokens
  billedTokens := settlement.billedTokens
  multiplierMicros := usage.multiplierMicros
  referenceId := reservation.requestId
  clientRequestId := reservation.clientRequestId
  description := "API 请求"
  protocol := usage.protocol
  model := usage.model
  requestedModel := usage.requestedModel
  processingTier := usage.processingTier
  reasoningEffort := usage.reasoningEffort
  apiKeyId := some row.apiKeyId
  runnerId := some usage.runnerId
  previousEntryHmac := snapshot.balance.lastLedgerHmac
  integrityHmac := ""
  createdAt := draw.now.text

/-- The balance after a charge, before its revision and tag. -/
def chargedBalance (balance : UserBalanceRecord) (row : QuotaReservationRecord)
    (ledger : QuotaLedgerEntry) (chargedTokens : Int64)
    : Except ControlError UserBalanceRecord := do
  let balanceTokens ← checkedAddNonnegative balance.balanceTokens ledger.amountTokens
  let reservedTokens ←
    okOr .dataIntegrityInvalid (checkedSub balance.reservedTokens row.reservedTokens)
  let consumedTokens ← checkedAddNonnegative balance.consumedTokens chargedTokens
  let requestCount ← checkedAddNonnegative balance.requestCount 1
  let rawTokens ← checkedAddNonnegative balance.rawTokens ledger.rawTokens
  let billedTokens ← checkedAddNonnegative balance.billedTokens ledger.billedTokens
  let uncachedInput ← checkedAddNonnegative balance.uncachedInput ledger.uncachedInput
  let cachedInput ← checkedAddNonnegative balance.cachedInput ledger.cachedInput
  let cacheWrite ← checkedAddNonnegative balance.cacheWrite ledger.cacheWrite
  let outputTokens ← checkedAddNonnegative balance.outputTokens ledger.outputTokens
  return { balance with
    balanceTokens, reservedTokens, consumedTokens, requestCount, rawTokens, billedTokens,
    uncachedInput, cachedInput, cacheWrite, outputTokens }

def prepareSettlement (usage : ModelUsage) (rawTokens billedTokens : Int64)
    (snapshot : QuotaStateSnapshot) (draw : Draw)
    : Except ControlError (QuotaSettlement × FinishTransition) := do
  let row ← findReservation reservation snapshot
  let settlement ← settlementOf snapshot.balance row billedTokens
  let nextReservation ← finishedReservation auth row .settled draw.now
  let amountTokens ← okOr .usageSettlementInvalid (checkedNeg settlement.chargedTokens)
  let ledger ←
    signedLedger auth
      (usageEntry reservation usage snapshot row settlement rawTokens amountTokens draw)
  let charged ← chargedBalance snapshot.balance row ledger settlement.chargedTokens
  let nextBalance ← revisedBalance auth charged ledger.integrityHmac draw.now
  return (settlement, .settle ⟨snapshot.balance, nextBalance, row, nextReservation⟩ ledger)

/-- The attempts on a reservation, one per draw. -/
def finishReservation {Value : Type} (auth : AuthCore) (identityId : String)
    (prepare : QuotaStateSnapshot → Draw → Except ControlError (Value × FinishTransition))
    (duplicate : ControlError)
    : List Draw → Database → Except ControlError Value × Database
  | [], db => (.error .quotaSettlementConflict, db)
  | draw :: rest, db =>
    match verifiedQuotaSnapshot auth db identityId >>= (prepare · draw) with
    | .error error => (.error error, db)
    | .ok (value, transition) =>
      match transition.execute db with
      | (.ok .applied, after) => (.ok value, after)
      | (.ok .conflict, after) =>
        finishReservation auth identityId prepare duplicate rest after
      | (.ok .duplicateRequest, after) => (.error duplicate, after)
      | (.ok .insufficient, after) => (.error .dataIntegrityInvalid, after)
      | (.error error, after) => (.error (.storage error), after)

def retries (draws : Nat → Draw) : List Draw := (List.range quotaMutationRetries).map draws

def releaseModelQuota (draws : Nat → Draw) (db : Database)
    : Except ControlError Unit × Database :=
  finishReservation auth reservation.identityId
    (fun snapshot draw => (prepareRelease auth reservation snapshot draw).map (((), ·)))
    .dataIntegrityInvalid (retries draws) db

def validFailure (failure : FailedModelRequest) : Bool :=
  failure.protocol ≠ ""
    && failure.model ≠ ""
    && failure.description ≠ ""
    && failure.description.length ≤ 512
    && failure.requestedModel.all validRequestedModel
    && failure.processingTier.all validProcessingTier
    && failure.reasoningEffort.all validReasoningEffort

def failModelRequest (failure : FailedModelRequest) (draws : Nat → Draw) (db : Database)
    : Except ControlError Unit × Database :=
  if !validFailure failure then (.error .gatewayRequestInvalid, db)
  else
    finishReservation auth reservation.identityId
      (fun snapshot draw =>
        (prepareFailure auth reservation failure snapshot draw).map (((), ·)))
      .dataIntegrityInvalid (retries draws) db

def settleModelQuota (usage : ModelUsage) (draws : Nat → Draw) (db : Database)
    : Except ControlError QuotaSettlement × Database :=
  match checkedRawTokens usage with
  | .error error => (.error error, db)
  | .ok rawTokens =>
    match billedTokens rawTokens usage.multiplierMicros with
    | .error error => (.error error, db)
    | .ok billed =>
      finishReservation auth reservation.identityId
        (prepareSettlement auth reservation usage rawTokens billed)
        .duplicateGatewayRequest (retries draws) db

end AsterTeam
