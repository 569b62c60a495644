import AsterTeam.Storage.Audit
import AsterTeam.TokenQuota.Effects

/-! The storage transactions on token accounts: each checks the proposed change, compares
the rows it read with the stored ones and writes all of its rows or none.
-/

namespace AsterTeam

open MachineInteger Relational

-- Statements

def Database.balance? (db : Database) (identityId : String) : Option UserBalanceRecord :=
  db.balances.select? UserBalanceRecord.identityId identityId

def Database.reservation? (db : Database) (id : String) : Option QuotaReservationRecord :=
  db.reservations.select? QuotaReservationRecord.id id

def Database.ledgerOf (db : Database) (identityId : String) : List QuotaLedgerEntry :=
  db.ledger.selectAll QuotaLedgerEntry.identityId identityId

def Database.activeReservations (db : Database) (identityId : String)
    : List QuotaReservationRecord :=
  db.reservations.rows.filter
    (fun reservation =>
      reservation.identityId = identityId && reservation.status = .active)

/-- The active key with the given hash and its active owner. -/
def Database.authorizedApiKey? (db : Database) (keyHash : String)
    : Option AuthorizedApiKey := do
  let apiKey ← db.apiKeys.select? ApiKeyRecord.keyHash keyHash
  let identity ← db.identities.select? IdentityRecord.id apiKey.identityId
  if apiKey.status = .active ∧ identity.status = .active then
    some ⟨apiKey, identity⟩
  else none

def validReservationSubject (current : Option AuthorizedApiKey)
    (expected : AuthorizedApiKey) (reservation : QuotaReservationRecord)
    : Bool :=
  match current with
  | none => false
  | some current =>
    decide (
      { current.apiKey with lastUsedAt := expected.apiKey.lastUsedAt } = expected.apiKey
      ∧ current.identity = expected.identity
      ∧ current.identity.id = reservation.identityId
      ∧ current.apiKey.id = reservation.apiKeyId
      ∧ current.apiKey.identityId = current.identity.id
      ∧ current.apiKey.status = .active
      ∧ current.identity.status = .active
      ∧ current.identity.role = .member
      ∧ current.identity.canConsumeModel
      ∧ ¬ current.identity.passwordChangeRequired)

/-- The balance row after the update statement, which sets every column but the key. -/
def setBalance (next row : UserBalanceRecord) : UserBalanceRecord :=
  { next with identityId := row.identityId }

theorem setBalance_keeps (next : UserBalanceRecord) : Table.Keeps balanceKeys (setBalance next) :=
  ⟨Iff.rfl, Iff.rfl⟩

/-- Updates the balance row that still has the expected revision and tag, and tells whether
there was exactly one.
-/
def updateBalance (db : Database) (expected next : UserBalanceRecord)
    : Except StorageError (Bool × Database) :=
  if !fitsSigned next.revision || !fitsSigned expected.revision then
    .error .databaseNotEmpty
  else
    let selected (row : UserBalanceRecord) : Bool :=
      row.identityId = expected.identityId
        && row.revision = expected.revision
        && row.integrityHmac = expected.integrityHmac
    .ok (
      db.balances.rows.countP selected == 1,
      { db with
        balances := db.balances.updateWhere selected (setBalance next) (setBalance_keeps next) })

def ledgerChecks (entry : QuotaLedgerEntry) : Bool :=
  decide (
    0 ≤ entry.uncachedInput
    ∧ 0 ≤ entry.cachedInput
    ∧ 0 ≤ entry.cacheWrite
    ∧ 0 ≤ entry.outputTokens
    ∧ 0 ≤ entry.uncoveredTokens
    ∧ 0 ≤ entry.rawTokens
    ∧ 0 ≤ entry.billedTokens
    ∧ 0 < entry.multiplierMicros)

/-- Inserts a ledger entry; a violated constraint gives `none`. -/
def insertLedger (db : Database) (entry : QuotaLedgerEntry) : Option Database :=
  if ledgerChecks entry then
    (db.ledger.insert? entry).map fun ledger => { db with ledger }
  else none

def setReservation (next row : QuotaReservationRecord) : QuotaReservationRecord :=
  { row with
    status := next.status
    revision := next.revision
    integrityHmac := next.integrityHmac
    settledAt := next.settledAt }

theorem setReservation_keeps (next : QuotaReservationRecord)
    : Table.Keeps reservationKeys (setReservation next) :=
  ⟨Iff.rfl, Iff.rfl⟩

def updateReservation (db : Database) (expected next : QuotaReservationRecord)
    : Except StorageError (Bool × Database) :=
  if !fitsSigned next.revision || !fitsSigned expected.revision then
    .error .databaseNotEmpty
  else
    let selected (row : QuotaReservationRecord) : Bool :=
      row.id = expected.id
        && row.status = expected.status
        && row.revision = expected.revision
        && row.integrityHmac = expected.integrityHmac
    .ok (
      db.reservations.rows.countP selected == 1,
      { db with
        reservations := db.reservations.updateWhere selected (setReservation next)
          (setReservation_keeps next) })

-- Transactions

def reserveQuotaBody (subject : AuthorizedApiKey) (expected next : UserBalanceRecord)
    (reservation : QuotaReservationRecord) (db : Database)
    : Except StorageError (QuotaMutationOutcome × Option Database) :=
  if !validReserveTransition expected next reservation then rollback .conflict
  else if !validReservationSubject (db.authorizedApiKey? subject.apiKey.keyHash) subject
      reservation then
    rollback .conflict
  else if db.balance? expected.identityId ≠ some expected then rollback .conflict
  else if (db.reservations.select? QuotaReservationRecord.requestId
      reservation.requestId).isSome then
    rollback .duplicateRequest
  else if (checkedSub expected.balanceTokens expected.reservedTokens).all
      (fun available => available < reservation.reservedTokens) then
    rollback .insufficient
  else if !fitsSigned reservation.revision then .error .databaseNotEmpty
  else
    match db.reservations.insert? reservation with
    | none => .error .database
    | some reservations => do
        let (changed, updated) ← updateBalance { db with reservations } expected next
        if !changed then rollback .conflict else commit .applied updated

def reserveQuota (subject : AuthorizedApiKey) (expected next : UserBalanceRecord)
    (reservation : QuotaReservationRecord)
    : Database → Except StorageError QuotaMutationOutcome × Database :=
  transaction (reserveQuotaBody subject expected next reservation)

/-- The audit events of a change and the position in the log they continue. -/
structure AuditAppend where
  expectedSequence : UInt64
  expectedHmac : String
  events : List AuditEventRecord

def grantQuotaBody (expected next : UserBalanceRecord) (ledger : QuotaLedgerEntry)
    (audit : Option AuditAppend) (db : Database)
    : Except StorageError (MutationWithAuditOutcome QuotaMutationOutcome × Option Database) :=
  if !validGrantTransition expected next ledger then rollback (.mutation .conflict)
  else if db.balance? expected.identityId ≠ some expected then
    rollback (.mutation .conflict)
  else
    match insertLedger db ledger with
    | none => rollback (.mutation .duplicateRequest)
    | some inserted => do
        let (changed, updated) ← updateBalance inserted expected next
        if !changed then rollback (.mutation .conflict)
        else
          match audit with
          | none => commit (.mutation .applied) updated
          | some append => do
              let appended ← appendAuditEvents updated append.expectedSequence
                append.expectedHmac append.events
              match appended with
              | none => rollback .auditConflict
              | some logged => commit (.mutation .applied) logged

def grantQuotaInner (expected next : UserBalanceRecord) (ledger : QuotaLedgerEntry)
    (audit : Option AuditAppend)
    : Database → Except StorageError (MutationWithAuditOutcome QuotaMutationOutcome) × Database :=
  transaction (grantQuotaBody expected next ledger audit)

variable (expectedBalance nextBalance : UserBalanceRecord)
    (expectedReservation nextReservation : QuotaReservationRecord)

/-- The transaction all three ways of finishing a reservation share. -/
def finishReservationBody (ledger : Option QuotaLedgerEntry) (db : Database)
    : Except StorageError (QuotaMutationOutcome × Option Database) :=
  if db.balance? expectedBalance.identityId ≠ some expectedBalance
      ∨ db.reservation? expectedReservation.id ≠ some expectedReservation then
    rollback .conflict
  else
    match ledger.elim (some db) (insertLedger db) with
    | none => rollback .duplicateRequest
    | some inserted => do
        let (reservationChanged, finished) ←
          updateReservation inserted expectedReservation nextReservation
        let (balanceChanged, updated) ← updateBalance finished expectedBalance nextBalance
        if !reservationChanged || !balanceChanged then rollback .conflict
        else commit .applied updated

def releaseQuotaReservation : Database → Except StorageError QuotaMutationOutcome × Database :=
  transaction fun db =>
    if !validReleaseTransition expectedBalance nextBalance expectedReservation
        nextReservation then
      rollback .conflict
    else
      finishReservationBody expectedBalance nextBalance expectedReservation nextReservation none db

def failQuotaReservation (ledger : QuotaLedgerEntry)
    : Database → Except StorageError QuotaMutationOutcome × Database :=
  transaction fun db =>
    if !validFailedRequestTransition expectedBalance nextBalance expectedReservation
        nextReservation ledger then
      rollback .conflict
    else
      finishReservationBody expectedBalance nextBalance expectedReservation
        nextReservation (some ledger) db

def settleQuotaReservation (ledger : QuotaLedgerEntry)
    : Database → Except StorageError QuotaMutationOutcome × Database :=
  transaction fun db =>
    if !validSettlementTransition expectedBalance nextBalance expectedReservation
        nextReservation ledger then
      rollback .conflict
    else
      finishReservationBody expectedBalance nextBalance expectedReservation
        nextReservation (some ledger) db

def insertInitialBalanceBody (identity : IdentityRecord) (balance : UserBalanceRecord)
    (db : Database)
    : Except StorageError (Unit × Option Database) :=
  if balance.identityId ≠ identity.id
      ∨ balance.balanceTokens ≠ 0
      ∨ balance.reservedTokens ≠ 0
      ∨ balance.grantedTokens ≠ 0
      ∨ balance.consumedTokens ≠ 0
      ∨ balance.requestCount ≠ 0
      ∨ balance.rawTokens ≠ 0
      ∨ balance.billedTokens ≠ 0
      ∨ balance.uncachedInput ≠ 0
      ∨ balance.cachedInput ≠ 0
      ∨ balance.cacheWrite ≠ 0
      ∨ balance.outputTokens ≠ 0
      ∨ balance.revision ≠ 0
      ∨ balance.lastLedgerHmac ≠ ""
      ∨ balance.integrityHmac = ""
      ∨ balance.updatedAt ≠ identity.createdAt then
    .error .databaseNotEmpty
  else
    match db.balances.insert? balance with
    | none => .error .database
    | some balances => commit () { db with balances }

def insertInitialBalance (identity : IdentityRecord) (balance : UserBalanceRecord)
    : Database → Except StorageError Unit × Database :=
  transaction (insertInitialBalanceBody identity balance)

end AsterTeam
