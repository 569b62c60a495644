import AsterTeam.Storage.Audit

/-! Image balances: integer counters of one member and model, changed by one transaction over
the balance, a reservation, the ledger and an optional audit event.
-/

namespace AsterTeam.ImageQuota

open MachineInteger Relational

-- Records

structure ImageBalanceRecord where
  (identityId publicModelId : String)
  (availableImages reservedImages consumedImages revision : Int64)
  (lastLedgerHmac integrityHmac : String)
  deriving DecidableEq

inductive ImageReservationStatus
  | reserved
  | settled
  deriving DecidableEq

structure ImageReservationRecord where
  (id identityId apiKeyId publicModelId requestId : String)
  (reservedImages confirmedImages releasedImages : Int64)
  status : ImageReservationStatus
  revision : Int64
  (integrityHmac createdAt expiresAt : String)
  settledAt : Option String
  deriving DecidableEq

/-- The kinds of a ledger entry. Both checks refuse every other text. -/
inductive ImageLedgerKind
  | adjust
  | reserve
  | dispatch
  | confirm
  | release
  | delivery
  deriving DecidableEq

structure ImageLedgerRecord where
  (id identityId publicModelId : String)
  (reservationId childId : Option String)
  kind : ImageLedgerKind
  (amountImages producedImages : Int64)
  (deliveryState actor reason previousHmac integrityHmac createdAt : String)
  deriving DecidableEq

inductive ImageQuotaMutationOutcome
  | applied
  | conflict
  | duplicate (existing : ImageLedgerRecord)
  deriving DecidableEq

-- The two checks of a mutation

def validImageBalanceTransition (expected : Option ImageBalanceRecord)
    (next : ImageBalanceRecord) (ledger : ImageLedgerRecord)
    : Bool :=
  if next.availableImages < 0
      || next.reservedImages < 0
      || next.consumedImages < 0
      || ledger.identityId ≠ next.identityId
      || ledger.publicModelId ≠ next.publicModelId
      || ledger.previousHmac ≠ expected.elim "" (·.lastLedgerHmac)
      || next.lastLedgerHmac ≠ ledger.integrityHmac
      || !expected.elim (next.revision == 0) (fun value =>
        checkedSub next.revision 1 == some value.revision) then false
  else
    let previous := expected.getD
      { identityId := next.identityId
        publicModelId := next.publicModelId
        availableImages := 0
        reservedImages := 0
        consumedImages := 0
        revision := 0
        lastLedgerHmac := ""
        integrityHmac := "" }
    match ledger.kind with
    | .adjust =>
      checkedSub next.availableImages previous.availableImages == some ledger.amountImages
        && next.reservedImages == previous.reservedImages
        && next.consumedImages == previous.consumedImages
        && ledger.reservationId.isNone
        && ledger.childId.isNone
    | .reserve =>
      decide (0 < ledger.amountImages)
        && checkedSub previous.availableImages next.availableImages == some ledger.amountImages
        && checkedSub next.reservedImages previous.reservedImages == some ledger.amountImages
        && next.consumedImages == previous.consumedImages
    | .dispatch | .delivery =>
      ledger.amountImages == 0
        && next.availableImages == previous.availableImages
        && next.reservedImages == previous.reservedImages
        && next.consumedImages == previous.consumedImages
    | .confirm =>
      decide (0 < ledger.amountImages)
        && checkedSub previous.reservedImages next.reservedImages == some ledger.amountImages
        && checkedSub next.consumedImages previous.consumedImages == some ledger.amountImages
        && next.availableImages == previous.availableImages
    | .release =>
      decide (0 < ledger.amountImages)
        && checkedSub previous.reservedImages next.reservedImages == some ledger.amountImages
        && checkedSub next.availableImages previous.availableImages == some ledger.amountImages
        && next.consumedImages == previous.consumedImages

def validImageReservationTransition (expected next : Option ImageReservationRecord)
    (ledger : ImageLedgerRecord)
    : Bool :=
  match next with
  | none => expected.isNone && ledger.kind == .adjust
  | some next =>
    match checkedAdd next.confirmedImages next.releasedImages with
    | none => false
    | some completed =>
      if next.identityId ≠ ledger.identityId
          || next.publicModelId ≠ ledger.publicModelId
          || ledger.reservationId ≠ some next.id
          || next.reservedImages ≤ 0
          || next.confirmedImages < 0
          || next.releasedImages < 0
          || next.reservedImages < completed
          || next.status ≠ (if completed < next.reservedImages then .reserved else .settled)
          || next.settledAt.isSome ≠ (completed == next.reservedImages) then false
      else
        match expected with
        | none =>
          ledger.kind == .reserve
            && ledger.childId.isNone
            && next.status == .reserved
            && next.revision == 0
            && next.confirmedImages == 0
            && next.releasedImages == 0
            && next.reservedImages == ledger.amountImages
        | some expected =>
          if expected.id ≠ next.id
              || expected.identityId ≠ next.identityId
              || expected.apiKeyId ≠ next.apiKeyId
              || expected.publicModelId ≠ next.publicModelId
              || expected.requestId ≠ next.requestId
              || expected.reservedImages ≠ next.reservedImages
              || expected.createdAt ≠ next.createdAt
              || expected.expiresAt ≠ next.expiresAt
              || checkedSub next.revision 1 ≠ some expected.revision then false
          else
            match checkedSub next.confirmedImages expected.confirmedImages,
              checkedSub next.releasedImages expected.releasedImages with
            | some deltaConfirmed, some deltaReleased =>
              match ledger.kind with
              | .dispatch | .delivery =>
                deltaConfirmed == 0 && deltaReleased == 0 && next.status == expected.status
              -- The amount of the ledger entry plays no part here.
              | .confirm =>
                deltaConfirmed == 1 && deltaReleased == 0 && ledger.producedImages == 1
              | .release =>
                deltaConfirmed == 0 && deltaReleased == 1 && ledger.producedImages == 0
              | .adjust | .reserve => false
            | _, _ => false

-- Tables

def ImageBalanceRecord.account (balance : ImageBalanceRecord) : String × String :=
  (balance.identityId, balance.publicModelId)

def ImageReservationRecord.account (reservation : ImageReservationRecord) : String × String :=
  (reservation.identityId, reservation.publicModelId)

def ImageLedgerRecord.account (entry : ImageLedgerRecord) : String × String :=
  (entry.identityId, entry.publicModelId)

def imageBalanceKeys : Keys ImageBalanceRecord := Keys.on ImageBalanceRecord.account

def imageReservationKeys : Keys ImageReservationRecord :=
  (Keys.on ImageReservationRecord.id).or
    (Keys.on fun reservation =>
      (reservation.identityId, reservation.apiKeyId, reservation.requestId,
        reservation.publicModelId))

/-- One entry for each reservation, child and kind; the index ignores missing values. -/
def imageLedgerKeys : Keys ImageLedgerRecord where
  conflicts left right :=
    left.id = right.id
    ∨ (left.reservationId.isSome ∧ left.childId.isSome
      ∧ left.reservationId = right.reservationId ∧ left.childId = right.childId
      ∧ left.kind = right.kind)
  decidable _ _ := inferInstance
  refl _ := .inl rfl
  symm := by
    intro left right conflict
    rcases conflict with same | ⟨hasReservation, hasChild, sameReservation, sameChild, sameKind⟩
    · exact .inl same.symm
    · exact .inr ⟨sameReservation ▸ hasReservation, sameChild ▸ hasChild, sameReservation.symm,
        sameChild.symm, sameKind.symm⟩

/-- The image tables beside the tables they refer to. The enabled models with an image unit are
those that the query of the unit finds.
-/
structure ImageDatabase where
  base : Database
  imageModels : List String
  balances : Table imageBalanceKeys
  reservations : Table imageReservationKeys
  ledger : Table imageLedgerKeys

def ImageDatabase.fresh (base : Database) (imageModels : List String) : ImageDatabase :=
  ⟨base, imageModels, .empty, .empty, .empty⟩

variable (db : ImageDatabase) (next : ImageBalanceRecord)

def ImageDatabase.balance? (account : String × String) : Option ImageBalanceRecord :=
  db.balances.select? ImageBalanceRecord.account account

def ImageDatabase.reservation? (id : String) : Option ImageReservationRecord :=
  db.reservations.select? ImageReservationRecord.id id

-- The transaction

structure ImageQuotaWrite where
  expectedBalance : Option ImageBalanceRecord
  nextBalance : ImageBalanceRecord
  (expectedReservation nextReservation : Option ImageReservationRecord)
  ledger : ImageLedgerRecord
  audit : Option (UInt64 × String × AuditEventRecord)
  deriving DecidableEq

def setImageBalance (row : ImageBalanceRecord) : ImageBalanceRecord :=
  { next with identityId := row.identityId, publicModelId := row.publicModelId }

theorem setImageBalance_keeps (next : ImageBalanceRecord)
    : Table.Keeps imageBalanceKeys (setImageBalance next) :=
  ⟨Iff.rfl, Iff.rfl⟩

def setImageReservation (next row : ImageReservationRecord) : ImageReservationRecord :=
  { row with
    confirmedImages := next.confirmedImages
    releasedImages := next.releasedImages
    status := next.status
    revision := next.revision
    integrityHmac := next.integrityHmac
    settledAt := next.settledAt }

theorem setImageReservation_keeps (next : ImageReservationRecord)
    : Table.Keeps imageReservationKeys (setImageReservation next) :=
  ⟨Iff.rfl, Iff.rfl⟩

/-- Updates the row that was read, or inserts the first one of an existing member. -/
def writeImageBalance (expected : Option ImageBalanceRecord) (next : ImageBalanceRecord)
    : Except StorageError (Table imageBalanceKeys) :=
  match expected with
  | some expected =>
    let selected (row : ImageBalanceRecord) : Bool :=
      row.account = next.account
        && row.revision = expected.revision
        && row.integrityHmac = expected.integrityHmac
    .ok (db.balances.updateWhere selected (setImageBalance next) (setImageBalance_keeps next))
  | none =>
    if (db.base.identities.select? IdentityRecord.id next.identityId).isNone then
      .error .database
    else (db.balances.insert? next).elim (.error .database) .ok

/-- Updates the reservation that was read, or inserts a new one. There is no result if another
writer has changed it.
-/
def writeImageReservation (account : String × String)
    (expected next : Option ImageReservationRecord)
    : Except StorageError (Option (Table imageReservationKeys)) :=
  match next, expected with
  | none, none => .ok (some db.reservations)
  | none, some _ => .error .migrationIntegrity
  | some next, expected =>
    if next.account ≠ account then .error .migrationIntegrity
    else
      match expected with
      | some expected =>
        let selected (row : ImageReservationRecord) : Bool :=
          row.id = next.id
            && row.revision = expected.revision
            && row.integrityHmac = expected.integrityHmac
        if db.reservations.rows.countP selected ≠ 1 then .ok none
        else
          .ok (some (db.reservations.updateWhere selected (setImageReservation next)
            (setImageReservation_keeps next)))
      | none => (db.reservations.insert? next).elim (.error .database) (.ok ∘ some)

def insertImageLedger (entry : ImageLedgerRecord)
    : Except StorageError (Table imageLedgerKeys) :=
  if entry.producedImages < 0 then .error .database
  else (db.ledger.insert? entry).elim (.error .database) .ok

def mutateImageQuotaBody (write : ImageQuotaWrite) (db : ImageDatabase)
    : Except StorageError (ImageQuotaMutationOutcome × Option ImageDatabase) :=
  match db.ledger.select? ImageLedgerRecord.id write.ledger.id with
  | some existing => rollback (.duplicate existing)
  | none =>
    if write.nextBalance.publicModelId ∉ db.imageModels then rollback .conflict
    else if (db.balance? write.nextBalance.account).map
          (fun row => (row.revision, row.integrityHmac))
        ≠ write.expectedBalance.map (fun row => (row.revision, row.integrityHmac)) then
      rollback .conflict
    else do
      let balances ← writeImageBalance db write.expectedBalance write.nextBalance
      let written ← writeImageReservation db write.nextBalance.account
        write.expectedReservation write.nextReservation
      match written with
      | none => rollback .conflict
      | some reservations => do
          let ledger ← insertImageLedger db write.ledger
          let next : ImageDatabase := { db with balances, reservations, ledger }
          match write.audit with
          | none => commit .applied next
          | some (sequence, hmac, event) => do
              let appended ← appendAuditEvents db.base sequence hmac [event]
              match appended with
              | none => rollback .conflict
              | some base => commit .applied { next with base }

def mutateImageQuota (write : ImageQuotaWrite) (db : ImageDatabase)
    : Except StorageError ImageQuotaMutationOutcome × ImageDatabase :=
  if !validImageBalanceTransition write.expectedBalance write.nextBalance write.ledger
      || !validImageReservationTransition write.expectedReservation write.nextReservation
        write.ledger then
    (.error .migrationIntegrity, db)
  else transaction (mutateImageQuotaBody write) db

end AsterTeam.ImageQuota
