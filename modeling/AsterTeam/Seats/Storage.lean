import AsterTeam.Storage.SecurityState
import AsterTeam.TokenQuota.Storage

/-! The member seats: a signed registry of the identities that occupy one, and the transactions
that change identities and registry together.
-/

namespace AsterTeam.Seats

open MachineInteger Relational

-- Tables

structure SessionRecord where
  (id identityId tokenHash expiresAt integrityHmac createdAt : String)
  deriving DecidableEq

structure ModelAccessPolicyRecord where
  (identityId mode : String)
  revision : Int64
  (grantSetDigest integrityHmac updatedBy updatedAt : String)
  grants : List String
  deriving DecidableEq

def securityStateKeys : Keys (SecurityStateRecord String) := Keys.on SecurityStateRecord.key

def policyKeys : Keys ModelAccessPolicyRecord := Keys.on ModelAccessPolicyRecord.identityId

/-- The tables of the seat transactions beside the identities, balances and audit events. -/
structure SeatDatabase where
  base : Database
  securityState : Table securityStateKeys
  policies : Table policyKeys
  sessions : List SessionRecord

def SeatDatabase.securityState? (db : SeatDatabase) (key : String)
    : Option (SecurityStateRecord String) :=
  db.securityState.select? SecurityStateRecord.key key

def occupiesSeat (identity : IdentityRecord) : Bool :=
  identity.status == .active && identity.canConsumeModel

def occupiedIdentityIds (db : Database) : List String :=
  ((db.identities.rows.filter occupiesSeat).map IdentityRecord.id).insertionSort (· ≤ ·)

def encodeSeatRegistry (identityIds : List String) : String := "\n".intercalate identityIds

-- The registry record

inductive IdentityCreateOutcome
  | created
  | seatLimitReached
  | securityStateChanged
  deriving DecidableEq

inductive IdentityStatusUpdateOutcome
  | updated
  | conflict
  | securityStateChanged
  deriving DecidableEq

/-- The registry is the one that was read, and lists the occupied seats. -/
def registryAgrees (db : SeatDatabase) (expectedState : SecurityStateRecord String) : Bool :=
  db.securityState? expectedState.key == some expectedState
    && expectedState.value == encodeSeatRegistry (occupiedIdentityIds db.base)

def setSecurityState (next row : SecurityStateRecord String) : SecurityStateRecord String :=
  { next with key := row.key }

theorem setSecurityState_keeps (next : SecurityStateRecord String)
    : Table.Keeps securityStateKeys (setSecurityState next) :=
  ⟨Iff.rfl, Iff.rfl⟩

/-- Exchanges the record that was read, if it is still there. -/
def updateSecurityState (db : SeatDatabase) (expected next : SecurityStateRecord String)
    : Except StorageError (Option SeatDatabase) :=
  if !fitsSigned next.revision || !fitsSigned expected.revision then .error .databaseNotEmpty
  else
    let selected (row : SecurityStateRecord String) : Bool :=
      row.key = expected.key
        && row.value = expected.value
        && row.revision = expected.revision
        && row.mac = expected.mac
        && row.updatedAt = expected.updatedAt
    if db.securityState.rows.countP selected ≠ 1 then .ok none
    else
      .ok (some { db with
        securityState := db.securityState.updateWhere selected (setSecurityState next)
          (setSecurityState_keeps next) })

def appendAudit {Outcome : Type} (db : SeatDatabase) (audit : Option AuditAppend)
    (outcome : Outcome)
    : Except StorageError (MutationWithAuditOutcome Outcome × Option SeatDatabase) :=
  match audit with
  | none => commit (.mutation outcome) db
  | some append => do
      let appended ← appendAuditEvents db.base append.expectedSequence append.expectedHmac
        append.events
      match appended with
      | none => rollback .auditConflict
      | some base => commit (.mutation outcome) { db with base }

-- Creating members

def insertIdentity (identity : IdentityRecord) (balance : UserBalanceRecord) (db : Database)
    : Except StorageError Database :=
  match db.identities.insert? identity with
  | none => .error .duplicateIdentity
  | some identities => do
      let (_, inserted) ← insertInitialBalanceBody identity balance { db with identities }
      inserted.elim (.error .database) .ok

def createIdentityWithSeatLimitBody (identity : IdentityRecord) (memberSeatLimit : UInt32)
    (expectedState nextState : SecurityStateRecord String) (initialBalance : UserBalanceRecord)
    (db : SeatDatabase)
    : Except StorageError (IdentityCreateOutcome × Option SeatDatabase) :=
  if !registryAgrees db expectedState then rollback .securityStateChanged
  else if occupiesSeat identity && decide (2 ^ 32 ≤ (occupiedIdentityIds db.base).length) then
    .error .databaseNotEmpty
  else if occupiesSeat identity
      && decide (memberSeatLimit.toNat ≤ (occupiedIdentityIds db.base).length) then
    rollback .seatLimitReached
  else do
    let base ← insertIdentity identity initialBalance db.base
    if nextState.key ≠ expectedState.key
        ∨ nextState.revision ≠ saturatingSucc expectedState.revision
        ∨ nextState.value ≠ encodeSeatRegistry (occupiedIdentityIds base) then
      rollback .securityStateChanged
    else do
      let updated ← updateSecurityState { db with base } expectedState nextState
      match updated with
      | none => rollback .securityStateChanged
      | some next => commit .created next

def insertIdentities : List (IdentityRecord × UserBalanceRecord) → Database
    → Except StorageError Database
  | [], db => .ok db
  | (identity, balance) :: rest, db => do
      let next ← insertIdentity identity balance db
      insertIdentities rest next

def insertPolicies : List ModelAccessPolicyRecord → Table policyKeys
    → Except StorageError (Table policyKeys)
  | [], policies => .ok policies
  | policy :: rest, policies =>
    match policies.insert? policy with
    | none => .error .database
    | some next => insertPolicies rest next

/-- The policies are the initial ones of the identities, one for each. -/
def initialPolicies (policies : List ModelAccessPolicyRecord)
    (identities : List IdentityRecord)
    : Bool :=
  policies.isEmpty
    || (policies.length == identities.length
      && (policies.zip identities).all fun pair =>
        pair.1.identityId == pair.2.id && pair.1.mode == "selected" && pair.1.revision == 0
          && pair.1.grants.isEmpty)

section

variable (identities : List IdentityRecord) (memberSeatLimit : UInt32)
    (expectedState nextState : SecurityStateRecord String)
    (initialBalances : List UserBalanceRecord) (audit : Option AuditAppend)
    (modelPolicies : List ModelAccessPolicyRecord)

def createIdentitiesBody (db : SeatDatabase)
    : Except StorageError (MutationWithAuditOutcome IdentityCreateOutcome × Option SeatDatabase) :=
  if !registryAgrees db expectedState then rollback (.mutation .securityStateChanged)
  else if memberSeatLimit.toNat
      < (occupiedIdentityIds db.base).length + identities.countP occupiesSeat then
    rollback (.mutation .seatLimitReached)
  else do
    let base ← insertIdentities (identities.zip initialBalances) db.base
    let policies ← insertPolicies modelPolicies db.policies
    if nextState.key ≠ expectedState.key
        ∨ checkedSucc expectedState.revision ≠ some nextState.revision
        ∨ nextState.value ≠ encodeSeatRegistry (occupiedIdentityIds base) then
      rollback (.mutation .securityStateChanged)
    else do
      let updated ← updateSecurityState { db with base, policies } expectedState nextState
      match updated with
      | none => rollback (.mutation .securityStateChanged)
      | some next => appendAudit next audit .created

def createIdentitiesWithSeatLimitBody (db : SeatDatabase)
    : Except StorageError (MutationWithAuditOutcome IdentityCreateOutcome × Option SeatDatabase) :=
  if identities.isEmpty || identities.length ≠ initialBalances.length then
    rollback (.mutation .securityStateChanged)
  else if !initialPolicies modelPolicies identities then .error .migrationIntegrity
  else
    createIdentitiesBody identities memberSeatLimit expectedState nextState initialBalances
      audit modelPolicies db

def createIdentitiesWithSeatLimitInner
    : SeatDatabase
      → Except StorageError (MutationWithAuditOutcome IdentityCreateOutcome) × SeatDatabase :=
  transaction
    (createIdentitiesWithSeatLimitBody identities memberSeatLimit expectedState nextState
      initialBalances audit modelPolicies)

-- Changing the status of a member

end

def validIdentityStatusTransition (expected next : IdentityRecord) : Bool :=
  expected.role == .member
    && expected.status ≠ .deleted
    && next.status ≠ expected.status
    && next.id == expected.id
    && next.email == expected.email
    && next.displayName == expected.displayName
    && next.passwordHash == expected.passwordHash
    && next.role == expected.role
    && next.canConsumeModel == expected.canConsumeModel
    && next.passwordChangeRequired == expected.passwordChangeRequired
    && next.revision.toNat == min (expected.revision.toNat + 1) (2 ^ 32 - 1)
    && next.integrityHmac ≠ ""
    && next.createdAt == expected.createdAt
    && next.updatedAt ≠ ""

def setIdentityStatus (next row : IdentityRecord) : IdentityRecord :=
  { row with
    status := next.status
    revision := next.revision
    integrityHmac := next.integrityHmac
    updatedAt := next.updatedAt }

def readsIdentity (expected row : IdentityRecord) : Bool :=
  row.id == expected.id && row.role == .member && row.status == expected.status
    && row.revision == expected.revision && row.integrityHmac == expected.integrityHmac

def updateMemberIdentityStatusBody (expected next : IdentityRecord)
    (expectedState nextState : SecurityStateRecord String) (audit : Option AuditAppend)
    (db : SeatDatabase)
    : Except StorageError
        (MutationWithAuditOutcome IdentityStatusUpdateOutcome × Option SeatDatabase) :=
  if !validIdentityStatusTransition expected next then rollback (.mutation .conflict)
  else if !registryAgrees db expectedState then rollback (.mutation .securityStateChanged)
  else
    match db.base.identities.tryUpdateWhere (readsIdentity expected) (setIdentityStatus next) with
    | none => .error .database
    | some identities =>
      if db.base.identities.rows.countP (readsIdentity expected) ≠ 1 then
        rollback (.mutation .conflict)
      else
        let base : Database := { db.base with identities }
        let sessions :=
          if next.status ≠ .active then
            db.sessions.filter fun session => session.identityId ≠ next.id
          else db.sessions
        if nextState.key ≠ expectedState.key
            ∨ nextState.revision ≠ saturatingSucc expectedState.revision
            ∨ nextState.value ≠ encodeSeatRegistry (occupiedIdentityIds base) then
          rollback (.mutation .securityStateChanged)
        else do
          let updated ← updateSecurityState { db with base, sessions } expectedState nextState
          match updated with
          | none => rollback (.mutation .securityStateChanged)
          | some next => appendAudit next audit .updated

def updateMemberIdentityStatusInner (expected next : IdentityRecord)
    (expectedState nextState : SecurityStateRecord String) (audit : Option AuditAppend)
    : SeatDatabase
      → Except StorageError (MutationWithAuditOutcome IdentityStatusUpdateOutcome) × SeatDatabase :=
  transaction (updateMemberIdentityStatusBody expected next expectedState nextState audit)

def createIdentityWithSeatLimit (identity : IdentityRecord) (memberSeatLimit : UInt32)
    (expectedState nextState : SecurityStateRecord String) (initialBalance : UserBalanceRecord)
    : SeatDatabase → Except StorageError IdentityCreateOutcome × SeatDatabase :=
  transaction
    (createIdentityWithSeatLimitBody identity memberSeatLimit expectedState nextState
      initialBalance)

-- The Control that prepares a change of the status

inductive MemberStatusError
  | identityNotFound
  | dataIntegrityInvalid
  | seatLimitReached
  deriving DecidableEq

structure SeatSigner where
  identityIntegrityHmac : IdentityRecord → String
  securityStateIntegrityHmac : String → String → UInt64 → String

def memberSeatRegistryKey : String := "member-seat-registry-v1"

section

variable (signer : SeatSigner)

/-- The tag covers all of an identity but the tag itself. -/
def identityTag (identity : IdentityRecord) : String :=
  signer.identityIntegrityHmac { identity with integrityHmac := "" }

def verifiedSeatRegistry (state : Option (SecurityStateRecord String))
    (occupiedIdentityIds : List String)
    : Except MemberStatusError (SecurityStateRecord String × List String) :=
  match state with
  | none => .error .dataIntegrityInvalid
  | some state =>
    if state.key ≠ memberSeatRegistryKey
        ∨ state.value ≠ encodeSeatRegistry occupiedIdentityIds then
      .error .dataIntegrityInvalid
    else if signer.securityStateIntegrityHmac state.key state.value state.revision
        ≠ state.mac then
      .error .dataIntegrityInvalid
    else .ok (state, occupiedIdentityIds)

def securityStateRecord (identityIds : List String) (revision : UInt64) (updatedAt : String)
    : SecurityStateRecord String :=
  let value := encodeSeatRegistry identityIds
  { key := memberSeatRegistryKey
    value
    revision
    mac := signer.securityStateIntegrityHmac memberSeatRegistryKey value revision
    updatedAt }

structure StatusUpdate where
  (expected next : IdentityRecord)
  (expectedState nextState : SecurityStateRecord String)
  deriving DecidableEq

/-- The members that occupy a seat after the change, within the limit. -/
def nextOccupied (seatLimit : UInt32) (expected : IdentityRecord)
    (targetStatus : IdentityStatus) (occupied : List String)
    : Except MemberStatusError (List String) :=
  let others := occupied.filter fun value => value ≠ expected.id
  if targetStatus = .active ∧ expected.canConsumeModel then
    if seatLimit.toNat ≤ others.length then .error .seatLimitReached
    else .ok ((others ++ [expected.id]).insertionSort (· ≤ ·))
  else .ok others

/-- One attempt of a status change, from the identity, the registry record and the occupied
seats that the Control has read. There is nothing to write if the status is as wanted.
-/
def updateMemberStatus (seatLimit : UInt32) (targetStatus : IdentityStatus)
    (updatedAt : String) (identity : Option IdentityRecord)
    (state : Option (SecurityStateRecord String)) (occupiedIdentityIds : List String)
    : Except MemberStatusError (Option StatusUpdate) :=
  match identity.filter fun identity =>
    identity.role == .member && identity.status ≠ .deleted with
  | none => .error .identityNotFound
  | some expected =>
    if identityTag signer expected ≠ expected.integrityHmac then
      .error .dataIntegrityInvalid
    else if expected.status = targetStatus then .ok none
    else do
      let (expectedState, occupied) ← verifiedSeatRegistry signer state occupiedIdentityIds
      let occupied ← nextOccupied seatLimit expected targetStatus occupied
      if 2 ^ 32 ≤ expected.revision.toNat + 1 then .error .dataIntegrityInvalid
      else
        let changed : IdentityRecord :=
          { expected with
            status := targetStatus, revision := expected.revision + 1, updatedAt }
        let next := { changed with integrityHmac := identityTag signer changed }
        match checkedSucc expectedState.revision with
        | none => .error .dataIntegrityInvalid
        | some revision =>
          .ok (some {
            expected
            next
            expectedState
            nextState := securityStateRecord signer occupied revision updatedAt })

end

end AsterTeam.Seats
