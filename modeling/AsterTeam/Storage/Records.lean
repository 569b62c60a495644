import AsterTeam.Library.MachineInteger
import AsterTeam.Library.Relational

/-! The rows of the customer database that accounts, wallets and the audit log are made of.
Columns with a closed set of admitted values are enumerations, and the primary keys and
unique indices of the schema are the keys of the tables.
-/

namespace AsterTeam

open Relational

inductive StorageError
  | database
  | databaseNotEmpty
  | migrationIntegrity
  | duplicateIdentity
  deriving DecidableEq

-- Identities and API keys

inductive IdentityRole
  | owner
  | admin
  | member
  deriving DecidableEq

inductive IdentityStatus
  | active
  | disabled
  | deleted
  deriving DecidableEq

structure IdentityRecord where
  (id email displayName passwordHash : String)
  role : IdentityRole
  status : IdentityStatus
  (canConsumeModel passwordChangeRequired : Bool)
  revision : UInt32
  (integrityHmac createdAt updatedAt : String)
  deriving DecidableEq

inductive ApiKeyStatus
  | active
  | suspended
  | revoked
  deriving DecidableEq

structure ApiKeyRecord where
  (id identityId name keyHash keyPrefix : String)
  status : ApiKeyStatus
  revision : UInt32
  (integrityHmac createdAt : String)
  lastUsedAt : Option String
  deriving DecidableEq

structure AuthorizedApiKey where
  apiKey : ApiKeyRecord
  identity : IdentityRecord
  deriving DecidableEq

/-- Emails are unique among the identities that are not deleted. -/
def activeEmailKeys : Keys IdentityRecord where
  conflicts left right :=
    left = right
    ∨ (left.status ≠ .deleted ∧ right.status ≠ .deleted ∧ left.email = right.email)
  decidable _ _ := inferInstance
  refl _ := .inl rfl
  symm := Or.imp Eq.symm fun ⟨left, right, same⟩ => ⟨right, left, same.symm⟩

def identityKeys : Keys IdentityRecord := (Keys.on IdentityRecord.id).or activeEmailKeys

def apiKeyKeys : Keys ApiKeyRecord :=
  (Keys.on ApiKeyRecord.id).or (Keys.on ApiKeyRecord.keyHash)

-- Token accounts

structure UserBalanceRecord where
  identityId : String
  (balanceTokens reservedTokens grantedTokens consumedTokens requestCount rawTokens billedTokens
    uncachedInput cachedInput cacheWrite outputTokens : Int64)
  revision : UInt64
  (lastLedgerHmac integrityHmac updatedAt : String)
  deriving DecidableEq

inductive ReservationStatus
  | active
  | released
  | settled
  deriving DecidableEq

structure QuotaReservationRecord where
  (id identityId apiKeyId requestId : String)
  reservedTokens : Int64
  status : ReservationStatus
  revision : UInt64
  (integrityHmac createdAt expiresAt : String)
  settledAt : Option String
  deriving DecidableEq

structure QuotaLedgerEntry where
  (id identityId kind : String)
  (amountTokens uncachedInput cachedInput cacheWrite outputTokens uncoveredTokens rawTokens
    billedTokens multiplierMicros : Int64)
  referenceId : String
  clientRequestId : Option String
  (description protocol model : String)
  (requestedModel processingTier reasoningEffort apiKeyId runnerId : Option String)
  (previousEntryHmac integrityHmac createdAt : String)
  deriving DecidableEq

inductive QuotaMutationOutcome
  | applied
  | conflict
  | insufficient
  | duplicateRequest
  deriving DecidableEq

def balanceKeys : Keys UserBalanceRecord := Keys.on UserBalanceRecord.identityId

def reservationKeys : Keys QuotaReservationRecord :=
  (Keys.on QuotaReservationRecord.id).or (Keys.on QuotaReservationRecord.requestId)

def ledgerKeys : Keys QuotaLedgerEntry :=
  (Keys.on QuotaLedgerEntry.id).or
    (Keys.on fun entry => (entry.identityId, entry.kind, entry.referenceId))

-- Wallets

inductive Currency
  | cny
  | usd
  deriving DecidableEq

structure MoneyBalanceRecord where
  identityId : String
  currency : Currency
  (balanceNanos creditedNanos debitedNanos revision : Int64)
  (lastLedgerHmac integrityHmac updatedAt : String)
  deriving DecidableEq

inductive MoneyEntryKind
  | grant
  | charge
  | anomaly
  | requestFailed
  | adjustment
  | refund
  deriving DecidableEq

inductive BillingStatus
  | notApplicable
  | charged
  | billingError
  deriving DecidableEq

structure MoneyLedgerEntry where
  (id identityId : String)
  currency : Currency
  kind : MoneyEntryKind
  (amountNanos balanceRevision : Int64)
  referenceId : String
  billingStatus : BillingStatus
  (detailsJson previousEntryHmac integrityHmac createdAt : String)
  deriving DecidableEq

def moneyBalanceKeys : Keys MoneyBalanceRecord := Keys.on MoneyBalanceRecord.identityId

def moneyLedgerKeys : Keys MoneyLedgerEntry :=
  ((Keys.on MoneyLedgerEntry.id).or
    (Keys.on fun entry => (entry.identityId, entry.referenceId))).or
    (Keys.on fun entry => (entry.identityId, entry.balanceRevision))

-- Audit events and the database

inductive ActorRole
  | owner
  | admin
  | member
  | system
  | runner
  deriving DecidableEq

inductive AuditOutcome
  | succeeded
  | failed
  deriving DecidableEq

structure AuditEventRecord where
  id : String
  sequence : UInt64
  actorIdentityId : Option String
  actorRole : ActorRole
  (action targetType : String)
  targetId : Option String
  outcome : AuditOutcome
  (previousEventHmac integrityHmac createdAt : String)
  deriving DecidableEq

inductive MutationWithAuditOutcome (Outcome : Type)
  | mutation (outcome : Outcome)
  | auditConflict
  deriving DecidableEq

def auditEventKeys : Keys AuditEventRecord :=
  (Keys.on AuditEventRecord.id).or (Keys.on AuditEventRecord.sequence)

/-- The tables of one customer installation that the modelled transactions touch. -/
structure Database where
  identities : Table identityKeys
  apiKeys : Table apiKeyKeys
  balances : Table balanceKeys
  reservations : Table reservationKeys
  ledger : Table ledgerKeys
  moneyBalances : Table moneyBalanceKeys
  moneyLedger : Table moneyLedgerKeys
  audit : Table auditEventKeys

def Database.empty : Database :=
  ⟨.empty, .empty, .empty, .empty, .empty, .empty, .empty, .empty⟩

end AsterTeam
