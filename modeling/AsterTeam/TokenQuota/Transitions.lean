import AsterTeam.Storage.Records

/-! The checks that storage makes on a proposed change of a token account.
Each check is specified by the integer effect of the change on the counters of the
account, so that later proofs add effects and never look at the checks again.
-/

namespace AsterTeam

open MachineInteger

-- The checks of the source

def validBalanceShape (balance : UserBalanceRecord) : Bool :=
  decide (
    0 ≤ balance.balanceTokens
    ∧ 0 ≤ balance.reservedTokens
    ∧ 0 ≤ balance.grantedTokens
    ∧ 0 ≤ balance.consumedTokens
    ∧ 0 ≤ balance.requestCount
    ∧ 0 ≤ balance.rawTokens
    ∧ 0 ≤ balance.billedTokens
    ∧ 0 ≤ balance.uncachedInput
    ∧ 0 ≤ balance.cachedInput
    ∧ 0 ≤ balance.cacheWrite
    ∧ 0 ≤ balance.outputTokens
    ∧ balance.reservedTokens ≤ balance.balanceTokens
    ∧ balance.integrityHmac ≠ "")

variable (expected next : UserBalanceRecord)

def unchangedBalanceCounters : Bool :=
  decide (
    next.grantedTokens = expected.grantedTokens
    ∧ next.consumedTokens = expected.consumedTokens
    ∧ next.requestCount = expected.requestCount
    ∧ next.rawTokens = expected.rawTokens
    ∧ next.billedTokens = expected.billedTokens
    ∧ next.uncachedInput = expected.uncachedInput
    ∧ next.cachedInput = expected.cachedInput
    ∧ next.cacheWrite = expected.cacheWrite
    ∧ next.outputTokens = expected.outputTokens)

def sameReservationIdentity (expected next : QuotaReservationRecord) : Bool :=
  decide (
    next.id = expected.id
    ∧ next.identityId = expected.identityId
    ∧ next.apiKeyId = expected.apiKeyId
    ∧ next.requestId = expected.requestId
    ∧ next.reservedTokens = expected.reservedTokens
    ∧ next.createdAt = expected.createdAt
    ∧ next.expiresAt = expected.expiresAt)

def validReserveTransition (reservation : QuotaReservationRecord) : Bool :=
  decide (
    validBalanceShape expected
    ∧ validBalanceShape next
    ∧ reservation.identityId = expected.identityId
    ∧ 0 < reservation.reservedTokens
    ∧ reservation.status = .active
    ∧ reservation.revision = 0
    ∧ reservation.settledAt = none
    ∧ reservation.integrityHmac ≠ ""
    ∧ next.identityId = expected.identityId
    ∧ next.balanceTokens = expected.balanceTokens
    ∧ next.reservedTokens
        = (checkedAdd expected.reservedTokens reservation.reservedTokens).getD (-1)
    ∧ unchangedBalanceCounters expected next
    ∧ next.revision = saturatingSucc expected.revision
    ∧ next.lastLedgerHmac = expected.lastLedgerHmac)

def validGrantTransition (ledger : QuotaLedgerEntry) : Bool :=
  decide (
    validBalanceShape expected
    ∧ validBalanceShape next
    ∧ ledger.kind = "grant"
    ∧ ledger.identityId = expected.identityId
    ∧ 0 < ledger.amountTokens
    ∧ ledger.uncachedInput = 0
    ∧ ledger.cachedInput = 0
    ∧ ledger.cacheWrite = 0
    ∧ ledger.outputTokens = 0
    ∧ ledger.uncoveredTokens = 0
    ∧ ledger.rawTokens = 0
    ∧ ledger.billedTokens = 0
    ∧ ledger.multiplierMicros = 1000000
    ∧ ledger.referenceId ≠ ""
    ∧ ledger.description ≠ ""
    ∧ ledger.protocol = ""
    ∧ ledger.model = ""
    ∧ ledger.apiKeyId = none
    ∧ ledger.runnerId = none
    ∧ ledger.previousEntryHmac = expected.lastLedgerHmac
    ∧ ledger.integrityHmac ≠ ""
    ∧ next.identityId = expected.identityId
    ∧ next.balanceTokens = (checkedAdd expected.balanceTokens ledger.amountTokens).getD (-1)
    ∧ next.reservedTokens = expected.reservedTokens
    ∧ next.grantedTokens = (checkedAdd expected.grantedTokens ledger.amountTokens).getD (-1)
    ∧ next.consumedTokens = expected.consumedTokens
    ∧ next.requestCount = expected.requestCount
    ∧ next.rawTokens = expected.rawTokens
    ∧ next.billedTokens = expected.billedTokens
    ∧ next.uncachedInput = expected.uncachedInput
    ∧ next.cachedInput = expected.cachedInput
    ∧ next.cacheWrite = expected.cacheWrite
    ∧ next.outputTokens = expected.outputTokens
    ∧ next.revision = saturatingSucc expected.revision
    ∧ next.lastLedgerHmac = ledger.integrityHmac)

/-- The part that all three ways of finishing a reservation check in the same words. -/
def finishesReservation (expected next : QuotaReservationRecord)
    (status : ReservationStatus)
    : Bool :=
  decide (
    expected.status = .active
    ∧ next.status = status
    ∧ sameReservationIdentity expected next
    ∧ next.revision = saturatingSucc expected.revision
    ∧ next.settledAt.isSome
    ∧ next.integrityHmac ≠ "")

variable (expectedBalance nextBalance : UserBalanceRecord)
    (expectedReservation nextReservation : QuotaReservationRecord) (ledger : QuotaLedgerEntry)

/-- What release and failure check of the balance: the held tokens return, nothing is
charged.
-/
def returnsHeldTokens : Bool :=
  decide (
    nextBalance.identityId = expectedBalance.identityId
    ∧ expectedReservation.identityId = expectedBalance.identityId
    ∧ nextBalance.balanceTokens = expectedBalance.balanceTokens
    ∧ nextBalance.reservedTokens
        = (checkedSub expectedBalance.reservedTokens expectedReservation.reservedTokens).getD (-1)
    ∧ unchangedBalanceCounters expectedBalance nextBalance
    ∧ nextBalance.revision = saturatingSucc expectedBalance.revision)

def validReleaseTransition : Bool :=
  decide (
    validBalanceShape expectedBalance
    ∧ validBalanceShape nextBalance
    ∧ finishesReservation expectedReservation nextReservation .released
    ∧ returnsHeldTokens expectedBalance nextBalance expectedReservation
    ∧ nextBalance.lastLedgerHmac = expectedBalance.lastLedgerHmac)

def validFailedRequestTransition : Bool :=
  decide (
    validBalanceShape expectedBalance
    ∧ validBalanceShape nextBalance
    ∧ finishesReservation expectedReservation nextReservation .released
    ∧ ledger.kind = "usage_failed"
    ∧ ledger.amountTokens = 0
    ∧ ledger.uncachedInput = 0
    ∧ ledger.cachedInput = 0
    ∧ ledger.cacheWrite = 0
    ∧ ledger.outputTokens = 0
    ∧ ledger.uncoveredTokens = 0
    ∧ ledger.rawTokens = 0
    ∧ ledger.billedTokens = 0
    ∧ ledger.multiplierMicros = 1000000
    ∧ ledger.description ≠ ""
    ∧ ledger.identityId = expectedBalance.identityId
    ∧ ledger.apiKeyId = some expectedReservation.apiKeyId
    ∧ ledger.referenceId = expectedReservation.requestId
    ∧ ledger.previousEntryHmac = expectedBalance.lastLedgerHmac
    ∧ ledger.integrityHmac ≠ ""
    ∧ returnsHeldTokens expectedBalance nextBalance expectedReservation
    ∧ nextBalance.lastLedgerHmac = ledger.integrityHmac)

/-- The sum of the four token counters of an entry, when no partial sum overflows. -/
def entryRawTokens : Option Int64 := do
  let input ← checkedAdd ledger.uncachedInput ledger.cachedInput
  let read ← checkedAdd input ledger.cacheWrite
  checkedAdd read ledger.outputTokens

def validSettlementTransition : Bool :=
  match checkedNeg ledger.amountTokens, entryRawTokens ledger with
  | some charge, some rawTokens =>
    let availableForThis :=
      checkedSub expectedBalance.balanceTokens
        ((checkedSub expectedBalance.reservedTokens
          expectedReservation.reservedTokens).getD Int64.maxValue)
    decide (
      validBalanceShape expectedBalance
      ∧ validBalanceShape nextBalance
      ∧ finishesReservation expectedReservation nextReservation .settled
      ∧ ledger.kind = "usage"
      ∧ ledger.description ≠ ""
      ∧ ledger.identityId = expectedBalance.identityId
      ∧ ledger.apiKeyId = some expectedReservation.apiKeyId
      ∧ (∃ runner ∈ ledger.runnerId, runner ≠ "")
      ∧ ledger.referenceId = expectedReservation.requestId
      ∧ ledger.previousEntryHmac = expectedBalance.lastLedgerHmac
      ∧ ledger.integrityHmac ≠ ""
      ∧ 0 < ledger.multiplierMicros
      ∧ 0 ≤ rawTokens
      ∧ ledger.rawTokens = rawTokens
      ∧ charge ≤ ledger.billedTokens
      ∧ ledger.uncoveredTokens = ledger.billedTokens - charge
      ∧ (∃ available ∈ availableForThis, 0 ≤ charge ∧ charge ≤ available)
      ∧ nextBalance.identityId = expectedBalance.identityId
      ∧ nextBalance.balanceTokens = expectedBalance.balanceTokens - charge
      ∧ nextBalance.reservedTokens
          = expectedBalance.reservedTokens - expectedReservation.reservedTokens
      ∧ nextBalance.grantedTokens = expectedBalance.grantedTokens
      ∧ nextBalance.consumedTokens = (checkedAdd expectedBalance.consumedTokens charge).getD (-1)
      ∧ nextBalance.requestCount = (checkedAdd expectedBalance.requestCount 1).getD (-1)
      ∧ nextBalance.rawTokens = (checkedAdd expectedBalance.rawTokens ledger.rawTokens).getD (-1)
      ∧ nextBalance.billedTokens
          = (checkedAdd expectedBalance.billedTokens ledger.billedTokens).getD (-1)
      ∧ nextBalance.uncachedInput
          = (checkedAdd expectedBalance.uncachedInput ledger.uncachedInput).getD (-1)
      ∧ nextBalance.cachedInput
          = (checkedAdd expectedBalance.cachedInput ledger.cachedInput).getD (-1)
      ∧ nextBalance.cacheWrite = (checkedAdd expectedBalance.cacheWrite ledger.cacheWrite).getD (-1)
      ∧ nextBalance.outputTokens
          = (checkedAdd expectedBalance.outputTokens ledger.outputTokens).getD (-1)
      ∧ nextBalance.revision = saturatingSucc expectedBalance.revision
      ∧ nextBalance.lastLedgerHmac = ledger.integrityHmac)
  | _, _ => false

end AsterTeam
