import AsterTeam.Settlement.Intent

/-! One attempt to record an intent on a token account. Before it writes, it looks for the
entry of an earlier attempt whose answer was lost.
-/

namespace AsterTeam

open Relational

variable (entry : QuotaLedgerEntry)

/-- An entry exactly as reclaiming an expired reservation writes it. -/
def isExpiredEntry : Bool :=
  decide (
    entry.kind = "usage_failed"
    ∧ entry.protocol = expiredFailure.protocol
    ∧ entry.model = expiredFailure.model
    ∧ entry.description = expiredFailure.description
    ∧ entry.clientRequestId = none
    ∧ entry.requestedModel = none
    ∧ entry.processingTier = none
    ∧ entry.reasoningEffort = none
    ∧ entry.runnerId = none)

/-- The columns of an entry that a usage determines, apart from the bill. -/
def sameUsage (usage : ModelUsage) (rawTokens : Int64) : Bool :=
  decide (
    entry.kind = "usage"
    ∧ entry.protocol = usage.protocol
    ∧ entry.model = usage.model
    ∧ entry.requestedModel = usage.requestedModel
    ∧ entry.processingTier = usage.processingTier
    ∧ entry.reasoningEffort = usage.reasoningEffort
    ∧ entry.runnerId = some usage.runnerId
    ∧ entry.uncachedInput = usage.uncachedInput
    ∧ entry.cachedInput = usage.cachedInput
    ∧ entry.cacheWrite = usage.cacheWrite
    ∧ entry.outputTokens = usage.outputTokens
    ∧ entry.multiplierMicros = usage.multiplierMicros
    ∧ entry.rawTokens = rawTokens)

def sameFailure (failure : FailedModelRequest) : Bool :=
  decide (
    entry.kind = "usage_failed"
    ∧ entry.protocol = failure.protocol
    ∧ entry.model = failure.model
    ∧ entry.requestedModel = failure.requestedModel
    ∧ entry.processingTier = failure.processingTier
    ∧ entry.reasoningEffort = failure.reasoningEffort
    ∧ entry.runnerId = failure.runnerId
    ∧ entry.description = failure.description)

def sameOutcome : Outcome → Except ControlError Bool
  | .usage usage => do
      let rawTokens ← checkedRawTokens usage
      if sameUsage entry usage rawTokens then
        let billed ← billedTokens rawTokens usage.multiplierMicros
        return decide (entry.billedTokens = billed)
      else return false
  | .imageUsage _ _ _ => .ok false
  | .failure failure => .ok (sameFailure entry failure)
  | .failureWithUnknown failure => .ok (sameFailure entry failure)

/-- Looks for the terminal entry of a request that is no longer open. -/
def confirmed (snapshot : QuotaStateSnapshot) (reservation : QuotaReservation)
    (outcome : Outcome)
    : Except ControlError (Option Completion) :=
  if snapshot.activeReservations.any
      (fun row => row.id = reservation.id || row.requestId = reservation.requestId) then
    .ok none
  else
    match snapshot.ledgerEntries.filter
        (fun entry => entry.referenceId = reservation.requestId && entry.isTerminal) with
    | [] => .ok none
    | entry :: rest =>
      if rest ≠ [] ∨ entry.identityId ≠ reservation.identityId then
        .error .dataIntegrityInvalid
      else if isExpiredEntry entry then .ok (some .expired)
      else if entry.clientRequestId ≠ reservation.clientRequestId then
        .error .dataIntegrityInvalid
      else do
        let same ← sameOutcome entry outcome
        if same then return some .recorded else .error .dataIntegrityInvalid

def recordOutcome (auth : AuthCore) (reservation : QuotaReservation) (outcome : Outcome)
    (draws : Nat → Draw) (db : Database)
    : Except ControlError Completion × Database :=
  match outcome with
  | .usage usage =>
    let settled := settleModelQuota auth reservation usage draws db
    (settled.1.map fun _ => .recorded, settled.2)
  | .imageUsage _ _ _ => (.error .dataIntegrityInvalid, db)
  | .failure failure | .failureWithUnknown failure =>
    let failed := failModelRequest auth reservation failure draws db
    (failed.1.map fun _ => .recorded, failed.2)

/-- An attempt on a reservation without frozen prices. -/
def tokenAttempt (auth : AuthCore) (reservation : QuotaReservation) (outcome : Outcome)
    (draws : Nat → Draw) (db : Database)
    : Except ControlError Completion × Database :=
  match verifiedQuotaSnapshot auth db reservation.identityId with
  | .error error => (.error error, db)
  | .ok snapshot =>
    match confirmed snapshot reservation outcome with
    | .error error => (.error error, db)
    | .ok (some completion) => (.ok completion, db)
    | .ok none => recordOutcome auth reservation outcome draws db

end AsterTeam
