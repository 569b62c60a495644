import AsterTeam.TokenQuota.FinishOnce

/-! What is to be recorded of a finished request. The intent is stored durably before the
first attempt, so that every later attempt has the same content.
-/

namespace AsterTeam

inductive Outcome
  | usage (usage : ModelUsage)
  | imageUsage (usage : ModelUsage) (confirmedCount : UInt32) (spec : ImageSpec)
  | failure (failure : FailedModelRequest)
  | failureWithUnknown (failure : FailedModelRequest)
  deriving DecidableEq

inductive Completion
  | recorded
  | expired
  deriving DecidableEq

def invalidUsageFailure : FailedModelRequest :=
  { expiredFailure with
    protocol := "gateway_usage_invalid"
    description := "上游用量无法结算，未计费且执行结果不确定" }

structure SettlementIntent where
  reservation : QuotaReservation
  outcome : Outcome
  (upstreamUnknown invalidUsage : Bool)
  deriving DecidableEq

variable (reservation : QuotaReservation)

/-- Whether a usage can be settled at all; money is charged by price and not by tokens. -/
def settleable (usage : ModelUsage) : Bool :=
  if reservation.billing.isSome then (checkedRawTokens usage).isOk
  else
    (do
      let rawTokens ← checkedRawTokens usage
      billedTokens rawTokens usage.multiplierMicros).isOk

def validReservation : Bool :=
  decide (
    reservation.id ≠ ""
    ∧ reservation.id.utf8ByteSize ≤ 128
    ∧ reservation.identityId ≠ ""
    ∧ reservation.identityId.utf8ByteSize ≤ 128
    ∧ reservation.requestId ≠ ""
    ∧ reservation.requestId.utf8ByteSize ≤ 256
    ∧ 0 < reservation.reservedTokens
    ∧ ∀ id ∈ reservation.clientRequestId, id ≠ "" ∧ id.utf8ByteSize ≤ 256)

def SettlementIntent.valid (intent : SettlementIntent) : Bool :=
  validReservation intent.reservation
    && match intent.outcome with
      | .usage usage =>
        !intent.upstreamUnknown
          && !intent.invalidUsage
          && settleable intent.reservation usage
      | .imageUsage usage _ _ =>
        intent.reservation.billing.isSome
          && !intent.upstreamUnknown
          && !intent.invalidUsage
          && (checkedRawTokens usage).isOk
      | .failure failure =>
        failure.protocol ≠ ""
          && failure.model ≠ ""
          && failure.description ≠ ""
          && failure.description.length ≤ 512
          && (!intent.invalidUsage
            || (intent.upstreamUnknown && failure = invalidUsageFailure))
      | .failureWithUnknown _ => false

end AsterTeam
