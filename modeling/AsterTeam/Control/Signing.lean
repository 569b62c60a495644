import AsterTeam.AuthCore
import AsterTeam.Storage.Records

/-! The tags Control puts on the rows of token accounts.
A tag covers the compact JSON text of all columns of a row, in a fixed order, and the
revision of the row.
-/

namespace AsterTeam

open List

inductive RoutingError
  | noRunnerReady
  | retryForbidden
  deriving DecidableEq

inductive ControlError
  | auth (error : AuthError)
  | storage (error : StorageError)
  | dataIntegrityInvalid
  | instanceDraining
  | duplicateGatewayRequest
  | gatewayRequestInvalid
  | quotaReservationConflict
  | quotaSettlementConflict
  | usageSettlementInvalid
  | billingCalculationInvalid
  | billingPriceUnavailable
  | upstreamUsageInvalid
  | upstreamRequestFailed
  | upstreamResponseTooLarge
  | invalidUpstreamResponse
  | routing (error : RoutingError)
  deriving DecidableEq

def quotaBalanceIntegrityKey : String := "quota-balance-v1"
def quotaReservationIntegrityKey : String := "quota-reservation-v1"
def quotaLedgerIntegrityKey : String := "quota-ledger-entry-v1"

def jsonInteger (value : Int64) : Json.Value := .number value.toInt

def jsonOptional : Option String → Json.Value
  | none => .null
  | some value => .string value

def ReservationStatus.name : ReservationStatus → String
  | .active => "active"
  | .released => "released"
  | .settled => "settled"

def AuthCore.sign (auth : AuthCore) (key : String) (payload : Json.Value)
    (revision : UInt64)
    : Except ControlError String :=
  (auth.securityStateIntegrityHmac ⟨key, payload.text, revision⟩).mapError .auth

def balanceIntegrityPayload (balance : UserBalanceRecord) : Json.Value :=
  .object [
    ("identity_id", .string balance.identityId),
    ("balance_tokens", jsonInteger balance.balanceTokens),
    ("reserved_tokens", jsonInteger balance.reservedTokens),
    ("granted_tokens", jsonInteger balance.grantedTokens),
    ("consumed_tokens", jsonInteger balance.consumedTokens),
    ("request_count", jsonInteger balance.requestCount),
    ("raw_tokens", jsonInteger balance.rawTokens),
    ("billed_tokens", jsonInteger balance.billedTokens),
    ("uncached_input", jsonInteger balance.uncachedInput),
    ("cached_input", jsonInteger balance.cachedInput),
    ("cache_write", jsonInteger balance.cacheWrite),
    ("output_tokens", jsonInteger balance.outputTokens),
    ("last_ledger_hmac", .string balance.lastLedgerHmac)]

def balanceIntegrityHmac (auth : AuthCore) (balance : UserBalanceRecord)
    : Except ControlError String :=
  auth.sign quotaBalanceIntegrityKey (balanceIntegrityPayload balance) balance.revision

def reservationIntegrityPayload (reservation : QuotaReservationRecord) : Json.Value :=
  .object [
    ("id", .string reservation.id), ("identity_id", .string reservation.identityId),
    ("api_key_id", .string reservation.apiKeyId), ("request_id", .string reservation.requestId),
    ("reserved_tokens", jsonInteger reservation.reservedTokens),
    ("status", .string reservation.status.name), ("created_at", .string reservation.createdAt),
    ("expires_at", .string reservation.expiresAt),
    ("settled_at", jsonOptional reservation.settledAt)]

def reservationIntegrityHmac (auth : AuthCore) (reservation : QuotaReservationRecord)
    : Except ControlError String :=
  auth.sign quotaReservationIntegrityKey (reservationIntegrityPayload reservation)
    reservation.revision

section

variable (auth : AuthCore) (entry : QuotaLedgerEntry)

/-- The columns that every schema of a ledger tag covers first. -/
def ledgerAmountFields : List (String × Json.Value) :=
  [
    ("id", .string entry.id), ("identity_id", .string entry.identityId),
    ("kind", .string entry.kind), ("amount_tokens", jsonInteger entry.amountTokens),
    ("uncached_input", jsonInteger entry.uncachedInput),
    ("cached_input", jsonInteger entry.cachedInput), ("cache_write", jsonInteger entry.cacheWrite),
    ("output_tokens", jsonInteger entry.outputTokens),
    ("uncovered_tokens", jsonInteger entry.uncoveredTokens),
    ("raw_tokens", jsonInteger entry.rawTokens), ("billed_tokens", jsonInteger entry.billedTokens),
    ("multiplier_micros", jsonInteger entry.multiplierMicros),
    ("reference_id", .string entry.referenceId)]

def ledgerTextFields : List (String × Json.Value) :=
  [
    ("description", .string entry.description), ("protocol", .string entry.protocol),
    ("model", .string entry.model)]

def ledgerRequestFields : List (String × Json.Value) :=
  [
    ("requested_model", jsonOptional entry.requestedModel),
    ("processing_tier", jsonOptional entry.processingTier),
    ("reasoning_effort", jsonOptional entry.reasoningEffort)]

def ledgerOriginFields : List (String × Json.Value) :=
  [
    ("api_key_id", jsonOptional entry.apiKeyId), ("runner_id", jsonOptional entry.runnerId),
    ("previous_entry_hmac", .string entry.previousEntryHmac),
    ("created_at", .string entry.createdAt)]

def ledgerIntegrityPayload : Json.Value :=
  .object (
    ledgerAmountFields entry
    ++ ("client_request_id", jsonOptional entry.clientRequestId)
      :: (ledgerTextFields entry ++ (ledgerRequestFields entry ++ ledgerOriginFields entry)))

/-- The schema before entries had a client request id. -/
def previousLedgerIntegrityPayload : Json.Value :=
  .object (
    ledgerAmountFields entry
    ++ (ledgerTextFields entry ++ (ledgerRequestFields entry ++ ledgerOriginFields entry)))

/-- The schema before entries had a requested model, a tier and an effort. -/
def legacyLedgerIntegrityPayload : Json.Value :=
  .object (ledgerAmountFields entry ++ (ledgerTextFields entry ++ ledgerOriginFields entry))

def ledgerIntegrityHmac : Except ControlError String :=
  auth.sign quotaLedgerIntegrityKey (ledgerIntegrityPayload entry) 0

def previousLedgerIntegrityHmac : Except ControlError String :=
  auth.sign quotaLedgerIntegrityKey (previousLedgerIntegrityPayload entry) 0

def legacyLedgerIntegrityHmac : Except ControlError String :=
  auth.sign quotaLedgerIntegrityKey (legacyLedgerIntegrityPayload entry) 0

end

variable {auth : AuthCore} {key tag : String} {payload : Json.Value} {revision : UInt64}

/-- Signing succeeds exactly for texts up to the size limit, under a valid purpose key. -/
theorem AuthCore.sign_eq_ok (valid : validIdentifier key)
    : auth.sign key payload revision = .ok tag
      ↔ payload.text.utf8ByteSize ≤ 1048576
        ∧ auth.securityStateTag ⟨key, payload.text, revision⟩ = tag := by
  simp only [AuthCore.sign, AuthCore.securityStateIntegrityHmac, valid]
  by_cases fits : payload.text.utf8ByteSize ≤ 1048576
  · simp [fits, Nat.not_lt.mpr fits, Except.mapError]
  · simp [fits, Nat.not_le.mp fits, Except.mapError]

theorem AuthCore.sign_ne_empty (free : auth.CollisionFree) (valid : validIdentifier key)
    (signed : auth.sign key payload revision = .ok tag)
    : tag ≠ "" :=
  ((sign_eq_ok valid).mp signed).2 ▸ free.nonempty _

theorem quotaBalanceIntegrityKey_valid : validIdentifier quotaBalanceIntegrityKey := by
  decide

theorem quotaReservationIntegrityKey_valid : validIdentifier quotaReservationIntegrityKey := by
  decide

theorem quotaLedgerIntegrityKey_valid : validIdentifier quotaLedgerIntegrityKey := by
  decide

theorem jsonInteger_inj : jsonInteger left = jsonInteger right ↔ left = right := by
  rw [jsonInteger, jsonInteger, Json.Value.number.injEq, Int64.toInt_inj]

theorem jsonOptional_inj : jsonOptional left = jsonOptional right ↔ left = right := by
  cases left <;> cases right <;> simp [jsonOptional]

/-- The payloads in which the tag of an entry is accepted: an older schema only for entries
without the columns it leaves out.
-/
inductive AcceptedPayload (entry : QuotaLedgerEntry) : Json.Value → Prop
  | current : AcceptedPayload entry (ledgerIntegrityPayload entry)
  | previous (noClient : entry.clientRequestId = none)
    : AcceptedPayload entry (previousLedgerIntegrityPayload entry)
  | legacy (noClient : entry.clientRequestId = none) (noModel : entry.requestedModel = none)
      (noTier : entry.processingTier = none) (noEffort : entry.reasoningEffort = none)
    : AcceptedPayload entry (legacyLedgerIntegrityPayload entry)

/-- A payload determines the schema and, but for the tag, the entry it was made from. -/
theorem AcceptedPayload.eq (hl : AcceptedPayload left payload) (hr : AcceptedPayload right other)
    (same : payload = other) (tags : left.integrityHmac = right.integrityHmac)
    : left = right := by
  obtain ⟨⟩ := left
  obtain ⟨⟩ := right
  cases hl <;> cases hr <;>
    simp only [ledgerIntegrityPayload, previousLedgerIntegrityPayload, legacyLedgerIntegrityPayload,
      ledgerAmountFields, ledgerTextFields, ledgerRequestFields, ledgerOriginFields, cons_append,
      nil_append, Json.Value.object.injEq, List.cons.injEq, Prod.mk.injEq, Json.Value.string.injEq,
      jsonInteger_inj, jsonOptional_inj] at same <;>
    simp_all

/-- An entry that can be signed in the current schema fits the older ones, too. -/
theorem ledgerPayload_sizes (entry : QuotaLedgerEntry)
    : (previousLedgerIntegrityPayload entry).text.utf8ByteSize
        ≤ (ledgerIntegrityPayload entry).text.utf8ByteSize
      ∧ (legacyLedgerIntegrityPayload entry).text.utf8ByteSize
        ≤ (ledgerIntegrityPayload entry).text.utf8ByteSize := by
  refine ⟨Json.utf8ByteSize_text_le ?_, Json.utf8ByteSize_text_le ?_⟩
  · exact Sublist.append_left (sublist_cons_self _ _) _
  · refine Sublist.append_left ?_ _
    refine Sublist.cons _ (Sublist.append_left ?_ _)
    exact sublist_append_right _ _

-- Sizes

theorem weight_jsonInteger_le (value : Int64) : Json.weight (jsonInteger value) ≤ 21 := by
  have low := value.le_toInt
  have high := value.toInt_lt
  exact Json.weight_number_le (by omega) (by omega)

def optionalSize (value : Option String) : Nat := (value.map String.utf8ByteSize).getD 0

theorem weight_jsonOptional_le (value : Option String)
    : Json.weight (jsonOptional value) ≤ 6 * optionalSize value + 4 := by
  cases value with
  | none => exact le_refl 4
  | some value =>
    rw [jsonOptional, Json.weight, optionalSize, Option.map_some, Option.getD_some]
    omega

theorem balanceIntegrityPayload_size (balance : UserBalanceRecord)
    : (balanceIntegrityPayload balance).text.utf8ByteSize
      ≤ 4096 + 6 * (balance.identityId.utf8ByteSize + balance.lastLedgerHmac.utf8ByteSize) := by
  refine (Json.utf8ByteSize_text_le_weight _).trans ?_
  rw [balanceIntegrityPayload, Json.weight]
  refine (Nat.add_le_add_right (Json.weightFields_le 24 ?_) 2).trans ?_
  · simp only [map_cons, map_nil]
    decide +kernel
  have h1 := weight_jsonInteger_le balance.balanceTokens
  have h2 := weight_jsonInteger_le balance.reservedTokens
  have h3 := weight_jsonInteger_le balance.grantedTokens
  have h4 := weight_jsonInteger_le balance.consumedTokens
  have h5 := weight_jsonInteger_le balance.requestCount
  have h6 := weight_jsonInteger_le balance.rawTokens
  have h7 := weight_jsonInteger_le balance.billedTokens
  have h8 := weight_jsonInteger_le balance.uncachedInput
  have h9 := weight_jsonInteger_le balance.cachedInput
  have h10 := weight_jsonInteger_le balance.cacheWrite
  have h11 := weight_jsonInteger_le balance.outputTokens
  simp only [map_cons, map_nil, sum_cons, sum_nil, length_cons, length_nil, Json.weight]
  omega

theorem reservationIntegrityPayload_size (reservation : QuotaReservationRecord)
    : (reservationIntegrityPayload reservation).text.utf8ByteSize
      ≤ 4096
        + 6 * (reservation.id.utf8ByteSize + reservation.identityId.utf8ByteSize
          + reservation.apiKeyId.utf8ByteSize + reservation.requestId.utf8ByteSize
          + reservation.createdAt.utf8ByteSize + reservation.expiresAt.utf8ByteSize
          + optionalSize reservation.settledAt) := by
  refine (Json.utf8ByteSize_text_le_weight _).trans ?_
  rw [reservationIntegrityPayload, Json.weight]
  refine (Nat.add_le_add_right (Json.weightFields_le 24 ?_) 2).trans ?_
  · simp only [map_cons, map_nil]
    decide +kernel
  have status : reservation.status.name.utf8ByteSize ≤ 8 := by
    cases reservation.status <;> decide
  have tokens := weight_jsonInteger_le reservation.reservedTokens
  have settled := weight_jsonOptional_le reservation.settledAt
  simp only [map_cons, map_nil, sum_cons, sum_nil, length_cons, length_nil, Json.weight]
  omega

theorem ledgerIntegrityPayload_size (entry : QuotaLedgerEntry)
    : (ledgerIntegrityPayload entry).text.utf8ByteSize
      ≤ 4096
        + 6 * (entry.id.utf8ByteSize + entry.identityId.utf8ByteSize
          + entry.kind.utf8ByteSize + entry.referenceId.utf8ByteSize
          + optionalSize entry.clientRequestId + entry.description.utf8ByteSize
          + entry.protocol.utf8ByteSize + entry.model.utf8ByteSize
          + optionalSize entry.requestedModel + optionalSize entry.processingTier
          + optionalSize entry.reasoningEffort + optionalSize entry.apiKeyId
          + optionalSize entry.runnerId + entry.previousEntryHmac.utf8ByteSize
          + entry.createdAt.utf8ByteSize) := by
  refine (Json.utf8ByteSize_text_le_weight _).trans ?_
  rw [ledgerIntegrityPayload, Json.weight]
  simp only [ledgerAmountFields, ledgerTextFields, ledgerRequestFields, ledgerOriginFields,
    cons_append, nil_append]
  refine (Nat.add_le_add_right (Json.weightFields_le 24 ?_) 2).trans ?_
  · simp only [map_cons, map_nil]
    decide +kernel
  have h1 := weight_jsonInteger_le entry.amountTokens
  have h2 := weight_jsonInteger_le entry.uncachedInput
  have h3 := weight_jsonInteger_le entry.cachedInput
  have h4 := weight_jsonInteger_le entry.cacheWrite
  have h5 := weight_jsonInteger_le entry.outputTokens
  have h6 := weight_jsonInteger_le entry.uncoveredTokens
  have h7 := weight_jsonInteger_le entry.rawTokens
  have h8 := weight_jsonInteger_le entry.billedTokens
  have h9 := weight_jsonInteger_le entry.multiplierMicros
  have client := weight_jsonOptional_le entry.clientRequestId
  have requested := weight_jsonOptional_le entry.requestedModel
  have tier := weight_jsonOptional_le entry.processingTier
  have effort := weight_jsonOptional_le entry.reasoningEffort
  have apiKey := weight_jsonOptional_le entry.apiKeyId
  have runner := weight_jsonOptional_le entry.runnerId
  simp only [map_cons, map_nil, sum_cons, sum_nil, length_cons, length_nil, Json.weight]
  omega

/-- A row with the tag of its own payload is signed. -/
theorem balanceIntegrityHmac_of_tag (auth : AuthCore) (balance : UserBalanceRecord)
    (fits : (balanceIntegrityPayload balance).text.utf8ByteSize ≤ 1048576)
    : let tag :=
        auth.securityStateTag
          ⟨quotaBalanceIntegrityKey, (balanceIntegrityPayload balance).text, balance.revision⟩
      balanceIntegrityHmac auth { balance with integrityHmac := tag } = .ok tag :=
  (AuthCore.sign_eq_ok quotaBalanceIntegrityKey_valid).mpr ⟨fits, rfl⟩

theorem reservationIntegrityHmac_of_tag (auth : AuthCore) (reservation : QuotaReservationRecord)
    (fits : (reservationIntegrityPayload reservation).text.utf8ByteSize ≤ 1048576)
    : let tag :=
        auth.securityStateTag
          ⟨quotaReservationIntegrityKey, (reservationIntegrityPayload reservation).text,
            reservation.revision⟩
      reservationIntegrityHmac auth { reservation with integrityHmac := tag } = .ok tag :=
  (AuthCore.sign_eq_ok quotaReservationIntegrityKey_valid).mpr ⟨fits, rfl⟩

/-- Tags that are texts are as long as what they cover. -/
theorem transparent_tag_size (input : SecurityStateIntegrityInput)
    : (AuthCore.transparent.securityStateTag input).utf8ByteSize
      ≤ 64 + 6 * (input.key.utf8ByteSize + input.value.utf8ByteSize) := by
  refine (Json.utf8ByteSize_text_le_weight _).trans ?_
  have bound := input.revision.toNat_lt
  have revision : Json.weight (.number input.revision.toNat) ≤ 21 :=
    Json.weight_number_le (by omega) (by omega)
  simp only [Json.weight, Json.weightItems] at revision ⊢
  omega

end AsterTeam
