import AsterTeam.Settlement.TokenAttempt

/-! What a confirmation means: the terminal entry it finds has the content of the intent. -/

namespace AsterTeam

open Relational

structure UsageColumns (entry : QuotaLedgerEntry) (usage : ModelUsage) : Prop where
  kind : entry.kind = "usage"
  protocol : entry.protocol = usage.protocol
  model : entry.model = usage.model
  requestedModel : entry.requestedModel = usage.requestedModel
  processingTier : entry.processingTier = usage.processingTier
  reasoningEffort : entry.reasoningEffort = usage.reasoningEffort
  runnerId : entry.runnerId = some usage.runnerId
  uncachedInput : entry.uncachedInput = usage.uncachedInput
  cachedInput : entry.cachedInput = usage.cachedInput
  cacheWrite : entry.cacheWrite = usage.cacheWrite
  outputTokens : entry.outputTokens = usage.outputTokens
  multiplierMicros : entry.multiplierMicros = usage.multiplierMicros
  metered : MeteredUsage usage entry.rawTokens
  billed : billedTokens entry.rawTokens usage.multiplierMicros = .ok entry.billedTokens

structure FailureColumns (entry : QuotaLedgerEntry) (failure : FailedModelRequest)
    : Prop where
  kind : entry.kind = "usage_failed"
  protocol : entry.protocol = failure.protocol
  model : entry.model = failure.model
  requestedModel : entry.requestedModel = failure.requestedModel
  processingTier : entry.processingTier = failure.processingTier
  reasoningEffort : entry.reasoningEffort = failure.reasoningEffort
  runnerId : entry.runnerId = failure.runnerId
  description : entry.description = failure.description

def Outcome.Columns (outcome : Outcome) (entry : QuotaLedgerEntry) : Prop :=
  match outcome with
  | .usage value => UsageColumns entry value
  | .imageUsage _ _ _ => False
  | .failure value => FailureColumns entry value
  | .failureWithUnknown value => FailureColumns entry value

/-- The entry says of the request what its reservation and its outcome say. -/
structure Recorded (reservation : QuotaReservation) (outcome : Outcome)
    (entry : QuotaLedgerEntry) : Prop where
  identityId : entry.identityId = reservation.identityId
  requestId : entry.referenceId = reservation.requestId
  clientRequestId : entry.clientRequestId = reservation.clientRequestId
  columns : outcome.Columns entry

variable {entry : QuotaLedgerEntry}

theorem sameUsage_iff (hm : MeteredUsage usage rawTokens)
    : (sameUsage entry usage rawTokens
        ∧ billedTokens rawTokens usage.multiplierMicros = .ok entry.billedTokens)
      ↔ UsageColumns entry usage := by
  unfold sameUsage
  rw [decide_eq_true_eq]
  constructor
  · intro same
    obtain ⟨⟨kind, protocol, model, requestedModel, processingTier, reasoningEffort,
      runnerId, uncachedInput, cachedInput, cacheWrite, outputTokens, multiplierMicros,
      raw⟩, billed⟩ := same
    subst raw
    exact ⟨kind, protocol, model, requestedModel, processingTier, reasoningEffort, runnerId,
      uncachedInput, cachedInput, cacheWrite, outputTokens, multiplierMicros, hm,
      billed⟩
  · intro hc
    have raw : entry.rawTokens = rawTokens :=
      Int64.toInt_inj.mp (hc.metered.raw.trans hm.raw.symm)
    exact ⟨⟨hc.kind, hc.protocol, hc.model, hc.requestedModel,
      hc.processingTier, hc.reasoningEffort, hc.runnerId,
      hc.uncachedInput, hc.cachedInput, hc.cacheWrite, hc.outputTokens,
      hc.multiplierMicros, raw⟩, raw ▸ hc.billed⟩

theorem sameFailure_iff {failure : FailedModelRequest}
    : sameFailure entry failure ↔ FailureColumns entry failure := by
  unfold sameFailure
  rw [decide_eq_true_eq]
  constructor
  · intro same
    obtain ⟨kind, protocol, model, requestedModel, processingTier, reasoningEffort,
      runnerId, description⟩ := same
    exact ⟨kind, protocol, model, requestedModel, processingTier, reasoningEffort, runnerId,
      description⟩
  · intro hc
    exact ⟨hc.kind, hc.protocol, hc.model, hc.requestedModel,
      hc.processingTier, hc.reasoningEffort, hc.runnerId,
      hc.description⟩

/-- The comparison finds an entry equal exactly when its columns are those of the outcome. -/
theorem sameOutcome_eq_ok : sameOutcome entry outcome = .ok true ↔ outcome.Columns entry := by
  cases outcome with
  | usage usage =>
    constructor
    · intro same
      obtain ⟨rawTokens, metered, same⟩ := bind_ok same
      split at same
      · rename_i hc
        obtain ⟨billed, hb, same⟩ := bind_ok same
        have equal : entry.billedTokens = billed := of_decide_eq_true (Except.ok.inj same)
        exact (sameUsage_iff (checkedRawTokens_eq_ok.mp metered)).mp ⟨hc, equal ▸ hb⟩
      · cases same
    · intro hc
      have metered := hc.metered
      obtain ⟨same, billed⟩ := (sameUsage_iff metered).mpr hc
      refine bind_eq_ok.mpr ⟨_, checkedRawTokens_eq_ok.mpr metered, ?_⟩
      rw [if_pos same]
      exact bind_eq_ok.mpr ⟨_, billed, by simp [pure, Except.pure]⟩
  | imageUsage usage count spec =>
    exact ⟨fun same => absurd (Except.ok.inj same) Bool.false_ne_true, False.elim⟩
  | failure failure => exact (Except.ok.injEq _ _).to_iff.trans sameFailure_iff
  | failureWithUnknown failure => exact (Except.ok.injEq _ _).to_iff.trans sameFailure_iff

/-- An entry of the reaper is confirmed as such, whatever the intent says. -/
def completionOf (entry : QuotaLedgerEntry) : Completion :=
  if isExpiredEntry entry then .expired else .recorded

def RequestClosed (snapshot : QuotaStateSnapshot) (reservation : QuotaReservation) : Prop :=
  ∀ row ∈ snapshot.activeReservations,
    row.id ≠ reservation.id ∧ row.requestId ≠ reservation.requestId

def terminalOf (snapshot : QuotaStateSnapshot) (requestId : String) : List QuotaLedgerEntry :=
  snapshot.ledgerEntries.filter (fun entry =>
    entry.referenceId = requestId && entry.isTerminal)

theorem confirmed_of_closed (hc : RequestClosed snapshot reservation)
    (hf : terminalOf snapshot reservation.requestId = [entry])
    (recorded : Recorded reservation outcome entry)
    : confirmed snapshot reservation outcome = .ok (some (completionOf entry)) := by
  have none : ¬ snapshot.activeReservations.any (fun row =>
      row.id = reservation.id || row.requestId = reservation.requestId) = true := by
    rw [List.any_eq_true]
    intro some
    obtain ⟨row, member, same⟩ := some
    simp only [Bool.or_eq_true, decide_eq_true_eq] at same
    rcases same with id | requestId
    · exact (hc row member).1 id
    · exact (hc row member).2 requestId
  unfold confirmed
  rw [if_neg none, ← terminalOf, hf]
  simp only [ne_eq, not_true_eq_false, recorded.identityId, recorded.clientRequestId,
    or_self, if_false, sameOutcome_eq_ok.mpr recorded.columns, completionOf]
  split <;> rfl

/-- A confirmation as recorded rests on the only terminal entry of the request. -/
theorem confirmed_eq_recorded (hf : confirmed snapshot reservation outcome = .ok (some .recorded))
    : ∃ entry,
        terminalOf snapshot reservation.requestId = [entry]
        ∧ Recorded reservation outcome entry := by
  unfold confirmed at hf
  split at hf
  · cases hf
  rw [← terminalOf] at hf
  cases entries : terminalOf snapshot reservation.requestId with
  | nil =>
    rw [entries] at hf
    cases hf
  | cons entry rest =>
    rw [entries] at hf
    obtain ⟨hs, hf⟩ := guard_of_ok hf
    rw [not_or, not_not, not_not] at hs
    obtain ⟨isLast, identityId⟩ := hs
    split at hf
    · cases hf
    obtain ⟨client, hf⟩ := guard_of_ok hf
    obtain ⟨same, compared, hf⟩ := bind_ok hf
    cases same with
    | false => cases hf
    | true =>
      have member : entry ∈ terminalOf snapshot reservation.requestId := by
        rw [entries]
        exact List.mem_cons_self
      have reference := (List.mem_filter.mp member).2
      simp only [Bool.and_eq_true, decide_eq_true_eq] at reference
      exact ⟨entry, by rw [isLast],
        identityId, reference.1, not_not.mp client, sameOutcome_eq_ok.mp compared⟩

end AsterTeam
