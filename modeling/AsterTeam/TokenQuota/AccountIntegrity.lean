import AsterTeam.TokenQuota.Prepared

/-! Ending a reservation keeps its account verifiable exactly when the ledger entry that is
written has the shape that verification asks for.
-/

namespace AsterTeam

open HashChain MachineInteger Relational

-- Applied transactions

def FinishTransition.operation : FinishTransition → QuotaOperation
  | .release rows =>
    .release rows.expectedBalance rows.nextBalance rows.expectedReservation rows.nextReservation
  | .fail rows ledger =>
    .fail rows.expectedBalance rows.nextBalance rows.expectedReservation rows.nextReservation ledger
  | .settle rows ledger =>
    .settle rows.expectedBalance rows.nextBalance rows.expectedReservation
      rows.nextReservation ledger

theorem FinishTransition.execute_operation (transition : FinishTransition) (db : Database)
    : transition.operation.execute db = withoutAudit (transition.execute db) := by
  cases transition <;> rfl

abbrev FinishTransition.Applied (transition : FinishTransition) (db after : Database)
    : Prop :=
  FinishApplied transition.rows.expectedBalance transition.rows.nextBalance
    transition.rows.expectedReservation transition.rows.nextReservation transition.entry
    db after

variable {transition : FinishTransition} {db : Database}

theorem FinishTransition.execute_applied (ha : (transition.execute db).1 = .ok .applied)
    : transition.Valid ∧ transition.Applied db (transition.execute db).2 := by
  have he := transition.execute_operation db
  have han : (transition.operation.execute db).1 = .applied := by
    rw [he]
    exact withoutAudit_applied_iff.mpr ha
  have effect := QuotaOperation.execute_applied han
  rw [he] at effect
  cases transition <;> exact effect

theorem FinishTransition.execute_refused (hr : (transition.execute db).1 ≠ .ok .applied)
    : (transition.execute db).2 = db := by
  have he := transition.execute_operation db
  have ha : (transition.operation.execute db).1 ≠ .applied := by
    rw [he]
    exact mt withoutAudit_applied_iff.mp hr
  have hu := QuotaOperation.execute_refused ha
  rw [he] at hu
  exact hu

variable {Value : Type} {auth : AuthCore} {identityId : String}

variable {prepare : QuotaStateSnapshot → Draw → Except ControlError (Value × FinishTransition)}

/-- A call that succeeds has applied one transaction, prepared from the account as it was:
the attempts before it have changed nothing.
-/
theorem finishReservation_eq_ok
    (hs : (finishReservation auth identityId prepare duplicate draws db).1 = .ok value)
    : ∃ draw snapshot transition,
        verifiedQuotaSnapshot auth db identityId = .ok snapshot
        ∧ prepare snapshot draw = .ok (value, transition)
        ∧ (transition.execute db).1 = .ok .applied
        ∧ (finishReservation auth identityId prepare duplicate draws db).2
          = (transition.execute db).2 := by
  induction draws with
  | nil => cases hs
  | cons draw rest ih =>
    rw [finishReservation] at hs ⊢
    split at hs
    · cases hs
    rename_i hm transition prepared
    obtain ⟨snapshot, hv, hp⟩ := bind_ok prepared
    cases he : transition.execute db with
    | mk answer after =>
    rw [he] at hs
    have hu (hr : answer ≠ .ok .applied) : after = db := by
      have same : (transition.execute db).1 ≠ .ok .applied → _ :=
        FinishTransition.execute_refused
      rw [he] at same
      exact same hr
    cases answer with
    | error _ => cases hs
    | ok outcome =>
      cases outcome with
      | applied =>
        cases hs
        exact ⟨
          draw, snapshot, transition, hv, hp,
          congrArg Prod.fst he, (congrArg Prod.snd he).symm
        ⟩
      | conflict =>
        cases hu nofun
        exact ih hs
      | insufficient => cases hs
      | duplicateRequest => cases hs

theorem finishReservation_eq_error
    (hf : (finishReservation auth identityId prepare duplicate draws db).1 = .error error)
    : (finishReservation auth identityId prepare duplicate draws db).2 = db := by
  induction draws with
  | nil => rfl
  | cons draw rest ih =>
    rw [finishReservation] at hf ⊢
    split at hf
    · rfl
    rename_i hm transition prepared
    cases he : transition.execute db with
    | mk answer after =>
    rw [he] at hf
    have hu (hr : answer ≠ .ok .applied) : after = db := by
      have same : (transition.execute db).1 ≠ .ok .applied → _ :=
        FinishTransition.execute_refused
      rw [he] at same
      exact same hr
    cases answer with
    | error _ => exact hu nofun
    | ok outcome =>
      cases outcome with
      | applied => cases hf
      | conflict =>
        cases hu nofun
        exact ih hf
      | insufficient => exact hu nofun
      | duplicateRequest => exact hu nofun

-- The account after a reservation has ended

/-- What the three checks of storage have in common: the held tokens return, the
reservation is finished, and the entry, if any, continues the ledger.
-/
structure FinishTransition.Change (transition : FinishTransition) : Prop where
  nextShape : WellShaped transition.rows.nextBalance
  identity
    : transition.rows.nextBalance.identityId = transition.rows.expectedBalance.identityId
  reserved
    : transition.rows.nextBalance.totals .reserved
      = transition.rows.expectedBalance.totals .reserved
        - transition.rows.expectedReservation.reservedTokens.toInt
  active : transition.rows.expectedReservation.status = .active
  finished : transition.rows.nextReservation.status ≠ .active
  appends
    : ∀ entry ∈ transition.entry,
        Appends transition.rows.expectedBalance transition.rows.nextBalance entry
  unlinked
    : transition.entry = none
      → transition.rows.nextBalance.lastLedgerHmac = transition.rows.expectedBalance.lastLedgerHmac

theorem Finishes.not_active (hf : Finishes expected next status) (he : status ≠ .active)
    : next.status ≠ .active :=
  fun ha => he (hf.finished.symm.trans ha)

theorem FinishTransition.Valid.change (valid : transition.Valid) : transition.Change := by
  cases transition with
  | release rows =>
    refine ⟨valid.step.nextShape, valid.step.identity, valid.step.totals .reserved,
      valid.finishes.active, valid.finishes.not_active nofun, ?_, fun _ => valid.last⟩
    intro entry he
    cases he
  | fail rows ledger =>
    refine ⟨valid.step.nextShape, valid.step.identity, valid.step.totals .reserved,
      valid.finishes.active, valid.finishes.not_active nofun, ?_, nofun⟩
    intro entry he
    cases he
    exact valid.appends
  | settle rows ledger =>
    have hr := valid.step.totals .reserved
    simp only [effect_of_settlement valid.kind] at hr
    refine ⟨valid.step.nextShape, valid.step.identity, hr, valid.finishes.active,
      valid.finishes.not_active nofun, ?_, nofun⟩
    intro entry he
    cases he
    exact valid.appends

variable {after : Database}

theorem activeReservations_finish (hr : db.reservations.Replaces after.reservations row next)
    (owner : row.identityId = identityId) (ha : row.status = .active)
    (finished : next.status ≠ .active)
    : (db.activeReservations identityId).Perm (row :: after.activeReservations identityId) := by
  obtain ⟨rest, before, afterwards⟩ := hr
  have old := before.filter (fun reservation : QuotaReservationRecord =>
    reservation.identityId = identityId && reservation.status = .active)
  have new := afterwards.filter (fun reservation : QuotaReservationRecord =>
    reservation.identityId = identityId && reservation.status = .active)
  rw [List.filter_cons_of_pos (by simp [owner, ha])] at old
  rw [List.filter_cons_of_neg (by simp [finished])] at new
  exact old.trans (new.symm.cons row)

theorem ledgerOf_append {entry : Option QuotaLedgerEntry}
    (rows : after.ledger.rows = db.ledger.rows ++ entry.toList)
    (owner : ∀ added ∈ entry, added.identityId = identityId)
    : after.ledgerOf identityId = db.ledgerOf identityId ++ entry.toList := by
  rw [Database.ledgerOf, Table.selectAll, rows, List.filter_append]
  congr 1
  cases entry with
  | none => rfl
  | some added => simp [owner added rfl]

/-- The account after an applied transaction with signed rows verifies exactly when the
entry has the shape of its kind.
-/
theorem VerifiedAccount.finish_iff (free : auth.CollisionFree)
    (account : VerifiedAccount auth db identityId transition.rows.expectedBalance)
    (valid : transition.Valid) (hap : transition.Applied db after)
    (owner : transition.rows.expectedReservation.identityId = identityId)
    (hb : balanceIntegrityHmac auth transition.rows.nextBalance
        = .ok transition.rows.nextBalance.integrityHmac)
    (hen : ∀ entry ∈ transition.entry, ledgerIntegrityHmac auth entry = .ok entry.integrityHmac)
    : (∃ balance, VerifiedAccount auth after identityId balance)
      ↔ ∀ entry ∈ transition.entry, validSignedLedgerShape entry := by
  have change := valid.change
  have hs : after.balance? identityId = some transition.rows.nextBalance := by
    refine balance?_eq_some.mpr ⟨hap.balances.mem_iff.mpr (.inl rfl), ?_⟩
    exact change.identity.trans account.identity
  have entries
      : after.ledgerOf identityId = db.ledgerOf identityId ++ transition.entry.toList :=
    ledgerOf_append hap.ledger fun added ha =>
      (change.appends added ha).owner.trans account.identity
  have reservations :=
    activeReservations_finish hap.reservations owner change.active change.finished
  have ledger
      : VerifiedLedger auth identityId transition.rows.nextBalance.lastLedgerHmac
          (after.ledgerOf identityId)
        ↔ ∀ entry ∈ transition.entry, validSignedLedgerShape entry = true := by
    rw [entries]
    cases he : transition.entry with
    | none =>
      rw [change.unlinked he, Option.toList_none, List.append_nil]
      exact ⟨fun _ _ absent => absurd absent (Option.not_mem_none _), fun _ => account.ledger⟩
    | some added =>
      have appends := change.appends added he
      have hfr (row) (member : row ∈ db.ledgerOf identityId) : row.id ≠ added.id :=
        fun same =>
          hap.fresh added he row (List.mem_of_mem_filter member) (.inl same)
      rw [appends.last, Option.toList_some]
      refine (account.ledger.append_iff free (appends.owner.trans account.identity)
        appends.previous hfr (hen added he)).trans ?_
      exact ⟨fun shape _ ha => Option.some.inj ha ▸ shape, fun shapes => shapes added rfl⟩
  rw [← ledger]
  refine ⟨?_, ?_⟩
  · intro hf
    obtain ⟨balance, hv⟩ := hf
    cases Option.some.inj (hs.symm.trans hv.stored)
    exact hv.ledger
  · intro hv
    refine ⟨_, hs, change.nextShape.nonneg, change.nextShape.covered, hb, hv, ?_, ?_⟩
    · intro reservation member
      exact account.reservations reservation
        (reservations.mem_iff.mpr (List.mem_cons_of_mem _ member))
    · have before := account.reserved
      rw [(reservations.map _).sum_eq, List.map_cons, List.sum_cons] at before
      rw [change.reserved, before]
      omega

theorem verified_iff
    : (∃ snapshot, verifiedQuotaSnapshot auth db identityId = .ok snapshot)
      ↔ ∃ balance, VerifiedAccount auth db identityId balance := by
  refine ⟨?_, ?_⟩
  · intro hf
    obtain ⟨snapshot, hv⟩ := hf
    exact ⟨_, (verifiedQuotaSnapshot_eq_ok.mp hv).2⟩
  · intro hf
    obtain ⟨balance, account⟩ := hf
    have read
        : db.quotaStateSnapshot identityId = some ⟨balance, _, _⟩ :=
      Option.bind_eq_some_iff.mpr ⟨balance, account.stored, rfl⟩
    exact ⟨_, verifiedQuotaSnapshot_eq_ok.mpr ⟨read, account⟩⟩

-- The shape of the entries that are written

/-- What verification asks of the columns that come from the reservation. -/
structure AdmissibleReservation (reservation : QuotaReservation) (apiKeyId : String)
    : Prop where
  identityId : reservation.identityId ≠ ""
  requestId : reservation.requestId ≠ ""
  clientRequestId : reservation.clientRequestId.all validGatewayRequestId = true
  apiKeyId : apiKeyId ≠ ""

theorem ne_empty_of_size {value : String} (size : 1 ≤ value.utf8ByteSize) : value ≠ "" := by
  intro empty
  rw [empty] at size
  exact absurd size (by decide)

structure FilledEntry (entry : QuotaLedgerEntry) : Prop where
  id : entry.id ≠ ""
  identityId : entry.identityId ≠ ""
  referenceId : entry.referenceId ≠ ""
  description : entry.description ≠ ""
  integrityHmac : entry.integrityHmac ≠ ""
  createdAt : entry.createdAt ≠ ""

variable {entry : QuotaLedgerEntry}

theorem validSignedLedgerShape_iff
    : validSignedLedgerShape entry
      ↔ FilledEntry entry
        ∧ ((entry.kind = "grant" ∧ validGrantShape entry)
          ∨ (entry.kind = "usage" ∧ validUsageShape entry)
          ∨ (entry.kind = "usage_failed" ∧ validFailedUsageShape entry)) := by
  unfold validSignedLedgerShape
  by_cases filled
      : entry.id = "" ∨ entry.identityId = "" ∨ entry.referenceId = ""
        ∨ entry.description = "" ∨ entry.integrityHmac = "" ∨ entry.createdAt = ""
  · rw [if_pos filled]
    refine ⟨nofun, ?_⟩
    intro shape
    obtain ⟨⟨h1, h2, h3, h4, h5, h6⟩, _⟩ := shape
    rcases filled with e | e | e | e | e | e <;> contradiction
  · rw [if_neg filled]
    simp only [not_or] at filled
    obtain ⟨h1, h2, h3, h4, h5, h6⟩ := filled
    have hf : FilledEntry entry := ⟨h1, h2, h3, h4, h5, h6⟩
    by_cases grant : entry.kind = "grant"
    · simp [grant, hf]
    by_cases usage : entry.kind = "usage"
    · simp [usage, hf]
    · simp [grant, usage, hf]

/-- What usage and failed usage have in common, when the model and the protocol are known.
-/
theorem validRequestShape_iff (protocol : entry.protocol ≠ "") (model : entry.model ≠ "")
    (apiKey : entry.apiKeyId = some apiKeyId)
    : validRequestShape entry
      ↔ entry.requestedModel.all validRequestedModel
        ∧ entry.processingTier.all validProcessingTier
        ∧ entry.reasoningEffort.all validReasoningEffort
        ∧ entry.clientRequestId.all validGatewayRequestId
        ∧ apiKeyId ≠ "" := by
  simp [validRequestShape, protocol, model, apiKey, and_assoc]

/-- For a failure that Control accepts, only the reservation and the runner are open. -/
theorem failureEntry_shape_iff {failure : FailedModelRequest}
    (ha : validFailure failure) (tagged : entry.integrityHmac ≠ "")
    (hm : entry
        = { failureEntry reservation failure snapshot row draw with
            integrityHmac := entry.integrityHmac })
    : validSignedLedgerShape entry
      ↔ AdmissibleReservation reservation row.apiKeyId ∧ failure.runnerId ≠ some "" := by
  simp only [validFailure, Bool.and_eq_true, decide_eq_true_eq] at ha
  obtain ⟨⟨⟨⟨⟨⟨protocol, model⟩, described⟩, _⟩, hre⟩, tier⟩, effort⟩ := ha
  have runner
      : failure.runnerId.all (fun value => value ≠ "") = true ↔ failure.runnerId ≠ some "" := by
    cases failure.runnerId <;> simp
  generalize entry.integrityHmac = tag at hm tagged
  subst hm
  rw [validSignedLedgerShape_iff]
  refine ⟨?_, ?_⟩
  · intro shape
    obtain ⟨filled, ⟨kind, _⟩ | ⟨kind, _⟩ | ⟨_, shape⟩⟩ := shape
    · exact absurd (show "usage_failed" = "grant" from kind) (by decide)
    · exact absurd (show "usage_failed" = "usage" from kind) (by decide)
    · simp only [validFailedUsageShape, Bool.and_eq_true] at shape
      obtain ⟨⟨_, request⟩, runs⟩ := shape
      obtain ⟨_, _, _, client, apiKey⟩ := (validRequestShape_iff protocol model rfl).mp request
      exact ⟨⟨filled.identityId, filled.referenceId, client, apiKey⟩, runner.mp runs⟩
  · intro admissible
    obtain ⟨hr, runs⟩ := admissible
    refine ⟨
      ⟨randomIdentifier_ne_empty _ _, hr.identityId, hr.requestId, described,
        tagged, draw.now.text_ne_empty⟩,
      .inr (.inr ⟨rfl, ?_⟩)
    ⟩
    simp only [validFailedUsageShape, Bool.and_eq_true]
    refine ⟨⟨⟨rfl, rfl⟩, ?_⟩, runner.mpr runs⟩
    exact (validRequestShape_iff protocol model rfl).mpr
      ⟨hre, tier, effort, hr.clientRequestId, hr.apiKeyId⟩

/-- The names of a usage, which its settlement does not check. -/
structure AdmissibleUsage (usage : ModelUsage) : Prop where
  requestedModel : usage.requestedModel.all validRequestedModel = true
  processingTier : usage.processingTier.all validProcessingTier = true
  reasoningEffort : usage.reasoningEffort.all validReasoningEffort = true

/-- The numbers of a metered entry have the shape that verification asks for. -/
theorem validUsageShape_iff (metered : Metered entry) (hu : 0 ≤ entry.uncachedInput.toInt)
    (cached : 0 ≤ entry.cachedInput.toInt) (write : 0 ≤ entry.cacheWrite.toInt)
    (output : 0 ≤ entry.outputTokens.toInt)
    : validUsageShape entry
      ↔ validRequestShape entry ∧ entry.runnerId.any (fun value => value ≠ "") := by
  have charge := metered.charge
  have hn := metered.negatable
  have billed := metered.billed
  have hun := metered.uncovered
  obtain ⟨charged, negated, chargedValue⟩ :=
    exists_fit (-entry.amountTokens.toInt) (by omega) (by omega)
  have raw : entryRawTokens entry = some entry.rawTokens :=
    entryRawTokens_iff.mpr ⟨metered.inputFits, metered.readFits, metered.raw⟩
  have difference : entry.uncoveredTokens = entry.billedTokens - charged := by
    have hb := entry.billedTokens.toInt_lt
    rw [← Int64.toInt_inj, toInt_sub_of_range (by omega) (by omega)]
    omega
  have numbers
      : entry.amountTokens ≤ 0 ∧ 0 ≤ entry.uncachedInput ∧ 0 ≤ entry.cachedInput
        ∧ 0 ≤ entry.cacheWrite ∧ 0 ≤ entry.outputTokens ∧ 0 ≤ entry.uncoveredTokens
        ∧ charged ≤ entry.billedTokens ∧ 0 < entry.multiplierMicros := by
    have multiplier := metered.multiplier
    simp only [Int64.le_iff_toInt_le, Int64.lt_iff_toInt_lt, Int64.toInt_zero]
    omega
  obtain ⟨n1, n2, n3, n4, n5, n6, n7, n8⟩ := numbers
  rw [validUsageShape, checkedNeg, negated]
  simp only [ge_iff_le, gt_iff_lt, n1, n2, n3, n4, n5, n6, n7, n8, raw, Option.getD_some,
    beq_self_eq_true, ← difference, decide_true, Bool.true_and, Bool.and_eq_true]

/-- For a usage that Control accepts, the reservation and the names are open. -/
theorem usageEntry_shape_iff (ha : MeteredUsage usage rawTokens) (hme : Metered entry)
    (tagged : entry.integrityHmac ≠ "")
    (hm : entry
        = { usageEntry reservation usage snapshot row settlement rawTokens amountTokens
              draw with
            integrityHmac := entry.integrityHmac })
    : validSignedLedgerShape entry
      ↔ AdmissibleReservation reservation row.apiKeyId ∧ AdmissibleUsage usage := by
  have protocol := ne_empty_of_size ha.protocol.1
  have model := ne_empty_of_size ha.model.1
  have runner := ne_empty_of_size ha.runnerId.1
  generalize entry.integrityHmac = tag at hm tagged
  subst hm
  have shape :=
    validUsageShape_iff hme ha.uncachedInput ha.cachedInput ha.cacheWrite ha.outputTokens
  rw [validSignedLedgerShape_iff, shape]
  refine ⟨?_, ?_⟩
  · intro good
    obtain ⟨filled, ⟨kind, _⟩ | ⟨_, request, _⟩ | ⟨kind, _⟩⟩ := good
    · exact absurd (show "usage" = "grant" from kind) (by decide)
    · obtain ⟨hre, tier, effort, client, apiKey⟩ :=
        (validRequestShape_iff protocol model rfl).mp request
      exact ⟨⟨filled.identityId, filled.referenceId, client, apiKey⟩, ⟨hre, tier, effort⟩⟩
    · exact absurd (show "usage" = "usage_failed" from kind) (by decide)
  · intro admissible
    obtain ⟨hr, names⟩ := admissible
    refine ⟨
      ⟨randomIdentifier_ne_empty _ _, hr.identityId, hr.requestId,
        (by decide : "API 请求" ≠ ""), tagged, draw.now.text_ne_empty⟩,
      .inr (.inl ⟨rfl, ?_, ?_⟩)
    ⟩
    · exact (validRequestShape_iff protocol model rfl).mpr
        ⟨names.requestedModel, names.processingTier, names.reasoningEffort,
          hr.clientRequestId, hr.apiKeyId⟩
    · exact decide_eq_true runner

end AsterTeam
