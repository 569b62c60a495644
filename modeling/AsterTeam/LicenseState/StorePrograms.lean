import AsterTeam.LicenseState.FileSteps

/-! All operations keep to the rule of the store. -/

namespace AsterTeam

section

variable {verify : List UInt8 → Option LicenseClaims} {encoding : LicenseEncoding}
  {target : String} {mode : StoreMode}

open Durable (Silent Follows silent_get silent_lift silent_require silent_pure silent_bind
  bind_eq_ok require_eq_ok)

def LicenseFiles.Idle (files : LicenseFiles) : Prop := files.pending = none

/-- The program keeps to the rule from every state and leaves the store idle. -/
abbrev EndsIdle {α : Type} (verify : List UInt8 → Option LicenseClaims)
    (encoding : LicenseEncoding) (target : String) (mode : StoreMode) (program : StoreProgram α)
    : Prop :=
  Follows (FileStep verify encoding target mode) (fun _ => True) program (fun _ files => files.Idle)

theorem follows_replaceFiles (hl : mode.lease) (update : UpdateClaims)
    : Follows (FileStep verify encoding target mode)
        (fun files => files.pending = some (.update update)) (replaceFiles update)
        (fun _ files => files.Idle) := by
  refine .write_bind
    (fun files => files.pending = some (.update update) ∧ files.history = some update.state)
    (fun files hp => .history hl hp) (fun files hp => ⟨hp, rfl⟩) ?_
  refine .write_bind
    (fun files =>
      files.pending = some (.update update) ∧ files.history = some update.state
      ∧ files.license = some update.license)
    (fun files before => .license hl before.1 before.2)
    (fun files before => ⟨before.1, before.2, rfl⟩) ?_
  dsimp only
  cases ha : update.activationAudits with
  | none =>
    refine .write (fun files before => .finish hl before.1 before.2.1 before.2.2 ?_)
      fun files _ => rfl
    rw [ha]
    exact nofun
  | some audits =>
    refine .write_bind
      (fun files =>
        files.pending = some (.update update) ∧ files.history = some update.state
        ∧ files.license = some update.license ∧ files.activation = some audits)
      (fun files before => .activation hl before.1 before.2.1 before.2.2 ha)
      (fun files before => ⟨before.1, before.2.1, before.2.2, rfl⟩) ?_
    refine .write
      (fun files before => .finish hl before.1 before.2.1 before.2.2.1 ?_)
      fun files _ => rfl
    intro claims hc
    rw [ha] at hc
    rw [before.2.2.2, Option.mem_def.mp hc]

theorem follows_finishUpdateLocked (hl : mode.lease) (update : UpdateClaims)
    : Follows (FileStep verify encoding target mode)
        (fun files => files.pending = some (.update update))
        (finishUpdateLocked encoding target update) (fun _ files => files.Idle) := by
  refine .bind (.read silent_get fun _ _ _ => trivial) fun files => ?_
  refine .bind (.read (silent_lift _) fun _ _ _ => trivial) fun _ => ?_
  exact (follows_replaceFiles hl update).weaken (fun _ before => before.1.1) fun _ _ => id

theorem follows_finishStagedUpdate (hl : mode.lease) (update : StagedUpdateClaims)
    : Follows (FileStep verify encoding target mode)
        (fun files => files.pending = some (.stagedUpdate update))
        (finishStagedUpdate encoding target update) (fun _ files => files.Idle) := by
  refine .bind (.read silent_get fun _ _ _ => trivial) fun files => ?_
  refine .bind (.read (silent_lift _) fun _ _ _ => trivial) fun _ => ?_
  refine .write_bind
    (fun files =>
      files.pending = some (.stagedUpdate update) ∧ files.staged = some (some update.staged))
    (fun files before => .stagedFile hl before.1.1) (fun files before => ⟨before.1.1, rfl⟩) ?_
  refine .write_bind
    (fun files =>
      files.pending = some (.stagedUpdate update) ∧ files.staged = some (some update.staged)
      ∧ files.activation = some update.activationAudits)
    (fun files before => .stagedActivation hl before.1 before.2)
    (fun files before => ⟨before.1, before.2, rfl⟩) ?_
  exact .write (fun files before => .finishStaged hl before.1 before.2.1 before.2.2) fun _ _ => rfl

theorem follows_recoverUpdate
    : EndsIdle verify encoding target mode (recoverUpdate encoding target mode.lease) := by
  refine .bind (.read silent_readPending fun _ _ hi => readPending_eq_ok hi) fun intent => ?_
  cases intent with
  | none => exact .pure fun _ before => before.2.symm
  | some intent =>
    cases intent with
    | update update =>
      exact .require_bind fun hl => (follows_finishUpdateLocked hl update).weaken
        (fun _ before => before.2.symm) fun _ _ => id
    | stagedUpdate update =>
      exact .require_bind fun hl => (follows_finishStagedUpdate hl update).weaken
        (fun _ before => before.2.symm) fun _ _ => id

variable {α : Type} {pre : LicenseFiles → Prop}

/-- A read after a recovery, whatever it answers. -/
theorem follows_silent (silent : Silent program)
    : Follows (FileStep verify encoding target mode) pre program (fun _ files => pre files) :=
  (Follows.read silent fun _ _ _ => trivial).weaken (fun _ => id) fun _ _ after => after.1

theorem follows_update (hl : mode.lease) (update : UpdateClaims)
    : Follows (FileStep verify encoding target mode)
        (fun files =>
          files.Idle ∧ PreparedUpdate verify encoding target mode.switching files update
          ∧ mode.document = some update.license)
        (do
          Durable.write (.pending (some (.update update)))
          finishUpdateLocked encoding target update)
        (fun _ files => files.Idle) :=
  .write_bind (fun files => files.pending = some (.update update))
    (fun _ before => .intend hl before.1 before.2.1 before.2.2) (fun _ _ => rfl)
    (follows_finishUpdateLocked hl update)

theorem follows_writeUpdateIntent (intent : LicenseIntent) (pre : LicenseFiles → Prop)
    (hp : ∀ files, pre files → encoding.intentBytes intent ≤ maxJournalBytes
        → FileStep verify encoding target mode files (.pending (some intent)))
    : Follows (FileStep verify encoding target mode) pre (writeUpdateIntent encoding intent)
        (fun _ files => files.pending = some intent) :=
  .bind .require fun _ =>
    .write (fun files before => hp files before.1 (of_decide_eq_true before.2)) fun _ _ => rfl

theorem follows_checkedUpdate (hl : mode.lease) (update : UpdateClaims)
    : Follows (FileStep verify encoding target mode)
        (fun files =>
          files.Idle ∧ PreparedUpdate verify encoding target mode.switching files update
          ∧ mode.document = some update.license)
        (do
          writeUpdateIntent encoding (.update update)
          finishUpdateLocked encoding target update)
        (fun _ files => files.Idle) :=
  .bind
    (follows_writeUpdateIntent (.update update) _ fun _ before _ =>
      .intend hl before.1 before.2.1 before.2.2)
    fun _ => follows_finishUpdateLocked hl update

variable (license : VerifiedProductLicense verify) (now : Int)

theorem follows_installDocument (hd : mode.document = some license.source)
    : EndsIdle verify encoding target mode
        (installDocument encoding target mode.lease license now) := by
  refine .bind follows_recoverUpdate fun _ => .require_bind fun hl => ?_
  refine .bind
    (.read (silent_prepareUpdate license now false) fun files update hu =>
      prepareUpdate_eq_ok hu mode.switching)
    fun update => (follows_update hl update).weaken ?_ fun _ _ => id
  rintro files ⟨idle, prepared, _, _, same⟩
  exact ⟨idle, prepared, same ▸ hd⟩

theorem follows_installDocumentWithAudit (hd : mode.document = some license.source)
    (audit : LicenseImportAudit)
    : EndsIdle verify encoding target mode
        (installDocumentWithAudit encoding target mode.lease license now audit) := by
  refine .bind follows_recoverUpdate fun _ => .require_bind fun hl => ?_
  refine .bind
    (.read (silent_prepareUpdate license now false) fun files update hu =>
      prepareUpdate_eq_ok hu mode.switching)
    fun prepared => .bind .require fun _ => ?_
  refine .bind
    (.read (silent_attachImportAudit prepared license now audit)
      fun files update hu => attachImportAudit_eq_ok hu)
    fun update => (follows_checkedUpdate hl update).weaken ?_ fun _ _ => id
  intro files before
  obtain ⟨⟨⟨idle, hp, _, _, same⟩, _⟩, audits, ha, hu⟩ := before
  rw [hu]
  exact ⟨idle, hp.attach ha, same ▸ hd⟩

theorem follows_readCommittedDocument
    : EndsIdle verify encoding target mode (readCommittedDocument encoding target mode.lease) := by
  refine .bind follows_recoverUpdate fun _ => follows_silent ?_
  refine silent_bind silent_readLicense fun source => silent_bind silent_readHistory
    fun history => ?_
  dsimp only
  split
  · exact silent_bind (silent_lift _) fun _ => silent_pure _
  · exact silent_pure _
  · exact silent_bind (silent_lift _) fun _ => silent_pure _

/-- The last part of the preparation, where the history has been checked. -/
theorem follows_stagedClaims (staged : Option (Option StagedClaims)) (pre : LicenseFiles → Prop)
    : Follows (FileStep verify encoding target mode)
        (fun files =>
          pre files
          ∧ decodableBytes license.source.length maxLicenseDocumentBytes = true)
        (do
          match staged with
          | some (some previous) =>
            if previous.valid encoding target then
              Durable.lift (validateLicenseProgress encoding.digest
                (stagedHistory previous now) license)
          | _ => pure ()
          return {
            target
            license := license.source
            licenseSha256 := encoding.digest license.source
            licenseId := license.claims.licenseId
            issuedAt := license.claims.issuedAt
            transferSequence := license.claims.binding.transferSequence
            notBefore := license.claims.notBefore } : StoreProgram StagedClaims)
        (fun staged files =>
          pre files ∧ staged.valid encoding target = true ∧ staged.license = license.source) := by
  have valid (files : LicenseFiles)
      (before : pre files ∧ decodableBytes license.source.length maxLicenseDocumentBytes = true)
      : pre files
        ∧ (⟨target, license.source, encoding.digest license.source, license.claims.licenseId,
            license.claims.issuedAt, license.claims.binding.transferSequence,
            license.claims.notBefore⟩ : StagedClaims).valid encoding target = true
        ∧ license.source = license.source := by
    refine ⟨before.1, ?_, rfl⟩
    simp [StagedClaims.valid, before.2, license.claims.identified.1,
      license.claims.identified.2, license.claims.bounded]
  dsimp only
  split
  · split
    · exact .bind (follows_silent (silent_lift _)) fun _ => .pure valid
    · exact .pure valid
  · exact .pure valid

/-- The claims that are prepared for staging are valid ones of the given document. -/
theorem follows_prepareStaged (pre : LicenseFiles → Prop)
    : Follows (FileStep verify encoding target mode) pre
        (prepareStaged encoding target license now)
        (fun staged files =>
          pre files ∧ staged.valid encoding target ∧ staged.license = license.source) := by
  refine .bind .require fun _ => .bind (follows_silent silent_readLicense) fun installed =>
    .bind (follows_silent silent_readHistory) fun history => ?_
  dsimp only
  cases history with
  | none =>
    refine .bind (follows_silent (silent_require _ _)) fun _ =>
      .bind (follows_silent silent_readStagedFile) fun staged => ?_
    exact follows_stagedClaims license now staged pre
  | some history =>
    refine .bind (follows_silent (silent_lift _)) fun current =>
      .bind (follows_silent (silent_lift _)) fun _ =>
        .bind (follows_silent silent_readStagedFile) fun staged => ?_
    exact follows_stagedClaims license now staged pre

theorem follows_stageDocument (hs : mode.staging = some (some license.source))
    : EndsIdle verify encoding target mode (stageDocument encoding target mode.lease license now) :=
  .bind follows_recoverUpdate fun _ =>
    .bind (follows_prepareStaged license now _) fun _ =>
      .write (fun _ before => .stage before.1 (hs.trans (by rw [Option.map_some, before.2.2])))
        fun _ before => before.1

theorem follows_stageDocumentWithAudit (hd : mode.document = some license.source)
    (audit : LicenseImportAudit)
    : EndsIdle verify encoding target mode
        (stageDocumentWithAudit encoding target mode.lease license now audit) := by
  refine .bind follows_recoverUpdate fun _ => .require_bind fun hl => ?_
  refine .bind .require fun _ => ?_
  refine .bind (follows_prepareStaged license now _) fun hst => ?_
  refine .bind
    (.read (silent_prepareImportAudits license now audit) fun files audits ha =>
      prepareImportAudits_eq_ok ha)
    fun audits => ?_
  refine .bind
    (.read silent_readStagedFile fun files previous hp =>
      readStagedFile_eq_ok hp)
    fun previousStaged => ?_
  refine .bind
    (.read silent_readActivationFile fun files previous hp =>
      readActivationFile_eq_ok hp)
    fun previousAudits => ?_
  refine .bind (follows_writeUpdateIntent _ _ ?_) fun _ =>
    follows_finishStagedUpdate hl _
  intro files before intentBytes
  obtain ⟨⟨⟨⟨⟨idle, _⟩, valid, same⟩, prepared⟩, hs, stagedBytes⟩, ha, _⟩ := before
  refine .intendStaged hl idle ⟨rfl, valid, prepared, ?_, ?_, stagedBytes, intentBytes⟩ (same ▸ hd)
  · rw [hs]
  · rw [ha]

theorem silent_readStaged : Silent (readStaged encoding target) := by
  refine silent_bind silent_readStagedFile fun hs => ?_
  rcases hs with _ | _ | hs
  · exact silent_pure _
  · exact silent_pure _
  · exact silent_bind (silent_require _ _) fun _ => silent_pure _

theorem follows_readStagedDocument
    : EndsIdle verify encoding target mode (readStagedDocument encoding target mode.lease) :=
  .bind follows_recoverUpdate fun _ =>
    follows_silent (silent_bind silent_readStaged fun _ => silent_pure _)

theorem follows_clearStagedDocument (hc : mode.staging = some none) (expected : List UInt8)
    : EndsIdle verify encoding target mode
        (clearStagedDocument encoding target mode.lease expected) := by
  refine .bind follows_recoverUpdate fun _ => .bind (follows_silent silent_readStaged) fun hs => ?_
  split
  · exact .write (fun _ idle => .stage idle hc) fun _ => id
  · exact .pure fun _ => id

theorem follows_pendingActivationAudits
    : EndsIdle verify encoding target mode (pendingActivationAudits encoding target mode.lease) :=
  .bind follows_recoverUpdate fun _ => follows_silent silent_readActivationAudits

theorem follows_retainAudits {kept : PendingLicenseActivation → Bool}
    (hr : mode.retained = some kept)
    : EndsIdle verify encoding target mode (retainAudits encoding target mode.lease kept) := by
  refine .bind follows_recoverUpdate fun _ => .bind
    (.read silent_readActivationAudits fun _ _ he => (readActivationAudits_eq_ok he).1)
    fun events => ?_
  split
  · refine .bind (.read (silent_lift _) fun _ _ hc => encodeActivationAudits_eq_ok hc) fun _ =>
      .write ?_ fun _ before => before.1.1
    rintro files ⟨⟨idle, rfl⟩, _, _, events⟩
    exact .acknowledge idle hr events
  · exact .pure fun _ before => before.1

theorem silent_isActive : Silent (isActive encoding license) := by
  refine silent_bind silent_readLicense fun installed => ?_
  split
  · exact silent_bind silent_load fun _ => silent_pure _
  · exact silent_pure _

theorem silent_catchRollback (silent : Silent program) : Silent (catchRollback program) := by
  intro files
  have hn := silent files
  unfold catchRollback
  split
  next isResult => rw [← hn, isResult]
  next isResult => rw [← hn, isResult]
  next isResult => rw [← hn, isResult]

variable {files : LicenseFiles}

theorem catchRollback_eq_some (ha : (catchRollback program files).2 = .ok (some value))
    : (program files).2 = .ok value := by
  unfold catchRollback at ha
  split at ha
  next isResult =>
    rw [isResult]
    exact congrArg Except.ok (Option.some.inj (Except.ok.inj ha))
  next => cases ha
  next => cases ha

theorem follows_activateStagedDocument (hd : mode.document = some license.source)
    (hn : mode.staging = some none)
    : EndsIdle verify encoding target mode
        (activateStagedDocument encoding target mode.lease license now) := by
  refine .bind follows_recoverUpdate fun _ => .bind (follows_silent silent_readStaged) fun hs => ?_
  have clear (outcome : StagedActivationOutcome)
      : Follows (FileStep verify encoding target mode) (fun files => files.Idle)
          (do
            Durable.write (.staged none)
            return outcome : StoreProgram StagedActivationOutcome)
          (fun _ files => files.Idle) :=
    .bind (.write (fun _ idle => .stage idle hn) fun _ => id) fun _ =>
      .pure fun _ => id
  cases hs with
  | none => exact .pure fun _ => id
  | some hs =>
    dsimp only
    split
    · exact .pure fun _ => id
    · refine .bind (follows_silent (silent_isActive license)) fun ha => ?_
      split
      · exact clear _
      · refine .require_bind fun hl => .bind
          (.read (silent_catchRollback (silent_prepareUpdate license now true))
            fun files update hu => (fun prepared hp =>
              have ready :=
                prepareUpdate_eq_ok (catchRollback_eq_some (hp ▸ hu)) mode.switching
              ⟨ready.1, ready.2.2.2⟩
              : ∀ prepared, update = some prepared
                → PreparedUpdate verify encoding target mode.switching files prepared
                  ∧ prepared.license = license.source))
          fun update => ?_
        cases update with
        | none => exact (clear _).weaken (fun _ before => before.1) fun _ _ => id
        | some update =>
          exact .write_bind (fun files => files.pending = some (.update update))
            (fun files before =>
              .intend hl before.1 (before.2 update rfl).1 ((before.2 update rfl).2 ▸ hd))
            (fun files _ => rfl)
            (.bind (follows_finishUpdateLocked hl update) fun _ => clear _)

theorem silent_validateSwitchSnapshot (current : VerifiedProductLicense verify) (now : Int)
    : Silent (validateSwitchSnapshot encoding current now) :=
  silent_bind silent_load fun _ => silent_bind silent_readLicense fun _ =>
    silent_bind (silent_require _ _) fun _ => silent_lift _

theorem follows_beginFreeSwitch (current : VerifiedProductLicense verify) (now : Int)
    : Follows (FileStep verify encoding target mode) (fun _ => True)
        (beginFreeSwitch encoding target mode.lease current now)
        (fun _ files => files.Idle ∧ mode.lease) := by
  refine .bind follows_recoverUpdate fun _ => .bind .require fun _ => follows_silent ?_
  exact silent_bind silent_requireNoPendingUpdate fun _ =>
    silent_bind (silent_require _ _) fun _ => silent_validateSwitchSnapshot current now

theorem follows_initializeState (ho : mode.observing)
    (license : VerifiedProductLicense verify) (now : Int)
    : EndsIdle verify encoding target mode (initializeState encoding mode.lease license now) := by
  refine .bind .require fun _ => ?_
  refine .bind
    (.read silent_requireNoPendingUpdate fun _ _ hi => requireNoPendingUpdate_eq_ok hi)
    fun _ => ?_
  refine .bind
    (.read silent_get fun files value hf => (Except.ok.inj hf : files = value))
    fun files => .bind .require fun _ => ?_
  refine .write ?_ fun _ before => before.1.1.2
  intro state before
  obtain ⟨⟨⟨⟨_, hl⟩, idle⟩, hf⟩, absent⟩ := before
  have hm
      : Observes verify encoding.digest state.history
          (stateFromLicense encoding.digest license now) license.source := by
    rw [hf, Option.isNone_iff_eq_none.mp absent]
    exact .first license now
  exact .observe ho idle hm (.inl hl)

theorem follows_persistObservation (ho : mode.observing) (current updated : StateClaims) (now : Int)
    : Follows (FileStep verify encoding target mode)
        (fun files =>
          files.Idle ∧ files.history = some current
          ∧ ∃ source, Observes verify encoding.digest (some current) updated source)
        (persistObservation mode.lease current updated now) (fun _ files => files.Idle) := by
  unfold persistObservation
  split
  · refine .bind .require fun _ => .write ?_ fun _ before => before.1.1
    intro files before
    obtain ⟨⟨idle, hh, source, hm⟩, allowed⟩ := before
    rw [Bool.or_eq_true, decide_eq_true_eq] at allowed
    refine .observe ho idle (hh ▸ hm) ?_
    exact allowed.symm.imp_right fun same => ⟨current, hh, same⟩
  · exact .pure fun _ before => before.1

theorem trackSeats_eq (updated : StateClaims) (exceeds : Bool) (now : Int)
    : ∃ seats,
        trackSeats updated exceeds now
        = { updated with seatOverLimitFirstObservedAt := seats } := by
  unfold trackSeats
  split_ifs
  · exact ⟨_, rfl⟩
  · exact ⟨_, rfl⟩
  · exact ⟨updated.seatOverLimitFirstObservedAt, rfl⟩

theorem follows_observation (next : StateClaims → StateClaims → StoreProgram α)
    (rest : ∀ current,
          Follows (FileStep verify encoding target mode)
            (fun files =>
              pre files ∧ files.Idle ∧ files.history = some current
              ∧ current.Advances encoding.digest license)
            (next current (observed encoding.digest current license now)) post)
    : Follows (FileStep verify encoding target mode) pre
        (do
          requireNoPendingUpdate encoding
          let current ← load encoding
          let updated ← Durable.lift (observe encoding.digest current license now)
          next current updated)
        post := by
  refine .bind
    (.read silent_requireNoPendingUpdate fun _ _ hi => requireNoPendingUpdate_eq_ok hi)
    fun _ => ?_
  refine .bind (.read silent_load fun _ _ hc => load_eq_ok hc) fun current => ?_
  refine .bind (.read (silent_lift _) fun _ _ => id) fun updated => ?_
  by_cases ha
      : current.valid = true ∧ observe encoding.digest current license now = .ok updated
  · obtain ⟨had, rfl⟩ :=
      observe_eq_ok ha.2 (StateClaims.identified_of_valid ha.1)
    refine (rest current).weaken ?_ fun _ _ => id
    exact fun files before => ⟨before.1.1.1, before.1.1.2, before.1.2.1, had⟩
  · exact ⟨fun _ before => absurd ⟨before.1.2.2, before.2⟩ ha,
      fun _ before => absurd ⟨before.1.2.2, before.2⟩ ha⟩

theorem follows_checkAndObserve (ho : mode.observing)
    (license : VerifiedProductLicense verify) (now : Int)
    : EndsIdle verify encoding target mode (checkAndObserve encoding mode.lease license now) := by
  refine follows_observation license now
    (fun current hu => persistObservation mode.lease current hu now) fun current => ?_
  refine (follows_persistObservation ho current _ now).weaken ?_ fun _ _ => id
  intro files before
  exact ⟨before.2.1, before.2.2.1, license.source, .observed license now _ before.2.2.2⟩

theorem follows_checkObserveAndTrackSeats (hob : mode.observing)
    (license : VerifiedProductLicense verify) (exceeds : Bool) (now : Int)
    : EndsIdle verify encoding target mode
        (checkObserveAndTrackSeats encoding mode.lease license exceeds now) := by
  refine follows_observation license now
    (fun current observation => do
      let updated := trackSeats observation exceeds now
      persistObservation mode.lease current updated now
      return updated.seatOverLimitFirstObservedAt) fun current => ?_
  refine .bind
    ((follows_persistObservation hob current _ now).weaken ?_ fun _ _ => id)
    fun _ => .pure fun _ => id
  intro files before
  obtain ⟨seats, ht⟩ :=
    trackSeats_eq (observed encoding.digest current license now) exceeds now
  rw [ht]
  exact ⟨before.2.1, before.2.2.1, license.source, .observed license now seats before.2.2.2⟩

theorem follows_acceptReplacement (ho : mode.observing)
    (license : VerifiedProductLicense verify) (now : Int)
    : EndsIdle verify encoding target mode (acceptReplacement encoding mode.lease license now) := by
  refine .bind .require fun _ => ?_
  refine follows_observation license now (fun _ hu => Durable.write (.history hu)) fun current => ?_
  refine .write ?_ fun _ before => before.2.1
  intro files before
  obtain ⟨⟨_, hl⟩, idle, hh, ha⟩ := before
  have hm
      : Observes verify encoding.digest files.history
          (observed encoding.digest current license now) license.source := by
    rw [hh]
    exact .observed license now _ ha
  exact .observe ho idle hm (.inl hl)

variable {current : VerifiedProductLicense verify} {now}

theorem validateSwitchSnapshot_recorded
    (ha : (validateSwitchSnapshot encoding current now files).2 = .ok value)
    : ∃ history,
        files.history = some history
        ∧ history.lastLicenseSha256 = some (encoding.digest current.source) := by
  obtain ⟨history, hh, ha⟩ := bind_eq_ok silent_load ha
  obtain ⟨_, _, ha⟩ := bind_eq_ok silent_readLicense ha
  obtain ⟨_, hr, _⟩ := bind_eq_ok (silent_require _ _) ha
  have hre := require_eq_ok hr
  rw [Bool.and_eq_true, decide_eq_true_eq] at hre
  exact ⟨history, (load_eq_ok hh).1, hre.1⟩

theorem silent_prepareFreeSwitch (current free : VerifiedProductLicense verify) (now : Int)
    (audit : LicenseImportAudit)
    : Silent (prepareFreeSwitch encoding target current free now audit) :=
  silent_bind (silent_require _ _) fun _ => silent_bind (silent_require _ _) fun _ =>
    silent_bind (silent_prepareUpdate current now false) fun _ =>
      silent_bind (silent_lift _) fun _ => silent_attachImportAudit _ free now audit

variable {history : StateClaims} {free : VerifiedProductLicense verify}

/-- A switch keeps the position of the document that it leaves. -/
theorem Observes.switches {current : StateClaims} {license : VerifiedProductLicense verify}
    (hm : Observes verify encoding.digest recorded history license.source)
    (hr : recorded = some current)
    (hc : current.lastLicenseSha256 = some (encoding.digest license.source))
    (hf : isPublicFree free)
    : Switches verify encoding.digest recorded (switchedHistory encoding.digest history free)
        free.source := by
  generalize hs : license.source = source at hm hc
  cases hm with
  | first => cases hr
  | observed observedLicense now seats ha =>
    cases hr
    exact .switched observedLicense free now hc ha hf

theorem prepareFreeSwitch_eq_ok
    (hac : (prepareFreeSwitch encoding target current free now audit files).2 = .ok update)
    (hh : files.history = some history)
    (hr : history.lastLicenseSha256 = some (encoding.digest current.source))
    : PreparedUpdate verify encoding target true files update
      ∧ update.license = free.source := by
  obtain ⟨_, hb, hac⟩ := bind_eq_ok (silent_require _ _) hac
  obtain ⟨_, hf, hac⟩ := bind_eq_ok (silent_require _ _) hac
  have free := require_eq_ok hf
  rw [Bool.and_eq_true, Bool.and_eq_true] at free
  obtain ⟨prepared, hp, hac⟩ :=
    bind_eq_ok (silent_prepareUpdate current now false) hac
  obtain ⟨update, hm, hpl⟩ := prepareUpdate_eq_ok hp true
  obtain ⟨state, hs, hac⟩ := bind_eq_ok (silent_lift _) hac
  obtain ⟨rfl, _⟩ := decodeState_eq_ok hs
  obtain ⟨audits, ha, rfl⟩ := attachImportAudit_eq_ok hac
  exact ⟨{ update with
    documentBytes := require_eq_ok hb
    history := .inr ⟨rfl, hm.switches hh hr free.1.1⟩
    audits := .inr ⟨audits, rfl, rfl, ha, rfl⟩ }, rfl⟩

theorem follows_commitFreeSwitch (hl : mode.lease)
    (switching : mode.switching) (current free : VerifiedProductLicense verify)
    (hd : mode.document = some free.source) (now : Int) (audit : LicenseImportAudit)
    : EndsIdle verify encoding target mode
        (commitFreeSwitch encoding target current free now audit) := by
  refine .bind
    (.read silent_requireNoPendingUpdate fun _ _ hi => requireNoPendingUpdate_eq_ok hi)
    fun _ => ?_
  refine .bind
    (.read (silent_validateSwitchSnapshot current now) fun _ _ hv =>
      validateSwitchSnapshot_recorded hv)
    fun _ => ?_
  refine .bind
    (.read (silent_prepareFreeSwitch current free now audit) fun _ _ => id)
    fun update => (follows_checkedUpdate hl update).weaken ?_ fun _ _ => id
  intro files before
  obtain ⟨⟨⟨_, idle⟩, history, hh, hr⟩, hu⟩ := before
  obtain ⟨prepared, same⟩ := prepareFreeSwitch_eq_ok hu hh hr
  rw [switching]
  exact ⟨idle, prepared, same ▸ hd⟩

end

section

variable {verify : List UInt8 → Option LicenseClaims} {encoding : LicenseEncoding} {target : String}

/-- The document that an operation makes the installed or the staged one by an intent. -/
def StoreOperation.document : StoreOperation verify → Option (List UInt8)
  | installDocument license _ | installDocumentWithAudit license _ _
  | stageDocumentWithAudit license _ _ | activateStagedDocument license _ => some license.source
  | _ => none

/-- The staged document that an operation leaves without an intent, if it writes one. -/
def StoreOperation.staging : StoreOperation verify → Option (Option (List UInt8))
  | stageDocument license _ => some (some license.source)
  | clearStagedDocument _ | activateStagedDocument _ _ => some none
  | _ => none

/-- The audit records that an acknowledgement keeps. -/
def StoreOperation.retained : StoreOperation verify → Option (PendingLicenseActivation → Bool)
  | acknowledgeActivationAudit expectedSha256 =>
    some fun event => event.importAudit.isSome || event.licenseSha256 ≠ expectedSha256
  | acknowledgeLicenseAudit expectedEventId => some fun event => event.eventId ≠ expectedEventId
  | _ => none

def StoreEvent.mode (exclusive : Bool) : StoreEvent verify → StoreMode
  | operation action =>
    ⟨exclusive, action.observes, false, action.document, action.staging, action.retained⟩
  | commitSwitch free => ⟨true, false, true, some free.source, none, none⟩
  | beginSwitch _ => ⟨exclusive, false, false, none, none, none⟩
  | guard _ | release _ | abandonSwitch => ⟨false, false, false, none, none, none⟩

open Durable (Permits)

theorem permits_of_silent {α : Type} {rule : LicenseFiles → FileWrite → Prop}
    {program : StoreProgram α} (silent : Durable.Silent program) (files : LicenseFiles)
    : Permits rule files (program files).1 := by
  rw [silent files]
  exact .nil files

theorem operationWrites_permits (lease : Bool) (files : LicenseFiles)
    (operation : StoreOperation verify)
    : Permits (FileStep verify encoding target ((StoreEvent.operation operation).mode lease)) files
        (operationWrites encoding target lease files operation) := by
  cases operation with
  | initializeState license now =>
    refine (follows_initializeState ?_ license now).permits files trivial
    rfl
  | validateDocumentProgress license =>
    exact permits_of_silent
      (Durable.silent_bind silent_requireNoPendingUpdate fun _ =>
        Durable.silent_bind silent_load fun _ => Durable.silent_lift _) files
  | validateReplacement license now =>
    exact permits_of_silent
      (Durable.silent_bind silent_requireNoPendingUpdate fun _ =>
        Durable.silent_bind silent_load fun _ => Durable.silent_lift _) files
  | checkAndObserve license now =>
    refine (follows_checkAndObserve ?_ license now).permits files trivial
    rfl
  | checkObserveAndTrackSeats license ho now =>
    refine (follows_checkObserveAndTrackSeats ?_ license ho now).permits files
      trivial
    rfl
  | acceptReplacement license now =>
    refine (follows_acceptReplacement ?_ license now).permits files trivial
    rfl
  | installDocument license now =>
    exact (follows_installDocument license now rfl).permits files trivial
  | installDocumentWithAudit license now audit =>
    exact (follows_installDocumentWithAudit license now rfl audit).permits files trivial
  | readCommittedDocument => exact follows_readCommittedDocument.permits files trivial
  | stageDocument license now =>
    exact (follows_stageDocument license now rfl).permits files trivial
  | stageDocumentWithAudit license now audit =>
    exact (follows_stageDocumentWithAudit license now rfl audit).permits files trivial
  | readStagedDocument => exact follows_readStagedDocument.permits files trivial
  | clearStagedDocument expected =>
    exact (follows_clearStagedDocument rfl expected).permits files trivial
  | pendingActivationAudits => exact follows_pendingActivationAudits.permits files trivial
  | acknowledgeActivationAudit expectedSha256 =>
    exact (follows_retainAudits rfl).permits files trivial
  | acknowledgeLicenseAudit expectedEventId =>
    exact (follows_retainAudits rfl).permits files trivial
  | activateStagedDocument license now =>
    exact (follows_activateStagedDocument license now rfl rfl).permits files trivial
  | beginFreeSwitch current now =>
    exact (follows_beginFreeSwitch current now).permits files trivial

/-- Every step of the store writes what the rule permits and changes nothing else. -/
theorem StoreStep.permits {system next : StoreSystem verify}
    (step : StoreStep encoding target system (event, writes) next)
    : Permits (FileStep verify encoding target (event.mode system.exclusive)) system.files writes
      ∧ next.files = Durable.after system.files writes := by
  cases step with
  | operation operation stopped =>
    exact ⟨(operationWrites_permits _ _ operation).stopped stopped, rfl⟩
  | guard license checkTarget now hg => exact ⟨.nil _, rfl⟩
  | release guard => exact ⟨.nil _, rfl⟩
  | beginSwitch current now hg =>
    have permits :=
      @operationWrites_permits verify encoding target system.exclusive system.files
        (.beginFreeSwitch current now)
    rw [operationWrites, hg] at permits
    exact ⟨permits, rfl⟩
  | commitSwitch free now audit switching stopped =>
    refine ⟨Permits.stopped ?_ stopped, rfl⟩
    exact (follows_commitFreeSwitch rfl rfl _ free rfl now audit).permits system.files trivial
  | abandonSwitch => exact ⟨.nil _, rfl⟩

end

end AsterTeam
