import AsterTeam.LicenseState.Operations

/-! Every write of every operation, classified: the rule that the store keeps to, from which
all its properties follow.
-/

namespace AsterTeam

section

variable {verify : List UInt8 → Option LicenseClaims}

/-- The recorded history moves on to a document that the progress rule accepts. -/
inductive Observes (verify : List UInt8 → Option LicenseClaims)
    (digest : List UInt8 → String)
    : Option StateClaims → StateClaims → List UInt8 → Prop
  | first (license : VerifiedProductLicense verify) (now : Int)
    : Observes verify digest none (stateFromLicense digest license now) license.source
  | observed {current : StateClaims} (license : VerifiedProductLicense verify) (now : Int)
    (seats : Option Int) (advances : current.Advances digest license)
    : Observes verify digest (some current)
        { observed digest current license now with seatOverLimitFirstObservedAt := seats }
        license.source

/-- The recorded history is switched to a public free document. -/
inductive Switches (verify : List UInt8 → Option LicenseClaims)
    (digest : List UInt8 → String)
    : Option StateClaims → StateClaims → List UInt8 → Prop
  | switched {current : StateClaims} (license free : VerifiedProductLicense verify)
    (now : Int) (recorded : current.lastLicenseSha256 = some (digest license.source))
    (advances : current.Advances digest license) (isFree : isPublicFree free = true)
    : Switches verify digest (some current)
        (switchedHistory digest (observed digest current license now) free) free.source

/-- What an operation may do: whether it has the exclusive lease, whether it records
observations and whether it switches to a free document; the document of its update, what it
leaves as the staged document, and which audit records it keeps.
-/
structure StoreMode where
  (lease observing switching : Bool)
  document : Option (List UInt8)
  staging : Option (Option (List UInt8))
  retained : Option (PendingLicenseActivation → Bool)

def LicenseFiles.auditEvents (files : LicenseFiles) : List PendingLicenseActivation :=
  files.activation.elim [] (·.events)

variable (verify) (encoding : LicenseEncoding) (target : String)

structure PreparedAudits (files : LicenseFiles) (audits : ActivationAuditClaims) : Prop where
  valid : audits.valid target = true
  bytes : encoding.auditsBytes audits ≤ maxActivationAuditBytes
  present : ∀ content ∈ files.activation, encoding.auditsBytes content ≤ maxActivationAuditBytes

structure PreparedUpdate (switching : Bool) (files : LicenseFiles) (update : UpdateClaims)
    : Prop where
  isTarget : update.target = target
  documentBytes : decodableBytes update.license.length maxLicenseDocumentBytes = true
  history
    : Observes verify encoding.digest files.history update.state update.license
      ∨ switching = true ∧ Switches verify encoding.digest files.history update.state update.license
  recorded : ∀ history ∈ files.history, history.valid = true
  installed : files.history = none → files.license = none
  previousLicense : update.previousLicenseSha256 = files.license.map encoding.digest
  previousState : update.previousStateSha256 = files.history.map encoding.stateDigest
  licenseBytes : ∀ content ∈ files.license, content.length ≤ maxLicenseDocumentBytes
  historyBytes : ∀ content ∈ files.history, encoding.stateBytes content ≤ maxStateBytes
  audits
    : update.schema = .update ∧ update.activationAudits = none
        ∧ update.previousAuditsSha256 = none
      ∨ ∃ audits,
          update.schema = .importUpdate ∧ update.activationAudits = some audits
          ∧ PreparedAudits encoding target files audits
          ∧ update.previousAuditsSha256 = files.activation.map encoding.auditsDigest

structure PreparedStagedUpdate (files : LicenseFiles) (update : StagedUpdateClaims)
    : Prop where
  isTarget : update.target = target
  staged : update.staged.valid encoding target = true
  audits : PreparedAudits encoding target files update.activationAudits
  previousStaged : update.previousStagedSha256 = files.staged.map encoding.stagedDigest
  previousAudits : update.previousAuditsSha256 = files.activation.map encoding.auditsDigest
  stagedBytes
    : ∀ content ∈ files.staged, stagedContentBytes encoding content ≤ maxStagedBytes
  intentBytes : encoding.intentBytes (.stagedUpdate update) ≤ maxJournalBytes

/-- The writes that the store permits. An intent is recorded only over an idle store and
for the document of the operation; while it is pending the files are replaced in a fixed order;
everything that concerns an update needs the exclusive lease; and without an intent only the
staging and acknowledging operations write, each its own file.
-/
inductive FileStep (mode : StoreMode) : LicenseFiles → FileWrite → Prop
  | observe {files : LicenseFiles} {history : StateClaims} {source : List UInt8}
    (observing : mode.observing = true) (idle : files.pending = none)
    (moves : Observes verify encoding.digest files.history history source)
    (leased : mode.lease = true
        ∨ ∃ current ∈ files.history, current.lastLicenseSha256 = history.lastLicenseSha256)
    : FileStep mode files (.history history)
  | intend {files : LicenseFiles} {update : UpdateClaims} (leased : mode.lease = true)
    (idle : files.pending = none)
    (prepared : PreparedUpdate verify encoding target mode.switching files update)
    (document : mode.document = some update.license)
    : FileStep mode files (.pending (some (.update update)))
  | history {files : LicenseFiles} {update : UpdateClaims} (leased : mode.lease = true)
    (pending : files.pending = some (.update update))
    : FileStep mode files (.history update.state)
  | license {files : LicenseFiles} {update : UpdateClaims} (leased : mode.lease = true)
    (pending : files.pending = some (.update update)) (history : files.history = some update.state)
    : FileStep mode files (.license update.license)
  | activation {files : LicenseFiles} {update : UpdateClaims} {audits : ActivationAuditClaims}
    (leased : mode.lease = true) (pending : files.pending = some (.update update))
    (history : files.history = some update.state) (license : files.license = some update.license)
    (isAudits : update.activationAudits = some audits)
    : FileStep mode files (.activation audits)
  | finish {files : LicenseFiles} {update : UpdateClaims} (leased : mode.lease = true)
    (pending : files.pending = some (.update update)) (history : files.history = some update.state)
    (license : files.license = some update.license)
    (activation : ∀ audits ∈ update.activationAudits, files.activation = some audits)
    : FileStep mode files (.pending none)
  | intendStaged {files : LicenseFiles} {update : StagedUpdateClaims}
    (leased : mode.lease = true) (idle : files.pending = none)
    (prepared : PreparedStagedUpdate encoding target files update)
    (document : mode.document = some update.staged.license)
    : FileStep mode files (.pending (some (.stagedUpdate update)))
  | stagedFile {files : LicenseFiles} {update : StagedUpdateClaims}
    (leased : mode.lease = true) (pending : files.pending = some (.stagedUpdate update))
    : FileStep mode files (.staged (some update.staged))
  | stagedActivation {files : LicenseFiles} {update : StagedUpdateClaims}
    (leased : mode.lease = true) (pending : files.pending = some (.stagedUpdate update))
    (staged : files.staged = some (some update.staged))
    : FileStep mode files (.activation update.activationAudits)
  | finishStaged {files : LicenseFiles} {update : StagedUpdateClaims}
    (leased : mode.lease = true) (pending : files.pending = some (.stagedUpdate update))
    (staged : files.staged = some (some update.staged))
    (activation : files.activation = some update.activationAudits)
    : FileStep mode files (.pending none)
  | stage {files : LicenseFiles} {content : Option StagedClaims}
    (idle : files.pending = none) (staging : mode.staging = some (content.map (·.license)))
    : FileStep mode files (.staged content)
  | acknowledge {files : LicenseFiles} {audits : ActivationAuditClaims}
    {kept : PendingLicenseActivation → Bool} (idle : files.pending = none)
    (retained : mode.retained = some kept)
    (events : audits.events = files.auditEvents.filter kept)
    : FileStep mode files (.activation audits)

end

section

variable {verify : List UInt8 → Option LicenseClaims} {encoding : LicenseEncoding} {target : String}

open Durable (Silent silent_get silent_lift silent_require silent_pure silent_bind bind_eq_ok
  require_eq_ok)

theorem readOptional_eq_ok {α : Type} {limit : Nat} {size : α → Nat}
    {content result : Option α} (ha : readOptional limit size content = .ok result)
    : result = content ∧ ∀ value ∈ content, size value ≤ limit := by
  cases content with
  | none =>
    cases ha
    exact ⟨rfl, nofun⟩
  | some value =>
    rw [readOptional] at ha
    split_ifs at ha with large
    cases ha
    refine ⟨rfl, fun other same => ?_⟩
    cases same
    exact Nat.le_of_not_lt large

theorem silent_readLicense : Silent readLicense := silent_bind silent_get fun _ => silent_lift _

theorem silent_readHistory : Silent (readHistory encoding) :=
  silent_bind silent_get fun _ => silent_lift _

theorem silent_readPending : Silent (readPending encoding) :=
  silent_bind silent_get fun _ => silent_lift _

theorem silent_readStagedFile : Silent (readStagedFile encoding) :=
  silent_bind silent_get fun _ => silent_lift _

theorem silent_readActivationFile : Silent (readActivationFile encoding) :=
  silent_bind silent_get fun _ => silent_lift _

variable {files : LicenseFiles}

theorem readLicense_eq_ok (ha : (readLicense files).2 = .ok result)
    : result = files.license
      ∧ ∀ content ∈ files.license, content.length ≤ maxLicenseDocumentBytes := by
  obtain ⟨_, hf, ha⟩ := bind_eq_ok silent_get ha
  cases hf
  exact readOptional_eq_ok ha

theorem readHistory_eq_ok (ha : (readHistory encoding files).2 = .ok result)
    : result = files.history
      ∧ ∀ content ∈ files.history, encoding.stateBytes content ≤ maxStateBytes := by
  obtain ⟨_, hf, ha⟩ := bind_eq_ok silent_get ha
  cases hf
  exact readOptional_eq_ok ha

theorem readPending_eq_ok (ha : (readPending encoding files).2 = .ok result)
    : result = files.pending := by
  obtain ⟨_, hf, ha⟩ := bind_eq_ok silent_get ha
  cases hf
  exact (readOptional_eq_ok ha).1

theorem readStagedFile_eq_ok (ha : (readStagedFile encoding files).2 = .ok result)
    : result = files.staged
      ∧ ∀ content ∈ files.staged, stagedContentBytes encoding content ≤ maxStagedBytes := by
  obtain ⟨_, hf, ha⟩ := bind_eq_ok silent_get ha
  cases hf
  exact readOptional_eq_ok ha

theorem readActivationFile_eq_ok (ha : (readActivationFile encoding files).2 = .ok result)
    : result = files.activation
      ∧ ∀ content ∈ files.activation, encoding.auditsBytes content ≤ maxActivationAuditBytes := by
  obtain ⟨_, hf, ha⟩ := bind_eq_ok silent_get ha
  cases hf
  exact readOptional_eq_ok ha

variable {claims : StateClaims}

theorem decodeState_eq_ok (ha : decodeState claims = .ok decoded)
    : decoded = claims ∧ claims.valid := by
  unfold decodeState at ha
  split_ifs at ha with valid
  exact ⟨(Except.ok.inj ha).symm, valid⟩

theorem StateClaims.identified_of_valid (valid : claims.valid) : claims.Identified := by
  simp only [StateClaims.valid, Bool.and_eq_true] at valid
  refine ⟨valid.1.1.2, ?_⟩
  cases hi : claims.lastLicenseId with
  | none => simp [hi] at valid
  | some id => rfl

theorem silent_load : Silent (load encoding) := by
  refine silent_bind silent_readHistory fun history => ?_
  cases history with
  | none => exact silent_lift _
  | some history => exact silent_lift _

theorem load_eq_ok (ha : (load encoding files).2 = .ok current)
    : files.history = some current ∧ current.valid := by
  obtain ⟨hre, hr, ha⟩ := bind_eq_ok silent_readHistory ha
  have hh := (readHistory_eq_ok hr).1
  cases hre with
  | none => cases ha
  | some history =>
    obtain ⟨rfl, valid⟩ := decodeState_eq_ok ha
    exact ⟨hh.symm, valid⟩

theorem silent_requireNoPendingUpdate : Silent (requireNoPendingUpdate encoding) := by
  refine silent_bind silent_readPending fun intent => ?_
  cases intent with
  | none => exact silent_pure _
  | some intent => exact silent_lift _

theorem requireNoPendingUpdate_eq_ok (ha : (requireNoPendingUpdate encoding files).2 = .ok value)
    : files.pending = none := by
  obtain ⟨intent, hi, ha⟩ := bind_eq_ok silent_readPending ha
  cases intent with
  | none => exact (readPending_eq_ok hi).symm
  | some intent => cases ha

theorem silent_readActivationAudits : Silent (readActivationAudits encoding target) := by
  refine silent_bind silent_readActivationFile fun claims => ?_
  cases claims with
  | none => exact silent_pure _
  | some claims => exact silent_bind (silent_require _ _) fun _ => silent_pure _

theorem readActivationAudits_eq_ok
    (ha : (readActivationAudits encoding target files).2 = .ok events)
    : events = files.auditEvents
      ∧ ∀ content ∈ files.activation, encoding.auditsBytes content ≤ maxActivationAuditBytes := by
  obtain ⟨claims, hf, ha⟩ := bind_eq_ok silent_readActivationFile ha
  obtain ⟨rfl, bytes⟩ := readActivationFile_eq_ok hf
  refine ⟨?_, bytes⟩
  unfold LicenseFiles.auditEvents
  cases hc : files.activation with
  | none =>
    rw [hc] at ha
    exact (Except.ok.inj ha).symm
  | some claims =>
    rw [hc] at ha
    obtain ⟨_, _, ha⟩ := bind_eq_ok (silent_require _ _) ha
    exact (Except.ok.inj ha).symm

variable {audits : ActivationAuditClaims}

theorem encodeActivationAudits_eq_ok
    (ha : encodeActivationAudits encoding target events = .ok audits)
    : audits.valid target ∧ encoding.auditsBytes audits ≤ maxActivationAuditBytes
      ∧ audits.events = events := by
  unfold encodeActivationAudits at ha
  dsimp only at ha
  split_ifs at ha with large invalid
  rw [← Except.ok.inj ha]
  exact ⟨by simpa using invalid, Nat.le_of_not_lt large, rfl⟩

theorem silent_prepareImportAudits (license : VerifiedProductLicense verify) (now : Int)
    (audit : LicenseImportAudit)
    : Silent (prepareImportAudits encoding target license now audit) :=
  silent_bind (silent_require _ _) fun _ =>
    silent_bind silent_readActivationAudits fun _ => silent_lift _

variable {license : VerifiedProductLicense verify} {now : Int}

theorem prepareImportAudits_eq_ok
    (ha : (prepareImportAudits encoding target license now audit files).2 = .ok audits)
    : PreparedAudits encoding target files audits := by
  obtain ⟨_, _, ha⟩ := bind_eq_ok (silent_require _ _) ha
  obtain ⟨events, he, ha⟩ := bind_eq_ok silent_readActivationAudits ha
  obtain ⟨valid, bytes, _⟩ := encodeActivationAudits_eq_ok ha
  exact ⟨valid, bytes, (readActivationAudits_eq_ok he).2⟩

theorem silent_recordActivation (license : VerifiedProductLicense verify) (now : Int)
    : Silent (recordActivation encoding target license now) := by
  refine silent_bind silent_readActivationAudits fun events => ?_
  split
  · exact silent_lift _
  · exact silent_bind (silent_require _ _) fun _ => silent_lift _

theorem recordActivation_eq_ok
    (ha : (recordActivation encoding target license now files).2 = .ok audits)
    : PreparedAudits encoding target files audits := by
  obtain ⟨events, he, ha⟩ := bind_eq_ok silent_readActivationAudits ha
  have present := (readActivationAudits_eq_ok he).2
  split at ha
  · obtain ⟨valid, bytes, _⟩ := encodeActivationAudits_eq_ok ha
    exact ⟨valid, bytes, present⟩
  · obtain ⟨_, _, ha⟩ := bind_eq_ok (silent_require _ _) ha
    obtain ⟨valid, bytes, _⟩ := encodeActivationAudits_eq_ok ha
    exact ⟨valid, bytes, present⟩

theorem nextHistory_eq_ok (ha : nextHistory encoding license now installed recorded = .ok state)
    : Observes verify encoding.digest recorded state license.source
      ∧ (∀ history ∈ recorded, history.valid)
      ∧ (recorded = none → installed = none) := by
  unfold nextHistory at ha
  cases recorded with
  | none =>
    dsimp only at ha
    split_ifs at ha with absent
    rw [← Except.ok.inj ha]
    exact ⟨.first license now, nofun, fun _ => Option.isNone_iff_eq_none.mp absent⟩
  | some history =>
    dsimp only at ha
    cases hd : decodeState history with
    | error error =>
      rw [hd] at ha
      cases ha
    | ok current =>
      rw [hd] at ha
      obtain ⟨rfl, valid⟩ := decodeState_eq_ok hd
      obtain ⟨had, rfl⟩ := observe_eq_ok ha (StateClaims.identified_of_valid valid)
      refine ⟨.observed license now _ had, ?_, nofun⟩
      intro other same
      cases same
      exact valid

theorem silent_prepareUpdate (license : VerifiedProductLicense verify) (now : Int)
    (withActivation : Bool)
    : Silent (prepareUpdate encoding target license now withActivation) := by
  refine silent_bind (silent_require _ _) fun _ => silent_bind silent_readLicense fun _ =>
    silent_bind silent_readHistory fun _ => silent_bind (silent_lift _) fun _ => ?_
  split
  · exact silent_bind silent_readActivationFile fun _ =>
      silent_bind (silent_recordActivation license now) fun _ => silent_pure _
  · exact silent_pure _

variable {update : UpdateClaims}

theorem prepareUpdate_eq_ok
    (hac : (prepareUpdate encoding target license now withActivation files).2 = .ok update)
    (switching : Bool)
    : PreparedUpdate verify encoding target switching files update
      ∧ Observes verify encoding.digest files.history update.state license.source
      ∧ (withActivation = false → update.schema = .update ∧ update.activationAudits = none)
      ∧ update.license = license.source := by
  obtain ⟨_, hb, hac⟩ := bind_eq_ok (silent_require _ _) hac
  have documentBytes := require_eq_ok hb
  obtain ⟨installed, hi, hac⟩ := bind_eq_ok silent_readLicense hac
  obtain ⟨rfl, licenseBytes⟩ := readLicense_eq_ok hi
  obtain ⟨hre, hr, hac⟩ := bind_eq_ok silent_readHistory hac
  obtain ⟨rfl, historyBytes⟩ := readHistory_eq_ok hr
  obtain ⟨state, hs, hac⟩ := bind_eq_ok (silent_lift _) hac
  obtain ⟨hm, valid, absent⟩ := nextHistory_eq_ok hs
  split at hac
  next activates =>
    obtain ⟨previous, hp, hac⟩ := bind_eq_ok silent_readActivationFile hac
    obtain ⟨rfl, _⟩ := readActivationFile_eq_ok hp
    obtain ⟨audits, ha, hac⟩ :=
      bind_eq_ok (silent_recordActivation license now) hac
    cases hac
    refine ⟨⟨rfl, documentBytes, .inl hm, valid, absent, rfl, rfl, licenseBytes,
      historyBytes, .inr ⟨audits, rfl, rfl, recordActivation_eq_ok ha, rfl⟩⟩, hm,
      ?_, rfl⟩
    intro hpl
    rw [activates] at hpl
    cases hpl
  next =>
    cases hac
    exact ⟨⟨rfl, documentBytes, .inl hm, valid, absent, rfl, rfl, licenseBytes,
      historyBytes, .inl ⟨rfl, rfl, rfl⟩⟩, hm, fun _ => ⟨rfl, rfl⟩, rfl⟩

theorem silent_attachImportAudit (update : UpdateClaims)
    (license : VerifiedProductLicense verify) (now : Int) (audit : LicenseImportAudit)
    : Silent (attachImportAudit encoding target update license now audit) :=
  silent_bind (silent_prepareImportAudits license now audit) fun _ =>
    silent_bind silent_readActivationFile fun _ => silent_pure _

variable {prepared : UpdateClaims}

/-- Attaching audit records changes only these. -/
theorem attachImportAudit_eq_ok
    (hac : (attachImportAudit encoding target prepared license now audit files).2 = .ok update)
    : ∃ audits,
        PreparedAudits encoding target files audits
        ∧ update
          = { prepared with
              schema := .importUpdate
              previousAuditsSha256 := files.activation.map encoding.auditsDigest
              activationAudits := some audits } := by
  obtain ⟨audits, ha, hac⟩ :=
    bind_eq_ok (silent_prepareImportAudits license now audit) hac
  obtain ⟨previous, hp, hac⟩ := bind_eq_ok silent_readActivationFile hac
  obtain ⟨rfl, _⟩ := readActivationFile_eq_ok hp
  cases hac
  exact ⟨audits, prepareImportAudits_eq_ok ha, rfl⟩

theorem PreparedUpdate.attach
    (update : PreparedUpdate verify encoding target switching files prepared)
    (hp : PreparedAudits encoding target files audits)
    : PreparedUpdate verify encoding target switching files
        { prepared with
          schema := .importUpdate
          previousAuditsSha256 := files.activation.map encoding.auditsDigest
          activationAudits := some audits } :=
  { update with audits := .inr ⟨audits, rfl, rfl, hp, rfl⟩ }

end

end AsterTeam
