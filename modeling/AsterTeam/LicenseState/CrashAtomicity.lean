import AsterTeam.LicenseState.MutationGuard

/-! Updates are atomic although files are replaced one at a time: the files with their
pending intent carried out change by whole updates only, and recovery reaches them from
wherever an operation has stopped.
-/

namespace AsterTeam

open LicenseFiles

/-- The number of characters of an encoded file inside an intent. -/
def base64Bytes (bytes : Nat) : Nat := (4 * bytes + 2) / 3

/-- What the sizes of the encoded records are bounded by. The target is a path, which the
systems limit to 32767 units of at most three bytes each; every other text is of bounded
length, and the files inside an intent are encoded.
-/
structure LicenseEncoding.Bounded (encoding : LicenseEncoding) (target : String)
    (targetBytes : Nat)
    : Prop where
  path : targetBytes ≤ 98304
  state
    : ∀ claims source,
        claims.valid = true → claims.lastLicenseSha256 = some (encoding.digest source)
        → 0 < encoding.stateBytes claims ∧ encoding.stateBytes claims ≤ 2048
  audits
    : ∀ claims,
        claims.valid target = true
        → 0 < encoding.auditsBytes claims ∧ targetBytes ≤ encoding.auditsBytes claims
  staged
    : ∀ claims,
        claims.valid encoding target = true
        → 0 < encoding.stagedBytes claims
          ∧ encoding.stagedBytes claims ≤ 2048 + targetBytes + base64Bytes claims.license.length
  update
    : ∀ claims,
        claims.target = target
        → encoding.intentBytes (.update claims)
          ≤ 2048 + targetBytes + base64Bytes claims.license.length
            + base64Bytes (encoding.stateBytes claims.state)
            + claims.activationAudits.elim 0 fun audits =>
                base64Bytes (encoding.auditsBytes audits)

/-- The files after an intent is carried out as a whole. -/
def LicenseFiles.commit (files : LicenseFiles) : LicenseIntent → LicenseFiles
  | .update update =>
    { files with
      license := some update.license
      history := some update.state
      activation := update.activationAudits.or files.activation
      pending := none }
  | .stagedUpdate update =>
    { files with
      staged := some (some update.staged)
      activation := some update.activationAudits
      pending := none }

def LicenseFiles.committed (files : LicenseFiles) : LicenseFiles :=
  match files.pending with
  | none => files
  | some intent => files.commit intent

def LicenseIntent.document : LicenseIntent → List UInt8
  | update claims => claims.license
  | stagedUpdate claims => claims.staged.license

def writtenIntent : FileWrite → Option LicenseIntent
  | .pending intent => intent
  | _ => none

section

variable {verify : List UInt8 → Option LicenseClaims} {encoding : LicenseEncoding} {target : String}
  {files : LicenseFiles}

/-- The machine of whole updates; a label tells which event writes and which intent is carried
out. Only an update changes the installed files, and its document is the one of the event; the
staged document changes alone for the staging events and the audit records for the
acknowledgements, which drop records and add none.
-/
inductive CommitStep
    : LicenseFiles → StoreEvent verify × Option LicenseIntent → LicenseFiles → Prop
  | unchanged (files : LicenseFiles) (event : StoreEvent verify)
    : CommitStep files (event, none) files
  | commit {files : LicenseFiles} {event : StoreEvent verify} {intent : LicenseIntent}
    {lease : Bool} (document : (event.mode lease).document = some intent.document)
    : CommitStep files (event, some intent) (files.commit intent)
  | stage {files : LicenseFiles} {event : StoreEvent verify} {content : Option StagedClaims}
    {lease : Bool} (staging : (event.mode lease).staging = some (content.map (·.license)))
    : CommitStep files (event, none) { files with staged := some content }
  | acknowledge {files : LicenseFiles} {event : StoreEvent verify}
    {audits : ActivationAuditClaims} {kept : PendingLicenseActivation → Bool} {lease : Bool}
    (retained : (event.mode lease).retained = some kept)
    (events : audits.events = files.auditEvents.filter kept)
    : CommitStep files (event, none) { files with activation := some audits }

variable {event : StoreEvent verify} {lease : Bool}

theorem LicenseFiles.committed_of_idle (idle : files.pending = none) : files.committed = files := by
  unfold LicenseFiles.committed
  rw [idle]

theorem LicenseFiles.committed_of_pending (hp : files.pending = some intent)
    : files.committed = files.commit intent := by
  unfold LicenseFiles.committed
  rw [hp]

/-- A write changes the committed files by a whole update or not at all. -/
theorem FileStep.commitStep
    (hp : FileStep verify encoding target (event.mode lease) files change)
    (hu : (event.mode lease).observing = false)
    : CommitStep files.committed (event, writtenIntent change)
        (Durable.Disk.apply files change).committed := by
  have resumed {intent : LicenseIntent} {next : LicenseFiles}
      (before : files.pending = some intent) (after : next.pending = some intent)
      (same : next.commit intent = files.commit intent)
      : CommitStep files.committed (event, none) next.committed := by
    rw [committed_of_pending before, committed_of_pending after, same]
    exact .unchanged _ event
  have finished {intent : LicenseIntent} (before : files.pending = some intent)
      (done : files.commit intent = { files with pending := none })
      : CommitStep files.committed (event, none) { files with pending := none }.committed := by
    rw [committed_of_pending before, done]
    exact .unchanged _ event
  have hs {next : LicenseFiles} (before : files.pending = none)
      (after : next.pending = none) (step : CommitStep files (event, none) next)
      : CommitStep files.committed (event, none) next.committed := by
    rw [committed_of_idle before, committed_of_idle after]
    exact step
  cases hp with
  | observe ho =>
    rw [hu] at ho
    cases ho
  | intend hl idle _ document =>
    rw [committed_of_idle idle]
    exact .commit document
  | history hl hpe => exact resumed hpe hpe rfl
  | license hl hpe => exact resumed hpe hpe rfl
  | activation hl hpe history license ha =>
    refine resumed hpe hpe ?_
    simp [LicenseFiles.commit, Durable.Disk.apply, ha]
  | @finish update hl hpe history license activation =>
    refine finished hpe ?_
    cases ha : update.activationAudits with
    | none => simp [LicenseFiles.commit, ha, history, license]
    | some audits =>
      have hac := activation audits ha
      simp [LicenseFiles.commit, ha, history, license, hac]
  | intendStaged hl idle _ document =>
    rw [committed_of_idle idle]
    exact .commit document
  | stagedFile hl hpe => exact resumed hpe hpe rfl
  | stagedActivation hl hpe => exact resumed hpe hpe rfl
  | finishStaged hl hpe hst activation =>
    refine finished hpe ?_
    simp [LicenseFiles.commit, hst, activation]
  | stage idle staging => exact hs idle idle (.stage staging)
  | acknowledge idle retained events => exact hs idle idle (.acknowledge retained events)

/-- A file that recovery accepts: readable, and the one from before or the new one. -/
structure ExpectedFile {α : Type} (limit : Nat) (size : α → Nat) (digest : α → String)
    (current : Option α) (previous : Option String) (next : α)
    : Prop where
  bytes : ∀ content ∈ current, size content ≤ limit
  expected : current.map digest = previous ∨ current = some next

variable {α : Type} {limit : Nat} {size : α → Nat} {digest : α → String}

theorem ExpectedFile.new (bytes : size next ≤ limit)
    : ExpectedFile limit size digest (some next) previous next := by
  refine ⟨fun content hc => ?_, .inr rfl⟩
  cases hc
  exact bytes

theorem readOptional_of_le (bytes : ∀ value ∈ content, size value ≤ limit)
    : readOptional limit size content = .ok content := by
  cases content with
  | none => rfl
  | some value =>
    rw [readOptional, if_neg (Nat.not_lt.mpr (bytes value rfl))]

theorem requireExpectedFile_of_expected [DecidableEq α]
    (file : ExpectedFile limit size digest current previous next)
    : requireExpectedFile limit size digest current previous next = .ok () := by
  unfold requireExpectedFile
  rw [readOptional_of_le file.bytes]
  dsimp only
  rw [if_neg]
  intro neither
  rcases file.expected with before | after
  · exact neither.1 before
  · exact neither.2 after

/-- An update that recovery carries out on the files. -/
structure ResumableUpdate (encoding : LicenseEncoding) (target : String)
    (files : LicenseFiles) (update : UpdateClaims)
    : Prop where
  isTarget : update.target = target
  documentBytes : decodableBytes update.license.length maxLicenseDocumentBytes = true
  stateBytes : decodableBytes (encoding.stateBytes update.state) maxStateBytes = true
  stateValid : update.state.valid = true
  audits
    : ∀ audits ∈ update.activationAudits,
        decodableBytes (encoding.auditsBytes audits) maxActivationAuditBytes = true
        ∧ audits.valid target = true
  activation
    : update.schema = .update ∧ update.previousAuditsSha256 = none
      ∨ ∃ audits,
          update.schema = .importUpdate ∧ update.activationAudits = some audits
          ∧ ExpectedFile maxActivationAuditBytes encoding.auditsBytes encoding.auditsDigest
              files.activation update.previousAuditsSha256 audits
  license
    : ExpectedFile maxLicenseDocumentBytes List.length encoding.digest files.license
        update.previousLicenseSha256 update.license
  history
    : ExpectedFile maxStateBytes encoding.stateBytes encoding.stateDigest files.history
        update.previousStateSha256 update.state
  intentBytes : encoding.intentBytes (.update update) ≤ maxJournalBytes

variable {bytes : Nat}

theorem le_of_decodableBytes (hd : decodableBytes bytes limit) : bytes ≤ limit := by
  simp only [decodableBytes, Bool.and_eq_true, decide_eq_true_eq] at hd
  exact hd.2

variable {update : UpdateClaims}

theorem checkUpdate_of_resumable (resumable : ResumableUpdate encoding target files update)
    : checkUpdate encoding target files update = .ok () := by
  have auditsBytes
      : (update.activationAudits.any fun audits =>
          !decodableBytes (encoding.auditsBytes audits) maxActivationAuditBytes) = false := by
    cases ha : update.activationAudits with
    | none => rfl
    | some audits => simp [(resumable.audits audits ha).1]
  have hau
      : (update.activationAudits.any fun audits => !audits.valid target) = false := by
    cases ha : update.activationAudits with
    | none => rfl
    | some audits => simp [(resumable.audits audits ha).2]
  have license := requireExpectedFile_of_expected resumable.license
  have history := requireExpectedFile_of_expected resumable.history
  unfold checkUpdate
  rcases resumable.activation with ⟨schema, previous⟩ | ⟨audits, schema, ha, activation⟩
  · simp [resumable.isTarget, resumable.documentBytes, resumable.stateBytes,
      resumable.stateValid, auditsBytes, hau, schema, previous, license, history]
    rfl
  · have activation := requireExpectedFile_of_expected activation
    rw [ha] at auditsBytes hau
    simp [resumable.isTarget, resumable.documentBytes, resumable.stateBytes, resumable.stateValid,
      auditsBytes, hau, schema, ha, license, history, activation]
    rfl

structure ResumableStagedUpdate (encoding : LicenseEncoding) (target : String)
    (files : LicenseFiles) (update : StagedUpdateClaims)
    : Prop where
  isTarget : update.target = target
  stagedBytes : decodableBytes (encoding.stagedBytes update.staged) maxStagedBytes = true
  auditsBytes
    : decodableBytes (encoding.auditsBytes update.activationAudits) maxActivationAuditBytes = true
  stagedValid : update.staged.valid encoding target = true
  auditsValid : update.activationAudits.valid target = true
  staged
    : ExpectedFile maxStagedBytes (stagedContentBytes encoding) encoding.stagedDigest
        files.staged update.previousStagedSha256 (some update.staged)
  activation
    : ExpectedFile maxActivationAuditBytes encoding.auditsBytes encoding.auditsDigest
        files.activation update.previousAuditsSha256 update.activationAudits
  intentBytes : encoding.intentBytes (.stagedUpdate update) ≤ maxJournalBytes

theorem checkStagedUpdate_of_resumable {update : StagedUpdateClaims}
    (resumable : ResumableStagedUpdate encoding target files update)
    : checkStagedUpdate encoding target files update = .ok () := by
  have hs := requireExpectedFile_of_expected resumable.staged
  have activation := requireExpectedFile_of_expected resumable.activation
  unfold checkStagedUpdate
  simp [resumable.isTarget, resumable.stagedBytes, resumable.auditsBytes,
    resumable.stagedValid, resumable.auditsValid, hs, activation]
  rfl

def LicenseFiles.Resumable (encoding : LicenseEncoding) (target : String)
    (files : LicenseFiles)
    : Prop :=
  ∀ intent, files.pending = some intent →
    match intent with
    | .update update => ResumableUpdate encoding target files update
    | .stagedUpdate update => ResumableStagedUpdate encoding target files update

/-- There is no document and no history, or a history of the document. -/
def LicenseFiles.Installed (encoding : LicenseEncoding) (files : LicenseFiles) : Prop :=
  files.license = none ∧ files.history = none
  ∨ ∃ source history,
      files.license = some source ∧ files.history = some history
      ∧ history.lastLicenseSha256 = some (encoding.digest source)
      ∧ history.valid = true ∧ source.length ≤ maxLicenseDocumentBytes

theorem observed_valid {current : StateClaims} {license : VerifiedProductLicense verify}
    (now : Int) (seats : Option Int) (valid : current.valid)
    : StateClaims.valid
        { observed encoding.digest current license now with
          seatOverLimitFirstObservedAt := seats } := by
  simp only [StateClaims.valid, Bool.and_eq_true, decide_eq_true_eq] at valid ⊢
  refine ⟨⟨⟨rfl, rfl⟩, ?_⟩, ?_⟩
  · simp [observed, license.claims.identified.1, license.claims.identified.2]
  · dsimp only [observed]
    split
    · exact license.claims.bounded
    · exact valid.2

theorem stateFromLicense_valid (license : VerifiedProductLicense verify) (now : Int)
    : (stateFromLicense encoding.digest license now).valid := by
  simp [StateClaims.valid, stateFromLicense, license.claims.identified.1,
    license.claims.identified.2, license.claims.bounded]

variable {switching : Bool}

variable (prepared : PreparedUpdate verify encoding target switching files update)

include prepared in
/-- The history of an update is valid and names the document of the update. -/
theorem PreparedUpdate.state
    : update.state.valid
      ∧ update.state.lastLicenseSha256 = some (encoding.digest update.license) := by
  have hre := prepared.recorded
  have hm := prepared.history
  generalize files.history = history at hre hm
  generalize update.state = state at hm ⊢
  generalize update.license = source at hm ⊢
  rcases hm with hm | ⟨_, hm⟩
  · cases hm with
    | first license now => exact ⟨stateFromLicense_valid license now, rfl⟩
    | observed license now seats ha =>
      exact ⟨observed_valid now seats (hre _ rfl), rfl⟩
  · cases hm with
    | @switched current license free now hr ha hf =>
      refine ⟨?_, rfl⟩
      have valid := @observed_valid verify encoding current license now none (hre _ rfl)
      simp only [StateClaims.valid, Bool.and_eq_true, decide_eq_true_eq] at valid ⊢
      refine ⟨⟨⟨valid.1.1.1, rfl⟩, ?_⟩, valid.2⟩
      simp [switchedHistory, free.claims.identified.1, free.claims.identified.2]

theorem decodableBytes_of (hp : 0 < bytes) (hs : bytes ≤ limit) : decodableBytes bytes limit := by
  simp [decodableBytes, hp, hs]

theorem expectedFile_of_previous (bytes : ∀ content ∈ current, size content ≤ limit)
    (hp : previous = current.map digest)
    : ExpectedFile limit size digest current previous next :=
  ⟨bytes, .inl hp.symm⟩

variable {targetBytes : Nat}

variable (sizes : encoding.Bounded target targetBytes)

include prepared in
include sizes in
/-- Everything that an intent can hold fits into the limits of its reader. -/
theorem PreparedUpdate.intentBytes : encoding.intentBytes (.update update) ≤ maxJournalBytes := by
  have bound := sizes.update update prepared.isTarget
  have document := le_of_decodableBytes prepared.documentBytes
  have state := (sizes.state _ _ prepared.state.1 prepared.state.2).2
  have path := sizes.path
  simp only [maxLicenseDocumentBytes, maxJournalBytes] at document ⊢
  rcases prepared.audits with ⟨_, ha, _⟩ | ⟨audits, _, ha, hw, _⟩
  · rw [ha, Option.elim_none] at bound
    simp only [base64Bytes] at bound
    omega
  · have hc := (sizes.audits audits hw.valid).2
    have hs := hw.bytes
    rw [ha, Option.elim_some] at bound
    simp only [base64Bytes] at bound
    simp only [maxActivationAuditBytes] at hs
    omega

include prepared in
include sizes in
theorem PreparedUpdate.resumable
    : ResumableUpdate encoding target { files with pending := some (.update update) } update := by
  obtain ⟨hpo, hs⟩ := sizes.state _ _ prepared.state.1 prepared.state.2
  have hau {audits : ActivationAuditClaims}
      (hw : PreparedAudits encoding target files audits)
      : decodableBytes (encoding.auditsBytes audits) maxActivationAuditBytes = true
        ∧ audits.valid target = true :=
    ⟨decodableBytes_of (sizes.audits audits hw.valid).1 hw.bytes, hw.valid⟩
  refine
    { isTarget := prepared.isTarget
      documentBytes := prepared.documentBytes
      stateBytes := decodableBytes_of hpo (hs.trans (by decide))
      stateValid := prepared.state.1
      audits := ?_
      activation := ?_
      license := expectedFile_of_previous prepared.licenseBytes prepared.previousLicense
      history := expectedFile_of_previous prepared.historyBytes prepared.previousState
      intentBytes := prepared.intentBytes sizes }
  · intro audits ha
    rcases prepared.audits with ⟨_, absent, _⟩ | ⟨hw, _, present, hp, _⟩
    · rw [absent] at ha
      cases ha
    · rw [present] at ha
      cases ha
      exact hau hp
  · rcases prepared.audits with
      ⟨schema, _, previous⟩ | ⟨audits, schema, present, hp, previous⟩
    · exact .inl ⟨schema, previous⟩
    · exact .inr ⟨audits, schema, present, expectedFile_of_previous hp.present previous⟩

include sizes in
theorem PreparedStagedUpdate.resumable {update : StagedUpdateClaims}
    (prepared : PreparedStagedUpdate encoding target files update)
    : ResumableStagedUpdate encoding target
        { files with pending := some (.stagedUpdate update) } update := by
  obtain ⟨hp, bound⟩ := sizes.staged _ prepared.staged
  obtain ⟨auditsPositive, hc⟩ := sizes.audits _ prepared.audits.valid
  have hsm := prepared.audits.bytes
  have hs := prepared.staged
  simp only [StagedClaims.valid, Bool.and_eq_true] at hs
  have document := le_of_decodableBytes hs.1.2
  refine
    { isTarget := prepared.isTarget
      stagedBytes := decodableBytes_of hp ?_
      auditsBytes := decodableBytes_of auditsPositive hsm
      stagedValid := prepared.staged
      auditsValid := prepared.audits.valid
      staged := expectedFile_of_previous prepared.stagedBytes prepared.previousStaged
      activation := expectedFile_of_previous prepared.audits.present prepared.previousAudits
      intentBytes := prepared.intentBytes }
  simp only [maxLicenseDocumentBytes, maxActivationAuditBytes, maxStagedBytes, base64Bytes]
    at document hsm bound ⊢
  omega

/-- Files from which recovery reaches a committed state. -/
structure LicenseFiles.Recoverable (encoding : LicenseEncoding) (target : String)
    (files : LicenseFiles)
    : Prop where
  resumable : files.Resumable encoding target
  installed : files.committed.Installed encoding

theorem LicenseFiles.Resumable.of_idle (idle : files.pending = none)
    : files.Resumable encoding target := by
  intro intent hp
  rw [idle] at hp
  cases hp

theorem LicenseFiles.Resumable.of_update (hpe : files.pending = some (.update update))
    (resumable : ResumableUpdate encoding target files update)
    : files.Resumable encoding target := by
  intro intent hp
  rw [hpe] at hp
  cases hp
  exact resumable

theorem LicenseFiles.Resumable.of_stagedUpdate {update : StagedUpdateClaims}
    (hpe : files.pending = some (.stagedUpdate update))
    (resumable : ResumableStagedUpdate encoding target files update)
    : files.Resumable encoding target := by
  intro intent hp
  rw [hpe] at hp
  cases hp
  exact resumable

include sizes in
/-- Recovery stays possible after every write. -/
theorem FileStep.resumable (hp : FileStep verify encoding target mode files change)
    (resumable : files.Resumable encoding target)
    : (Durable.Disk.apply files change).Resumable encoding target := by
  cases hp with
  | observe _ idle => exact .of_idle idle
  | intend hl idle prepared => exact .of_update rfl (prepared.resumable sizes)
  | history hl hpe =>
    have update := resumable _ hpe
    exact .of_update hpe { update with history := .new (le_of_decodableBytes update.stateBytes) }
  | license hl hpe =>
    have update := resumable _ hpe
    exact .of_update hpe { update with license := .new (le_of_decodableBytes update.documentBytes) }
  | @activation claims audits hl hpe history license ha =>
    have update := resumable _ hpe
    have bytes := le_of_decodableBytes (update.audits audits ha).1
    refine .of_update hpe { update with activation := ?_ }
    rcases update.activation with hpl | ⟨others, schema, present, _⟩
    · exact .inl hpl
    · rw [ha] at present
      cases present
      exact .inr ⟨audits, schema, ha, .new bytes⟩
  | finish => exact .of_idle rfl
  | intendStaged hl idle prepared =>
    exact .of_stagedUpdate rfl (prepared.resumable sizes)
  | stagedFile hl hpe =>
    have update := resumable _ hpe
    exact .of_stagedUpdate hpe
      { update with staged := .new (le_of_decodableBytes update.stagedBytes) }
  | stagedActivation hl hpe =>
    have update := resumable _ hpe
    exact .of_stagedUpdate hpe
      { update with activation := .new (le_of_decodableBytes update.auditsBytes) }
  | finishStaged => exact .of_idle rfl
  | stage idle => exact .of_idle idle
  | acknowledge idle => exact .of_idle idle

theorem CommitStep.installed {next : LicenseFiles} (step : CommitStep files (event, intent) next)
    (installed : files.Installed encoding) (other : ∀ update, intent ≠ some (.update update))
    : next.Installed encoding := by
  cases step with
  | unchanged => exact installed
  | @commit _ intent =>
    cases intent with
    | update update => exact absurd rfl (other update)
    | stagedUpdate update => exact installed
  | stage => exact installed
  | acknowledge => exact installed

include sizes in
theorem FileStep.recoverable
    (hp : FileStep verify encoding target (event.mode lease) files change)
    (hup : (event.mode lease).observing = false) (recoverable : files.Recoverable encoding target)
    : (Durable.Disk.apply files change).Recoverable encoding target := by
  refine ⟨hp.resumable sizes recoverable.resumable, ?_⟩
  have step := hp.commitStep hup
  by_cases hu : ∃ update, writtenIntent change = some (.update update)
  · obtain ⟨update, hu⟩ := hu
    cases hp with
    | intend hl idle prepared =>
      obtain ⟨valid, sha256⟩ := prepared.state
      exact .inr ⟨_, _, rfl, rfl, sha256, valid, le_of_decodableBytes prepared.documentBytes⟩
    | observe => cases hu
    | history => cases hu
    | license => cases hu
    | activation => cases hu
    | finish => cases hu
    | intendStaged => cases hu
    | stagedFile => cases hu
    | stagedActivation => cases hu
    | finishStaged => cases hu
    | stage => cases hu
    | acknowledge => cases hu
  · exact step.installed recoverable.installed fun update hw => hu ⟨update, hw⟩

open Durable (bind_of_ok)

variable (resumable : files.Resumable encoding target)

include resumable in
theorem readPending_of_resumable : readPending encoding files = ([], .ok files.pending) := by
  have bytes : ∀ intent ∈ files.pending, encoding.intentBytes intent ≤ maxJournalBytes := by
    intro intent hi
    have ha := resumable intent hi
    cases intent with
    | update update => exact ha.intentBytes
    | stagedUpdate update => exact ha.intentBytes
  change ([], readOptional maxJournalBytes encoding.intentBytes files.pending) = _
  rw [readOptional_of_le bytes]

theorem replaceFiles_commit (files : LicenseFiles) (update : UpdateClaims)
    : (replaceFiles update files).2 = .ok ()
      ∧ Durable.after files (replaceFiles update files).1 = files.commit (.update update) := by
  obtain ⟨schema, target, previousLicense, previousState, license, state, audits, previous⟩ :=
    update
  cases audits with
  | none => exact ⟨rfl, rfl⟩
  | some audits => exact ⟨rfl, rfl⟩

include resumable in
/-- Recovery with the lease succeeds and leaves the committed files. -/
theorem recoverUpdate_commits
    : (recoverUpdate encoding target true files).2 = .ok ()
      ∧ Durable.after files (recoverUpdate encoding target true files).1 = files.committed := by
  unfold recoverUpdate
  rw [bind_of_ok _ (readPending_of_resumable resumable)]
  cases hp : files.pending with
  | none =>
    rw [committed_of_idle hp]
    exact ⟨rfl, rfl⟩
  | some intent =>
    have ha := resumable intent hp
    rw [committed_of_pending hp]
    cases intent with
    | update update =>
      have checked := checkUpdate_of_resumable ha
      have finished := replaceFiles_commit files update
      simp only [finishUpdateLocked, Bind.bind, Durable.bind, Durable.require,
        Durable.get, Durable.lift, checked, if_true, Durable.after_nil, List.nil_append]
      exact finished
    | stagedUpdate update =>
      have checked := checkStagedUpdate_of_resumable ha
      simp only [finishStagedUpdate, Bind.bind, Durable.bind, Durable.require,
        Durable.get, Durable.lift, checked, if_true, Durable.after_nil, List.nil_append]
      exact ⟨rfl, rfl⟩

include resumable in
/-- Whatever recovery succeeds has left the committed files. -/
theorem recoverUpdate_eq_ok (hs : (recoverUpdate encoding target lease files).2 = .ok ())
    : Durable.after files (recoverUpdate encoding target lease files).1 = files.committed := by
  cases lease with
  | true => exact (recoverUpdate_commits resumable).2
  | false =>
    unfold recoverUpdate at hs ⊢
    rw [bind_of_ok _ (readPending_of_resumable resumable)] at hs ⊢
    cases hp : files.pending with
    | none =>
      rw [committed_of_idle hp]
      rfl
    | some intent =>
      rw [hp] at hs
      cases intent with
      | update update => cases hs
      | stagedUpdate update => cases hs

def readInstalled (encoding : LicenseEncoding) : StoreProgram (Option (List UInt8)) := do
  let source ← readLicense
  match source, ← readHistory encoding with
  | some _, some history => let _ ← Durable.lift (decodeState history)
  | none, none => pure ()
  | _, _ => Durable.lift (.error .missing)
  return source

theorem readCommittedDocument_eq (lease : Bool)
    : readCommittedDocument encoding target lease
      = recoverUpdate encoding target lease >>= fun _ => readInstalled encoding :=
  rfl

theorem readLicense_of_le
    (bytes : ∀ content ∈ files.license, content.length ≤ maxLicenseDocumentBytes)
    : readLicense files = ([], .ok files.license) := by
  change ([], readOptional maxLicenseDocumentBytes List.length files.license) = _
  rw [readOptional_of_le bytes]

theorem readHistory_of_le
    (bytes : ∀ content ∈ files.history, encoding.stateBytes content ≤ maxStateBytes)
    : readHistory encoding files = ([], .ok files.history) := by
  change ([], readOptional maxStateBytes encoding.stateBytes files.history) = _
  rw [readOptional_of_le bytes]

include sizes in
theorem readInstalled_of_installed (installed : files.Installed encoding)
    : readInstalled encoding files = ([], .ok files.license) := by
  unfold readInstalled
  rcases installed with ⟨hl, hh⟩ | ⟨source, history, hl, hh, sha256, valid, bytes⟩
  · have license := @readLicense_of_le files (by simp [hl])
    have history := @readHistory_of_le encoding files (by simp [hh])
    rw [bind_of_ok _ license, Durable.after_nil, bind_of_ok _ history, hl, hh]
    rfl
  · have stateBytes := (sizes.state history source valid sha256).2.trans
      (show 2048 ≤ maxStateBytes by decide)
    have license := @readLicense_of_le files (by simp [hl, bytes])
    have hr := @readHistory_of_le encoding files (by simp [hh, stateBytes])
    have decoded : decodeState history = .ok history := by
      rw [decodeState, if_pos valid]
    rw [bind_of_ok _ license, Durable.after_nil, bind_of_ok _ hr, hl, hh]
    simp only [Durable.after_nil, Bind.bind, Durable.bind, Durable.lift, decoded, List.nil_append]
    rfl

include sizes in
/-- What a read that succeeds has found, and that a read with the lease succeeds. -/
theorem readCommittedDocument_commits (recoverable : files.Recoverable encoding target)
    : (∀ lease source,
        (readCommittedDocument encoding target lease files).2 = .ok source
        → source = files.committed.license
          ∧ Durable.after files (readCommittedDocument encoding target lease files).1
            = files.committed)
      ∧ (readCommittedDocument encoding target true files).2 = .ok files.committed.license := by
  have reading := readInstalled_of_installed sizes recoverable.installed
  have hre (lease : Bool)
      (hsu : (recoverUpdate encoding target lease files).2 = .ok ())
      : readCommittedDocument encoding target lease files
        = ((recoverUpdate encoding target lease files).1, .ok files.committed.license) := by
    have after := recoverUpdate_eq_ok recoverable.resumable hsu
    have hr
        : recoverUpdate encoding target lease files
          = ((recoverUpdate encoding target lease files).1, .ok ()) :=
      Prod.ext rfl hsu
    rw [readCommittedDocument_eq, bind_of_ok _ hr, after, reading, List.append_nil]
  refine ⟨?_, ?_⟩
  · intro lease source hs
    have hsu : (recoverUpdate encoding target lease files).2 = .ok () := by
      rw [readCommittedDocument_eq] at hs
      simp only [Bind.bind, Durable.bind] at hs
      split at hs
      · cases hs
      next hr => rw [hr]
    rw [hre lease hsu] at hs ⊢
    exact ⟨(Except.ok.inj hs).symm, recoverUpdate_eq_ok recoverable.resumable hsu⟩
  · rw [hre true (recoverUpdate_commits recoverable.resumable).1]

open Transition (Run)

def StoreEvent.observes : StoreEvent verify → Bool
  | operation action => action.observes
  | _ => false

theorem StoreEvent.mode_observing (event : StoreEvent verify) (exclusive : Bool)
    : (event.mode exclusive).observing = event.observes := by
  cases event <;> rfl

include sizes in
theorem run_recoverable (run : Run (FileMove verify encoding target) first trace last)
    (hu : ∀ label ∈ trace, label.1.observes = false)
    (recoverable : first.Recoverable encoding target)
    : Run CommitStep first.committed (trace.map fun label => (label.1, writtenIntent label.2))
        last.committed
      ∧ last.Recoverable encoding target := by
  induction run with
  | nil => exact ⟨.nil _, recoverable⟩
  | cons head _ ih =>
    cases head with
    | @write event change he hp =>
      have hpl := hu _ List.mem_cons_self
      rw [← event.mode_observing he] at hpl
      obtain ⟨rest, last⟩ := ih (fun label hl => hu label (.tail _ hl))
        (hp.recoverable sizes hpl recoverable)
      exact ⟨.cons (hp.commitStep hpl) rest, last⟩

theorem sampleEncoding_bounded : sampleEncoding.Bounded "target" 6 where
  path := by decide
  state _ _ _ _ := by simp [sampleEncoding]
  audits _ _ := by simp [sampleEncoding]
  staged _ _ := by
    simp only [sampleEncoding]
    omega
  update _ _ := by
    simp only [sampleEncoding]
    omega

end

end AsterTeam
