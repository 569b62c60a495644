import AsterTeam.LicenseState.Files

/-! The operations of a licence store and the system of processes that use it. Every
operation runs under the exclusive lock of the state, so operations follow one another; a
process may stop after any write. Leases outlive the operations that take them.
-/

namespace AsterTeam

inductive StagedActivationOutcome
  | activated
  | alreadyActive
  | superseded
  | changed
  deriving DecidableEq

section

variable {verify : List UInt8 → Option LicenseClaims} (encoding : LicenseEncoding)
  (target : String) (lease : Bool)

open Durable (get write lift require)

variable (license : VerifiedProductLicense verify) (now : Int)

def initializeState : StoreProgram Unit := do
  require lease .mutationConflict
  requireNoPendingUpdate encoding
  let files ← get
  require files.history.isNone .alreadyInitialized
  write (.history (stateFromLicense encoding.digest license now))

def validateDocumentProgress : StoreProgram Unit := do
  requireNoPendingUpdate encoding
  let current ← load encoding
  lift (validateLicenseProgress encoding.digest current license)

def validateReplacement : StoreProgram Unit := do
  requireNoPendingUpdate encoding
  let current ← load encoding
  lift (validateObservation encoding.digest current license now)

/-- An observation that names another document needs the exclusive lease. -/
def guardObservationChange (current updated : StateClaims) : StoreProgram Unit :=
  require (current.lastLicenseSha256 = updated.lastLicenseSha256 || lease) .mutationConflict

def persistObservation (current updated : StateClaims) (now : Int) : StoreProgram Unit := do
  if shouldPersistObservation current updated now then
    guardObservationChange lease current updated
    write (.history updated)

def checkAndObserve : StoreProgram Unit := do
  requireNoPendingUpdate encoding
  let current ← load encoding
  let updated ← lift (observe encoding.digest current license now)
  persistObservation lease current updated now

/-- The observation with the time at which the seats were first found over the limit. -/
def trackSeats (updated : StateClaims) (isOverLimit : Bool) (now : Int) : StateClaims :=
  if isOverLimit && updated.seatOverLimitFirstObservedAt.isNone then
    { updated with seatOverLimitFirstObservedAt := some (formatTime now) }
  else if !isOverLimit then { updated with seatOverLimitFirstObservedAt := none }
  else updated

def checkObserveAndTrackSeats (isOverLimit : Bool) (now : Int) : StoreProgram (Option Int) := do
  requireNoPendingUpdate encoding
  let current ← load encoding
  let observation ← lift (observe encoding.digest current license now)
  let updated := trackSeats observation isOverLimit now
  persistObservation lease current updated now
  return updated.seatOverLimitFirstObservedAt

def acceptReplacement : StoreProgram Unit := do
  require lease .mutationConflict
  requireNoPendingUpdate encoding
  let current ← load encoding
  let updated ← lift (observe encoding.digest current license now)
  write (.history updated)

/-- The check of a guard; the guard itself is a shared lease. Without a licence it is for
the first start only.
-/
def guardMutation (available : Bool) (license : Option (VerifiedProductLicense verify))
    (checkTarget : Bool) (now : Int)
    : StoreProgram Unit := do
  require available .mutationConflict
  requireNoPendingUpdate encoding
  match license with
  | some license =>
    let current ← load encoding
    require (current.lastLicenseSha256 = some (encoding.digest license.source)) .mutationConflict
    lift (validateObservation encoding.digest current license now)
  | none =>
    let recorded ← readHistory encoding
    require recorded.isNone .mutationConflict
  if checkTarget then
    let installed ← readLicense
    require (installed = license.map (·.source)) .mutationConflict

def validateSwitchSnapshot (current : VerifiedProductLicense verify) (now : Int)
    : StoreProgram Unit := do
  let history ← load encoding
  let installed ← readLicense
  require (history.lastLicenseSha256 = some (encoding.digest current.source)
    && installed = some current.source) .mutationConflict
  lift (validateObservation encoding.digest history current now)

def beginFreeSwitch (current : VerifiedProductLicense verify) (now : Int)
    : StoreProgram Unit := do
  recoverUpdate encoding target lease
  require lease .mutationConflict
  requireNoPendingUpdate encoding
  require (current.claims.origin ≠ .legacy) .licenseRollback
  validateSwitchSnapshot encoding current now

def prepareFreeSwitch (current free : VerifiedProductLicense verify) (now : Int)
    (audit : LicenseImportAudit)
    : StoreProgram UpdateClaims := do
  require (decodableBytes free.source.length maxLicenseDocumentBytes) .invalidJson
  require (isPublicFree free && free.claims.notBefore ≤ now && audit.action = .switchFree)
    .licenseRollback
  let update ← prepareUpdate encoding target current now false
  let history ← lift (decodeState update.state)
  attachImportAudit encoding target
    { update with
      license := free.source
      state := switchedHistory encoding.digest history free }
    free now audit

def commitFreeSwitch (current free : VerifiedProductLicense verify) (now : Int)
    (audit : LicenseImportAudit)
    : StoreProgram Unit := do
  requireNoPendingUpdate encoding
  validateSwitchSnapshot encoding current now
  let update ← prepareFreeSwitch encoding target current free now audit
  writeUpdateIntent encoding (.update update)
  finishUpdateLocked encoding target update

def installDocument : StoreProgram Unit := do
  recoverUpdate encoding target lease
  require lease .mutationConflict
  let update ← prepareUpdate encoding target license now false
  write (.pending (some (.update update)))
  finishUpdateLocked encoding target update

def installDocumentWithAudit (audit : LicenseImportAudit) : StoreProgram Unit := do
  recoverUpdate encoding target lease
  require lease .mutationConflict
  let prepared ← prepareUpdate encoding target license now false
  require (audit.action = .install) .invalidJson
  let update ← attachImportAudit encoding target prepared license now audit
  writeUpdateIntent encoding (.update update)
  finishUpdateLocked encoding target update

def readCommittedDocument : StoreProgram (Option (List UInt8)) := do
  recoverUpdate encoding target lease
  let source ← readLicense
  match source, ← readHistory encoding with
  | some _, some history => let _ ← lift (decodeState history)
  | none, none => pure ()
  | _, _ => lift (.error .missing)
  return source

def stagedHistory (staged : StagedClaims) (now : Int) : StateClaims where
  schema := licenseStateSchema
  lastLicenseSha256 := some staged.licenseSha256
  lastLicenseId := some staged.licenseId
  lastIssuedAt := staged.issuedAt
  lastTransferSequence := staged.transferSequence
  lastSeenAt := formatTime now
  seatOverLimitFirstObservedAt := none

def prepareStaged : StoreProgram StagedClaims := do
  require (decodableBytes license.source.length maxLicenseDocumentBytes) .invalidJson
  let installed ← readLicense
  match ← readHistory encoding with
  | some history =>
    let current ← lift (decodeState history)
    lift (validateObservation encoding.digest current license now)
  | none => require installed.isNone .missing
  match ← readStagedFile encoding with
  | some (some previous) =>
    if previous.valid encoding target then
      lift (validateLicenseProgress encoding.digest (stagedHistory previous now) license)
  | _ => pure ()
  return {
    target
    license := license.source
    licenseSha256 := encoding.digest license.source
    licenseId := license.claims.licenseId
    issuedAt := license.claims.issuedAt
    transferSequence := license.claims.binding.transferSequence
    notBefore := license.claims.notBefore }

def stageDocument : StoreProgram Unit := do
  recoverUpdate encoding target lease
  let staged ← prepareStaged encoding target license now
  write (.staged (some staged))

def stageDocumentWithAudit (audit : LicenseImportAudit) : StoreProgram Unit := do
  recoverUpdate encoding target lease
  require lease .mutationConflict
  require (audit.action = .schedule) .invalidJson
  let staged ← prepareStaged encoding target license now
  let audits ← prepareImportAudits encoding target license now audit
  let previousStaged ← readStagedFile encoding
  let previousAudits ← readActivationFile encoding
  let update : StagedUpdateClaims :=
    ⟨target, previousStaged.map encoding.stagedDigest,
      previousAudits.map encoding.auditsDigest, staged, audits⟩
  writeUpdateIntent encoding (.stagedUpdate update)
  finishStagedUpdate encoding target update

/-- The staged claims, if the file is there, not empty and valid. -/
def readStaged : StoreProgram (Option StagedClaims) := do
  match ← readStagedFile encoding with
  | some (some staged) =>
    require (staged.valid encoding target) .invalidJson
    return some staged
  | _ => return none

def readStagedDocument : StoreProgram (Option (List UInt8)) := do
  recoverUpdate encoding target lease
  let staged ← readStaged encoding target
  return staged.map (·.license)

def clearStagedDocument (expected : List UInt8) : StoreProgram Unit := do
  recoverUpdate encoding target lease
  let staged ← readStaged encoding target
  if staged.any (·.license = expected) then write (.staged none)

def pendingActivationAudits : StoreProgram (List PendingLicenseActivation) := do
  recoverUpdate encoding target lease
  readActivationAudits encoding target

def retainAudits (kept : PendingLicenseActivation → Bool) : StoreProgram Unit := do
  recoverUpdate encoding target lease
  let events ← readActivationAudits encoding target
  if (events.filter kept).length ≠ events.length then
    let claims ← lift (encodeActivationAudits encoding target (events.filter kept))
    write (.activation claims)

def acknowledgeActivationAudit (expectedSha256 : String) : StoreProgram Unit :=
  retainAudits encoding target lease fun event =>
    event.importAudit.isSome || event.licenseSha256 ≠ expectedSha256

def acknowledgeLicenseAudit (expectedEventId : String) : StoreProgram Unit :=
  retainAudits encoding target lease fun event => event.eventId ≠ expectedEventId

/-- Whether the staged document is already the installed and recorded one. -/
def isActive : StoreProgram Bool := do
  let installed ← readLicense
  if installed = some license.source then
    let history ← load encoding
    return history.lastLicenseSha256 = some (encoding.digest license.source)
  else return false

/-- Runs a program and answers its result, a rollback included. -/
def catchRollback {α : Type} (program : StoreProgram α) : StoreProgram (Option α) :=
  fun files =>
    match program files with
    | (writes, .ok value) => (writes, .ok (some value))
    | (writes, .error .licenseRollback) => (writes, .ok none)
    | (writes, .error error) => (writes, .error error)

def activateStagedDocument : StoreProgram StagedActivationOutcome := do
  recoverUpdate encoding target lease
  match ← readStaged encoding target with
  | none => return .changed
  | some staged =>
    if staged.license ≠ license.source then return .changed
    else if ← isActive encoding license then
      write (.staged none)
      return .alreadyActive
    else
      require lease .mutationConflict
      match ← catchRollback (prepareUpdate encoding target license now true) with
      | none =>
        write (.staged none)
        return .superseded
      | some update =>
        write (.pending (some (.update update)))
        finishUpdateLocked encoding target update
        write (.staged none)
        return .activated

end

/-- The operations of a process, apart from those that take or use a lease for longer. -/
inductive StoreOperation (verify : List UInt8 → Option LicenseClaims)
  | initializeState (license : VerifiedProductLicense verify) (now : Int)
  | validateDocumentProgress (license : VerifiedProductLicense verify)
  | validateReplacement (license : VerifiedProductLicense verify) (now : Int)
  | checkAndObserve (license : VerifiedProductLicense verify) (now : Int)
  | checkObserveAndTrackSeats (license : VerifiedProductLicense verify) (isOverLimit : Bool)
      (now : Int)
  | acceptReplacement (license : VerifiedProductLicense verify) (now : Int)
  | installDocument (license : VerifiedProductLicense verify) (now : Int)
  | installDocumentWithAudit (license : VerifiedProductLicense verify) (now : Int)
      (audit : LicenseImportAudit)
  | readCommittedDocument
  | stageDocument (license : VerifiedProductLicense verify) (now : Int)
  | stageDocumentWithAudit (license : VerifiedProductLicense verify) (now : Int)
      (audit : LicenseImportAudit)
  | readStagedDocument
  | clearStagedDocument (expected : List UInt8)
  | pendingActivationAudits
  | acknowledgeActivationAudit (expectedSha256 : String)
  | acknowledgeLicenseAudit (expectedEventId : String)
  | activateStagedDocument (license : VerifiedProductLicense verify) (now : Int)
  | beginFreeSwitch (current : VerifiedProductLicense verify) (now : Int)

def StoreOperation.observes {verify : List UInt8 → Option LicenseClaims}
    : StoreOperation verify → Bool
  | .initializeState .. | .checkAndObserve .. | .checkObserveAndTrackSeats ..
  | .acceptReplacement .. => true
  | _ => false

section

variable {verify : List UInt8 → Option LicenseClaims} (encoding : LicenseEncoding) (target : String)

/-- The writes of an operation, with the exclusive lease available or not. -/
def operationWrites (lease : Bool) (files : LicenseFiles) : StoreOperation verify → List FileWrite
  | .initializeState license now => (initializeState encoding lease license now files).1
  | .validateDocumentProgress license => (validateDocumentProgress encoding license files).1
  | .validateReplacement license now => (validateReplacement encoding license now files).1
  | .checkAndObserve license now => (checkAndObserve encoding lease license now files).1
  | .checkObserveAndTrackSeats license isOverLimit now =>
    (checkObserveAndTrackSeats encoding lease license isOverLimit now files).1
  | .acceptReplacement license now => (acceptReplacement encoding lease license now files).1
  | .installDocument license now =>
    (installDocument encoding target lease license now files).1
  | .installDocumentWithAudit license now audit =>
    (installDocumentWithAudit encoding target lease license now audit files).1
  | .readCommittedDocument => (readCommittedDocument encoding target lease files).1
  | .stageDocument license now => (stageDocument encoding target lease license now files).1
  | .stageDocumentWithAudit license now audit =>
    (stageDocumentWithAudit encoding target lease license now audit files).1
  | .readStagedDocument => (readStagedDocument encoding target lease files).1
  | .clearStagedDocument expected =>
    (clearStagedDocument encoding target lease expected files).1
  | .pendingActivationAudits => (pendingActivationAudits encoding target lease files).1
  | .acknowledgeActivationAudit expectedSha256 =>
    (acknowledgeActivationAudit encoding target lease expectedSha256 files).1
  | .acknowledgeLicenseAudit expectedEventId =>
    (acknowledgeLicenseAudit encoding target lease expectedEventId files).1
  | .activateStagedDocument license now =>
    (activateStagedDocument encoding target lease license now files).1
  | .beginFreeSwitch current now => (beginFreeSwitch encoding target lease current now files).1

/-- The files, the digests of the licences of all guards that are alive, and the document
of a free switch that is under way.
-/
structure StoreSystem (verify : List UInt8 → Option LicenseClaims) where
  files : LicenseFiles
  guards : List (Option String)
  switching : Option (VerifiedProductLicense verify)

def StoreSystem.initial : StoreSystem verify := ⟨.empty, [], none⟩

def StoreSystem.shareable (system : StoreSystem verify) : Bool := system.switching.isNone

def StoreSystem.exclusive (system : StoreSystem verify) : Bool :=
  system.guards.isEmpty && system.switching.isNone

inductive StoreEvent (verify : List UInt8 → Option LicenseClaims)
  | operation (operation : StoreOperation verify)
  | guard (license : Option (VerifiedProductLicense verify))
  | release (guard : Option String)
  | beginSwitch (current : VerifiedProductLicense verify)
  | commitSwitch (free : VerifiedProductLicense verify)
  | abandonSwitch

/-- The steps of the processes, each with what it writes. An operation may stop after any
number of its writes; a guard or a switch ends at any time, with its process at the latest.
-/
inductive StoreStep
    : StoreSystem verify → StoreEvent verify × List FileWrite → StoreSystem verify → Prop
  | operation {system : StoreSystem verify} {writes : List FileWrite}
    (operation : StoreOperation verify)
    (stopped : writes <+: operationWrites encoding target system.exclusive system.files operation)
    : StoreStep system (.operation operation, writes)
        { system with files := Durable.after system.files writes }
  | guard {system : StoreSystem verify} (license : Option (VerifiedProductLicense verify))
    (checkTarget : Bool) (now : Int)
    (granted
      : (guardMutation encoding system.shareable license checkTarget now system.files).2 = .ok ())
    : StoreStep system (.guard license, [])
        { system with guards := license.map (encoding.digest ·.source) :: system.guards }
  | release {system : StoreSystem verify} (guard : Option String)
    : StoreStep system (.release guard, []) { system with guards := system.guards.erase guard }
  | beginSwitch {system : StoreSystem verify} {writes : List FileWrite}
    (current : VerifiedProductLicense verify) (now : Int)
    (granted : beginFreeSwitch encoding target system.exclusive current now system.files
        = (writes, .ok ()))
    : StoreStep system (.beginSwitch current, writes)
        { system with
          files := Durable.after system.files writes
          switching := some current }
  | commitSwitch {system : StoreSystem verify} {writes : List FileWrite}
    {current : VerifiedProductLicense verify} (free : VerifiedProductLicense verify)
    (now : Int) (audit : LicenseImportAudit) (switching : system.switching = some current)
    (stopped : writes <+: (commitFreeSwitch encoding target current free now audit system.files).1)
    : StoreStep system (.commitSwitch free, writes)
        { system with
          files := Durable.after system.files writes
          switching := none }
  | abandonSwitch {system : StoreSystem verify}
    : StoreStep system (.abandonSwitch, []) { system with switching := none }

end

end AsterTeam
