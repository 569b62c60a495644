import AsterTeam.Library.Durable
import AsterTeam.LicenseState.Progress

/-! The files of a licence store: the installed document, its history, the staged document,
the pending audit records and the intent of an update. Files are replaced one at a time.
-/

namespace AsterTeam

inductive LicenseImportActor
  | administrator (identityId role : String)
  | localCommand
  deriving DecidableEq

inductive LicenseImportAction
  | install
  | schedule
  | switchFree
  deriving DecidableEq

structure LicenseImportAudit where
  eventId : String
  actor : LicenseImportActor
  action : LicenseImportAction
  deriving DecidableEq

def LicenseImportAudit.valid (audit : LicenseImportAudit) : Bool :=
  let bytes := utf8Bytes audit.eventId
  !bytes.isEmpty && bytes.length ≤ 96
    && (utf8Bytes "license_import_").isPrefixOf bytes
    && bytes.all (fun byte => isAsciiAlphanumeric byte || byte == 95)
    && match audit.actor with
      | .administrator identityId role =>
        identityId ≠ "" && identityId.utf8ByteSize ≤ 128 && (role = "owner" || role = "admin")
      | .localCommand => true

structure PendingLicenseActivation where
  (licenseId licenseSha256 : String)
  activatedAt : Int
  importAudit : Option LicenseImportAudit
  deriving DecidableEq

def PendingLicenseActivation.eventId (activation : PendingLicenseActivation) : String :=
  match activation.importAudit with
  | some audit => audit.eventId
  | none => "license_activate_" ++ activation.licenseSha256

def PendingLicenseActivation.valid (activation : PendingLicenseActivation) : Bool :=
  1 ≤ activation.licenseId.utf8ByteSize && activation.licenseId.utf8ByteSize ≤ 128
    && activation.importAudit.all LicenseImportAudit.valid

structure StagedClaims where
  target : String
  license : List UInt8
  (licenseSha256 licenseId : String)
  issuedAt : Int
  transferSequence : Nat
  notBefore : Int
  deriving DecidableEq

/-- The audit file; `withImports` tells its two schemas apart. -/
structure ActivationAuditClaims where
  withImports : Bool
  target : String
  events : List PendingLicenseActivation
  deriving DecidableEq

/-- The two schemas of an update; the second one carries audit records. -/
inductive UpdateSchema
  | update
  | importUpdate
  deriving DecidableEq

structure UpdateClaims where
  schema : UpdateSchema
  target : String
  (previousLicenseSha256 previousStateSha256 : Option String)
  license : List UInt8
  state : StateClaims
  activationAudits : Option ActivationAuditClaims
  previousAuditsSha256 : Option String
  deriving DecidableEq

structure StagedUpdateClaims where
  target : String
  (previousStagedSha256 previousAuditsSha256 : Option String)
  staged : StagedClaims
  activationAudits : ActivationAuditClaims
  deriving DecidableEq

inductive LicenseIntent
  | update (claims : UpdateClaims)
  | stagedUpdate (claims : StagedUpdateClaims)
  deriving DecidableEq

/-- The files of one store and target. A staged file may be present and empty; an empty
intent is the same as none.
-/
structure LicenseFiles where
  license : Option (List UInt8)
  history : Option StateClaims
  staged : Option (Option StagedClaims)
  activation : Option ActivationAuditClaims
  pending : Option LicenseIntent
  deriving DecidableEq

def LicenseFiles.empty : LicenseFiles := ⟨none, none, none, none, none⟩

inductive FileWrite
  | license (content : List UInt8)
  | history (content : StateClaims)
  | staged (content : Option StagedClaims)
  | activation (content : ActivationAuditClaims)
  | pending (content : Option LicenseIntent)

instance : Durable.Disk LicenseFiles FileWrite where
  apply files
    | .license content => { files with license := some content }
    | .history content => { files with history := some content }
    | .staged content => { files with staged := some content }
    | .activation content => { files with activation := some content }
    | .pending content => { files with pending := content }

abbrev StoreProgram (α : Type) : Type :=
  Durable.Program LicenseFiles FileWrite LicenseStateError α

def maxStateBytes : Nat := 32768
def maxJournalBytes : Nat := 196608
def maxStagedBytes : Nat := 131072
def maxActivationAuditBytes : Nat := 32768
def maxPendingActivationAudits : Nat := 64

/-- The digests and the sizes of the files as they are encoded. -/
structure LicenseEncoding where
  digest : List UInt8 → String
  stateDigest : StateClaims → String
  auditsDigest : ActivationAuditClaims → String
  stagedDigest : Option StagedClaims → String
  stateBytes : StateClaims → Nat
  auditsBytes : ActivationAuditClaims → Nat
  stagedBytes : StagedClaims → Nat
  intentBytes : LicenseIntent → Nat

def readOptional {α : Type} (limit : Nat) (size : α → Nat)
    : Option α → Except LicenseStateError (Option α)
  | none => .ok none
  | some content => if size content > limit then .error .invalidJson else .ok (some content)

/-- Before a file is replaced it must be the one that the intent was made from, or already
the new one.
-/
def requireExpectedFile {α : Type} [DecidableEq α] (limit : Nat) (size : α → Nat)
    (digest : α → String) (current : Option α) (previous : Option String) (next : α)
    : Except LicenseStateError Unit :=
  match readOptional limit size current with
  | .error error => .error error
  | .ok current =>
    if current.map digest ≠ previous ∧ current ≠ some next then .error .integrity
    else .ok ()

def decodableBytes (bytes limit : Nat) : Bool := 0 < bytes && bytes ≤ limit

def StateClaims.valid (claims : StateClaims) : Bool :=
  claims.schema = licenseStateSchema
    && claims.lastLicenseSha256.isSome
    && claims.lastLicenseId.any (fun id => 1 ≤ id.utf8ByteSize && id.utf8ByteSize ≤ 128)
    && claims.lastTransferSequence ≤ 10000

def decodeState (claims : StateClaims) : Except LicenseStateError StateClaims :=
  if claims.valid then .ok claims else .error .invalidJson

section

variable {verify : List UInt8 → Option LicenseClaims} (encoding : LicenseEncoding) (target : String)

open Durable (get write lift require)

def stagedContentBytes : Option StagedClaims → Nat
  | none => 0
  | some staged => encoding.stagedBytes staged

def readLicense : StoreProgram (Option (List UInt8)) := do
  let files ← get
  lift (readOptional maxLicenseDocumentBytes List.length files.license)

def readHistory : StoreProgram (Option StateClaims) := do
  let files ← get
  lift (readOptional maxStateBytes encoding.stateBytes files.history)

def load : StoreProgram StateClaims := do
  match ← readHistory encoding with
  | none => lift (.error .missing)
  | some history => lift (decodeState history)

def readPending : StoreProgram (Option LicenseIntent) := do
  let files ← get
  lift (readOptional maxJournalBytes encoding.intentBytes files.pending)

def requireNoPendingUpdate : StoreProgram Unit := do
  match ← readPending encoding with
  | some _ => lift (.error .recoveryRequired)
  | none => pure ()

def readStagedFile : StoreProgram (Option (Option StagedClaims)) := do
  let files ← get
  lift (readOptional maxStagedBytes (stagedContentBytes encoding) files.staged)

def readActivationFile : StoreProgram (Option ActivationAuditClaims) := do
  let files ← get
  lift (readOptional maxActivationAuditBytes encoding.auditsBytes files.activation)

def ActivationAuditClaims.valid (claims : ActivationAuditClaims) : Bool :=
  (claims.withImports || claims.events.all (·.importAudit.isNone))
    && claims.target = target
    && claims.events.length ≤ maxPendingActivationAudits
    && claims.events.all PendingLicenseActivation.valid
    && (claims.events.map PendingLicenseActivation.eventId).Nodup

def readActivationAudits : StoreProgram (List PendingLicenseActivation) := do
  match ← readActivationFile encoding with
  | none => pure []
  | some claims =>
    require (claims.valid target) .invalidJson
    pure claims.events

def encodeActivationAudits (events : List PendingLicenseActivation)
    : Except LicenseStateError ActivationAuditClaims :=
  let claims : ActivationAuditClaims := ⟨events.any (·.importAudit.isSome), target, events⟩
  if encoding.auditsBytes claims > maxActivationAuditBytes then .error .invalidJson
  else if !claims.valid target then .error .invalidJson
  else .ok claims

def StagedClaims.valid (claims : StagedClaims) : Bool :=
  claims.target = target
    && 1 ≤ claims.licenseId.utf8ByteSize && claims.licenseId.utf8ByteSize ≤ 128
    && claims.transferSequence ≤ 10000
    && decodableBytes claims.license.length maxLicenseDocumentBytes
    && encoding.digest claims.license = claims.licenseSha256

variable (license : VerifiedProductLicense verify) (now : Int)

def prepareImportAudits (audit : LicenseImportAudit) : StoreProgram ActivationAuditClaims := do
  require audit.valid .invalidJson
  let events ← readActivationAudits encoding target
  lift (encodeActivationAudits encoding target
    (events ++ [⟨license.claims.licenseId, encoding.digest license.source, formatTime now,
      some audit⟩]))

/-- The audit records with the activation of a document added, unless it is there. -/
def recordActivation : StoreProgram ActivationAuditClaims := do
  let events ← readActivationAudits encoding target
  if events.any fun event =>
      event.importAudit.isNone && event.licenseSha256 = encoding.digest license.source then
    lift (encodeActivationAudits encoding target events)
  else
    require (events.length < maxPendingActivationAudits) .integrity
    lift (encodeActivationAudits encoding target
      (events ++ [⟨license.claims.licenseId, encoding.digest license.source, formatTime now,
        none⟩]))

def nextHistory (installed : Option (List UInt8)) (recorded : Option StateClaims)
    : Except LicenseStateError StateClaims :=
  match recorded with
  | some history =>
    match decodeState history with
    | .error error => .error error
    | .ok current => observe encoding.digest current license now
  | none =>
    if installed.isNone then .ok (stateFromLicense encoding.digest license now)
    else .error .missing

def prepareUpdate (withActivation : Bool) : StoreProgram UpdateClaims := do
  require (decodableBytes license.source.length maxLicenseDocumentBytes) .invalidJson
  let installed ← readLicense
  let recorded ← readHistory encoding
  let state ← lift (nextHistory encoding license now installed recorded)
  if withActivation then
    let previous ← readActivationFile encoding
    let audits ← recordActivation encoding target license now
    return ⟨.importUpdate, target, installed.map encoding.digest,
      recorded.map encoding.stateDigest, license.source, state, some audits,
      previous.map encoding.auditsDigest⟩
  else
    return ⟨.update, target, installed.map encoding.digest,
      recorded.map encoding.stateDigest, license.source, state, none, none⟩

def attachImportAudit (update : UpdateClaims) (license : VerifiedProductLicense verify)
    (now : Int) (audit : LicenseImportAudit)
    : StoreProgram UpdateClaims := do
  let audits ← prepareImportAudits encoding target license now audit
  let previous ← readActivationFile encoding
  return { update with
    schema := .importUpdate
    previousAuditsSha256 := previous.map encoding.auditsDigest
    activationAudits := some audits }

/-- Installs the history, the document and the audit records, then ends the update. -/
def replaceFiles (update : UpdateClaims) : StoreProgram Unit := do
  write (.history update.state)
  write (.license update.license)
  match update.activationAudits with
  | some audits => write (.activation audits)
  | none => pure ()
  write (.pending none)

def checkUpdate (files : LicenseFiles) (update : UpdateClaims)
    : Except LicenseStateError Unit := do
  if update.target ≠ target then throw .integrity
  if !decodableBytes update.license.length maxLicenseDocumentBytes then throw .invalidJson
  if !decodableBytes (encoding.stateBytes update.state) maxStateBytes then throw .invalidJson
  if update.activationAudits.any fun audits =>
      !decodableBytes (encoding.auditsBytes audits) maxActivationAuditBytes then
    throw .invalidJson
  if !update.state.valid then throw .invalidJson
  if update.activationAudits.any fun audits => !audits.valid target then throw .invalidJson
  match update.schema, update.activationAudits with
  | .importUpdate, none => throw .integrity
  | .importUpdate, some audits =>
    requireExpectedFile maxActivationAuditBytes encoding.auditsBytes encoding.auditsDigest
      files.activation update.previousAuditsSha256 audits
  | .update, _ => if update.previousAuditsSha256.isSome then throw .integrity
  requireExpectedFile maxLicenseDocumentBytes List.length encoding.digest files.license
    update.previousLicenseSha256 update.license
  requireExpectedFile maxStateBytes encoding.stateBytes encoding.stateDigest files.history
    update.previousStateSha256 update.state

def finishUpdateLocked (update : UpdateClaims) : StoreProgram Unit := do
  let files ← get
  lift (checkUpdate encoding target files update)
  replaceFiles update

def checkStagedUpdate (files : LicenseFiles) (update : StagedUpdateClaims)
    : Except LicenseStateError Unit := do
  if update.target ≠ target then throw .integrity
  if !decodableBytes (encoding.stagedBytes update.staged) maxStagedBytes then
    throw .invalidJson
  if !decodableBytes (encoding.auditsBytes update.activationAudits) maxActivationAuditBytes
      then
    throw .invalidJson
  if !update.staged.valid encoding target then throw .invalidJson
  if !update.activationAudits.valid target then throw .invalidJson
  requireExpectedFile maxStagedBytes (stagedContentBytes encoding) encoding.stagedDigest
    files.staged update.previousStagedSha256 (some update.staged)
  requireExpectedFile maxActivationAuditBytes encoding.auditsBytes encoding.auditsDigest
    files.activation update.previousAuditsSha256 update.activationAudits

def finishStagedUpdate (update : StagedUpdateClaims) : StoreProgram Unit := do
  let files ← get
  lift (checkStagedUpdate encoding target files update)
  write (.staged (some update.staged))
  write (.activation update.activationAudits)
  write (.pending none)

/-- Completes the update of a recorded intent; it needs the exclusive lease. -/
def recoverUpdate (lease : Bool) : StoreProgram Unit := do
  match ← readPending encoding with
  | none => pure ()
  | some (.update update) =>
    require lease .mutationConflict
    finishUpdateLocked encoding target update
  | some (.stagedUpdate update) =>
    require lease .mutationConflict
    finishStagedUpdate encoding target update

def writeUpdateIntent (intent : LicenseIntent) : StoreProgram Unit := do
  require (encoding.intentBytes intent ≤ maxJournalBytes) .invalidJson
  write (.pending (some intent))

end

end AsterTeam
