import AsterTeam.Upgrade.OnlineJournal

/-! The durable journal that comes before a cutover: the intent, the provisioned candidate, the
start of its services, and the phases of a cancellation.
-/

namespace AsterTeam.Upgrade

open MachineInteger (checkedSucc)

-- The maintenance job and its migrations

inductive UpgradeMode
  | maintenance
  | blueGreen
  deriving DecidableEq

/-- A path by its components, which is what the equality of paths compares. -/
structure ReleasePath where
  isAbsolute : Bool
  components : List String
  deriving DecidableEq

inductive MaintenanceOperation
  | upgrade (archive : ReleasePath) (archiveSha256 : String)
  | deleteVersion (version : String)
  deriving DecidableEq

inductive MaintenanceStatus
  | queued
  | verifying
  | staging
  | stoppingServices
  | restoringPrevious
  | startingCandidate
  | migrating
  | switchingTraffic
  | drainingPrevious
  | succeeded
  | failed
  deriving DecidableEq

structure MaintenanceJob where
  (schema id requestedBy : String)
  operation : MaintenanceOperation
  status : MaintenanceStatus
  upgradeMode : Option UpgradeMode
  runnerWasRunning : Option Bool
  currentVersion : String
  targetVersion : Option String
  (previousRelease candidateRelease : Option ReleasePath)
  (message createdAt updatedAt : String)
  deriving DecidableEq

def maintenanceJobSchema : String := "aster.maintenance-job.v1"

def MaintenanceJob.validate (job : MaintenanceJob) : Except MaintenanceJobError Unit :=
  if job.schema ≠ maintenanceJobSchema then .error .invalidSchema
  else if !validIdentifier job.id || !validIdentifier job.requestedBy then
    .error .invalidIdentifier
  else if !validVersion job.currentVersion
      || job.targetVersion.any fun version => !validVersion version then
    .error .invalidVersion
  else
    match job.operation with
    | .upgrade archive archiveSha256 =>
      if !archive.isAbsolute then .error .invalidArchive
      else if !validChecksum archiveSha256 then .error .invalidChecksum
      else .ok ()
    | .deleteVersion version => if !validVersion version then .error .invalidVersion else .ok ()

def MaintenanceJob.valid (job : MaintenanceJob) : Bool :=
  match job.validate with
  | .ok _ => true
  | .error _ => false

structure PendingMigration where
  version : UInt32
  (name checksumSha256 compatibility : String)
  deriving DecidableEq

structure MigrationInspection where
  schema : String
  (appliedSchemaVersion candidateSchemaVersion : UInt32)
  (appliedHistorySha256 candidateHistorySha256 : String)
  pending : List PendingMigration
  deriving DecidableEq

/-- The pending migrations have the versions that come next, in order. -/
def MigrationInspection.valid (inspection : MigrationInspection) : Bool :=
  inspection.schema == "aster.migration-inspection.v2"
    && 0 < inspection.appliedSchemaVersion
    && 0 < inspection.candidateSchemaVersion
    && validChecksum inspection.appliedHistorySha256
    && validChecksum inspection.candidateHistorySha256
    && inspection.candidateSchemaVersion.toNat - inspection.appliedSchemaVersion.toNat
      == inspection.pending.length
    && inspection.pending.zipIdx.all (fun (migration, index) =>
      inspection.appliedSchemaVersion.toNat + index + 1 == migration.version.toNat
        && validIdentifier migration.name
        && validChecksum migration.checksumSha256
        && migration.compatibility == "rolling_upgrade_safe")
    && (inspection.appliedSchemaVersion ≠ inspection.candidateSchemaVersion
      || inspection.appliedHistorySha256 == inspection.candidateHistorySha256)

structure MigrationPreflight where
  (current candidate : MigrationInspection)
  deriving DecidableEq

def MigrationPreflight.valid (preflight : MigrationPreflight) : Bool :=
  preflight.current.valid
    && preflight.candidate.valid
    && preflight.current.pending.isEmpty
    && preflight.candidate.appliedSchemaVersion ≤ preflight.candidate.candidateSchemaVersion
    && preflight.current.appliedSchemaVersion == preflight.candidate.appliedSchemaVersion
    && preflight.current.appliedHistorySha256 == preflight.candidate.appliedHistorySha256

-- The intent

structure PreparationIntent where
  job : MaintenanceJob
  previous : ActiveReleaseSlot
  previousProcess : RuntimeSnapshot
  previousRunnerProcess : ServiceInvocation
  candidateManifestSha256 : String
  migrations : MigrationPreflight
  proxy : ProxySnapshot
  clock : UpgradeClock
  deriving DecidableEq

namespace PreparationIntent

def jobValid (job : MaintenanceJob) : Bool :=
  job.valid
    && job.status == .startingCandidate
    && job.upgradeMode == some .blueGreen
    && job.runnerWasRunning == some true
    && (match job.operation with
      | .upgrade _ _ => true
      | .deleteVersion _ => false)
    && job.previousRelease.any ReleasePath.isAbsolute
    && job.candidateRelease.any (fun path =>
      path.isAbsolute && some path ≠ job.previousRelease)
    && job.targetVersion.any fun version => version ≠ job.currentVersion

def valid (intent : PreparationIntent) : Bool :=
  intent.migrations.valid
    && jobValid intent.job
    && intent.previous.valid
    && intent.previous.schema == activeSlotRuntimeSchema
    && intent.previous.version == intent.job.currentVersion
    && intent.previousProcess.sameProcess intent.previousProcess
    && validIdentifier intent.previousProcess.installationId
    && intent.previousProcess.slot == intent.previous.slot
    && intent.previousProcess.productVersion == intent.previous.version
    && intent.previousProcess.lifecycle.accepting
    && !intent.previousProcess.lifecycle.stopping
    && intent.previousProcess.lifecycle.revision.toNat < 2 ^ 64 - 1
    && intent.previousRunnerProcess.valid
    && intent.previousProcess.service.any (fun control =>
      control.valid
        && control.processId ≠ intent.previousRunnerProcess.processId
        && control.invocationId ≠ intent.previousRunnerProcess.invocationId)
    && validChecksum intent.candidateManifestSha256
    && intent.proxy.slot == intent.previous.slot
    && validChecksum intent.proxy.configurationSha256
    && 0 < intent.proxy.streamCloseDelayMs
    && validIdentifier intent.clock.bootId
    && (checkedAdd intent.clock.uptimeMs intent.proxy.streamCloseDelayMs).isSome

def observesPrevious (intent : PreparationIntent) (live : RuntimeSnapshot)
    (runner : ServiceInvocation) (clock : UpgradeClock)
    : Bool :=
  intent.valid
    && live.sameProcess intent.previousProcess
    && live.lifecycle.accepting
    && !live.lifecycle.stopping
    && live.lifecycle.revision == intent.previousProcess.lifecycle.revision
    && runner == intent.previousRunnerProcess
    && clock.bootId == intent.clock.bootId
    && intent.clock.uptimeMs ≤ clock.uptimeMs

end PreparationIntent

-- The start of a candidate

structure CandidateStartup where
  materialSha256 : String
  clock : UpgradeClock
  deriving DecidableEq

namespace CandidateStartup

def budgetMs : UInt64 := 90000

variable (startup : CandidateStartup)

def validFor (intent : PreparationIntent) : Bool :=
  validChecksum startup.materialSha256
    && startup.clock.bootId == intent.clock.bootId
    && intent.clock.uptimeMs ≤ startup.clock.uptimeMs
    && (checkedAdd startup.clock.uptimeMs budgetMs).isSome

def acceptsObservation (materialSha256 : String) (clock : UpgradeClock) : Bool :=
  validChecksum startup.materialSha256
    && startup.materialSha256 == materialSha256
    && clock.bootId == startup.clock.bootId
    && startup.clock.uptimeMs ≤ clock.uptimeMs
    && (checkedAdd startup.clock.uptimeMs budgetMs).any fun ending => clock.uptimeMs < ending

/-- The observation is of this startup, however late. -/
def observedBy (materialSha256 : String) (clock : UpgradeClock) : Bool :=
  startup.materialSha256 == materialSha256
    && clock.bootId == startup.clock.bootId
    && startup.clock.uptimeMs ≤ clock.uptimeMs

end CandidateStartup

/-- A Control that is closed and empty in the slot of the candidate. -/
def validControl (control : RuntimeSnapshot) (intent : PreparationIntent)
    (candidate : ActiveReleaseSlot)
    : Bool :=
  control.sameProcess control
    && validIdentifier control.instanceId
    && control.installationId == intent.previousProcess.installationId
    && control.instanceId ≠ intent.previousProcess.instanceId
    && control.slot == candidate.slot
    && control.productVersion == candidate.version
    && !control.lifecycle.accepting
    && !control.lifecycle.stopping
    && control.lifecycle.inFlight == 0
    && control.lifecycle.revision.toNat < 2 ^ 64 - 1

structure CandidateActivation where
  control : RuntimeSnapshot
  runner : ServiceInvocation
  deriving DecidableEq

def CandidateActivation.validFor (activation : CandidateActivation)
    (intent : PreparationIntent) (candidate : ActiveReleaseSlot)
    : Bool :=
  match activation.control.service, intent.previousProcess.service with
  | some service, some previous =>
    validControl activation.control intent candidate
      && distinctServices [previous, intent.previousRunnerProcess, service, activation.runner]
  | _, _ => false

/-- What a start that did not activate both services has left. -/
structure PartialCandidateActivation where
  control : Option RuntimeSnapshot
  runner : Option ServiceInvocation
  deriving DecidableEq

def PartialCandidateActivation.validFor (activation : PartialCandidateActivation)
    (intent : PreparationIntent) (candidate : ActiveReleaseSlot)
    : Bool :=
  match intent.previousProcess.service with
  | none => false
  | some previous =>
    match activation.control, activation.runner with
    | some _, some _ => false
    | some control, none =>
      validControl control intent candidate
        && control.service.any fun service =>
          distinctServices [previous, intent.previousRunnerProcess, service]
    | none, some runner => distinctServices [previous, intent.previousRunnerProcess, runner]
    | none, none => distinctServices [previous, intent.previousRunnerProcess]

-- The journal

inductive PreparationAbortPhase
  | capturedForCancellation
  | claimed
  | retiringCandidate
  | finalizing
  | complete
  deriving DecidableEq

def PreparationAbortPhase.revision : Bool → PreparationAbortPhase → Option UInt64
  | false, capturedForCancellation => none
  | true, capturedForCancellation => some 3
  | false, claimed => some 2
  | false, retiringCandidate => none
  | false, finalizing => some 3
  | false, complete => some 4
  | true, claimed => some 4
  | true, retiringCandidate => some 5
  | true, finalizing => some 6
  | true, complete => some 7

structure PreparationJournal where
  schema : String
  revision : UInt64
  intent : PreparationIntent
  candidate : Option ActiveReleaseSlot
  startup : Option CandidateStartup
  activation : Option CandidateActivation
  partialActivation : Option PartialCandidateActivation
  abort : Option PreparationAbortPhase
  deriving DecidableEq

def preparationJournalSchema : String := "aster.online-preparation.v8"

def checkedSub (left right : UInt64) : Option UInt64 :=
  if right ≤ left then some (left - right) else none

namespace PreparationJournal

variable (journal : PreparationJournal)

def hasCapture : Bool :=
  journal.activation.isSome || journal.partialActivation.isSome

/-- Without a candidate a cancellation is one record shorter. -/
def abortRevision (phase : PreparationAbortPhase) : Option UInt64 :=
  (phase.revision journal.hasCapture).bind fun revision =>
    checkedSub revision (if journal.candidate.isNone then 1 else 0)

def candidateValid (intent : PreparationIntent) (candidate : ActiveReleaseSlot) : Bool :=
  candidate.valid
    && candidate.schema == activeSlotRuntimeSchema
    && candidate.slot == intent.previous.slot.other
    && some candidate.version == intent.job.targetVersion
    && candidate.localRunner.any fun runner =>
      runner.manifestSha256 == intent.candidateManifestSha256
        && intent.previous.localRunner.any fun old => old.runnerId ≠ runner.runnerId

/-- The revision that the forward record had when a cancellation began. -/
def forwardRevision : UInt64 :=
  if journal.abort.isSome then
    if journal.hasCapture then 3 else if journal.candidate.isSome then 1 else 0
  else journal.revision

def abortValid : Bool :=
  journal.abort.all fun phase =>
    some journal.revision == journal.abortRevision phase
      && (journal.startup.isNone || journal.hasCapture)

def partialValid : Bool :=
  journal.partialActivation.all fun activation =>
    journal.abort.isSome
      && journal.activation.isNone
      && journal.candidate.any fun candidate => activation.validFor journal.intent candidate

def provisionValid : Bool :=
  match journal.candidate with
  | none =>
    journal.forwardRevision == 0 && journal.startup.isNone && journal.activation.isNone
  | some candidate =>
    1 ≤ journal.forwardRevision && journal.forwardRevision ≤ 3
      && candidateValid journal.intent candidate

def startValid : Bool :=
  match journal.startup, journal.activation with
  | none, none => journal.forwardRevision ≤ 1
  | some startup, none =>
    journal.forwardRevision == (if journal.partialActivation.isSome then 3 else 2)
      && startup.validFor journal.intent
  | some startup, some activation =>
    journal.forwardRevision == 3
      && startup.validFor journal.intent
      && journal.candidate.any fun candidate => activation.validFor journal.intent candidate
  | none, some _ => false

def valid : Bool :=
  journal.schema == preparationJournalSchema
    && journal.abortValid
    && journal.intent.valid
    && journal.partialValid
    && journal.provisionValid
    && journal.startValid

def checked : Option PreparationJournal :=
  if journal.valid then some journal else none

def create (intent : PreparationIntent) : Option PreparationJournal :=
  if intent.valid then
    some
      { schema := preparationJournalSchema
        revision := 0
        intent := intent
        candidate := none
        startup := none
        activation := none
        partialActivation := none
        abort := none }
  else none

-- The transitions

/-- The provisioned identity; a repetition returns the same record. -/
def provisioned (candidate : ActiveReleaseSlot) : Option PreparationJournal :=
  if !journal.valid || journal.abort.isSome || journal.startup.isSome
      || journal.candidate.any (fun saved => saved ≠ candidate) then none
  else
    checked
      { schema := journal.schema
        revision := 1
        intent := journal.intent
        candidate := some candidate
        startup := none
        activation := none
        partialActivation := none
        abort := none }

def starting (startup : CandidateStartup) : Option PreparationJournal :=
  if !journal.valid || journal.abort.isSome || journal.revision == 0 || 2 < journal.revision
      || journal.startup.any (fun saved => saved ≠ startup) then none
  else checked { journal with revision := 2, startup := some startup }

def started (activation : CandidateActivation) (materialSha256 : String) (clock : UpgradeClock)
    : Option PreparationJournal :=
  if !journal.valid || journal.abort.isSome || journal.revision < 2
      || !journal.startup.any (fun startup => startup.acceptsObservation materialSha256 clock)
      || journal.activation.any (fun saved => saved ≠ activation) then none
  else checked { journal with revision := 3, activation := some activation }

def aborting : Option PreparationJournal :=
  if !journal.valid || (journal.startup.isSome && journal.activation.isNone)
      || journal.abort.isSome then none
  else
    (journal.abortRevision .claimed).bind fun revision =>
      checked { journal with revision, abort := some .claimed }

/-- Captures a closed start for a cancellation, however late. -/
def cancelObservedStartup (activation : CandidateActivation) (materialSha256 : String)
    (clock : UpgradeClock)
    : Option PreparationJournal :=
  if !journal.valid || journal.abort.isSome || journal.activation.isSome
      || !journal.startup.any (fun startup => startup.observedBy materialSha256 clock) then none
  else
    (PreparationAbortPhase.capturedForCancellation.revision true).bind fun revision =>
      checked
        { journal with
          revision
          activation := some activation
          abort := some .capturedForCancellation }

def cancelPartialStartup (observed : PartialCandidateActivation) (materialSha256 : String)
    (clock : UpgradeClock)
    : Option PreparationJournal :=
  if !journal.valid || journal.abort.isSome || journal.hasCapture
      || !journal.startup.any (fun startup => startup.observedBy materialSha256 clock) then none
  else
    (PreparationAbortPhase.capturedForCancellation.revision true).bind fun revision =>
      checked
        { journal with
          revision
          partialActivation := some observed
          abort := some .capturedForCancellation }

/-- The step from a claimed cancellation to the retirement of what was captured. -/
def retiring : Option PreparationJournal :=
  (PreparationAbortPhase.retiringCandidate.revision true).bind fun revision =>
    checked { journal with revision, abort := some .retiringCandidate }

def retiringCandidate (observed : RuntimeSnapshot) : Option PreparationJournal :=
  if !journal.valid || journal.abort ≠ some .claimed
      || !journal.activation.any (fun activation => activation.control == observed) then none
  else journal.retiring

def retiringPartialCandidate (observed : PartialCandidateActivation)
    : Option PreparationJournal :=
  if !journal.valid || journal.abort ≠ some .claimed
      || journal.partialActivation ≠ some observed then none
  else journal.retiring

def advancedPhase (captured : Bool) : PreparationAbortPhase → Option PreparationAbortPhase
  | .capturedForCancellation => some .claimed
  | .claimed => if captured then none else some .finalizing
  | .retiringCandidate => some .finalizing
  | .finalizing => some .complete
  | .complete => none

def advanceAbort : Option PreparationJournal :=
  if !journal.valid then none
  else do
    let phase ← journal.abort.bind (advancedPhase journal.hasCapture)
    let revision ← journal.abortRevision phase
    checked { journal with revision, abort := some phase }

-- Acceptance

/-- A cancellation keeps its record and moves from phase to phase. -/
def abortFollows (previous : PreparationJournal) : Bool :=
  match previous.abort, journal.abort with
  | none, _ => true
  | some old, some next =>
    journal.candidate == previous.candidate
      && journal.startup == previous.startup
      && journal.activation == previous.activation
      && journal.partialActivation == previous.partialActivation
      && (old == next
        || (previous.abortRevision old).bind checkedSucc == journal.abortRevision next)
  | some _, none => false

def follows (previous : Option PreparationJournal) : Bool :=
  journal.valid
    && match previous with
      | none =>
        journal.revision == 0 && journal.startup.isNone && journal.activation.isNone
      | some previous =>
        previous.valid
          && journal.intent == previous.intent
          && journal.abortFollows previous
          && kept previous.candidate journal.candidate
          && kept previous.startup journal.startup
          && kept previous.partialActivation journal.partialActivation
          && kept previous.activation journal.activation
          && (journal == previous || checkedSucc previous.revision == some journal.revision)

/-- Whether the plan of a cutover is the one that this record has prepared. -/
def permitsHandoff (plan : OnlinePlan) : Bool :=
  journal.valid
    && journal.abort.isNone
    && plan.valid
    && journal.activation.any (fun activation =>
      activation.control == plan.candidateProcess
        && activation.runner == plan.candidateRunnerProcess)
    && journal.startup.any (fun startup =>
      startup.acceptsObservation startup.materialSha256 plan.clock)
    && journal.candidate == some plan.candidate
    && plan.jobId == journal.intent.job.id
    && plan.previous == journal.intent.previous
    && journal.intent.observesPrevious plan.previousProcess plan.previousRunnerProcess plan.clock
    && plan.readiness.manifestSha256 == journal.intent.candidateManifestSha256
    && plan.proxy == journal.intent.proxy

end PreparationJournal

end AsterTeam.Upgrade
