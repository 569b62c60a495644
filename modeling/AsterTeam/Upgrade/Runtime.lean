import AsterTeam.AuthCore
import AsterTeam.Library.MachineInteger

/-! Release slots and the snapshots of the Control that runs in one: what identifies its
process, and what a snapshot says about admission, draining and retirement.
-/

namespace AsterTeam.Upgrade

open MachineInteger (checkedSucc)

def checkedAdd (left right : UInt64) : Option UInt64 :=
  if left.toNat + right.toNat < 2 ^ 64 then some (left + right) else none

-- Texts

def isAsciiDigit (byte : UInt8) : Bool := 48 ≤ byte && byte ≤ 57

def isLowerHex (byte : UInt8) : Bool := isAsciiDigit byte || (97 ≤ byte && byte ≤ 102)

def validIdentifier (value : String) : Bool :=
  value ≠ "" && value.utf8ByteSize ≤ 160
    && (utf8Bytes value).all fun byte =>
      isAsciiAlphanumeric byte || byte == 95 || byte == 45 || byte == 46 || byte == 64

def validChecksum (value : String) : Bool :=
  value.utf8ByteSize == 64 && (utf8Bytes value).all isLowerHex

/-- Three numbers between dots, then anything after a minus or a plus. -/
def validVersion (value : String) : Bool :=
  let core := (utf8Bytes value).takeWhile fun byte => byte ≠ 45 && byte ≠ 43
  let parts := core.splitOn 46
  parts.length == 3
    && parts.all (fun part => !part.isEmpty && part.all isAsciiDigit)
    && value.utf8ByteSize ≤ 128
    && (utf8Bytes value).all fun byte =>
      isAsciiAlphanumeric byte || byte == 46 || byte == 45 || byte == 43

-- Releases

inductive ReleaseSlot
  | blue
  | green
  deriving DecidableEq

def ReleaseSlot.other : ReleaseSlot → ReleaseSlot
  | blue => .green
  | green => .blue

structure ActiveLocalRunner where
  (runnerId manifestSha256 : String)
  deriving DecidableEq

structure ActiveReleaseSlot where
  schema : String
  slot : ReleaseSlot
  version : String
  localRunner : Option ActiveLocalRunner
  deriving DecidableEq

inductive MaintenanceJobError
  | invalidSchema
  | invalidIdentifier
  | invalidChecksum
  | invalidVersion
  | invalidArchive
  deriving DecidableEq

def activeSlotSchema : String := "aster.active-release-slot.v1"
def activeSlotRuntimeSchema : String := "aster.active-release-slot.v2"

/-- The identifier of a Runner after its kind: 32 hexadecimal digits. -/
def validRunnerId (value : String) : Bool :=
  let bytes := utf8Bytes value
  let start := utf8Bytes "runner_"
  start.isPrefixOf bytes && (bytes.drop start.length).length == 32
    && (bytes.drop start.length).all isLowerHex

def ActiveReleaseSlot.validate (release : ActiveReleaseSlot) : Except MaintenanceJobError Unit :=
  let topology :=
    match release.localRunner with
    | none => release.schema == activeSlotSchema
    | some runner =>
      release.schema == activeSlotRuntimeSchema && validRunnerId runner.runnerId
        && validChecksum runner.manifestSha256
  if !topology then .error .invalidSchema
  else if !validVersion release.version then .error .invalidVersion
  else .ok ()

def ActiveReleaseSlot.valid (release : ActiveReleaseSlot) : Bool :=
  match release.validate with
  | .ok _ => true
  | .error _ => false

-- Snapshots

structure LifecycleSnapshot where
  (accepting stopping : Bool)
  revision : UInt64
  inFlight : Nat
  oldestRequestAgeMs : UInt64
  deriving DecidableEq

structure ServiceInvocation where
  processId : UInt32
  invocationId : String
  deriving DecidableEq

def ServiceInvocation.valid (service : ServiceInvocation) : Bool :=
  0 < service.processId && service.invocationId.utf8ByteSize == 32
    && (utf8Bytes service.invocationId).all isLowerHex
    && (utf8Bytes service.invocationId).any fun byte => byte ≠ 48

def distinctServices : List ServiceInvocation → Bool
  | [] => true
  | service :: rest =>
    service.valid
      && rest.all (fun other =>
        service.processId ≠ other.processId && service.invocationId ≠ other.invocationId)
      && distinctServices rest

structure RuntimeSnapshot where
  (schema installationId : String)
  slot : ReleaseSlot
  instanceId : String
  service : Option ServiceInvocation
  productVersion : String
  lifecycle : LifecycleSnapshot
  deriving DecidableEq

namespace RuntimeSnapshot

def sameProcess (snapshot other : RuntimeSnapshot) : Bool :=
  snapshot.schema == "aster.control-runtime.v1"
    && other.schema == snapshot.schema
    && snapshot.instanceId ≠ ""
    && snapshot.installationId == other.installationId
    && snapshot.slot == other.slot
    && snapshot.instanceId == other.instanceId
    && snapshot.service == other.service
    && snapshot.productVersion == other.productVersion

def observesDrain (snapshot closed : RuntimeSnapshot) : Bool :=
  snapshot.sameProcess closed
    && snapshot.lifecycle.revision == closed.lifecycle.revision
    && !closed.lifecycle.accepting
    && !closed.lifecycle.stopping
    && !snapshot.lifecycle.accepting
    && !snapshot.lifecycle.stopping

def observesRetirement (snapshot drained : RuntimeSnapshot) : Bool :=
  snapshot.sameProcess drained
    && !drained.lifecycle.accepting
    && !drained.lifecycle.stopping
    && drained.lifecycle.inFlight == 0
    && checkedSucc drained.lifecycle.revision == some snapshot.lifecycle.revision
    && !snapshot.lifecycle.accepting
    && snapshot.lifecycle.stopping
    && snapshot.lifecycle.inFlight == 0

end RuntimeSnapshot

def unchangedAdmission (current initial : RuntimeSnapshot) : Bool :=
  current.sameProcess initial
    && !current.lifecycle.stopping
    && current.lifecycle.accepting == initial.lifecycle.accepting
    && current.lifecycle.revision == initial.lifecycle.revision

def changedAdmission (current initial : RuntimeSnapshot) (accepting : Bool) : Bool :=
  current.sameProcess initial
    && !current.lifecycle.stopping
    && current.lifecycle.accepting == accepting
    && checkedSucc initial.lifecycle.revision == some current.lifecycle.revision

structure RuntimeRequestBudget where
  runtime : RuntimeSnapshot
  requestBudgetMs : UInt64
  deriving DecidableEq

def RuntimeRequestBudget.validFor (budget : RuntimeRequestBudget)
    (observed : RuntimeSnapshot)
    : Bool :=
  budget.runtime.sameProcess observed
    && !budget.runtime.lifecycle.stopping
    && budget.runtime.lifecycle.revision == observed.lifecycle.revision
    && budget.runtime.lifecycle.accepting == observed.lifecycle.accepting
    && 0 < budget.requestBudgetMs

inductive ProcessProgress
  | running
  | stopping
  | exited
  deriving DecidableEq

structure ReadinessExpectation where
  manifestSha256 : String
  (models runnerIds : List String)
  deriving DecidableEq

def validNames (values : List String) (maximum : Nat) : Bool :=
  !values.isEmpty && values.length ≤ maximum
    && values.all (fun value => value ≠ "" && value.utf8ByteSize ≤ 128)
    && values.dedup.length == values.length

def ReadinessExpectation.valid (expectation : ReadinessExpectation) : Bool :=
  validChecksum expectation.manifestSha256
    && validNames expectation.models 32
    && validNames expectation.runnerIds 8

structure ProxySnapshot where
  slot : ReleaseSlot
  configurationSha256 : String
  streamCloseDelayMs : UInt64
  deriving DecidableEq

structure UpgradeClock where
  bootId : String
  uptimeMs : UInt64
  deriving DecidableEq

-- What the checks say

theorem unchangedAdmission_facts (unchanged : unchangedAdmission current initial)
    : current.sameProcess initial ∧ current.lifecycle.stopping = false
      ∧ current.lifecycle.accepting = initial.lifecycle.accepting
      ∧ current.lifecycle.revision = initial.lifecycle.revision := by
  simp only [unchangedAdmission, Bool.and_eq_true, beq_iff_eq, Bool.not_eq_true'] at unchanged
  obtain ⟨⟨⟨same, stopping⟩, ha⟩, revision⟩ := unchanged
  exact ⟨same, stopping, ha, revision⟩

theorem changedAdmission_facts {accepting : Bool} (hc : changedAdmission current initial accepting)
    : current.sameProcess initial ∧ current.lifecycle.stopping = false
      ∧ current.lifecycle.accepting = accepting
      ∧ checkedSucc initial.lifecycle.revision = some current.lifecycle.revision := by
  simp only [changedAdmission, Bool.and_eq_true, beq_iff_eq, Bool.not_eq_true'] at hc
  obtain ⟨⟨⟨same, stopping⟩, ha⟩, revision⟩ := hc
  exact ⟨same, stopping, ha, revision⟩

theorem RuntimeSnapshot.observesDrain_facts {snapshot closing : RuntimeSnapshot}
    (drains : snapshot.observesDrain closing)
    : snapshot.sameProcess closing
      ∧ snapshot.lifecycle.revision = closing.lifecycle.revision
      ∧ snapshot.lifecycle.accepting = false ∧ snapshot.lifecycle.stopping = false := by
  simp only [observesDrain, Bool.and_eq_true, beq_iff_eq, Bool.not_eq_true'] at drains
  obtain ⟨⟨⟨⟨⟨same, revision⟩, _⟩, _⟩, ha⟩, stopping⟩ := drains
  exact ⟨same, revision, ha, stopping⟩

end AsterTeam.Upgrade
