import AsterTeam.Storage.SecurityState
import AsterTeam.Upgrade.Runtime

/-! The signed bindings that let two Runners of an upgrade count as one, the snapshot of the
quota that a Control verifies, and the changes it derives from it.
-/

namespace AsterTeam.RunnerQuota

open MachineInteger (checkedSucc)
open Upgrade (isLowerHex)

structure RunnerQuotaMember where
  (id credentialHash : String)
  deriving DecidableEq

inductive RunnerUpgradePhase
  | prepared
  | committed
  | rolledBack
  deriving DecidableEq

structure RunnerUpgradeBinding where
  phase : RunnerUpgradePhase
  (installationId jobId logicalRunnerId : String)
  (previous candidate : RunnerQuotaMember)
  deriving DecidableEq

variable (members : List RunnerQuotaMember) (binding : RunnerUpgradeBinding)
    (member : RunnerQuotaMember)

def RunnerUpgradeBinding.current : Option RunnerQuotaMember :=
  match binding.phase with
  | .prepared => none
  | .committed => some binding.candidate
  | .rolledBack => some binding.previous

structure RunnerQuotaBindings where
  schema : String
  bindings : List RunnerUpgradeBinding
  deriving DecidableEq

def runnerQuotaKey : String := "runner-upgrade-quota-v1"
def quotaSchema : String := "aster.runner-upgrade-quota.v1"
def maxBindings : Nat := 128
def maxStateBytes : Nat := 128 * 1024

def identifier (value : String) : Bool :=
  value ≠ "" && value.utf8ByteSize ≤ 160
    && (utf8Bytes value).all fun byte => isAsciiAlphanumeric byte || byte == 95 || byte == 45

def memberValid : Bool :=
  identifier member.id
    && (utf8Bytes "runner_").isPrefixOf (utf8Bytes member.id)
    && member.credentialHash.utf8ByteSize == 64
    && (utf8Bytes member.credentialHash).all isLowerHex

def bindingValid : Bool :=
  identifier binding.installationId
    && identifier binding.jobId
    && identifier binding.logicalRunnerId
    && memberValid binding.previous
    && memberValid binding.candidate
    && binding.previous.credentialHash ≠ binding.candidate.credentialHash

def boundIds (bindings : List RunnerUpgradeBinding) : List String :=
  bindings.flatMap fun binding => [binding.previous.id, binding.candidate.id]

/-- The checks of each binding, and that logical Runners, jobs and members are distinct. Every
refusal in this module is the same integrity error.
-/
def RunnerQuotaBindings.validate (value : RunnerQuotaBindings) : Bool :=
  value.schema == quotaSchema && value.bindings.length ≤ maxBindings
    && value.bindings.all bindingValid
    && decide (value.bindings.map fun binding =>
      (binding.installationId, binding.logicalRunnerId)).Nodup
    && decide (value.bindings.map fun binding => (binding.installationId, binding.jobId)).Nodup
    && decide (boundIds value.bindings).Nodup

structure QuotaCodec (Bytes : Type) where
  toBytes : RunnerQuotaBindings → Bytes
  fromBytes : Bytes → Option RunnerQuotaBindings
  size : Bytes → Nat

def QuotaCodec.RoundTrips {Bytes : Type} (codec : QuotaCodec Bytes) : Prop :=
  ∀ value, codec.fromBytes (codec.toBytes value) = some value

variable {Bytes : Type} [DecidableEq Bytes] (codec : QuotaCodec Bytes)

def RunnerQuotaBindings.encode (value : RunnerQuotaBindings) : Option Bytes :=
  if !value.validate then none
  else if maxStateBytes < codec.size (codec.toBytes value) then none
  else some (codec.toBytes value)

structure RunnerQuotaSnapshot (Bytes : Type) where
  state : Option (SecurityStateRecord Bytes)
  members : List RunnerQuotaMember
  deriving DecidableEq

structure VerifiedRunnerQuota (Bytes : Type) where
  snapshot : RunnerQuotaSnapshot Bytes
  occupied : Nat
  upgradeMembers : List String
  bindings : RunnerQuotaBindings
  installationId : String
  deriving DecidableEq

def present : Bool :=
  decide (member ∈ members)

def absent : Bool :=
  members.all fun actual => actual.id ≠ member.id

def matchesPhase : Bool :=
  match binding.phase with
  | .prepared => present members binding.previous && present members binding.candidate
  | .committed => absent members binding.previous && present members binding.candidate
  | .rolledBack => present members binding.previous && absent members binding.candidate

def preparedBindings (bindings : List RunnerUpgradeBinding) : List RunnerUpgradeBinding :=
  bindings.filter fun binding => binding.phase == .prepared

/-- The bindings of a snapshot: none without a record, else those of an authentic record in
the canonical encoding.
-/
def readBindings (authenticate : SecurityStateRecord Bytes → Bool)
    (snapshot : RunnerQuotaSnapshot Bytes)
    : Option RunnerQuotaBindings :=
  match snapshot.state with
  | none => some ⟨quotaSchema, []⟩
  | some state =>
    if state.key ≠ runnerQuotaKey || maxStateBytes < codec.size state.value
        || !authenticate state then none
    else do
      let value ← codec.fromBytes state.value
      let canonical ← value.encode codec
      if canonical ≠ state.value then none else some value

def RunnerQuotaSnapshot.verify (snapshot : RunnerQuotaSnapshot Bytes) (installationId : String)
    (authenticate : SecurityStateRecord Bytes → Bool)
    : Option (VerifiedRunnerQuota Bytes) :=
  if !decide (snapshot.members.map (·.id)).Nodup then none
  else do
    let bindings ← readBindings codec authenticate snapshot
    let prepared := preparedBindings bindings.bindings
    if bindings.bindings.any (fun binding =>
        binding.installationId ≠ installationId || !matchesPhase snapshot.members binding) then
      none
    else if snapshot.members.length < prepared.length then none
    else if 2 ^ 32 ≤ snapshot.members.length - prepared.length then none
    else
      some
        { snapshot
          occupied := snapshot.members.length - prepared.length
          upgradeMembers := boundIds prepared
          bindings
          installationId }

-- Changes

inductive RunnerQuotaAction
  | register (member : RunnerQuotaMember)
  | delete (member : RunnerQuotaMember)
  deriving DecidableEq

structure RunnerQuotaChange (Bytes : Type) where
  expected : VerifiedRunnerQuota Bytes
  nextMembers : List RunnerQuotaMember
  value : Bytes
  revision : UInt64
  action : RunnerQuotaAction
  deriving DecidableEq

namespace VerifiedRunnerQuota

variable (quota : VerifiedRunnerQuota Bytes)

/-- The logical Runner of a member: that of its binding, or the member itself. -/
def logicalIdFor (member : RunnerQuotaMember) : Option String :=
  if member ∉ quota.snapshot.members then none
  else
    match quota.bindings.bindings.find? fun binding =>
      binding.previous == member || binding.candidate == member with
    | none => some member.id
    | some binding => some binding.logicalRunnerId

def isUpgradeMember (id : String) : Bool :=
  decide (id ∈ quota.upgradeMembers)

def change (next : RunnerQuotaBindings) (members : List RunnerQuotaMember)
    (action : RunnerQuotaAction)
    : Option (RunnerQuotaChange Bytes) := do
  let sorted := members.mergeSort fun left right => left.id ≤ right.id
  let revision ← checkedSucc ((quota.snapshot.state.map (·.revision)).getD 0)
  if 2 ^ 63 ≤ revision.toNat then none
  else do
    let value ← next.encode codec
    some { expected := quota, nextMembers := sorted, value, revision, action }

/-- The bindings with a new one, in the place of the finished one of its logical Runner. -/
def replaceBinding (bindings : List RunnerUpgradeBinding) (binding : RunnerUpgradeBinding)
    : Option (List RunnerUpgradeBinding) :=
  match bindings.findIdx? fun old => old.logicalRunnerId == binding.logicalRunnerId with
  | none => some (bindings ++ [binding])
  | some index =>
    if bindings[index]?.any (fun old =>
        old.current ≠ some binding.previous || old.jobId == binding.jobId) then none
    else some (bindings.set index binding)

def beginUpgrade (binding : RunnerUpgradeBinding) : Option (RunnerQuotaChange Bytes) :=
  if binding.phase ≠ .prepared || binding.installationId ≠ quota.installationId
      || binding.previous ∉ quota.snapshot.members
      || quota.snapshot.members.any (fun member => member.id == binding.candidate.id) then none
  else do
    let bindings ← replaceBinding quota.bindings.bindings binding
    let next : RunnerQuotaBindings := { quota.bindings with bindings }
    if !next.validate then none
    else
      quota.change codec next (quota.snapshot.members ++ [binding.candidate])
        (.register binding.candidate)

def finishedPhase (keepCandidate : Bool) : RunnerUpgradePhase :=
  if keepCandidate then .committed else .rolledBack

def retiredMember (binding : RunnerUpgradeBinding) (keepCandidate : Bool) : RunnerQuotaMember :=
  if keepCandidate then binding.previous else binding.candidate

/-- Success without a change if the job has ended in the same way before. -/
def finishUpgrade (jobId : String) (keepCandidate : Bool)
    : Option (Option (RunnerQuotaChange Bytes)) := do
  let index ← quota.bindings.bindings.findIdx? fun binding => binding.jobId == jobId
  let binding ← quota.bindings.bindings[index]?
  let phase := finishedPhase keepCandidate
  if binding.phase = phase then some none
  else if binding.phase ≠ .prepared then none
  else do
    let retired := retiredMember binding keepCandidate
    let bindings := quota.bindings.bindings.set index { binding with phase }
    let members := quota.snapshot.members.filter fun member => member.id ≠ retired.id
    let change ← quota.change codec { quota.bindings with bindings } members (.delete retired)
    some (some change)

def deleteRunner (id : String) : Option (RunnerQuotaChange Bytes) :=
  if quota.isUpgradeMember id then none
  else do
    let retired ← quota.snapshot.members.find? fun member => member.id == id
    let bindings := quota.bindings.bindings.filter fun binding =>
      binding.current.all fun member => member.id ≠ id
    let members := quota.snapshot.members.filter fun member => member.id ≠ id
    quota.change codec { quota.bindings with bindings } members (.delete retired)

end VerifiedRunnerQuota

def RunnerQuotaChange.validatesNext (change : RunnerQuotaChange Bytes)
    (record : SecurityStateRecord Bytes)
    : Bool :=
  record.key == runnerQuotaKey && record.value == change.value
    && record.revision == change.revision
    && record.mac ≠ "" && record.updatedAt ≠ ""

end AsterTeam.RunnerQuota
