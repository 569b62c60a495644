import AsterTeam.Library.Transition
import AsterTeam.Upgrade.Runtime

/-! The registry of admitted requests of a Control, and the leases by which the owners of a
request keep it there. Every operation holds the lock of the registry, so operations of
different tasks follow one another.
-/

namespace AsterTeam.Lifecycle

open MachineInteger (checkedSucc saturatingSucc checkedSucc_eq_some)
open Upgrade (LifecycleSnapshot)

/-- A reading of the monotonic clock in nanoseconds. -/
abbrev Instant := Nat

structure Registry where
  (accepting stopping : Bool)
  (revision nextId : UInt64)
  requests : List (UInt64 × Instant)
  deriving DecidableEq

namespace Registry

def default : Registry where
  accepting := true
  stopping := false
  revision := 0
  nextId := 0
  requests := []

variable (registry : Registry) (now : Instant)

def admitRequest : Option UInt64 × Registry :=
  if !registry.accepting then (none, registry)
  else
    match checkedSucc registry.nextId with
    | none => (none, registry)
    | some nextId =>
      (some registry.nextId,
        { registry with
          nextId
          requests := registry.requests ++ [(registry.nextId, now)] })

/-- The last owner of a request has finished. -/
def remove (id : UInt64) : Registry :=
  { registry with requests := registry.requests.filter fun request => request.1 ≠ id }

def beginDrain : Registry :=
  if registry.accepting then
    { registry with accepting := false, revision := saturatingSucc registry.revision }
  else registry

def beginShutdown : Registry :=
  if !registry.stopping then
    { registry with
      stopping := true
      accepting := false
      revision := saturatingSucc registry.revision }
  else registry

def retireDrained (expectedRevision : UInt64) : Bool × Registry :=
  if registry.accepting || registry.stopping || !registry.requests.isEmpty
      || registry.revision ≠ expectedRevision then (false, registry)
  else
    match checkedSucc registry.revision with
    | none => (false, registry)
    | some revision => (true, { registry with stopping := true, revision })

def setAdmission (expectedRevision : UInt64) (accepting : Bool) : Bool × Registry :=
  if registry.stopping || registry.revision ≠ expectedRevision then (false, registry)
  else
    match checkedSucc registry.revision with
    | none => (false, registry)
    | some revision => (true, { registry with accepting, revision })

/-- The age of a request in milliseconds, at most the largest number. -/
def age (start : Instant) : UInt64 :=
  if (now - start) / 1000000 < 2 ^ 64 then UInt64.ofNat ((now - start) / 1000000)
  else UInt64.ofNat (2 ^ 64 - 1)

def snapshot : LifecycleSnapshot where
  accepting := registry.accepting
  stopping := registry.stopping
  revision := registry.revision
  inFlight := registry.requests.length
  oldestRequestAgeMs :=
    ((registry.requests.map fun request => age now request.2).max?).getD 0

end Registry

/-- A registry with the leases on its requests: one entry for every clone of a lease. -/
structure LeasedRegistry where
  registry : Registry
  leases : List UInt64
  deriving DecidableEq

inductive RegistryOperation
  | admitRequest (now : Instant)
  | cloneLease (id : UInt64)
  | dropLease (id : UInt64)
  | beginDrain
  | beginShutdown
  | retireDrained (expectedRevision : UInt64)
  | setAdmission (expectedRevision : UInt64) (accepting : Bool)
  | snapshot (now : Instant)
  deriving DecidableEq

inductive RegistryOutcome
  | admitted (lease : Option UInt64)
  | done
  | succeeded (success : Bool)
  | observed (snapshot : LifecycleSnapshot)
  deriving DecidableEq

namespace LeasedRegistry

def default : LeasedRegistry := ⟨.default, []⟩

/-- A clone is made of a lease that is held; dropping the last clone of a lease removes the
request.
-/
def apply (state : LeasedRegistry) : RegistryOperation → RegistryOutcome × LeasedRegistry
  | .admitRequest now =>
    match state.registry.admitRequest now with
    | (none, registry) => (.admitted none, { state with registry })
    | (some id, registry) => (.admitted (some id), ⟨registry, state.leases ++ [id]⟩)
  | .cloneLease id =>
    if id ∈ state.leases then (.done, { state with leases := state.leases ++ [id] })
    else (.done, state)
  | .dropLease id =>
    if id ∈ state.leases then
      let leases := state.leases.erase id
      if id ∈ leases then (.done, { state with leases })
      else (.done, ⟨state.registry.remove id, leases⟩)
    else (.done, state)
  | .beginDrain => (.done, { state with registry := state.registry.beginDrain })
  | .beginShutdown => (.done, { state with registry := state.registry.beginShutdown })
  | .retireDrained expectedRevision =>
    let (success, registry) := state.registry.retireDrained expectedRevision
    (.succeeded success, { state with registry })
  | .setAdmission expectedRevision accepting =>
    let (success, registry) := state.registry.setAdmission expectedRevision accepting
    (.succeeded success, { state with registry })
  | .snapshot now => (.observed (state.registry.snapshot now), state)

end LeasedRegistry

def RegistryStep (state : LeasedRegistry) (label : RegistryOperation × RegistryOutcome)
    (next : LeasedRegistry)
    : Prop :=
  state.apply label.1 = (label.2, next)

abbrev RegistryRun := Transition.Run RegistryStep

-- What one step does to the flags

/-- How a later state of a registry relates to an earlier one. While the revision stays, the
flags stay, except at the largest revision, where admission can still end.
-/
structure Registry.Later (earlier later : Registry) : Prop where
  revision : earlier.revision.toNat ≤ later.revision.toNat
  stopping : earlier.stopping = true → later.stopping = true
  same
    : later.revision = earlier.revision → earlier.revision.toNat + 1 < 2 ^ 64
      → later.accepting = earlier.accepting ∧ later.stopping = earlier.stopping
  closed
    : later.revision = earlier.revision → earlier.accepting = false → later.accepting = false

namespace Registry

variable (registry : Registry)

theorem Later.refl : registry.Later registry :=
  ⟨le_rfl, id, fun _ _ => ⟨rfl, rfl⟩, fun _ => id⟩

theorem Later.trans {first second third : Registry} (head : first.Later second)
    (tail : second.Later third)
    : first.Later third := by
  have between (same : third.revision = first.revision)
      : third.revision = second.revision ∧ second.revision = first.revision := by
    have low := head.revision
    have high := tail.revision
    rw [same] at high
    have hf : second.revision = first.revision := UInt64.toNat_inj.mp (by omega)
    exact ⟨same.trans hf.symm, hf⟩
  refine ⟨head.revision.trans tail.revision, fun stops => tail.stopping (head.stopping stops),
    fun same room => ?_, fun same hc => ?_⟩
  · obtain ⟨second, first⟩ := between same
    obtain ⟨ha, hs⟩ := head.same first room
    obtain ⟨laterAccepting, laterStopping⟩ := tail.same second (by rwa [first])
    exact ⟨laterAccepting.trans ha, laterStopping.trans hs⟩
  · obtain ⟨second, first⟩ := between same
    exact tail.closed second (head.closed first hc)

variable {earlier later : Registry}

theorem later_of_flags (ha : later.accepting = earlier.accepting)
    (hs : later.stopping = earlier.stopping) (revision : later.revision = earlier.revision)
    : earlier.Later later :=
  ⟨by rw [revision], fun stops => hs.trans stops, fun _ _ => ⟨ha, hs⟩, fun _ hc => ha.trans hc⟩

/-- The flags change with a new revision. -/
theorem later_of_checkedSucc (revision : checkedSucc earlier.revision = some later.revision)
    (hs : earlier.stopping → later.stopping)
    : earlier.Later later := by
  have hn := checkedSucc_eq_some.mp revision
  have hd (same : later.revision = earlier.revision) : False := by
    rw [same] at hn
    omega
  exact ⟨by omega, hs, fun same _ => (hd same).elim, fun same _ => (hd same).elim⟩

/-- Admission ends with a new revision, or without one at the largest. -/
theorem later_of_saturatingSucc (revision : later.revision = saturatingSucc earlier.revision)
    (hs : earlier.stopping → later.stopping) (hc : later.accepting = false)
    : earlier.Later later := by
  cases hn : checkedSucc earlier.revision with
  | some next =>
    rw [MachineInteger.saturatingSucc_of_checkedSucc hn] at revision
    exact later_of_checkedSucc (hn.trans (congrArg some revision.symm)) hs
  | none =>
    have isLast : later.revision = earlier.revision := by
      rw [revision, saturatingSucc, hn, Option.getD_none]
    refine ⟨by rw [isLast], hs, fun _ room => ?_, fun _ _ => hc⟩
    rw [checkedSucc, if_pos room] at hn
    cases hn

theorem later_admit (now : Instant) : registry.Later (registry.admitRequest now).2 := by
  unfold admitRequest
  split_ifs
  · exact .refl registry
  · split
    · exact .refl registry
    · exact later_of_flags rfl rfl rfl

theorem later_remove (id : UInt64) : registry.Later (registry.remove id) :=
  later_of_flags rfl rfl rfl

theorem later_beginDrain : registry.Later registry.beginDrain := by
  unfold beginDrain
  split_ifs
  · exact later_of_saturatingSucc rfl id rfl
  · exact .refl registry

theorem later_beginShutdown : registry.Later registry.beginShutdown := by
  unfold beginShutdown
  split_ifs
  · exact later_of_saturatingSucc rfl (fun _ => rfl) rfl
  · exact .refl registry

theorem later_retireDrained (expected : UInt64)
    : registry.Later (registry.retireDrained expected).2 := by
  unfold retireDrained
  split_ifs
  · exact .refl registry
  · split
    · exact .refl registry
    · rename_i revision hn
      exact later_of_checkedSucc hn fun _ => rfl

theorem later_setAdmission (expected : UInt64) (accepting : Bool)
    : registry.Later (registry.setAdmission expected accepting).2 := by
  unfold setAdmission
  split_ifs
  · exact .refl registry
  · split
    · exact .refl registry
    · rename_i revision hn
      exact later_of_checkedSucc hn id

variable {registry : Registry} {expected : UInt64}

/-- A command that succeeds has found its revision, below the largest. -/
theorem setAdmission_success {accepting : Bool}
    (success : (registry.setAdmission expected accepting).1)
    : registry.revision = expected ∧ registry.revision.toNat + 1 < 2 ^ 64 := by
  unfold setAdmission at success
  split_ifs at success with refused
  split at success
  · cases success
  · rename_i revision hn
    have room := revision.toNat_lt
    rw [checkedSucc_eq_some.mp hn] at room
    simp only [Bool.or_eq_true, decide_eq_true_eq, not_or, not_not] at refused
    exact ⟨refused.2, room⟩

theorem retireDrained_success (success : (registry.retireDrained expected).1)
    : registry.revision = expected ∧ registry.revision.toNat + 1 < 2 ^ 64
      ∧ registry.accepting = false ∧ registry.stopping = false ∧ registry.requests = []
      ∧ (registry.retireDrained expected).2.stopping := by
  unfold retireDrained at success ⊢
  split_ifs at success ⊢ with refused
  split at success
  · cases success
  · rename_i revision hn
    have room := revision.toNat_lt
    rw [checkedSucc_eq_some.mp hn] at room
    simp only [Bool.or_eq_true, decide_eq_true_eq, not_or, not_not, Bool.not_eq_true',
      Bool.not_eq_false, Bool.not_eq_true, List.isEmpty_iff] at refused
    obtain ⟨⟨⟨ha, hs⟩, empty⟩, hr⟩ := refused
    exact ⟨hr, room, ha, hs, empty, rfl⟩

end Registry

end AsterTeam.Lifecycle
