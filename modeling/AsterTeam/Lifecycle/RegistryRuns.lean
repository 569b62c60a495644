import AsterTeam.Lifecycle.RequestRegistry

/-! What holds along every interleaving of the operations of a registry: the flags move in one
direction with the revision, and the requests are those whose leases are still held.
-/

namespace AsterTeam.Lifecycle

open List
open Transition (Run)
open MachineInteger (checkedSucc checkedSucc_eq_some)
open Upgrade (LifecycleSnapshot)

variable {state next : LeasedRegistry}

theorem RegistryStep.later (step : RegistryStep state label next)
    : state.registry.Later next.registry := by
  obtain ⟨operation, outcome⟩ := label
  unfold RegistryStep LeasedRegistry.apply at step
  cases operation with
  | admitRequest now =>
    have later := state.registry.later_admit now
    dsimp only at step
    split at step <;> rename_i ha <;> rw [ha] at later <;> cases step <;>
      exact later
  | cloneLease id =>
    dsimp only at step
    split_ifs at step <;> cases step <;> exact .refl _
  | dropLease id =>
    dsimp only at step
    split_ifs at step <;> cases step
    · exact .refl _
    · exact state.registry.later_remove id
    · exact .refl _
  | beginDrain =>
    cases step
    exact state.registry.later_beginDrain
  | beginShutdown =>
    cases step
    exact state.registry.later_beginShutdown
  | retireDrained expected =>
    cases step
    exact state.registry.later_retireDrained expected
  | setAdmission expected hac =>
    cases step
    exact state.registry.later_setAdmission expected hac
  | snapshot now =>
    cases step
    exact .refl _

theorem run_later (run : RegistryRun state labels last) : state.registry.Later last.registry := by
  induction run with
  | nil => exact .refl _
  | cons head _ ih => exact head.later.trans ih

-- Requests and leases

def admittedIds (labels : List (RegistryOperation × RegistryOutcome)) : List UInt64 :=
  labels.filterMap fun label =>
    match label.2 with
    | .admitted lease => lease
    | _ => none

/-- The requests in the registry are the admitted ones with a lease that is still held. -/
structure LeasedRegistry.Sound (admitted : List UInt64) (state : LeasedRegistry) : Prop where
  closed : state.registry.stopping = true → state.registry.accepting = false
  distinct : admitted.Nodup
  below : ∀ id ∈ admitted, id.toNat < state.registry.nextId.toNat
  leased : ∀ id ∈ state.leases, id ∈ admitted
  requests
    : state.registry.requests.map (·.1) = admitted.filter fun id => id ∈ state.leases

namespace LeasedRegistry.Sound

variable {admitted : List UInt64}

section

variable (sound : state.Sound admitted)

include sound

/-- A change that touches neither the requests nor the leases. -/
theorem flags (leases : next.leases = state.leases)
    (requests : next.registry.requests = state.registry.requests)
    (nextId : next.registry.nextId = state.registry.nextId)
    (hc : next.registry.stopping → next.registry.accepting = false)
    : next.Sound admitted where
  closed := hc
  distinct := sound.distinct
  below := by rw [nextId]; exact sound.below
  leased := by rw [leases]; exact sound.leased
  requests := by rw [leases, requests]; exact sound.requests

theorem admitted_some {now : Instant} (hne : checkedSucc state.registry.nextId = some nextId)
    : LeasedRegistry.Sound (admitted ++ [state.registry.nextId])
        ⟨{ state.registry with
            nextId
            requests := state.registry.requests ++ [(state.registry.nextId, now)] },
          state.leases ++ [state.registry.nextId]⟩ := by
  have hs := checkedSucc_eq_some.mp hne
  have fresh : state.registry.nextId ∉ admitted := fun again =>
    absurd (sound.below _ again) (lt_irrefl _)
  refine ⟨sound.closed, ?_, ?_, ?_, ?_⟩
  · exact nodup_append.mpr ⟨sound.distinct, nodup_singleton _,
      fun id ho other hn same => fresh (mem_singleton.mp hn ▸ same ▸ ho)⟩
  · intro id hi
    rcases mem_append.mp hi with ho | hn
    · have below := sound.below id ho
      change id.toNat < nextId.toNat
      omega
    · rw [mem_singleton.mp hn]
      change state.registry.nextId.toNat < nextId.toNat
      omega
  · intro id hl
    rcases mem_append.mp hl with ho | hn
    · exact mem_append_left _ (sound.leased id ho)
    · exact mem_append_right _ hn
  · have kept
        : admitted.filter (fun id => id ∈ state.leases ++ [state.registry.nextId])
          = admitted.filter fun id => id ∈ state.leases := by
      apply filter_congr
      intro id hi
      have different : id ≠ state.registry.nextId := fun same => fresh (same ▸ hi)
      simp [different]
    rw [map_append, sound.requests, filter_append, kept]
    simp

variable {id : UInt64}

/-- Another clone changes no membership. -/
theorem cloned (held : id ∈ state.leases)
    : LeasedRegistry.Sound admitted { state with leases := state.leases ++ [id] } := by
  have sameMembers (other : UInt64) : other ∈ state.leases ++ [id] ↔ other ∈ state.leases := by
    rw [mem_append, mem_singleton]
    exact ⟨fun hm => hm.elim (fun old => old) (fun same => same ▸ held), .inl⟩
  refine ⟨sound.closed, sound.distinct, sound.below, fun other hl => ?_, ?_⟩
  · exact sound.leased other ((sameMembers other).mp hl)
  · rw [sound.requests]
    exact filter_congr fun other _ => by simp [sameMembers]

theorem dropped (held : id ∈ state.leases) (again : id ∈ state.leases.erase id)
    : LeasedRegistry.Sound admitted { state with leases := state.leases.erase id } := by
  have sameMembers (other : UInt64) : other ∈ state.leases.erase id ↔ other ∈ state.leases := by
    by_cases same : other = id
    · rw [same]
      exact ⟨fun _ => held, fun _ => again⟩
    · exact mem_erase_of_ne same
  refine ⟨sound.closed, sound.distinct, sound.below, fun other hl => ?_, ?_⟩
  · exact sound.leased other ((sameMembers other).mp hl)
  · rw [sound.requests]
    exact filter_congr fun other _ => by simp [sameMembers]

/-- The last clone of a lease takes the request with it. -/
theorem removed (last : id ∉ state.leases.erase id)
    : LeasedRegistry.Sound admitted ⟨state.registry.remove id, state.leases.erase id⟩ := by
  refine ⟨sound.closed, sound.distinct, sound.below, fun other hl => ?_, ?_⟩
  · exact sound.leased other (mem_of_mem_erase hl)
  · change (state.registry.requests.filter fun request => request.1 ≠ id).map (·.1) = _
    have mapped
        : (state.registry.requests.filter fun request => request.1 ≠ id).map (·.1)
          = (state.registry.requests.map (·.1)).filter fun other => other ≠ id := by
      rw [filter_map]
      rfl
    rw [mapped, sound.requests, filter_filter]
    apply filter_congr
    intro other _
    by_cases same : other = id
    · simp [same, last]
    · simp [same, mem_erase_of_ne same]

theorem retired (expected : UInt64)
    : LeasedRegistry.Sound admitted
        { state with registry := (state.registry.retireDrained expected).2 } := by
  unfold Registry.retireDrained
  split_ifs with refused
  · exact sound
  · cases checkedSucc state.registry.revision with
    | none => exact sound
    | some revision =>
      simp only [Bool.or_eq_true, not_or, Bool.not_eq_true] at refused
      exact sound.flags rfl rfl rfl fun _ => refused.1.1.1

theorem admissionSet (expected : UInt64) (accepting : Bool)
    : LeasedRegistry.Sound admitted
        { state with registry := (state.registry.setAdmission expected accepting).2 } := by
  unfold Registry.setAdmission
  split_ifs with refused
  · exact sound
  · cases checkedSucc state.registry.revision with
    | none => exact sound
    | some revision =>
      simp only [Bool.or_eq_true, not_or, Bool.not_eq_true] at refused
      refine sound.flags rfl rfl rfl fun stops => ?_
      exact absurd (stops.symm.trans refused.1) (by decide)

theorem unadmitted (none : admittedIds [label] = [])
    : state.Sound (admitted ++ admittedIds [label]) := by
  rw [none, append_nil]
  exact sound

theorem step (hs : RegistryStep state label next)
    : next.Sound (admitted ++ admittedIds [label]) := by
  obtain ⟨operation, outcome⟩ := label
  unfold RegistryStep LeasedRegistry.apply at hs
  cases operation with
  | admitRequest now =>
    dsimp only [Registry.admitRequest] at hs
    split_ifs at hs
    · cases hs
      exact sound.unadmitted rfl
    · cases hn : checkedSucc state.registry.nextId with
      | none =>
        rw [hn] at hs
        cases hs
        exact sound.unadmitted rfl
      | some nextId =>
        rw [hn] at hs
        cases hs
        exact sound.admitted_some hn
  | cloneLease id =>
    dsimp only at hs
    split_ifs at hs with held <;> cases hs
    · exact (sound.cloned held).unadmitted rfl
    · exact sound.unadmitted rfl
  | dropLease id =>
    dsimp only at hs
    split_ifs at hs with held again <;> cases hs
    · exact (sound.dropped held again).unadmitted rfl
    · exact (sound.removed again).unadmitted rfl
    · exact sound.unadmitted rfl
  | beginDrain =>
    cases hs
    refine unadmitted ?_ rfl
    unfold Registry.beginDrain
    split_ifs
    · exact sound.flags rfl rfl rfl fun _ => rfl
    · exact sound
  | beginShutdown =>
    cases hs
    refine unadmitted ?_ rfl
    unfold Registry.beginShutdown
    split_ifs
    · exact sound.flags rfl rfl rfl fun _ => rfl
    · exact sound
  | retireDrained expected =>
    cases hs
    exact (sound.retired expected).unadmitted rfl
  | setAdmission expected ha =>
    cases hs
    exact (sound.admissionSet expected ha).unadmitted rfl
  | snapshot now =>
    cases hs
    exact sound.unadmitted rfl

end

theorem run (hr : RegistryRun state labels next) (sound : state.Sound admitted)
    : next.Sound (admitted ++ admittedIds labels) := by
  induction hr generalizing admitted with
  | nil =>
    rw [admittedIds, filterMap_nil, append_nil]
    exact sound
  | @cons _ _ _ label rest head _ ih =>
    have split : admittedIds (label :: rest) = admittedIds [label] ++ admittedIds rest := by
      rw [admittedIds, admittedIds, admittedIds, ← filterMap_append, singleton_append]
    rw [split, ← append_assoc]
    exact ih (sound.step head)

end LeasedRegistry.Sound

theorem sound_default : LeasedRegistry.default.Sound [] where
  closed := nofun
  distinct := nodup_nil
  below := fun _ hi => absurd hi not_mem_nil
  leased := fun _ hi => absurd hi not_mem_nil
  requests := rfl

theorem LeasedRegistry.Sound.leases_eq_nil (sound : state.Sound active)
    (empty : state.registry.requests = [])
    : state.leases = [] := by
  have none := sound.requests
  rw [empty, map_nil] at none
  apply eq_nil_iff_forall_not_mem.mpr
  intro id held
  have present : id ∈ active.filter fun id => id ∈ state.leases :=
    mem_filter.mpr ⟨sound.leased id held, by simpa using held⟩
  rw [← none] at present
  exact absurd present not_mem_nil

theorem admit_of_closed (hc : state.registry.accepting = false)
    (step : RegistryStep state (.admitRequest now, .admitted lease) next)
    : lease = none := by
  unfold RegistryStep LeasedRegistry.apply at step
  dsimp only [Registry.admitRequest] at step
  rw [hc] at step
  cases step
  rfl

-- The protocol of a registry

inductive Succeeds (state : LeasedRegistry) (expected : UInt64) : Prop
  | retire (next : LeasedRegistry)
    (step : RegistryStep state (.retireDrained expected, .succeeded true) next)
  | setAdmission (accepting : Bool) (next : LeasedRegistry)
    (step : RegistryStep state (.setAdmission expected accepting, .succeeded true) next)

theorem Succeeds.revision (succeeds : Succeeds state expected)
    : state.registry.revision = expected ∧ state.registry.revision.toNat + 1 < 2 ^ 64 := by
  cases succeeds with
  | retire next step =>
    have success : (state.registry.retireDrained expected).1 = true :=
      RegistryOutcome.succeeded.inj (congrArg Prod.fst step)
    obtain ⟨hr, room, _⟩ := Registry.retireDrained_success success
    exact ⟨hr, room⟩
  | setAdmission ha next step =>
    have success : (state.registry.setAdmission expected ha).1 = true :=
      RegistryOutcome.succeeded.inj (congrArg Prod.fst step)
    exact Registry.setAdmission_success success

/-- What holds of a state that some operations have led to, and of what comes after it. -/
structure RegistryProtocol (labels : List (RegistryOperation × RegistryOutcome))
    (state : LeasedRegistry)
    : Prop where
  closed : state.registry.stopping = true → state.registry.accepting = false
  distinct : (admittedIds labels).Nodup
  inFlight
    : ∀ {now snapshot next}, RegistryStep state (.snapshot now, .observed snapshot) next
      → snapshot.inFlight = ((admittedIds labels).filter fun id => id ∈ state.leases).length
  monotone
    : ∀ {more later}, RegistryRun state more later
      → state.registry.revision.toNat ≤ later.registry.revision.toNat
        ∧ (state.registry.stopping = true → later.registry.stopping = true)
  exact
    : ∀ {now snapshot next more later},
        RegistryStep state (.snapshot now, .observed snapshot) next
        → RegistryRun next more later → Succeeds later snapshot.revision
        → later.registry.accepting = snapshot.accepting
          ∧ later.registry.stopping = snapshot.stopping
  drained
    : ∀ {now snapshot next more later},
        RegistryStep state (.snapshot now, .observed snapshot) next
        → snapshot.accepting = false → snapshot.inFlight = 0 → RegistryRun next more later
        → later.registry.revision = snapshot.revision
        → ∀ {now lease after}, RegistryStep later (.admitRequest now, .admitted lease) after
          → lease = none
  retired
    : ∀ {expected next}, RegistryStep state (.retireDrained expected, .succeeded true) next
      → state.leases = []
        ∧ ∀ {more later}, RegistryRun next more later
          → ∀ {now lease after}, RegistryStep later (.admitRequest now, .admitted lease) after
            → lease = none

/-- Every interleaving of operations from the default state keeps the protocol. -/
theorem registry_keeps_protocol {labels : List (RegistryOperation × RegistryOutcome)}
    {state : LeasedRegistry} (run : RegistryRun .default labels state)
    : RegistryProtocol labels state := by
  have sound : state.Sound (admittedIds labels) := sound_default.run run
  refine
    { closed := sound.closed
      distinct := sound.distinct
      inFlight := ?_
      monotone := fun more => ⟨(run_later more).revision, (run_later more).stopping⟩
      exact := ?_
      drained := ?_
      retired := ?_ }
  · intro now snapshot next step
    cases step
    change state.registry.requests.length = _
    rw [← sound.requests, length_map]
  · intro now snapshot next more later step rest succeeds
    cases step
    obtain ⟨hr, room⟩ := succeeds.revision
    have hs : later.registry.revision = state.registry.revision := hr
    rw [hs] at room
    exact (run_later rest).same hs room
  · intro now snapshot next more later step hc _ rest hr _ lease after admits
    cases step
    exact admit_of_closed ((run_later rest).closed hr hc) admits
  · intro expected next step
    have success : (state.registry.retireDrained expected).1 = true :=
      RegistryOutcome.succeeded.inj (congrArg Prod.fst step)
    obtain ⟨_, _, _, _, empty, stops⟩ := Registry.retireDrained_success success
    refine ⟨sound.leases_eq_nil empty, fun {more later} rest now lease after admits => ?_⟩
    have hn : next.registry = (state.registry.retireDrained expected).2 :=
      (congrArg (fun result => result.2.registry) step).symm
    have stopped := (run_later rest).stopping (by rw [hn]; exact stops)
    exact admit_of_closed ((sound.step step).run rest |>.closed stopped) admits

def sampleOperations : List (RegistryOperation × RegistryOutcome) :=
  [(.admitRequest 5, .admitted (some 0)), (.cloneLease 0, .done),
    (.setAdmission 0 false, .succeeded true), (.retireDrained 1, .succeeded false),
    (.dropLease 0, .done), (.dropLease 0, .done)]

theorem sample_registry_retires
    : RegistryProtocol sampleOperations
        ⟨{ accepting := false, stopping := false, revision := 1, nextId := 1, requests := [] },
          []⟩ :=
  registry_keeps_protocol
    (.cons rfl (.cons rfl (.cons rfl (.cons rfl (.cons rfl (.cons rfl (.nil _)))))))

end AsterTeam.Lifecycle
