import AsterTeam.RunnerQuota.LogicalRunners

/-! Sequences of registrations, upgrades and deletions of Runners from an empty store. -/

namespace AsterTeam.RunnerQuota

open List
open Transition (Run)

variable {Bytes : Type} [DecidableEq Bytes]

/-- The quota rows, and the identifiers that Runners have had so far. -/
structure QuotaStore (Bytes : Type) where
  snapshot : RunnerQuotaSnapshot Bytes
  used : List String

def QuotaStore.empty : QuotaStore Bytes := ⟨⟨none, []⟩, []⟩

inductive QuotaOperation
  | register (member : RunnerQuotaMember)
  | beginUpgrade (binding : RunnerUpgradeBinding)
  | finishUpgrade (jobId : String) (keepCandidate : Bool)
  | deleteRunner (id : String)

section

variable (codec : QuotaCodec Bytes) (authenticate : SecurityStateRecord Bytes → Bool)
  (installationId : String)

/-- A plain registration takes an identifier that has not been used. A change is derived from
the verified snapshot and stored with an authentic record.
-/
inductive QuotaStep : QuotaStore Bytes → QuotaOperation → QuotaStore Bytes → Prop
  | register {snapshot : RunnerQuotaSnapshot Bytes} {used : List String}
    {member : RunnerQuotaMember} {members : List RunnerQuotaMember} (fresh : member.id ∉ used)
    (perm : (snapshot.members ++ [member]).Perm members)
    : QuotaStep ⟨snapshot, used⟩ (.register member) ⟨⟨snapshot.state, members⟩, member.id :: used⟩
  | beginUpgrade {snapshot : RunnerQuotaSnapshot Bytes} {used : List String}
    {quota : VerifiedRunnerQuota Bytes} {binding : RunnerUpgradeBinding}
    {change : RunnerQuotaChange Bytes} {record : SecurityStateRecord Bytes}
    (verifies : snapshot.verify codec installationId authenticate = some quota)
    (isLogical : quota.logicalIdFor binding.previous = some binding.logicalRunnerId)
    (begins : quota.beginUpgrade codec binding = some change)
    (isRecord : change.validatesNext record = true) (authentic : authenticate record = true)
    : QuotaStep ⟨snapshot, used⟩ (.beginUpgrade binding)
        ⟨⟨some record, change.nextMembers⟩, binding.candidate.id :: used⟩
  | finishUpgrade {snapshot : RunnerQuotaSnapshot Bytes} {used : List String}
    {quota : VerifiedRunnerQuota Bytes} {jobId : String} {keepCandidate : Bool}
    {change : RunnerQuotaChange Bytes} {record : SecurityStateRecord Bytes}
    (verifies : snapshot.verify codec installationId authenticate = some quota)
    (finishes : quota.finishUpgrade codec jobId keepCandidate = some (some change))
    (isRecord : change.validatesNext record = true) (authentic : authenticate record = true)
    : QuotaStep ⟨snapshot, used⟩ (.finishUpgrade jobId keepCandidate)
        ⟨⟨some record, change.nextMembers⟩, used⟩
  | finishedBefore {snapshot : RunnerQuotaSnapshot Bytes} {used : List String}
    {quota : VerifiedRunnerQuota Bytes} {jobId : String} {keepCandidate : Bool}
    (verifies : snapshot.verify codec installationId authenticate = some quota)
    (finishes : quota.finishUpgrade codec jobId keepCandidate = some none)
    : QuotaStep ⟨snapshot, used⟩ (.finishUpgrade jobId keepCandidate) ⟨snapshot, used⟩
  | deleteRunner {snapshot : RunnerQuotaSnapshot Bytes} {used : List String}
    {quota : VerifiedRunnerQuota Bytes} {id : String} {change : RunnerQuotaChange Bytes}
    {record : SecurityStateRecord Bytes}
    (verifies : snapshot.verify codec installationId authenticate = some quota)
    (deletes : quota.deleteRunner codec id = some change)
    (isRecord : change.validatesNext record = true) (authentic : authenticate record = true)
    : QuotaStep ⟨snapshot, used⟩ (.deleteRunner id) ⟨⟨some record, change.nextMembers⟩, used⟩

abbrev QuotaRun : QuotaStore Bytes → List QuotaOperation → QuotaStore Bytes → Prop :=
  Run (QuotaStep codec authenticate installationId)

/-- The bindings of a store, with the invariant of its logical Runners. -/
structure Holds (store : QuotaStore Bytes) (bindings : List RunnerUpgradeBinding) : Prop where
  isRead : readBindings codec authenticate store.snapshot = some ⟨quotaSchema, bindings⟩
  logical : Logical installationId store.used bindings store.snapshot.members

end

variable {codec : QuotaCodec Bytes} {authenticate : SecurityStateRecord Bytes → Bool}
  {installationId : String}

-- One step

structure StepKeeps (operation : QuotaOperation) (bindings next : List RunnerUpgradeBinding)
    (members nextMembers : List RunnerQuotaMember)
    : Prop where
  logicalId
    : ∀ member ∈ members, member ∈ nextMembers → logicalId next member = logicalId bindings member
  finished
    : ∀ binding ∈ bindings, ∀ survivor, binding.current = some survivor
      → binding ∈ next
        ∨ (∃ other, operation = .beginUpgrade other ∧ other.previous = survivor
          ∧ other.jobId ≠ binding.jobId)
        ∨ operation = .deleteRunner survivor.id

section

variable {store next : QuotaStore Bytes} {operation : QuotaOperation}
  {bindings : List RunnerUpgradeBinding}

theorem Holds.bindings_eq (hh : Holds codec authenticate installationId store bindings)
    (hv : Verified codec authenticate installationId store.snapshot quota)
    : quota.bindings = ⟨quotaSchema, bindings⟩ :=
  Option.some.inj (hv.isRead.symm.trans hh.isRead)

theorem Holds.step (hro : codec.RoundTrips)
    (hh : Holds codec authenticate installationId store bindings)
    (hst : QuotaStep codec authenticate installationId store operation next)
    : ∃ nextBindings,
        Holds codec authenticate installationId next nextBindings
        ∧ StepKeeps operation bindings nextBindings store.snapshot.members
            next.snapshot.members := by
  cases hst with
  | @register snapshot used member members hfr perm =>
    refine ⟨bindings, ⟨hh.isRead, (hh.logical.registered hfr).perm perm⟩,
      fun _ _ _ => rfl, fun binding hbi _ _ => .inl hbi⟩
  | @beginUpgrade snapshot used quota binding change record verifies hl hbeg hr
      authentic =>
      have hv := verified_of_verify verifies
      have hb := hh.bindings_eq hv
      obtain ⟨hp, hi, hpr, hn, nextBindings, replaces, valid, hc⟩ := replaces_of_beginUpgrade hbeg
      rw [logicalIdFor_eq hpr] at hl
      rw [hv.isSnapshot] at hpr hn hc
      rw [hv.isInstallation] at hi
      rw [hb] at hl replaces hc valid
      obtain ⟨hre, _, hs⟩ :=
        readBindings_of_change hro hc hr authentic
      have starts : Logical.Begins bindings snapshot.members binding nextBindings :=
        ⟨replaces, (Option.some.inj hl).symm, hpr, hn⟩
      have hac := hh.logical.accepts
      have nextAccepts := hac.begun replaces hp hi hpr hn valid
      have perm : (snapshot.members ++ [binding.candidate]).Perm change.nextMembers := by
        rw [hs]
        exact (mergeSort_perm _ _).symm
      refine ⟨nextBindings, ⟨hre, (hh.logical.begun starts nextAccepts).perm perm⟩,
        fun member hm _ => starts.logicalId_eq hac nextAccepts hm,
        fun old ho survivor survives => ?_⟩
      cases replaces with
      | pushed hn => exact .inl (mem_append_left _ ho)
      | @replaced before after replaced sameLogical survivesOld otherJob =>
        rcases mem_append.mp ho with hbe | hres
        · exact .inl (mem_append_left _ hbe)
        · rcases mem_cons.mp hres with rfl | ha
          · refine .inr (.inl ⟨binding, rfl, ?_, otherJob.symm⟩)
            exact Option.some.inj (survivesOld.symm.trans survives)
          · exact .inl (mem_append_right _ (mem_cons_of_mem _ ha))
  | @finishUpgrade snapshot used quota jobId keepCandidate change record verifies hf
      hr authentic =>
      have hv := verified_of_verify verifies
      have hb := hh.bindings_eq hv
      obtain ⟨before, binding, after, hsp, _, hp, hc⟩ :=
        change_of_finishUpgrade hf
      rw [hb] at hsp hc
      rw [hv.isSnapshot] at hc
      cases hsp
      obtain ⟨hre, _, hs⟩ :=
        readBindings_of_change hro hc hr authentic
      refine ⟨_, ⟨hre, (hh.logical.finished hp keepCandidate).perm ?_⟩,
        fun member _ _ => Logical.logicalId_phase _ member, fun old ho survivor survives => ?_⟩
      · rw [hs]
        exact (mergeSort_perm _ _).symm
      · rcases mem_append.mp ho with hbe | hres
        · exact .inl (mem_append_left _ hbe)
        · rcases mem_cons.mp hres with rfl | ha
          · rw [RunnerUpgradeBinding.current, hp] at survives
            cases survives
          · exact .inl (mem_append_right _ (mem_cons_of_mem _ ha))
  | finishedBefore verifies hf =>
    exact ⟨bindings, hh, fun _ _ _ => rfl, fun binding hbi _ _ => .inl hbi⟩
  | @deleteRunner snapshot used quota id change record verifies deletes hr authentic =>
    have hv := verified_of_verify verifies
    have hb := hh.bindings_eq hv
    obtain ⟨notPair, retired, hret, hid, hc⟩ := change_of_deleteRunner deletes
    rw [hv.isUpgradeMembers, hb] at notPair
    rw [hb, hv.isSnapshot] at hc
    obtain ⟨hre, _, hs⟩ := readBindings_of_change hro hc hr authentic
    have perm
        : (snapshot.members.filter fun member => member.id ≠ id).Perm change.nextMembers := by
      rw [hs]
      exact (mergeSort_perm _ _).symm
    have hac := hh.logical.accepts
    refine ⟨_, ⟨hre, (hh.logical.deleted notPair).perm perm⟩,
      fun member hm hk => ?_, fun old ho survivor survives => ?_⟩
    · have different := (mem_filter.mp (perm.mem_iff.mpr hk)).2
      exact Logical.logicalId_deleted hac (hac.deleted notPair) hm (by simpa using different)
    · by_cases hd : survivor.id = id
      · exact .inr (.inr (by rw [hd]))
      · exact .inl (mem_filter.mpr ⟨ho, by simp [survives, hd]⟩)

end

-- Runs

variable {store : QuotaStore Bytes} {operations : List QuotaOperation}

theorem Holds.run (hro : codec.RoundTrips) {next : QuotaStore Bytes}
    (hr : QuotaRun codec authenticate installationId store operations next)
    (hi : ∃ bindings, Holds codec authenticate installationId store bindings)
    : ∃ bindings, Holds codec authenticate installationId next bindings := by
  induction hr with
  | nil => exact hi
  | cons head _ ih =>
    obtain ⟨bindings, hh⟩ := hi
    obtain ⟨next, holdsNext, _⟩ := hh.step hro head
    exact ih ⟨next, holdsNext⟩

theorem Holds.empty : Holds codec authenticate installationId .empty [] := by
  refine ⟨rfl, ⟨nodup_nil, ?_, ?_, ?_⟩, ?_, ?_, ?_⟩
  · decide
  all_goals exact fun _ hm => absurd hm not_mem_nil

/-- A row that stays through a run keeps its logical Runner. -/
theorem Holds.logicalId_run (hro : codec.RoundTrips)
    (hr : Run (fun first operation next =>
            QuotaStep codec authenticate installationId first operation next
            ∧ member ∈ next.snapshot.members)
          store operations later) (hh : Holds codec authenticate installationId store bindings)
    (hm : member ∈ store.snapshot.members)
    : ∃ laterBindings,
        Holds codec authenticate installationId later laterBindings
        ∧ member ∈ later.snapshot.members
        ∧ logicalId laterBindings member = logicalId bindings member := by
  induction hr generalizing bindings with
  | nil => exact ⟨bindings, hh, hm, rfl⟩
  | cons head _ ih =>
    obtain ⟨next, holdsNext, keeps⟩ := hh.step hro head.1
    obtain ⟨later, holdsLater, stays, same⟩ := ih holdsNext head.2
    exact ⟨later, holdsLater, stays, same.trans (keeps.logicalId member hm head.2)⟩

-- Finished upgrades and unfinished pairs

section

variable {binding : RunnerUpgradeBinding}

theorem Accepts.job_unique (ha : Accepts installationId bindings members) (hb : binding ∈ bindings)
    (ho : other ∈ bindings) (same : binding.jobId = other.jobId)
    : binding = other := by
  have valid := ha.valid
  simp only [RunnerQuotaBindings.validate, Bool.and_eq_true, decide_eq_true_eq] at valid
  refine inj_on_of_nodup_map valid.1.2 hb ho ?_
  rw [ha.installed binding hb, ha.installed other ho, same]

/-- The end of a job depends on its binding alone. -/
theorem Verified.finishUpgrade_of_mem
    (hv : Verified codec authenticate installationId snapshot quota)
    (hb : binding ∈ quota.bindings.bindings)
    (hp : binding.phase = VerifiedRunnerQuota.finishedPhase keepCandidate)
    : quota.finishUpgrade codec binding.jobId keepCandidate = some none
      ∧ quota.finishUpgrade codec binding.jobId (!keepCandidate) = none := by
  have hf
      : (quota.bindings.bindings.findIdx? fun other => other.jobId == binding.jobId).isSome := by
    rw [findIdx?_isSome, any_eq_true]
    exact ⟨binding, hb, beq_iff_eq.mpr rfl⟩
  obtain ⟨index, hi⟩ := Option.isSome_iff_exists.mp hf
  obtain ⟨before, other, after, hs, hl, hj⟩ := split_of_findIdx hi
  have ho : quota.bindings.bindings[index]? = some other := by
    rw [hs, hl, getElem?_append_right (le_refl _), Nat.sub_self, getElem?_cons_zero]
  have same : other = binding :=
    hv.accepts.job_unique (mem_of_getElem? ho) hb (beq_iff_eq.mp hj)
  rw [same] at ho
  unfold VerifiedRunnerQuota.finishUpgrade
  simp only [hi, ho, hp, Option.bind_eq_bind, Option.bind_some]
  cases keepCandidate <;> simp [VerifiedRunnerQuota.finishedPhase]

theorem binds_of_current (hs : binding.current = some survivor) : Binds binding survivor := by
  unfold RunnerUpgradeBinding.current at hs
  split at hs <;> cases hs
  · exact .inr rfl
  · exact .inl rfl

/-- A new binding is not for a member of an unfinished pair. -/
theorem Replaces.previous_not_paired {next : List RunnerUpgradeBinding}
    (hr : Replaces binding bindings next) (ha : Accepts installationId bindings members)
    (valid : RunnerQuotaBindings.validate ⟨quotaSchema, next⟩) (hp : pair ∈ bindings)
    (hph : pair.phase = .prepared) (binds : Binds pair binding.previous)
    : False := by
  cases hr with
  | pushed =>
    obtain ⟨_, hap⟩ := apart_of_nodup (nodup_boundIds valid)
    have others := hap pair (mem_append_left _ hp)
    rcases binds with same | same
    · exact others.previous.1 (congrArg _ same)
    · exact others.candidate.1 (congrArg _ same)
  | @replaced before after old _ hs _ =>
    have ho := ha.binding_unique hp (mem_append_right _ mem_cons_self) binds (binds_of_current hs)
    rw [← ho, RunnerUpgradeBinding.current, hph] at hs
    cases hs

/-- The two rows of an unfinished upgrade stay, and enter no other upgrade. -/
theorem Verified.pair_kept (hv : Verified codec authenticate installationId snapshot quota)
    (hb : binding ∈ quota.bindings.bindings) (hp : binding.phase = .prepared)
    (binds : Binds binding member)
    : quota.deleteRunner codec member.id = none
      ∧ ∀ other : RunnerUpgradeBinding,
          other.previous.id = member.id ∨ other.candidate.id = member.id
          → quota.beginUpgrade codec other = none := by
  have hpa : member.id ∈ quota.upgradeMembers := by
    rw [hv.isUpgradeMembers]
    refine mem_boundIds.mpr ⟨binding, mem_filter.mpr ⟨hb, by simp [hp]⟩, ?_⟩
    rcases binds with rfl | rfl
    · exact .inl rfl
    · exact .inr rfl
  have hm : member ∈ snapshot.members := by
    have agrees := hv.accepts.phases binding hb
    rw [matchesPhase, hp] at agrees
    simp only [Bool.and_eq_true, present_iff] at agrees
    rcases binds with rfl | rfl
    · exact agrees.1
    · exact agrees.2
  refine ⟨?_, fun other involved => ?_⟩
  · unfold VerifiedRunnerQuota.deleteRunner
    rw [if_pos (by simpa [VerifiedRunnerQuota.isUpgradeMember] using hpa)]
  · by_contra hbe
    obtain ⟨change, hbe⟩ := Option.ne_none_iff_exists'.mp hbe
    obtain ⟨hpre, hi, hpr, hn, bindings, hr, valid, _⟩ :=
      replaces_of_beginUpgrade hbe
    rw [hv.isSnapshot] at hpr hn
    rcases involved with samePrevious | sameCandidate
    · have hs := eq_of_id_eq hv.accepts.distinct hpr hm samePrevious
      rw [schema_of_validate valid] at valid
      refine hr.previous_not_paired hv.accepts valid hb hp ?_
      rw [hs]
      exact binds
    · exact hn member hm sameCandidate.symm

end

-- The account of the logical Runners

/-- Each change of a verified quota is verified again, and counts as it should. -/
structure ChangesVerify (codec : QuotaCodec Bytes)
    (authenticate : SecurityStateRecord Bytes → Bool) (installationId : String)
    (quota : VerifiedRunnerQuota Bytes)
    : Prop where
  begins
    : ∀ {binding change record}, quota.beginUpgrade codec binding = some change
      → change.validatesNext record = true → authenticate record = true
      → ∃ next,
          RunnerQuotaSnapshot.verify codec ⟨some record, change.nextMembers⟩ installationId
              authenticate
            = some next
          ∧ next.occupied = quota.occupied
  finishes
    : ∀ {jobId keepCandidate change record},
      quota.finishUpgrade codec jobId keepCandidate = some (some change)
      → change.validatesNext record = true → authenticate record = true
      → ∃ next,
          RunnerQuotaSnapshot.verify codec ⟨some record, change.nextMembers⟩ installationId
              authenticate
            = some next
          ∧ next.occupied = quota.occupied
          ∧ next.finishUpgrade codec jobId keepCandidate = some none
          ∧ next.finishUpgrade codec jobId (!keepCandidate) = none
  deletes
    : ∀ {id change record}, quota.deleteRunner codec id = some change
      → change.validatesNext record = true → authenticate record = true
      → ∃ next,
          RunnerQuotaSnapshot.verify codec ⟨some record, change.nextMembers⟩ installationId
              authenticate
            = some next
          ∧ next.occupied + 1 = quota.occupied
  finishedOnce
    : ∀ binding ∈ quota.bindings.bindings, ∀ keepCandidate,
      binding.phase = VerifiedRunnerQuota.finishedPhase keepCandidate
      → quota.finishUpgrade codec binding.jobId keepCandidate = some none
        ∧ quota.finishUpgrade codec binding.jobId (!keepCandidate) = none
  pairKept
    : ∀ binding ∈ quota.bindings.bindings, binding.phase = .prepared
      → ∀ member, Binds binding member
      → quota.deleteRunner codec member.id = none
        ∧ ∀ other : RunnerUpgradeBinding,
            other.previous.id = member.id ∨ other.candidate.id = member.id
            → quota.beginUpgrade codec other = none

variable {quota : VerifiedRunnerQuota Bytes}

theorem Verified.changesVerify (hv : Verified codec authenticate installationId snapshot quota)
    (hr : codec.RoundTrips)
    : ChangesVerify codec authenticate installationId quota where
  begins begins isRecord authentic := by
    obtain ⟨next, verifies, _, isOccupied⟩ :=
      hv.beginUpgrade hr begins isRecord authentic
    exact ⟨next, verifies, isOccupied⟩
  finishes finishes isRecord authentic := by
    obtain ⟨next, verifies, ⟨binding, isBinding, rfl, isPhase⟩, isOccupied⟩ :=
      hv.finishUpgrade hr finishes isRecord authentic
    exact ⟨next, verifies, isOccupied,
      (verified_of_verify verifies).finishUpgrade_of_mem isBinding isPhase⟩
  deletes deletes isRecord authentic :=
    hv.deleteRunner hr deletes isRecord authentic
  finishedOnce _ isBinding _ isPhase := hv.finishUpgrade_of_mem isBinding isPhase
  pairKept _ isBinding isPhase _ binds := hv.pair_kept isBinding isPhase binds

section

variable (codec : QuotaCodec Bytes) (authenticate : SecurityStateRecord Bytes → Bool)
  (installationId : String)

/-- What the quota of a store says about its logical Runners. -/
structure QuotaAccount (store : QuotaStore Bytes) : Prop where
  verifies
    : store.snapshot.members.length < 2 ^ 32
      → ∃ quota, store.snapshot.verify codec installationId authenticate = some quota
  occupied
    : ∀ {quota}, store.snapshot.verify codec installationId authenticate = some quota
      → quota.occupied = ((store.snapshot.members.map quota.logicalIdFor).dedup).length
  logicalIdKept
    : ∀ {member operations later quota laterQuota},
      Run (fun first operation next =>
          QuotaStep codec authenticate installationId first operation next
          ∧ member ∈ next.snapshot.members)
        store operations later
      → member ∈ store.snapshot.members
      → store.snapshot.verify codec installationId authenticate = some quota
      → later.snapshot.verify codec installationId authenticate = some laterQuota
      → laterQuota.logicalIdFor member = quota.logicalIdFor member
  logicalIdInherited
    : ∀ {binding next quota nextQuota},
      QuotaStep codec authenticate installationId store (.beginUpgrade binding) next
      → store.snapshot.verify codec installationId authenticate = some quota
      → next.snapshot.verify codec installationId authenticate = some nextQuota
      → nextQuota.logicalIdFor binding.candidate = quota.logicalIdFor binding.previous
  survivorKept
    : ∀ {operation next quota nextQuota},
      QuotaStep codec authenticate installationId store operation next
      → store.snapshot.verify codec installationId authenticate = some quota
      → next.snapshot.verify codec installationId authenticate = some nextQuota
      → ∀ binding ∈ quota.bindings.bindings, ∀ survivor, binding.current = some survivor
      → binding ∈ nextQuota.bindings.bindings
        ∨ (∃ other, operation = .beginUpgrade other ∧ other.previous = survivor
          ∧ other.jobId ≠ binding.jobId)
        ∨ operation = .deleteRunner survivor.id

end

section

variable {bindings : List RunnerUpgradeBinding}

section

variable (holds : Holds codec authenticate installationId store bindings)
  (verifies : store.snapshot.verify codec installationId authenticate = some quota)

include holds verifies

theorem Holds.bindings_of_verify : quota.bindings.bindings = bindings := by
  rw [holds.bindings_eq (verified_of_verify verifies)]

theorem Holds.logicalIdFor_eq (hm : member ∈ store.snapshot.members)
    : quota.logicalIdFor member = some (logicalId bindings member) := by
  rw [← (verified_of_verify verifies).isSnapshot] at hm
  rw [RunnerQuota.logicalIdFor_eq hm, holds.bindings_of_verify verifies]

theorem Holds.occupied_eq
    : quota.occupied = ((store.snapshot.members.map quota.logicalIdFor).dedup).length := by
  have counts := holds.logical.length_logicalIds
  have ho := (verified_of_verify verifies).isOccupied
  rw [holds.bindings_of_verify verifies] at ho
  have hm
      : store.snapshot.members.map quota.logicalIdFor
        = (store.snapshot.members.map (logicalId bindings)).map some := by
    rw [map_map]
    exact map_congr_left fun member hme => holds.logicalIdFor_eq verifies hme
  rw [hm, dedup_map_of_injective (Option.some_injective _), length_map]
  omega

end

/-- The candidate of an upgrade takes over the logical Runner. -/
theorem Holds.logicalId_candidate (hro : codec.RoundTrips)
    (hh : Holds codec authenticate installationId store bindings) {next : QuotaStore Bytes}
    (hs : QuotaStep codec authenticate installationId store (.beginUpgrade binding) next)
    (verifies : store.snapshot.verify codec installationId authenticate = some quota)
    (hver : next.snapshot.verify codec installationId authenticate = some nextQuota)
    : nextQuota.logicalIdFor binding.candidate = quota.logicalIdFor binding.previous := by
  cases hs with
  | @beginUpgrade snapshot used actual binding change record hv hl hbe hr
      authentic =>
      cases verifies.symm.trans hv
      obtain ⟨again, verifiesAgain, hre, _⟩ :=
        (verified_of_verify verifies).beginUpgrade hro hbe hr authentic
      cases hver.symm.trans verifiesAgain
      have hve := verified_of_verify hver
      have hb : binding ∈ nextQuota.bindings.bindings := by
        obtain ⟨before, after, hsp, _⟩ := hre.split
        rw [hsp]
        exact mem_append_right _ mem_cons_self
      have hp := (replaces_of_beginUpgrade hbe).1
      have hc : binding.candidate ∈ nextQuota.snapshot.members := by
        rw [hve.isSnapshot]
        exact (hve.accepts.pair_mem hb hp).2
      rw [hl, RunnerQuota.logicalIdFor_eq hc, hve.accepts.logicalId_of_binds hb (.inr rfl)]

theorem Holds.account (hr : codec.RoundTrips)
    (hh : Holds codec authenticate installationId store bindings)
    : QuotaAccount codec authenticate installationId store where
  verifies small := by
    have counts := hh.logical.length_logicalIds
    have hf : (preparedBindings bindings).length ≤ store.snapshot.members.length := by omega
    obtain ⟨quota, verifies, _⟩ :=
      verify_of_accepts hh.isRead hh.logical.accepts hf (lt_of_le_of_lt (Nat.sub_le _ _) small)
    exact ⟨quota, verifies⟩
  occupied verifies := hh.occupied_eq verifies
  logicalIdKept isRun isMember verifies verifiesLater := by
    obtain ⟨later, holdsLater, stays, same⟩ := hh.logicalId_run hr isRun isMember
    rw [hh.logicalIdFor_eq verifies isMember, holdsLater.logicalIdFor_eq verifiesLater stays, same]
  logicalIdInherited isStep verifies verifiesNext :=
    hh.logicalId_candidate hr isStep verifies verifiesNext
  survivorKept isStep verifies verifiesNext binding isBinding survivor survives := by
    obtain ⟨next, holdsNext, keeps⟩ := hh.step hr isStep
    rw [hh.bindings_of_verify verifies] at isBinding
    rw [holdsNext.bindings_of_verify verifiesNext]
    exact keeps.finished binding isBinding survivor survives

end

/-- Changes of a verified quota are verified again with the right count. On every store that
registrations, upgrades and deletions reach, the quota counts the logical Runners, and a
logical Runner keeps its identity.
-/
theorem quota_counts_logical_runners (roundTrips : codec.RoundTrips)
    : (∀ {snapshot : RunnerQuotaSnapshot Bytes} {quota},
        snapshot.verify codec installationId authenticate = some quota
        → ChangesVerify codec authenticate installationId quota)
      ∧ ∀ {operations store},
          QuotaRun codec authenticate installationId .empty operations store
          → QuotaAccount codec authenticate installationId store := by
  refine ⟨fun verifies => (verified_of_verify verifies).changesVerify roundTrips, fun hr => ?_⟩
  obtain ⟨bindings, hh⟩ := Holds.run roundTrips hr ⟨[], Holds.empty⟩
  exact hh.account roundTrips

def sampleCodec : QuotaCodec RunnerQuotaBindings :=
  { toBytes := id, fromBytes := some, size := fun _ => 0 }

def sampleOld : RunnerQuotaMember :=
  ⟨"runner_a", "aaaaaaaaaaaaaaaaaaaaaaaaaaaaaaaaaaaaaaaaaaaaaaaaaaaaaaaaaaaaaaaa"⟩

def sampleNew : RunnerQuotaMember :=
  ⟨"runner_b", "bbbbbbbbbbbbbbbbbbbbbbbbbbbbbbbbbbbbbbbbbbbbbbbbbbbbbbbbbbbbbbbb"⟩

def sampleBinding (phase : RunnerUpgradePhase) : RunnerUpgradeBinding :=
  ⟨phase, "installation", "job", "runner_a", sampleOld, sampleNew⟩

omit [DecidableEq Bytes] in
theorem change_of_sorted {next : RunnerQuotaBindings} {members : List RunnerQuotaMember}
    (hs : members.Pairwise fun left right => left.id ≤ right.id)
    (hr : MachineInteger.checkedSucc ((quota.snapshot.state.map (·.revision)).getD 0)
        = some revision) (hsm : revision.toNat < 2 ^ 63) (hv : next.encode codec = some value)
    : quota.change codec next members action = some ⟨quota, members, value, revision, action⟩ := by
  unfold VerifiedRunnerQuota.change
  rw [mergeSort_of_pairwise (by simpa using hs), hr, hv]
  simpa using hsm

def sampleRecord (phase : RunnerUpgradePhase) (revision : UInt64)
    : SecurityStateRecord RunnerQuotaBindings :=
  ⟨runnerQuotaKey, ⟨quotaSchema, [sampleBinding phase]⟩, revision, "mac", "now"⟩

def sampleRegistered : VerifiedRunnerQuota RunnerQuotaBindings :=
  ⟨⟨none, [sampleOld]⟩, 1, [], ⟨quotaSchema, []⟩, "installation"⟩

def sampleUpgrading : VerifiedRunnerQuota RunnerQuotaBindings :=
  ⟨⟨some (sampleRecord .prepared 1), [sampleOld, sampleNew]⟩, 1, ["runner_a", "runner_b"],
    ⟨quotaSchema, [sampleBinding .prepared]⟩, "installation"⟩

def sampleUpgraded : VerifiedRunnerQuota RunnerQuotaBindings :=
  ⟨⟨some (sampleRecord .committed 2), [sampleNew]⟩, 1, [],
    ⟨quotaSchema, [sampleBinding .committed]⟩, "installation"⟩

theorem sample_upgrade_counts_once
    : QuotaRun sampleCodec (fun _ => true) "installation" .empty
        [.register sampleOld, .beginUpgrade (sampleBinding .prepared), .finishUpgrade "job" true]
        ⟨sampleUpgraded.snapshot, ["runner_b", "runner_a"]⟩
      ∧ sampleUpgraded.snapshot.verify sampleCodec "installation" (fun _ => true)
        = some sampleUpgraded
      ∧ ChangesVerify sampleCodec (fun _ => true) "installation" sampleUpgraded
      ∧ QuotaAccount sampleCodec (fun _ => true) "installation"
          ⟨sampleUpgraded.snapshot, ["runner_b", "runner_a"]⟩ := by
  have hro : sampleCodec.RoundTrips := fun _ => rfl
  have verifies
      : sampleUpgraded.snapshot.verify sampleCodec "installation" (fun _ => true)
        = some sampleUpgraded := by
    decide +kernel
  have hr
      : QuotaRun sampleCodec (fun _ => true) "installation" .empty
          [.register sampleOld, .beginUpgrade (sampleBinding .prepared), .finishUpgrade "job" true]
          ⟨sampleUpgraded.snapshot, ["runner_b", "runner_a"]⟩ := by
    have hb
        : sampleRegistered.beginUpgrade sampleCodec (sampleBinding .prepared)
          = some ⟨sampleRegistered, [sampleOld, sampleNew],
              ⟨quotaSchema, [sampleBinding .prepared]⟩, 1, .register sampleNew⟩ := by
      have hc
          : sampleRegistered.change sampleCodec ⟨quotaSchema, [sampleBinding .prepared]⟩
              [sampleOld, sampleNew] (.register sampleNew)
            = some ⟨sampleRegistered, [sampleOld, sampleNew],
                ⟨quotaSchema, [sampleBinding .prepared]⟩, 1, .register sampleNew⟩ :=
        change_of_sorted (by decide) (by decide) (by decide) (by decide +kernel)
      rw [← hc]
      rfl
    have hf
        : sampleUpgrading.finishUpgrade sampleCodec "job" true
          = (some ⟨sampleUpgrading, [sampleNew], ⟨quotaSchema, [sampleBinding .committed]⟩, 2,
              .delete sampleOld⟩ : Option (RunnerQuotaChange RunnerQuotaBindings)).map some := by
      have hc
          : sampleUpgrading.change sampleCodec ⟨quotaSchema, [sampleBinding .committed]⟩
              [sampleNew] (.delete sampleOld)
            = some ⟨sampleUpgrading, [sampleNew], ⟨quotaSchema, [sampleBinding .committed]⟩, 2,
                .delete sampleOld⟩ :=
        change_of_sorted (by decide) (by decide) (by decide) (by decide +kernel)
      rw [← hc]
      rfl
    refine .cons (.register not_mem_nil (Perm.refl [sampleOld])) ?_
    refine .cons (@QuotaStep.beginUpgrade _ _ _ _ _ _ _ sampleRegistered _ _
      (sampleRecord .prepared 1) (by decide +kernel) (by decide +kernel) hb
      (by decide +kernel) rfl) ?_
    exact .cons (@QuotaStep.finishUpgrade _ _ _ _ _ _ _ sampleUpgrading _ _ _
      (sampleRecord .committed 2) (by decide +kernel) hf (by decide +kernel) rfl)
      (.nil _)
  exact ⟨hr, verifies, (quota_counts_logical_runners hro).1 verifies,
    (quota_counts_logical_runners hro).2 hr⟩

end AsterTeam.RunnerQuota
