import AsterTeam.Library.Transition
import AsterTeam.RunnerQuota.Upgrades

/-! The logical Runners of a quota along every sequence of registrations, upgrades and
deletions: the quota counts them, and a Runner keeps its logical identity.
-/

namespace AsterTeam.RunnerQuota

open List
open Transition (Run)

variable {installationId : String} {bindings : List RunnerUpgradeBinding}
  {members : List RunnerQuotaMember}

-- The binding of a member

def Binds (binding : RunnerUpgradeBinding) (member : RunnerQuotaMember) : Prop :=
  binding.previous = member ∨ binding.candidate = member

def Bound (bindings : List RunnerUpgradeBinding) (member : RunnerQuotaMember) : Prop :=
  ∃ binding ∈ bindings, Binds binding member

def logicalId (bindings : List RunnerUpgradeBinding) (member : RunnerQuotaMember) : String :=
  match bindings.find? fun binding =>
    binding.previous == member || binding.candidate == member with
  | none => member.id
  | some binding => binding.logicalRunnerId

variable {member : RunnerQuotaMember}

theorem logicalIdFor_eq {Bytes : Type} {quota : VerifiedRunnerQuota Bytes}
    (hm : member ∈ quota.snapshot.members)
    : quota.logicalIdFor member = some (logicalId quota.bindings.bindings member) := by
  unfold VerifiedRunnerQuota.logicalIdFor logicalId
  rw [if_neg (not_not.mpr hm)]
  cases quota.bindings.bindings.find? fun binding =>
    binding.previous == member || binding.candidate == member with
  | none => rfl
  | some binding => rfl

variable {binding : RunnerUpgradeBinding}

theorem Accepts.binding_unique (hac : Accepts installationId bindings members)
    (hb : binding ∈ bindings) (ho : other ∈ bindings) (binds : Binds binding member)
    (bindsOther : Binds other member)
    : binding = other := by
  obtain ⟨before, after, rfl⟩ := append_of_mem hb
  obtain ⟨_, hap⟩ := apart_of_nodup (nodup_boundIds hac.valid)
  by_contra hd
  have ha : other ∈ before ++ after := by
    simp only [mem_append, mem_cons] at ho ⊢
    rcases ho with hbe | same | haf
    · exact .inl hbe
    · exact absurd same.symm hd
    · exact .inr haf
  have others := hap other ha
  rcases binds with rfl | rfl <;> rcases bindsOther with same | same
  · exact others.previous.1 (congrArg _ same)
  · exact others.candidate.1 (congrArg _ same)
  · exact others.previous.2 (congrArg _ same)
  · exact others.candidate.2 (congrArg _ same)

theorem Accepts.logicalId_of_binds (ha : Accepts installationId bindings members)
    (hb : binding ∈ bindings) (binds : Binds binding member)
    : logicalId bindings member = binding.logicalRunnerId := by
  unfold logicalId
  split
  · rename_i notFound
    have hr := find?_eq_none.mp notFound binding hb
    simp only [Bool.or_eq_true, beq_iff_eq] at hr
    exact absurd binds hr
  · rename_i hfo hf
    have hbi : Binds hfo member := by
      have hh := find?_some hf
      simpa [Binds] using hh
    rw [ha.binding_unique hb (mem_of_find?_eq_some hf) binds hbi]

theorem logicalId_of_unbound (unbound : ¬ Bound bindings member)
    : logicalId bindings member = member.id := by
  unfold logicalId
  split
  · rfl
  · rename_i hfo hf
    have hh := find?_some hf
    exact absurd ⟨hfo, mem_of_find?_eq_some hf, by simpa [Binds] using hh⟩ unbound

theorem Accepts.logical_unique (ha : Accepts installationId bindings members)
    (hb : binding ∈ bindings) (ho : other ∈ bindings)
    (same : binding.logicalRunnerId = other.logicalRunnerId)
    : binding = other := by
  have valid := ha.valid
  simp only [RunnerQuotaBindings.validate, Bool.and_eq_true, decide_eq_true_eq] at valid
  refine inj_on_of_nodup_map valid.1.1.2 hb ho ?_
  rw [ha.installed binding hb, ha.installed other ho, same]

/-- Of the two members of a finished upgrade only the survivor has a row. -/
theorem Accepts.eq_survivor (hac : Accepts installationId bindings members)
    (hb : binding ∈ bindings) (hs : binding.current = some survivor) (hm : member ∈ members)
    (binds : Binds binding member)
    : member = survivor := by
  have ha := hac.phases binding hb
  unfold matchesPhase at ha
  unfold RunnerUpgradeBinding.current at hs
  cases hp : binding.phase with
  | prepared =>
    rw [hp] at hs
    cases hs
  | committed =>
    rw [hp] at ha hs
    simp only [Bool.and_eq_true, absent_iff] at ha
    rcases binds with rfl | rfl
    · exact absurd rfl (ha.1 _ hm)
    · exact Option.some.inj hs
  | rolledBack =>
    rw [hp] at ha hs
    simp only [Bool.and_eq_true, absent_iff] at ha
    rcases binds with rfl | rfl
    · exact Option.some.inj hs
    · exact absurd rfl (ha.2 _ hm)

-- The invariant

/-- Bindings that agree with the rows and own their logical Runners. The identifiers that have
been used contain all that are named.
-/
structure Logical (installationId : String) (used : List String)
    (bindings : List RunnerUpgradeBinding) (members : List RunnerQuotaMember)
    : Prop where
  accepts : Accepts installationId bindings members
  usedMembers : ∀ member ∈ members, member.id ∈ used
  usedBindings
    : ∀ binding ∈ bindings,
        binding.previous.id ∈ used ∧ binding.candidate.id ∈ used
        ∧ binding.logicalRunnerId ∈ used
  owner
    : ∀ member ∈ members, ∀ binding ∈ bindings,
        logicalId bindings member = binding.logicalRunnerId → Binds binding member

namespace Logical

variable {used : List String}

section

variable (logical : Logical installationId used bindings members)

include logical

theorem perm (perm : members.Perm others)
    : Logical installationId used bindings others where
  accepts := logical.accepts.perm perm
  usedMembers member isMember := logical.usedMembers member (perm.mem_iff.mpr isMember)
  usedBindings := logical.usedBindings
  owner member isMember := logical.owner member (perm.mem_iff.mpr isMember)

theorem unbound_of_fresh (hf : member.id ∉ used) : ¬ Bound bindings member := by
  rintro ⟨binding, hb, rfl | rfl⟩
  · exact hf (logical.usedBindings binding hb).1
  · exact hf (logical.usedBindings binding hb).2.1

theorem registered (hf : member.id ∉ used)
    : Logical installationId (member.id :: used) bindings (members ++ [member]) := by
  have ha := logical.accepts
  refine ⟨⟨?_, ha.valid, ha.installed, fun binding hb => ?_⟩,
    fun other ho => ?_, fun binding hb => ?_,
    fun other ho binding hb same => ?_⟩
  · rw [map_append, map_singleton]
    refine nodup_append.mpr ⟨ha.distinct, nodup_singleton _, ?_⟩
    intro id hi other ho same
    obtain ⟨old, hol, rfl⟩ := mem_map.mp hi
    rw [mem_singleton.mp ho] at same
    exact hf (same ▸ logical.usedMembers old hol)
  · obtain ⟨previous, candidate, _⟩ := logical.usedBindings binding hb
    exact matchesPhase_added (ha.phases binding hb)
      ⟨fun same => hf (same ▸ previous), fun same => hf (same ▸ candidate)⟩
  · rcases mem_append.mp ho with hol | hn
    · exact mem_cons_of_mem _ (logical.usedMembers other hol)
    · rw [mem_singleton.mp hn]
      exact mem_cons_self
  · obtain ⟨previous, candidate, logicalId⟩ := logical.usedBindings binding hb
    exact ⟨mem_cons_of_mem _ previous, mem_cons_of_mem _ candidate, mem_cons_of_mem _ logicalId⟩
  · rcases mem_append.mp ho with hol | hn
    · exact logical.owner other hol binding hb same
    · rw [mem_singleton.mp hn, logicalId_of_unbound (logical.unbound_of_fresh hf)]
        at same
      exact absurd (same ▸ (logical.usedBindings binding hb).2.2) hf

end

/-- A new upgrade of the logical Runner of its previous member. -/
structure Begins (bindings : List RunnerUpgradeBinding)
    (members : List RunnerQuotaMember) (binding : RunnerUpgradeBinding)
    (next : List RunnerUpgradeBinding)
    : Prop where
  replaces : Replaces binding bindings next
  isLogical : binding.logicalRunnerId = logicalId bindings binding.previous
  isPrevious : binding.previous ∈ members
  isNew : ∀ member ∈ members, member.id ≠ binding.candidate.id

theorem binds_middle {before after : List RunnerUpgradeBinding}
    : Bound (before ++ binding :: after) member
      ↔ Binds binding member ∨ Bound (before ++ after) member := by
  simp only [Bound, mem_append, mem_cons]
  constructor
  · rintro ⟨other, hb | rfl | ha, binds⟩
    · exact .inr ⟨other, .inl hb, binds⟩
    · exact .inl binds
    · exact .inr ⟨other, .inr ha, binds⟩
  · rintro (binds | ⟨other, ho, binds⟩)
    · exact ⟨binding, .inr (.inl rfl), binds⟩
    · exact ⟨other, ho.imp_right .inr, binds⟩

section

variable {next : List RunnerUpgradeBinding}

/-- Only the previous member had the logical Runner of a new binding. -/
theorem Begins.eq_previous (hb : Begins bindings members binding next)
    (logical : Logical installationId used bindings members) (hm : member ∈ members)
    (same : logicalId bindings member = binding.logicalRunnerId)
    : member = binding.previous := by
  have ha := logical.accepts
  obtain ⟨hr, hl, hp, _⟩ := hb
  cases hr with
  | pushed hn =>
    have unbound (other : RunnerQuotaMember)
        (hot : logicalId bindings other = binding.logicalRunnerId)
        : ¬ Bound bindings other := by
      rintro ⟨old, ho, binds⟩
      exact hn old ho ((ha.logicalId_of_binds ho binds).symm.trans hot)
    refine eq_of_id_eq ha.distinct hm hp ?_
    rw [← logicalId_of_unbound (unbound member same), same, hl,
      logicalId_of_unbound (unbound binding.previous hl.symm)]
  | @replaced before after old sameLogical hs otherJob =>
    have ho : old ∈ before ++ old :: after := mem_append_right _ mem_cons_self
    exact ha.eq_survivor ho hs hm (logical.owner member hm old ho (same.trans sameLogical.symm))

/-- Every member with a row keeps its logical Runner. -/
theorem Begins.logicalId_eq (hbe : Begins bindings members binding next)
    (ha : Accepts installationId bindings members)
    (hnex : Accepts installationId next (members ++ [binding.candidate])) (hm : member ∈ members)
    : logicalId next member = logicalId bindings member := by
  have hno : binding.candidate ≠ member := fun same =>
    hbe.isNew member hm (congrArg _ same.symm)
  obtain ⟨hr, hl, _, _⟩ := hbe
  cases hr with
  | pushed hne =>
    by_cases hb : Bound bindings member
    · obtain ⟨old, ho, binds⟩ := hb
      rw [ha.logicalId_of_binds ho binds, hnex.logicalId_of_binds (mem_append_left _ ho) binds]
    · by_cases hp : binding.previous = member
      · rw [hnex.logicalId_of_binds (mem_append_right _ (mem_singleton.mpr rfl)) (.inl hp), hl, hp]
      · have unbound : ¬ Bound (bindings ++ [binding]) member := by
          rw [binds_middle, append_nil]
          exact fun both => both.elim (fun binds => binds.elim hp hno) hb
        rw [logicalId_of_unbound unbound, logicalId_of_unbound hb]
  | @replaced before after old sameLogical hs otherJob =>
    have ho : old ∈ before ++ old :: after := mem_append_right _ mem_cons_self
    have hn : binding ∈ before ++ binding :: after :=
      mem_append_right _ mem_cons_self
    by_cases bindsOld : Binds old member
    · have hp := ha.eq_survivor ho hs hm bindsOld
      rw [ha.logicalId_of_binds ho bindsOld, hnex.logicalId_of_binds hn (.inl hp.symm), sameLogical]
    · have hnot : binding.previous ≠ member := by
        rintro rfl
        have hbi : Binds old binding.previous := by
          unfold RunnerUpgradeBinding.current at hs
          split at hs
          · cases hs
          · exact .inr (Option.some.inj hs)
          · exact .inl (Option.some.inj hs)
        exact bindsOld hbi
      by_cases hb : Bound (before ++ after) member
      · obtain ⟨other, hot, binds⟩ := hb
        have kept (middle : RunnerUpgradeBinding) : other ∈ before ++ middle :: after := by
          simp only [mem_append, mem_cons] at hot ⊢
          tauto
        rw [ha.logicalId_of_binds (kept old) binds, hnex.logicalId_of_binds (kept binding) binds]
      · rw [logicalId_of_unbound, logicalId_of_unbound]
        · rw [binds_middle]
          exact fun both => both.elim bindsOld hb
        · rw [binds_middle]
          exact fun both => both.elim (fun binds => binds.elim hnot hno) hb

theorem begun (logical : Logical installationId used bindings members)
    (hbeg : Begins bindings members binding next)
    (hnex : Accepts installationId next (members ++ [binding.candidate]))
    : Logical installationId (binding.candidate.id :: used) next
        (members ++ [binding.candidate]) := by
  have hac := logical.accepts
  obtain ⟨before, after, hs, hol, _⟩ := hbeg.replaces.split
  have hne : binding ∈ next := by
    rw [hs]
    exact mem_append_right _ mem_cons_self
  have cases_of_mem (other : RunnerUpgradeBinding) (ho : other ∈ next)
      : other = binding ∨ other ∈ bindings := by
    rw [hs, mem_append, mem_cons] at ho
    rcases ho with hbe | same | ha
    · exact .inr (hol other (mem_append_left _ hbe))
    · exact .inl same
    · exact .inr (hol other (mem_append_right _ ha))
  have hu : binding.logicalRunnerId ∈ used := by
    rw [hbeg.isLogical]
    by_cases hb : Bound bindings binding.previous
    · obtain ⟨old, hol, binds⟩ := hb
      rw [hac.logicalId_of_binds hol binds]
      exact (logical.usedBindings old hol).2.2
    · rw [logicalId_of_unbound hb]
      exact logical.usedMembers _ hbeg.isPrevious
  refine ⟨hnex, fun other ho => ?_, fun other ho => ?_, fun member hm other ho same => ?_⟩
  · rcases mem_append.mp ho with hol | hn
    · exact mem_cons_of_mem _ (logical.usedMembers other hol)
    · rw [mem_singleton.mp hn]
      exact mem_cons_self
  · rcases cases_of_mem other ho with rfl | hk
    · exact ⟨mem_cons_of_mem _ (logical.usedMembers _ hbeg.isPrevious),
        mem_cons_self, mem_cons_of_mem _ hu⟩
    · obtain ⟨previous, candidate, hl⟩ := logical.usedBindings other hk
      exact ⟨mem_cons_of_mem _ previous, mem_cons_of_mem _ candidate, mem_cons_of_mem _ hl⟩
  · rcases mem_append.mp hm with hr | hn
    · rw [hbeg.logicalId_eq hac hnex hr] at same
      rcases cases_of_mem other ho with rfl | hk
      · exact .inl (hbeg.eq_previous logical hr same).symm
      · exact logical.owner member hr other hk same
    · rw [mem_singleton.mp hn] at same ⊢
      rw [hnex.logicalId_of_binds hne (.inr rfl)] at same
      rw [← hnex.logical_unique hne ho same]
      exact .inr rfl

end

section

variable {before after : List RunnerUpgradeBinding}

/-- The phase of a binding is not part of a logical Runner. -/
theorem logicalId_phase (phase : RunnerUpgradePhase) (member : RunnerQuotaMember)
    : logicalId (before ++ { binding with phase } :: after) member
      = logicalId (before ++ binding :: after) member := by
  unfold logicalId
  rw [find?_append, find?_append, find?_cons, find?_cons]
  dsimp only
  cases before.find? fun binding =>
    binding.previous == member || binding.candidate == member with
  | some hf => rfl
  | none =>
    cases binding.previous == member || binding.candidate == member with
    | true => rfl
    | false => rfl

theorem finished (logical : Logical installationId used (before ++ binding :: after) members)
    (hp : binding.phase = .prepared) (keepCandidate : Bool)
    : Logical installationId used
        (before
          ++ { binding with phase := VerifiedRunnerQuota.finishedPhase keepCandidate } :: after)
        (members.filter fun member =>
          member.id ≠ (VerifiedRunnerQuota.retiredMember binding keepCandidate).id) := by
  have hb : binding ∈ before ++ binding :: after :=
    mem_append_right _ mem_cons_self
  have cases_of_mem (other finished : RunnerUpgradeBinding)
      (ho : other ∈ before ++ finished :: after)
      : other = finished ∨ other ∈ before ++ binding :: after := by
    simp only [mem_append, mem_cons] at ho ⊢
    tauto
  refine ⟨logical.accepts.finished hp keepCandidate, fun member hm => ?_,
    fun other ho => ?_, fun member hm other ho same => ?_⟩
  · exact logical.usedMembers member (mem_filter.mp hm).1
  · rcases cases_of_mem other _ ho with rfl | hk
    · exact logical.usedBindings binding hb
    · exact logical.usedBindings other hk
  · have hr := (mem_filter.mp hm).1
    rw [logicalId_phase] at same
    rcases cases_of_mem other _ ho with rfl | hk
    · exact logical.owner member hr binding hb same
    · exact logical.owner member hr other hk same

variable {id : String}

/-- A deletion leaves the logical Runners of the other rows. -/
theorem logicalId_deleted (ha : Accepts installationId bindings members)
    (hn : Accepts installationId
          (bindings.filter fun binding => binding.current.all fun member => member.id ≠ id)
          (members.filter fun member => member.id ≠ id))
    (hm : member ∈ members) (hd : member.id ≠ id)
    : logicalId
        (bindings.filter fun binding => binding.current.all fun member => member.id ≠ id) member
      = logicalId bindings member := by
  by_cases hb : Bound bindings member
  · obtain ⟨old, ho, binds⟩ := hb
    have hk : old.current.all (fun survivor => survivor.id ≠ id) := by
      cases hs : old.current with
      | none => rfl
      | some survivor =>
        rw [Option.all_some, decide_eq_true_eq, ← ha.eq_survivor ho hs hm binds]
        exact hd
    rw [ha.logicalId_of_binds ho binds, hn.logicalId_of_binds (mem_filter.mpr ⟨ho, hk⟩) binds]
  · rw [logicalId_of_unbound hb, logicalId_of_unbound]
    rintro ⟨old, ho, binds⟩
    exact hb ⟨old, (mem_filter.mp ho).1, binds⟩

theorem deleted (logical : Logical installationId used bindings members)
    (notPair : id ∉ boundIds (preparedBindings bindings))
    : Logical installationId used
        (bindings.filter fun binding => binding.current.all fun member => member.id ≠ id)
        (members.filter fun member => member.id ≠ id) := by
  have hn := logical.accepts.deleted notPair
  refine ⟨hn, fun member hm => ?_, fun other ho => ?_, fun member hm other ho same => ?_⟩
  · exact logical.usedMembers member (mem_filter.mp hm).1
  · exact logical.usedBindings other (mem_filter.mp ho).1
  · obtain ⟨hr, hd⟩ := mem_filter.mp hm
    rw [logicalId_deleted logical.accepts hn hr (by simpa using hd)] at same
    exact logical.owner member hr other (mem_filter.mp ho).1 same

end

section

variable (logical : Logical installationId used bindings members)

include logical

/-- The two rows of a pair are different, and the first of them is no candidate. -/
theorem previous_not_candidate (hp : binding ∈ preparedBindings bindings)
    : isPairCandidate bindings binding.previous = false := by
  have ha := logical.accepts
  have hb := (mem_filter.mp hp).1
  rw [isPairCandidate, decide_eq_false_iff_not]
  intro hc
  obtain ⟨other, ho, same⟩ := mem_map.mp hc
  have hs := ha.binding_unique hb (mem_filter.mp ho).1
    (.inl rfl : Binds binding binding.previous) (.inr same)
  rw [← hs] at same
  obtain ⟨before, after, rfl⟩ := append_of_mem hb
  exact (apart_of_nodup (nodup_boundIds ha.valid)).1 (congrArg _ same.symm)

/-- One row of each logical Runner is no candidate of a pair. -/
theorem eq_of_logicalId_eq (hm : member ∈ members) (ho : other ∈ members)
    (alone : isPairCandidate bindings member = false) (hot : isPairCandidate bindings other = false)
    (same : logicalId bindings member = logicalId bindings other)
    : member = other := by
  have ha := logical.accepts
  by_cases hbo : Bound bindings member
  · obtain ⟨binding, hb, binds⟩ := hbo
    rw [ha.logicalId_of_binds hb binds] at same
    have bindsOther := logical.owner other ho binding hb same.symm
    cases hs : binding.current with
    | some survivor =>
      rw [ha.eq_survivor hb hs hm binds, ha.eq_survivor hb hs ho bindsOther]
    | none =>
      have hpr : binding ∈ preparedBindings bindings := by
        refine mem_filter.mpr ⟨hb, ?_⟩
        unfold RunnerUpgradeBinding.current at hs
        split at hs <;> simp_all
      have hp (row : RunnerQuotaMember) (bindsRow : Binds binding row)
          (rowAlone : isPairCandidate bindings row = false)
          : row = binding.previous := by
        rcases bindsRow with rfl | rfl
        · rfl
        · rw [isPairCandidate, decide_eq_false_iff_not] at rowAlone
          exact absurd (mem_map_of_mem hpr) rowAlone
      rw [hp member binds alone, hp other bindsOther hot]
  · have hoth : ¬ Bound bindings other := by
      rintro ⟨binding, hb, binds⟩
      rw [ha.logicalId_of_binds hb binds] at same
      exact hbo ⟨binding, hb, logical.owner member hm binding hb same⟩
    rw [logicalId_of_unbound hbo, logicalId_of_unbound hoth] at same
    exact eq_of_id_eq ha.distinct hm ho same

/-- The logical Runners are as many as the rows without one of each pair. -/
theorem length_logicalIds
    : ((members.map (logicalId bindings)).dedup).length + (preparedBindings bindings).length
      = members.length := by
  have hac := logical.accepts
  have hd
      : ((members.filter fun member => !isPairCandidate bindings member).map
          (logicalId bindings)).Nodup := by
    refine Nodup.map_on ?_ ((Nodup.of_map _ hac.distinct).filter _)
    intro member hm other ho same
    obtain ⟨hr, alone⟩ := mem_filter.mp hm
    obtain ⟨hot, hoth⟩ := mem_filter.mp ho
    exact logical.eq_of_logicalId_eq hr hot (by simpa using alone) (by simpa using hoth) same
  have perm
      : ((members.map (logicalId bindings)).dedup).Perm
          ((members.filter fun member => !isPairCandidate bindings member).map
            (logicalId bindings)) := by
    refine (perm_ext_iff_of_nodup (nodup_dedup _) hd).mpr fun id => ?_
    rw [mem_dedup, mem_map, mem_map]
    constructor
    · rintro ⟨member, hm, rfl⟩
      cases hc : isPairCandidate bindings member with
      | false => exact ⟨member, mem_filter.mpr ⟨hm, by simp [hc]⟩, rfl⟩
      | true =>
        rw [isPairCandidate, decide_eq_true_eq] at hc
        obtain ⟨binding, hp, rfl⟩ := mem_map.mp hc
        obtain ⟨hb, hph⟩ := mem_filter.mp hp
        have ha := hac.phases binding hb
        rw [matchesPhase, beq_iff_eq.mp hph] at ha
        simp only [Bool.and_eq_true, present_iff] at ha
        refine ⟨binding.previous, mem_filter.mpr ⟨ha.1, ?_⟩, ?_⟩
        · rw [logical.previous_not_candidate hp]
          rfl
        · rw [hac.logicalId_of_binds hb (.inl rfl), hac.logicalId_of_binds hb (.inr rfl)]
    · rintro ⟨member, hm, rfl⟩
      exact ⟨member, (mem_filter.mp hm).1, rfl⟩
  rw [perm.length_eq, length_map, hac.length_split, Nat.add_comm]

end

end Logical

end AsterTeam.RunnerQuota
