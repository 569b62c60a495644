import AsterTeam.RunnerQuota.Bindings

/-! Every change that is derived from a verified snapshot leads to a snapshot that is verified
again, with the quota that the change is meant to leave.
-/

namespace AsterTeam.RunnerQuota

open Bool (and_eq_true or_eq_true)
open List Option

open VerifiedRunnerQuota RunnerQuotaBindings
open MachineInteger (checkedSucc)

-- Accepted bindings

/-- Bindings that are valid for an installation and agree with the rows of the Runners. -/
structure Accepts (installationId : String) (bindings : List RunnerUpgradeBinding)
    (members : List RunnerQuotaMember)
    : Prop where
  distinct : (members.map (·.id)).Nodup
  valid : validate ⟨quotaSchema, bindings⟩ = true
  installed : ∀ binding ∈ bindings, binding.installationId = installationId
  phases : ∀ binding ∈ bindings, matchesPhase members binding = true

section

variable {members : List RunnerQuotaMember} {member : RunnerQuotaMember}

theorem present_iff : present members member ↔ member ∈ members := by
  simp [present]

theorem absent_iff : absent members member ↔ ∀ actual ∈ members, actual.id ≠ member.id := by
  simp [absent]

theorem matchesPhase_perm (perm : members.Perm others) (binding : RunnerUpgradeBinding)
    : matchesPhase members binding = matchesPhase others binding := by
  have hs (member : RunnerQuotaMember)
      : present members member = present others member := by
    simp [present, perm.mem_iff]
  have hsa (member : RunnerQuotaMember)
      : absent members member = absent others member := by
    rw [Bool.eq_iff_iff, absent_iff, absent_iff]
    exact forall_congr' fun actual => imp_congr_left perm.mem_iff
  unfold matchesPhase
  cases binding.phase <;> simp only [hs, hsa]

theorem Accepts.perm {installationId : String} {bindings : List RunnerUpgradeBinding}
    (ha : Accepts installationId bindings members) (perm : members.Perm others)
    : Accepts installationId bindings others where
  distinct := (perm.map _).nodup_iff.mp ha.distinct
  valid := ha.valid
  installed := ha.installed
  phases binding isBinding :=
    (matchesPhase_perm perm binding).symm.trans (ha.phases binding isBinding)

theorem eq_of_id_eq (hd : (members.map (·.id)).Nodup) (hm : member ∈ members) (ho : other ∈ members)
    (same : member.id = other.id)
    : member = other :=
  inj_on_of_nodup_map hd hm ho same

theorem length_without (hd : (members.map (·.id)).Nodup) (hm : member ∈ members)
    : (members.filter fun other => other.id ≠ member.id).length + 1 = members.length := by
  have onlyOne : (members.filter fun other => other.id = member.id) = [member] := by
    have nodup := (Nodup.of_map _ hd).filter fun other => decide (other.id = member.id)
    apply perm_singleton.mp
    refine (perm_ext_iff_of_nodup nodup (nodup_singleton member)).mpr fun other => ?_
    rw [mem_filter, mem_singleton, decide_eq_true_eq]
    refine ⟨fun both => eq_of_id_eq hd both.1 hm both.2, fun same => ?_⟩
    rw [same]
    exact ⟨hm, rfl⟩
  have split := length_eq_length_filter_add (l := members)
    fun other => decide (other.id = member.id)
  rw [onlyOne] at split
  simpa [Nat.add_comm] using split.symm

end

-- The members of a binding

structure Apart (binding other : RunnerUpgradeBinding) : Prop where
  previous : other.previous.id ≠ binding.previous.id ∧ other.previous.id ≠ binding.candidate.id
  candidate
    : other.candidate.id ≠ binding.previous.id ∧ other.candidate.id ≠ binding.candidate.id

section

variable {before after : List RunnerUpgradeBinding} {binding : RunnerUpgradeBinding}
  {bindings : List RunnerUpgradeBinding}

theorem mem_boundIds {id : String}
    : id ∈ boundIds bindings
      ↔ ∃ binding ∈ bindings, binding.previous.id = id ∨ binding.candidate.id = id := by
  simp [boundIds, mem_flatMap, eq_comm]

/-- The other bindings have none of the members of a binding. -/
theorem apart_of_nodup (hd : (boundIds (before ++ binding :: after)).Nodup)
    : binding.previous.id ≠ binding.candidate.id
      ∧ ∀ other ∈ before ++ after, Apart binding other := by
  have perm : (before ++ binding :: after).Perm (binding :: (before ++ after)) :=
    perm_middle
  have nodup : (boundIds (binding :: (before ++ after))).Nodup :=
    (perm.flatMap_right _).nodup_iff.mp hd
  rw [boundIds, flatMap_cons, cons_append, cons_append, nil_append, nodup_cons, nodup_cons] at nodup
  obtain ⟨hn, hno, _⟩ := nodup
  have hf (id : String)
      (notIn : id ∉ boundIds (before ++ after)) (other : RunnerUpgradeBinding)
      (ho : other ∈ before ++ after)
      : other.previous.id ≠ id ∧ other.candidate.id ≠ id :=
    ⟨fun same => notIn (mem_boundIds.mpr ⟨other, ho, .inl same⟩),
      fun same => notIn (mem_boundIds.mpr ⟨other, ho, .inr same⟩)⟩
  refine ⟨fun same => hn (same ▸ mem_cons_self), fun other ho => ?_⟩
  have previous := hf binding.previous.id (fun hb => hn (mem_cons_of_mem _ hb)) other ho
  have candidate := hf binding.candidate.id hno other ho
  exact ⟨⟨previous.1, candidate.1⟩, ⟨previous.2, candidate.2⟩⟩

theorem nodup_boundIds (valid : validate ⟨quotaSchema, bindings⟩) : (boundIds bindings).Nodup := by
  simp only [validate, and_eq_true, decide_eq_true_eq] at valid
  exact valid.2

theorem split_of_findIdx {Value : Type} {values : List Value} {test : Value → Bool}
    (hi : values.findIdx? test = some index)
    : ∃ before value after, values = before ++ value :: after ∧ index = before.length
      ∧ test value := by
  obtain ⟨hw, hv, _⟩ := findIdx?_eq_some_iff_getElem.mp hi
  refine ⟨values.take index, values[index], values.drop (index + 1), ?_, ?_, hv⟩
  · rw [getElem_cons_drop, take_append_drop]
  · rw [length_take, Nat.min_eq_left (by omega)]

end

-- Verification

variable {Bytes : Type} [DecidableEq Bytes] {codec : QuotaCodec Bytes}
  {authenticate : SecurityStateRecord Bytes → Bool} {installationId : String}
  {snapshot : RunnerQuotaSnapshot Bytes} {quota : VerifiedRunnerQuota Bytes}

omit [DecidableEq Bytes] in
theorem encode_eq_some {value : RunnerQuotaBindings} (he : value.encode codec = some bytes)
    : value.validate ∧ codec.size bytes ≤ maxStateBytes ∧ bytes = codec.toBytes value := by
  unfold encode at he
  split_ifs at he with invalid large
  cases he
  exact ⟨by simpa using invalid, not_lt.mp large, rfl⟩

variable {bindings : RunnerQuotaBindings}

theorem validate_of_read (hr : readBindings codec authenticate snapshot = some bindings)
    : bindings.validate := by
  unfold readBindings at hr
  split at hr
  · cases hr
    decide
  · split_ifs at hr
    obtain ⟨value, _, hr⟩ := bind_eq_some_iff.mp hr
    obtain ⟨canonical, he, hr⟩ := bind_eq_some_iff.mp hr
    split_ifs at hr
    cases hr
    exact (encode_eq_some he).1

theorem schema_of_validate (valid : bindings.validate)
    : bindings = ⟨quotaSchema, bindings.bindings⟩ := by
  simp only [validate, and_eq_true, beq_iff_eq] at valid
  obtain ⟨⟨⟨⟨⟨hs, _⟩, _⟩, _⟩, _⟩, _⟩ := valid
  rw [← hs]

structure Verified (codec : QuotaCodec Bytes) (authenticate : SecurityStateRecord Bytes → Bool)
    (installationId : String) (snapshot : RunnerQuotaSnapshot Bytes)
    (quota : VerifiedRunnerQuota Bytes)
    : Prop where
  isSnapshot : quota.snapshot = snapshot
  isInstallation : quota.installationId = installationId
  isRead : readBindings codec authenticate snapshot = some quota.bindings
  accepts : Accepts installationId quota.bindings.bindings snapshot.members
  fits : (preparedBindings quota.bindings.bindings).length ≤ snapshot.members.length
  bounded
    : snapshot.members.length - (preparedBindings quota.bindings.bindings).length < 2 ^ 32
  isOccupied
    : quota.occupied = snapshot.members.length - (preparedBindings quota.bindings.bindings).length
  isUpgradeMembers
    : quota.upgradeMembers = boundIds (preparedBindings quota.bindings.bindings)

theorem verified_of_verify
    (verifies : snapshot.verify codec installationId authenticate = some quota)
    : Verified codec authenticate installationId snapshot quota := by
  unfold RunnerQuotaSnapshot.verify at verifies
  split_ifs at verifies with repeated
  obtain ⟨bindings, hr, verifies⟩ := bind_eq_some_iff.mp verifies
  dsimp only at verifies
  split_ifs at verifies with mismatch few many
  cases verifies
  have valid := validate_of_read hr
  simp only [Bool.not_eq_true', decide_eq_false_iff_not, not_not] at repeated
  simp only [List.any_eq_true, or_eq_true, decide_eq_true_eq, Bool.not_eq_true', not_exists,
    not_and, not_or, not_not, Bool.not_eq_false] at mismatch
  refine ⟨rfl, rfl, hr, ⟨repeated, ?_, ?_, ?_⟩, not_lt.mp few, not_le.mp many, rfl,
    rfl⟩
  · rw [schema_of_validate valid] at valid
    exact valid
  · exact fun binding hb => (mismatch binding hb).1
  · exact fun binding hb => (mismatch binding hb).2

theorem verify_of_accepts (hr : readBindings codec authenticate snapshot = some bindings)
    (hac : Accepts installationId bindings.bindings snapshot.members)
    (hf : (preparedBindings bindings.bindings).length ≤ snapshot.members.length)
    (hbo : snapshot.members.length - (preparedBindings bindings.bindings).length < 2 ^ 32)
    : ∃ quota, snapshot.verify codec installationId authenticate = some quota
        ∧ quota.bindings = bindings
        ∧ quota.occupied
          = snapshot.members.length - (preparedBindings bindings.bindings).length := by
  refine ⟨⟨snapshot, _, boundIds (preparedBindings bindings.bindings), bindings,
    installationId⟩, ?_, rfl, rfl⟩
  unfold RunnerQuotaSnapshot.verify
  have ha
      : bindings.bindings.any (fun binding =>
          binding.installationId ≠ installationId || !matchesPhase snapshot.members binding)
        = false := by
    rw [List.any_eq_false]
    intro binding hb
    simp [hac.installed binding hb, hac.phases binding hb]
  rw [if_neg (by simpa using hac.distinct), hr]
  simp only [bind_eq_bind, bind_some, ha]
  rw [if_neg (by simp), if_neg (by omega), if_neg (by omega)]

variable {next : RunnerQuotaBindings} {members : List RunnerQuotaMember}
  {action : RunnerQuotaAction} {change : RunnerQuotaChange Bytes}
  {record : SecurityStateRecord Bytes}

/-- The record that a change calls for is read as the bindings of the change. -/
theorem readBindings_of_change (hro : codec.RoundTrips)
    (hc : quota.change codec next members action = some change)
    (hr : change.validatesNext record) (ha : authenticate record)
    : readBindings codec authenticate ⟨some record, change.nextMembers⟩ = some next
      ∧ next.validate
      ∧ change.nextMembers = members.mergeSort fun left right => left.id ≤ right.id := by
  unfold VerifiedRunnerQuota.change at hc
  obtain ⟨revision, _, hc⟩ := bind_eq_some_iff.mp hc
  split_ifs at hc
  obtain ⟨value, he, hc⟩ := bind_eq_some_iff.mp hc
  cases hc
  obtain ⟨valid, hs, hv⟩ := encode_eq_some he
  simp only [RunnerQuotaChange.validatesNext, and_eq_true, beq_iff_eq] at hr
  obtain ⟨⟨⟨⟨hk, sameValue⟩, _⟩, _⟩, _⟩ := hr
  refine ⟨?_, valid, rfl⟩
  unfold readBindings
  simp only
  rw [if_neg (by simp [hk, sameValue, ha, hs]), sameValue, hv, hro]
  simp only [bind_eq_bind, bind_some]
  rw [← hv, he]
  simp

theorem verify_of_change (hro : codec.RoundTrips)
    (hc : quota.change codec next members action = some change)
    (hr : change.validatesNext record) (ha : authenticate record)
    (hac : next.validate → Accepts installationId next.bindings members)
    (hf : (preparedBindings next.bindings).length ≤ members.length)
    (hb : members.length - (preparedBindings next.bindings).length < 2 ^ 32)
    : ∃ quota',
        RunnerQuotaSnapshot.verify codec ⟨some record, change.nextMembers⟩ installationId
            authenticate
          = some quota'
        ∧ quota'.bindings = next
        ∧ quota'.occupied = members.length - (preparedBindings next.bindings).length := by
  obtain ⟨hre, valid, hs⟩ := readBindings_of_change hro hc hr ha
  have perm : members.Perm change.nextMembers := by
    rw [hs]
    exact (mergeSort_perm members _).symm
  have result := verify_of_accepts hre ((hac valid).perm perm)
    (by rw [← perm.length_eq]; exact hf) (by rw [← perm.length_eq]; exact hb)
  rw [perm.length_eq]
  exact result

-- The three changes

section

variable {bindings before after : List RunnerUpgradeBinding} {binding old : RunnerUpgradeBinding}

theorem length_prepared_middle
    : (preparedBindings (before ++ binding :: after)).length
      = (preparedBindings (before ++ after)).length
        + if binding.phase = .prepared then 1 else 0 := by
  simp only [preparedBindings, filter_append, filter_cons, length_append, beq_iff_eq]
  split_ifs
  · rw [length_cons]
    omega
  · rfl

inductive Replaces (binding : RunnerUpgradeBinding)
    : List RunnerUpgradeBinding → List RunnerUpgradeBinding → Prop
  | pushed {bindings : List RunnerUpgradeBinding}
    (isNew : ∀ old ∈ bindings, old.logicalRunnerId ≠ binding.logicalRunnerId)
    : Replaces binding bindings (bindings ++ [binding])
  | replaced {before after : List RunnerUpgradeBinding} {old : RunnerUpgradeBinding}
    (sameLogical : old.logicalRunnerId = binding.logicalRunnerId)
    (survives : old.current = some binding.previous) (otherJob : old.jobId ≠ binding.jobId)
    : Replaces binding (before ++ old :: after) (before ++ binding :: after)

variable {next : List RunnerUpgradeBinding}

theorem replaces_of_replaceBinding (hn : replaceBinding bindings binding = some next)
    : Replaces binding bindings next := by
  unfold replaceBinding at hn
  split at hn
  · rename_i notFound
    cases hn
    rw [findIdx?_eq_none_iff] at notFound
    exact .pushed fun old ho same => by simpa [same] using notFound old ho
  · rename_i index hi
    obtain ⟨before, old, after, rfl, rfl, sameLogical⟩ := split_of_findIdx hi
    split_ifs at hn with hr
    cases hn
    simp only [getElem?_append_right (le_refl before.length), Nat.sub_self, getElem?_cons_zero,
      any_some, or_eq_true, decide_eq_true_eq, beq_iff_eq, not_or, not_not] at hr
    rw [set_append_right _ _ (le_refl _), Nat.sub_self, set_cons_zero]
    exact .replaced (beq_iff_eq.mp sameLogical) hr.1 hr.2

/-- A new binding stands between bindings that were there before. -/
theorem Replaces.split (hr : Replaces binding bindings next)
    : ∃ before after, next = before ++ binding :: after
        ∧ (∀ other ∈ before ++ after, other ∈ bindings)
        ∧ (preparedBindings bindings).length = (preparedBindings (before ++ after)).length := by
  cases hr with
  | pushed hn =>
    refine ⟨bindings, [], rfl, fun other ho => ?_, ?_⟩
    · rwa [append_nil] at ho
    · rw [append_nil]
  | @replaced before after old sameLogical hs otherJob =>
    refine ⟨before, after, rfl, fun other ho => ?_, ?_⟩
    · rcases mem_append.mp ho with hb | ha
      · exact mem_append_left _ hb
      · exact mem_append_right _ (mem_cons_of_mem _ ha)
    · have finished : old.phase ≠ .prepared := by
        intro prepared
        rw [RunnerUpgradeBinding.current, prepared] at hs
        cases hs
      rw [length_prepared_middle, if_neg finished, Nat.add_zero]

theorem matchesPhase_added {member : RunnerQuotaMember} (hag : matchesPhase members binding)
    (hd : binding.previous.id ≠ member.id ∧ binding.candidate.id ≠ member.id)
    : matchesPhase (members ++ [member]) binding := by
  unfold matchesPhase at hag ⊢
  cases hp : binding.phase with
  | prepared =>
    simp only [hp, and_eq_true, present_iff] at hag ⊢
    exact ⟨mem_append_left _ hag.1, mem_append_left _ hag.2⟩
  | committed =>
    simp only [hp, and_eq_true, present_iff, absent_iff] at hag ⊢
    refine ⟨fun actual ha => ?_, mem_append_left _ hag.2⟩
    rcases mem_append.mp ha with ho | hn
    · exact hag.1 actual ho
    · rw [mem_singleton.mp hn]
      exact hd.1.symm
  | rolledBack =>
    simp only [hp, and_eq_true, present_iff, absent_iff] at hag ⊢
    refine ⟨mem_append_left _ hag.1, fun actual ha => ?_⟩
    rcases mem_append.mp ha with ho | hn
    · exact hag.2 actual ho
    · rw [mem_singleton.mp hn]
      exact hd.2.symm

variable {id : String}

theorem matchesPhase_removed (hag : matchesPhase members binding)
    (hd : (binding.previous ∈ members → binding.previous.id ≠ id)
        ∧ (binding.candidate ∈ members → binding.candidate.id ≠ id))
    : matchesPhase (members.filter fun member => member.id ≠ id) binding := by
  have kept (member : RunnerQuotaMember) (hm : member ∈ members) (other : member.id ≠ id)
      : member ∈ members.filter fun member => member.id ≠ id :=
    mem_filter.mpr ⟨hm, by simpa using other⟩
  unfold matchesPhase at hag ⊢
  cases hp : binding.phase with
  | prepared =>
    simp only [hp, and_eq_true, present_iff] at hag ⊢
    exact ⟨kept _ hag.1 (hd.1 hag.1), kept _ hag.2 (hd.2 hag.2)⟩
  | committed =>
    simp only [hp, and_eq_true, present_iff, absent_iff] at hag ⊢
    exact ⟨fun actual ha => hag.1 actual (mem_filter.mp ha).1, kept _ hag.2 (hd.2 hag.2)⟩
  | rolledBack =>
    simp only [hp, and_eq_true, present_iff, absent_iff] at hag ⊢
    exact ⟨kept _ hag.1 (hd.1 hag.1), fun actual ha => hag.2 actual (mem_filter.mp ha).1⟩

theorem Accepts.pair_mem (hac : Accepts installationId bindings members)
    (hb : binding ∈ bindings) (hp : binding.phase = .prepared)
    : binding.previous ∈ members ∧ binding.candidate ∈ members := by
  have ha := hac.phases binding hb
  rw [matchesPhase, hp] at ha
  simpa only [and_eq_true, present_iff] using ha

theorem Accepts.begun (ha : Accepts installationId bindings members)
    (hr : Replaces binding bindings next) (hp : binding.phase = .prepared)
    (hi : binding.installationId = installationId) (hpr : binding.previous ∈ members)
    (hn : ∀ member ∈ members, member.id ≠ binding.candidate.id)
    (valid : validate ⟨quotaSchema, next⟩)
    : Accepts installationId next (members ++ [binding.candidate]) := by
  obtain ⟨before, after, rfl, hol, _⟩ := hr.split
  obtain ⟨_, hap⟩ := apart_of_nodup (nodup_boundIds valid)
  refine ⟨?_, valid, fun other ho => ?_, fun other ho => ?_⟩
  · rw [map_append, map_singleton]
    refine nodup_append.mpr ⟨ha.distinct, nodup_singleton _, ?_⟩
    intro id hid other ho same
    obtain ⟨member, hm, rfl⟩ := mem_map.mp hid
    exact hn member hm (same.trans (mem_singleton.mp ho))
  · rcases mem_cons.mp (perm_middle.mem_iff.mp ho) with rfl | hk
    · exact hi
    · exact ha.installed other (hol other hk)
  · rcases mem_cons.mp (perm_middle.mem_iff.mp ho) with rfl | hk
    · rw [matchesPhase, hp]
      simp only [and_eq_true, present_iff]
      exact ⟨mem_append_left _ hpr, mem_append_right _ (mem_singleton.mpr rfl)⟩
    · exact matchesPhase_added (ha.phases other (hol other hk))
        ⟨(hap other hk).previous.2, (hap other hk).candidate.2⟩

theorem validate_phase (phase : RunnerUpgradePhase)
    : validate ⟨quotaSchema, before ++ { binding with phase } :: after⟩
      = validate ⟨quotaSchema, before ++ binding :: after⟩ := by
  simp [validate, bindingValid, boundIds]

theorem Accepts.finished (hac : Accepts installationId (before ++ binding :: after) members)
    (hp : binding.phase = .prepared) (keepCandidate : Bool)
    : Accepts installationId
        (before ++ { binding with phase := finishedPhase keepCandidate } :: after)
        (members.filter fun member =>
          member.id ≠ (retiredMember binding keepCandidate).id) := by
  obtain ⟨hd, hap⟩ := apart_of_nodup (nodup_boundIds hac.valid)
  have pair := hac.pair_mem (mem_append_right _ mem_cons_self) hp
  have hol {other : RunnerUpgradeBinding} (hk : other ∈ before ++ after)
      : other ∈ before ++ binding :: after :=
    perm_middle.mem_iff.mpr (mem_cons_of_mem _ hk)
  refine ⟨?_, ?_, fun other ho => ?_, fun other ho => ?_⟩
  · exact hac.distinct.sublist (filter_sublist.map _)
  · rw [validate_phase]
    exact hac.valid
  · rcases mem_cons.mp (perm_middle.mem_iff.mp ho) with rfl | hk
    · exact hac.installed binding (mem_append_right _ mem_cons_self)
    · exact hac.installed other (hol hk)
  · rcases mem_cons.mp (perm_middle.mem_iff.mp ho) with rfl | hk
    · cases keepCandidate with
      | true =>
        simp only [matchesPhase, finishedPhase, retiredMember, if_true, and_eq_true, present_iff,
          absent_iff]
        refine ⟨fun actual ha => ?_, ?_⟩
        · simpa using (mem_filter.mp ha).2
        · exact mem_filter.mpr ⟨pair.2, by simpa using hd.symm⟩
      | false =>
        simp only [matchesPhase, finishedPhase, retiredMember, Bool.false_eq_true, if_false,
          and_eq_true, present_iff, absent_iff]
        refine ⟨?_, fun actual ha => ?_⟩
        · exact mem_filter.mpr ⟨pair.1, by simpa using hd⟩
        · simpa using (mem_filter.mp ha).2
    · have others := hap other hk
      refine matchesPhase_removed (hac.phases other (hol hk)) ?_
      cases keepCandidate with
      | true => exact ⟨fun _ => others.previous.1, fun _ => others.candidate.1⟩
      | false => exact ⟨fun _ => others.previous.2, fun _ => others.candidate.2⟩

theorem validate_filter (valid : validate ⟨quotaSchema, bindings⟩)
    : validate ⟨quotaSchema, bindings.filter keep⟩ := by
  have sublist : (bindings.filter keep).Sublist bindings := List.filter_sublist
  simp only [validate, and_eq_true, decide_eq_true_eq, beq_iff_eq, List.all_eq_true] at valid ⊢
  obtain ⟨⟨⟨⟨⟨hs, few⟩, each⟩, logical⟩, jobs⟩, ids⟩ := valid
  refine ⟨⟨⟨⟨⟨hs, sublist.length_le.trans few⟩, fun binding hb => ?_⟩, ?_⟩, ?_⟩, ?_⟩
  · exact each binding (sublist.subset hb)
  · exact logical.sublist (sublist.map _)
  · exact jobs.sublist (sublist.map _)
  · exact ids.sublist (sublist.flatMap _)

/-- The finished bindings whose survivor is another Runner. -/
theorem Accepts.deleted (hac : Accepts installationId bindings members)
    (notPair : id ∉ boundIds (preparedBindings bindings))
    : Accepts installationId
        (bindings.filter fun binding => binding.current.all fun member => member.id ≠ id)
        (members.filter fun member => member.id ≠ id) := by
  refine ⟨?_, validate_filter hac.valid, fun binding hb => ?_, fun binding hb => ?_⟩
  · exact hac.distinct.sublist (filter_sublist.map _)
  · exact hac.installed binding (mem_filter.mp hb).1
  · obtain ⟨ho, hk⟩ := mem_filter.mp hb
    have ha := hac.phases binding ho
    refine matchesPhase_removed ha ?_
    cases hp : binding.phase with
    | prepared =>
      have hpr : binding ∈ preparedBindings bindings :=
        mem_filter.mpr ⟨ho, by simpa using hp⟩
      exact ⟨fun _ same => notPair (mem_boundIds.mpr ⟨binding, hpr, .inl same⟩),
        fun _ same => notPair (mem_boundIds.mpr ⟨binding, hpr, .inr same⟩)⟩
    | committed =>
      simp only [matchesPhase, hp, and_eq_true, absent_iff] at ha
      simp only [RunnerUpgradeBinding.current, hp, all_some, decide_eq_true_eq]
        at hk
      exact ⟨fun hm => absurd rfl (ha.1 _ hm), fun _ => hk⟩
    | rolledBack =>
      simp only [matchesPhase, hp, and_eq_true, absent_iff] at ha
      simp only [RunnerUpgradeBinding.current, hp, all_some, decide_eq_true_eq]
        at hk
      exact ⟨fun _ => hk, fun hm => absurd rfl (ha.2 _ hm)⟩

/-- A deletion keeps every pair. -/
theorem preparedBindings_deleted
    : preparedBindings
        (bindings.filter fun binding => binding.current.all fun member => member.id ≠ id)
      = preparedBindings bindings := by
  unfold preparedBindings
  rw [List.filter_filter]
  refine List.filter_congr fun binding _ => ?_
  cases hp : binding.phase <;> simp [RunnerUpgradeBinding.current, hp]

end

-- Pairs and rows

section

variable {bindings : List RunnerUpgradeBinding}

theorem candidateIds_sublist (bindings : List RunnerUpgradeBinding)
    : (bindings.map (·.candidate.id)).Sublist (boundIds bindings) := by
  induction bindings with
  | nil => exact Sublist.refl _
  | cons binding rest ih => exact (ih.cons_cons binding.candidate.id).cons binding.previous.id

def isPairCandidate (bindings : List RunnerUpgradeBinding) (member : RunnerQuotaMember) : Bool :=
  decide (member ∈ (preparedBindings bindings).map (·.candidate))

theorem Accepts.length_candidates (ha : Accepts installationId bindings members)
    : (members.filter (isPairCandidate bindings)).length = (preparedBindings bindings).length := by
  have ids : ((preparedBindings bindings).map (·.candidate.id)).Nodup :=
    ((nodup_boundIds ha.valid).sublist (filter_sublist.flatMap _)).sublist (candidateIds_sublist _)
  have hd : ((preparedBindings bindings).map (·.candidate)).Nodup := by
    refine Nodup.of_map (·.id) ?_
    rw [List.map_map]
    exact ids
  have perm
      : (members.filter (isPairCandidate bindings)).Perm
          ((preparedBindings bindings).map (·.candidate)) := by
    refine (perm_ext_iff_of_nodup ((Nodup.of_map _ ha.distinct).filter _) hd).mpr fun member => ?_
    rw [mem_filter, isPairCandidate, decide_eq_true_eq]
    refine ⟨fun both => both.2, fun hc => ⟨?_, hc⟩⟩
    obtain ⟨binding, hb, rfl⟩ := mem_map.mp hc
    obtain ⟨ho, hp⟩ := mem_filter.mp hb
    exact (ha.pair_mem ho (beq_iff_eq.mp hp)).2
  rw [perm.length_eq, length_map]

/-- Each pair has one Runner too many. -/
theorem Accepts.length_split (ha : Accepts installationId bindings members)
    : members.length
      = (preparedBindings bindings).length
        + (members.filter fun member => !isPairCandidate bindings member).length := by
  rw [← ha.length_candidates]
  exact length_eq_length_filter_add _

end

-- Verified changes

omit [DecidableEq Bytes] in
theorem replaces_of_beginUpgrade (hb : quota.beginUpgrade codec binding = some change)
    : binding.phase = .prepared ∧ binding.installationId = quota.installationId
      ∧ binding.previous ∈ quota.snapshot.members
      ∧ (∀ member ∈ quota.snapshot.members, member.id ≠ binding.candidate.id)
      ∧ ∃ bindings,
          Replaces binding quota.bindings.bindings bindings
          ∧ validate { quota.bindings with bindings }
          ∧ quota.change codec { quota.bindings with bindings }
              (quota.snapshot.members ++ [binding.candidate]) (.register binding.candidate)
            = some change := by
  unfold beginUpgrade at hb
  split_ifs at hb with hr
  obtain ⟨bindings, hn, hb⟩ := Option.bind_eq_some_iff.mp hb
  dsimp only at hb
  split_ifs at hb with invalid
  simp only [or_eq_true, decide_eq_true_eq, List.any_eq_true, beq_iff_eq, not_or, not_not,
    not_exists, not_and] at hr
  obtain ⟨⟨⟨hp, hi⟩, hpr⟩, hne⟩ := hr
  refine ⟨hp, hi, hpr, hne, bindings, replaces_of_replaceBinding hn, by simpa using invalid, hb⟩

variable (hv : Verified codec authenticate installationId snapshot quota)

include hv in
theorem Verified.beginUpgrade (hro : codec.RoundTrips)
    (hbe : quota.beginUpgrade codec binding = some change) (hr : change.validatesNext record)
    (ha : authenticate record)
    : ∃ quota',
        RunnerQuotaSnapshot.verify codec ⟨some record, change.nextMembers⟩ installationId
            authenticate
          = some quota'
        ∧ Replaces binding quota.bindings.bindings quota'.bindings.bindings
        ∧ quota'.occupied = quota.occupied := by
  obtain ⟨hp, hi, hpr, hn, bindings, hre, valid, hc⟩ :=
    replaces_of_beginUpgrade hbe
  rw [hv.isInstallation] at hi
  rw [hv.isSnapshot] at hpr hn hc
  obtain ⟨before, after, hs, _, sameCount⟩ := hre.split
  have count
      : (preparedBindings bindings).length
        = (preparedBindings quota.bindings.bindings).length + 1 := by
    rw [hs, length_prepared_middle, if_pos hp, sameCount]
  have hf := hv.fits
  have hbo := hv.bounded
  have hsc := schema_of_validate (validate_of_read hv.isRead)
  obtain ⟨quota', verifies, hb, ho⟩ :=
    verify_of_change hro hc hr ha
      (fun valid => hv.accepts.begun hre hp hi hpr hn (by rw [hsc] at valid; exact valid))
      (by rw [count, length_append, length_singleton]; omega)
      (by rw [count, length_append, length_singleton]; omega)
  refine ⟨quota', verifies, by rw [hb]; exact hre, ?_⟩
  rw [ho, hv.isOccupied, count, length_append, length_singleton]
  omega

omit [DecidableEq Bytes] in
theorem change_of_finishUpgrade
    (hfi : quota.finishUpgrade codec jobId keepCandidate = some (some change))
    : ∃ before binding after,
        quota.bindings.bindings = before ++ binding :: after
        ∧ binding.jobId = jobId ∧ binding.phase = .prepared
        ∧ quota.change codec
            { quota.bindings with
              bindings :=
                before
                  ++ { binding with
                      phase := finishedPhase keepCandidate } :: after }
            (quota.snapshot.members.filter fun member =>
              member.id ≠ (retiredMember binding keepCandidate).id)
            (.delete (retiredMember binding keepCandidate))
          = some change := by
  unfold finishUpgrade at hfi
  obtain ⟨index, hi, hfi⟩ := bind_eq_some_iff.mp hfi
  obtain ⟨binding, hb, hfi⟩ := bind_eq_some_iff.mp hfi
  dsimp only at hfi
  split_ifs at hfi with already unfinished
  · cases hfi
  obtain ⟨other, hc, hfi⟩ := bind_eq_some_iff.mp hfi
  cases hfi
  obtain ⟨before, hf, after, hs, rfl, sameJob⟩ := split_of_findIdx hi
  rw [hs] at hb hc
  rw [getElem?_append_right (le_refl _), Nat.sub_self, getElem?_cons_zero] at hb
  cases hb
  rw [set_append_right _ _ (le_refl _), Nat.sub_self, set_cons_zero] at hc
  exact ⟨before, binding, after, hs, beq_iff_eq.mp sameJob, not_not.mp unfinished, hc⟩

include hv in
theorem Verified.finishUpgrade (hro : codec.RoundTrips)
    (hfin : quota.finishUpgrade codec jobId keepCandidate = some (some change))
    (hr : change.validatesNext record) (ha : authenticate record)
    : ∃ quota',
        RunnerQuotaSnapshot.verify codec ⟨some record, change.nextMembers⟩ installationId
            authenticate
          = some quota'
        ∧ (∃ binding ∈ quota'.bindings.bindings,
            binding.jobId = jobId
            ∧ binding.phase = finishedPhase keepCandidate)
        ∧ quota'.occupied = quota.occupied := by
  obtain ⟨before, binding, after, hs, hj, hp, hc⟩ :=
    change_of_finishUpgrade hfin
  have hac := hv.accepts
  have hfi := hv.fits
  have hb := hv.bounded
  have ho := hv.isOccupied
  rw [hs] at hac hfi hb ho
  rw [hv.isSnapshot] at hc
  rw [length_prepared_middle, if_pos hp] at hfi hb ho
  have pair := hac.pair_mem (mem_append_right _ mem_cons_self) hp
  have hre
      : retiredMember binding keepCandidate ∈ snapshot.members := by
    unfold retiredMember
    split_ifs
    · exact pair.1
    · exact pair.2
  have length := length_without hac.distinct hre
  have hf : finishedPhase keepCandidate ≠ .prepared := by
    cases keepCandidate <;> decide
  have count
      : (preparedBindings
          (before
            ++ { binding with
                phase := finishedPhase keepCandidate } :: after)).length
        = (preparedBindings (before ++ after)).length := by
    rw [length_prepared_middle, if_neg hf, Nat.add_zero]
  obtain ⟨quota', verifies, hn, hoc⟩ :=
    verify_of_change hro hc hr ha
      (fun _ => hac.finished hp keepCandidate) (by rw [count]; omega) (by rw [count]; omega)
  refine ⟨quota', verifies,
    ⟨{ binding with phase := finishedPhase keepCandidate }, ?_, hj, rfl⟩,
    ?_⟩
  · rw [hn]
    exact mem_append_right _ mem_cons_self
  · rw [hoc, ho, count]
    omega

omit [DecidableEq Bytes] in
theorem change_of_deleteRunner {id : String} (deletes : quota.deleteRunner codec id = some change)
    : id ∉ quota.upgradeMembers
      ∧ ∃ retired ∈ quota.snapshot.members,
          retired.id = id
          ∧ quota.change codec
              { quota.bindings with
                bindings :=
                  quota.bindings.bindings.filter fun binding =>
                    binding.current.all fun member => member.id ≠ id }
              (quota.snapshot.members.filter fun member => member.id ≠ id) (.delete retired)
            = some change := by
  unfold deleteRunner at deletes
  split_ifs at deletes with hp
  obtain ⟨retired, hr, hc⟩ := bind_eq_some_iff.mp deletes
  refine ⟨by simpa [isUpgradeMember] using hp, retired, mem_of_find?_eq_some hr, ?_, hc⟩
  simpa using find?_some hr

include hv in
theorem Verified.deleteRunner
    (hro : codec.RoundTrips) {id : String} (deletes : quota.deleteRunner codec id = some change)
    (hre : change.validatesNext record) (hau : authenticate record)
    : ∃ quota',
        RunnerQuotaSnapshot.verify codec ⟨some record, change.nextMembers⟩ installationId
            authenticate
          = some quota'
        ∧ quota'.occupied + 1 = quota.occupied := by
  obtain ⟨notPair, retired, hr, rfl, hc⟩ := change_of_deleteRunner deletes
  rw [hv.isUpgradeMembers] at notPair
  rw [hv.isSnapshot] at hr hc
  have hac := hv.accepts
  have hbo := hv.bounded
  have length := length_without hac.distinct hr
  have split := hac.length_split
  have ha : isPairCandidate quota.bindings.bindings retired = false := by
    rw [isPairCandidate, decide_eq_false_iff_not]
    intro hca
    obtain ⟨binding, hb, same⟩ := mem_map.mp hca
    exact notPair (mem_boundIds.mpr ⟨binding, hb, .inr (congrArg _ same)⟩)
  have room
      : 0 < (snapshot.members.filter fun member =>
          !isPairCandidate quota.bindings.bindings member).length :=
    length_pos_of_mem (mem_filter.mpr ⟨hr, by rw [ha]; rfl⟩)
  obtain ⟨quota', verifies, _, ho⟩ :=
    verify_of_change hro hc hre hau (fun _ => hac.deleted notPair)
      (by rw [preparedBindings_deleted]; omega) (by rw [preparedBindings_deleted]; omega)
  refine ⟨quota', verifies, ?_⟩
  rw [ho, hv.isOccupied, preparedBindings_deleted]
  omega

end AsterTeam.RunnerQuota
