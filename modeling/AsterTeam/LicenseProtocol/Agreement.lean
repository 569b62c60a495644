import AsterTeam.LicenseProtocol.Issuer

/-! The issuer and the verifier accept the same v2 claims.
Every value of the verifier has one form in the issuer's types. What the issuer accepts is
always such a form, and on these forms the two sequences of checks agree part by part.
-/

namespace AsterTeam.LicenseProtocol

open Bool (and_eq_true or_eq_true not_eq_true')
open List Option

open TextFormats LicenseCore IssuerPolicyV2
open LicenseCore (CapabilityId QuotaId FeatureSetId Source Binding Expiry Validity Crates Claims
  IssuerPolicy)

-- The issuer's form of the verifier's values

def QuotaLimit.ofLimit : LicenseCore.QuotaLimit → QuotaLimit
  | .limited value => ⟨"limited", some value⟩
  | .unlimited => ⟨"unlimited", none⟩

def QuotaGrant.ofGrant (grant : LicenseCore.QuotaGrant) : QuotaGrant :=
  ⟨grant.id.asStr, .ofLimit grant.limit⟩

def Entitlements.ofEntitlements (entitlements : LicenseCore.Entitlements) : Entitlements :=
  { featureSets := entitlements.featureSets.map FeatureSetId.asStr
    catalogVersion := entitlements.catalogVersion
    features := some (entitlements.features.map CapabilityId.asStr)
    quotas := entitlements.quotas.map QuotaGrant.ofGrant }

def sourceKind : LicenseCore.SourceKind → String
  | .freeDistribution => "free_distribution"
  | .commercialOrder => "commercial_order"
  | .approvedTrial => "approved_trial"

def bindingKind : LicenseCore.BindingKind → String
  | .unbound => "unbound"
  | .installation => "installation"

def expiryKind : LicenseCore.ExpiryKind → String
  | .fixed => "fixed"
  | .none => "none"

def SourceV2.ofSource : Source → SourceV2
  | .freeDistribution distributionId =>
    ⟨"free_distribution", distributionId, "", "", "", ""⟩
  | .commercialOrder orderId customerRef requestId =>
    ⟨"commercial_order", "", orderId, "", customerRef, requestId⟩
  | .approvedTrial trialId customerRef requestId =>
    ⟨"approved_trial", "", "", trialId, customerRef, requestId⟩

def BindingV2.ofBinding : Binding → BindingV2
  | .unbound => ⟨"unbound", "", "", none⟩
  | .installation installationId machineFingerprint transferSequence =>
    ⟨"installation", installationId, machineFingerprint, some transferSequence⟩

def ExpiryV2.ofExpiry : Expiry → ExpiryV2
  | .fixed expiresAt => ⟨"fixed", expiresAt⟩
  | .none => ⟨"none", ""⟩

def ClaimsV2.ofClaims (claims : Claims) : ClaimsV2 :=
  { schema := claims.schema
    keyId := claims.keyId
    licenseId := claims.licenseId
    serial := claims.serial
    product := claims.product
    edition := claims.edition
    planId := claims.planId
    planVersion := claims.planVersion
    source := .ofSource claims.source
    entitlements := .ofEntitlements claims.entitlements
    quotaPolicyVersion := claims.quotaPolicyVersion
    binding := .ofBinding claims.binding
    validity := ⟨claims.validity.notBefore, .ofExpiry claims.validity.expiry⟩
    issuedAt := claims.issuedAt
    minimumVersion := claims.minimumVersion }

def IssuerPolicyV2.ofPolicy (policy : IssuerPolicy) : IssuerPolicyV2 :=
  { sources := policy.sources.map sourceKind
    bindings := policy.bindings.map bindingKind
    expiries := policy.expiries.map expiryKind
    entitlementCeiling := .ofEntitlements policy.entitlementCeiling }

-- Lists of identifiers

theorem firstRejected_eq_none
    : firstRejected supported items seen = none
      ↔ (∀ id ∈ items, id ∈ supported) ∧ items.Nodup ∧ ∀ id ∈ items, id ∉ seen := by
  induction items generalizing seen with
  | nil => simp [firstRejected]
  | cons id rest ih =>
    rw [firstRejected]
    split
    · rename_i rejected
      simp only [or_eq_true, not_eq_true', contains_eq_mem,
        decide_eq_false_iff_not, decide_eq_true_eq] at rejected
      simp only [reduceCtorEq, mem_cons, forall_eq_or_imp, false_iff, not_and]
      intro hk _ hf
      rcases rejected with unknown | again
      · exact absurd hk.1 unknown
      · exact absurd again hf
    · rename_i ha
      simp only [or_eq_true, not_eq_true', contains_eq_mem,
        decide_eq_false_iff_not, decide_eq_true_eq, not_or, not_not] at ha
      rw [ih]
      simp only [mem_cons, forall_eq_or_imp, nodup_cons, not_or]
      grind

/-- Supported texts without repetition are the texts of distinct identifiers. -/
theorem firstRejected_map {Id : Type} {text : Id → String} (injective : Function.Injective text)
    (all : ∀ id, text id ∈ supported) (ids : List Id)
    : (firstRejected supported (ids.map text) []).isNone ↔ ids.Nodup := by
  rw [isNone_iff_eq_none, firstRejected_eq_none, nodup_map_iff injective]
  simp [all]

theorem exists_map_of_firstRejected {Id : Type} {text : Id → String}
    {supported items : List String} (hk : ∀ value ∈ supported, ∃ id, text id = value)
    (ha : (firstRejected supported items []).isNone)
    : ∃ ids : List Id, ids.map text = items := by
  rw [isNone_iff_eq_none, firstRejected_eq_none] at ha
  have each : ∀ value ∈ items, ∃ id, text id = value :=
    fun value hm => hk value (ha.1 value hm)
  have ranged : items ∈ Set.range (List.map text) := by
    rw [Set.range_list_map]
    exact each
  exact ranged

theorem contains_map {Id : Type} [DecidableEq Id] {text : Id → String}
    (injective : Function.Injective text) (ids : List Id) (id : Id)
    : (ids.map text).contains (text id) = ids.contains id := by
  rw [Bool.eq_iff_iff]
  simp [contains_eq_mem, injective.eq_iff]

theorem dedup_length_beq {Id : Type} [DecidableEq Id] (ids : List Id)
    : (ids.dedup.length == ids.length) ↔ ids.Nodup := by
  rw [beq_iff_eq]
  refine ⟨fun same => ?_, fun hd => by rw [hd.dedup]⟩
  have hw := (dedup_sublist ids).eq_of_length same
  exact dedup_eq_self.mp hw

-- Entitlements

theorem featureSet_supported (id : FeatureSetId) : id.asStr ∈ featureSets := by
  cases id
  decide

theorem featureSet_injective : Function.Injective FeatureSetId.asStr := by
  intro left right _
  cases left
  cases right
  rfl

theorem capability_supported (id : CapabilityId) : id.asStr ∈ capabilities.map Capability.id := by
  cases id <;> decide

theorem quota_supported (id : QuotaId) : id.asStr ∈ quotaIds := by
  cases id <;> decide

theorem capabilities_eq
    : capabilities = LicenseCore.capabilities.map (fun entry =>
        ⟨entry.id.asStr, entry.featureSet.asStr, entry.requires.map CapabilityId.asStr⟩) := rfl

theorem effectiveFeatures_ofEntitlements (entitlements : LicenseCore.Entitlements)
    : (Entitlements.ofEntitlements entitlements).effectiveFeatures
      = entitlements.effectiveFeatures.map CapabilityId.asStr := by
  unfold Entitlements.effectiveFeatures LicenseCore.Entitlements.effectiveFeatures
  rw [capabilities_eq, List.filter_map, List.map_map, List.map_map]
  simp only [Entitlements.ofEntitlements, Option.getD_some, Function.comp_def,
    contains_map CapabilityId.asStr_injective, contains_map featureSet_injective]

theorem ofLimit_validate (limit : LicenseCore.QuotaLimit)
    : (QuotaLimit.ofLimit limit).validate = .ok () := by
  cases limit <;> rfl

theorem exists_limit_of_validate {limit : QuotaLimit} (valid : limit.validate = .ok ())
    : ∃ source, QuotaLimit.ofLimit source = limit := by
  obtain ⟨mode, value⟩ := limit
  simp only [QuotaLimit.validate, check_ok_iff, or_eq_true, and_eq_true, beq_iff_eq] at valid
  rcases valid with ⟨rfl, present⟩ | ⟨rfl, absent⟩
  · obtain ⟨hf, rfl⟩ := isSome_iff_exists.mp present
    exact ⟨.limited hf, rfl⟩
  · rw [isNone_iff_eq_none] at absent
    subst absent
    exact ⟨.unlimited, rfl⟩

theorem validateQuotas_eq_ok {count : Nat}
    : validateQuotas grants seen = .ok count
      ↔ ((∀ grant ∈ grants, grant.id ∈ quotaIds ∧ grant.limit.validate = .ok ())
        ∧ (grants.map QuotaGrant.id).Nodup ∧ (∀ grant ∈ grants, grant.id ∉ seen))
        ∧ count = grants.length + seen.length := by
  induction grants generalizing seen with
  | nil => simp [validateQuotas, eq_comm]
  | cons grant rest ih =>
    rw [validateQuotas, check_bind_eq_ok, unit_bind_eq_ok, ih]
    simp only [and_eq_true, not_eq_true', contains_eq_mem,
      decide_eq_true_eq, decide_eq_false_iff_not, mem_cons, forall_eq_or_imp,
      List.map_cons, List.nodup_cons, List.mem_map, List.length_cons, not_or]
    grind

/-- The verifier's quota check counts distinct identifiers. -/
theorem quotas_complete_iff (grants : List LicenseCore.QuotaGrant)
    : ((grants.map LicenseCore.QuotaGrant.id).dedup.length == QuotaId.all.length
        && (grants.map LicenseCore.QuotaGrant.id).dedup.length == grants.length
        && QuotaId.all.all (fun id => (grants.map LicenseCore.QuotaGrant.id).dedup.contains id))
      ↔ (grants.map LicenseCore.QuotaGrant.id).Nodup ∧ grants.length = 4 := by
  have total : ∀ id : QuotaId, id ∈ QuotaId.all := by
    intro id
    cases id <;> decide
  have count : QuotaId.all.length = 4 := rfl
  simp only [and_eq_true, beq_iff_eq, List.all_eq_true, List.contains_eq_mem,
    decide_eq_true_eq, List.mem_dedup]
  refine ⟨fun ⟨⟨size, hw⟩, _⟩ => ⟨?_, by omega⟩, ?_⟩
  · rw [← dedup_length_beq, beq_iff_eq, hw, List.length_map]
  · intro ⟨hd, size⟩
    have length : (grants.map LicenseCore.QuotaGrant.id).length = 4 := by
      rw [List.length_map, size]
    refine ⟨⟨by rw [hd.dedup, length, count], by rw [hd.dedup, List.length_map]⟩, ?_⟩
    -- Four distinct identifiers out of four are all of them.
    have inside : (grants.map LicenseCore.QuotaGrant.id).Subperm QuotaId.all :=
      List.subperm_of_subset hd (fun id _ => total id)
    have same := inside.perm_of_length_le (by omega)
    exact fun id hm => same.mem_iff.mpr hm

theorem ofEntitlements_validate (entitlements : LicenseCore.Entitlements)
    : (Entitlements.ofEntitlements entitlements).validate = .ok ()
      ↔ entitlements.validate = .ok () := by
  have dependencies (features : List CapabilityId)
      : (LicenseCore.capabilities.all (fun entry =>
          !(features.contains entry.id
            && entry.requires.any (fun required => !features.contains required)))) = true := by
    simp [LicenseCore.capabilities]
  have issuerDependencies (features : List String)
      : (capabilities.findSome? (fun entry =>
          if features.contains entry.id then
            entry.requires.find? (fun dependency => !features.contains dependency)
          else none)).isNone = true := by
    simp [capabilities]
  have quotas (count : Nat)
      : validateQuotas (Entitlements.ofEntitlements entitlements).quotas [] = .ok count
        ↔ (entitlements.quotas.map LicenseCore.QuotaGrant.id).Nodup
          ∧ count = entitlements.quotas.length := by
    have names : (entitlements.quotas.map QuotaGrant.ofGrant).map QuotaGrant.id
        = (entitlements.quotas.map LicenseCore.QuotaGrant.id).map QuotaId.asStr := by
      simp [QuotaGrant.ofGrant, Function.comp_def]
    rw [validateQuotas_eq_ok, Entitlements.ofEntitlements, names,
      nodup_map_iff QuotaId.asStr_injective]
    simp [QuotaGrant.ofGrant, quota_supported, ofLimit_validate]
  rw [Entitlements.validate, LicenseCore.Entitlements.validate]
  simp only [check_bind_eq_ok, check_ok_iff, issuerDependencies, dependencies, true_and,
    dedup_length_beq, quotas_complete_iff]
  simp only [except_bind_eq_ok, quotas, check_ok_iff]
  simp only [Entitlements.ofEntitlements, isSome_some, getD_some, true_and,
    firstRejected_map CapabilityId.asStr_injective capability_supported,
    firstRejected_map featureSet_injective featureSet_supported]
  have count : quotaIds.length = 4 := rfl
  simp [count, catalogVersion, LicenseCore.catalogVersion]

theorem exists_entitlements_of_validate {entitlements : Entitlements}
    (valid : entitlements.validate = .ok ())
    : ∃ source, Entitlements.ofEntitlements source = entitlements := by
  obtain ⟨sets, version, features, quotas⟩ := entitlements
  rw [Entitlements.validate] at valid
  simp only [check_bind_eq_ok] at valid
  obtain ⟨_, declared, hk, knownSets, _, hc⟩ := valid
  obtain ⟨count, grants, _⟩ := except_bind_eq_ok.mp hc
  obtain ⟨list, rfl⟩ := isSome_iff_exists.mp declared
  obtain ⟨capabilityIds, rfl⟩ :=
    @exists_map_of_firstRejected _ CapabilityId.asStr _ _ (by
      simp only [capabilities, map_cons, map_nil, forall_mem_cons]
      exact ⟨⟨.gateway, rfl⟩, ⟨.member, rfl⟩, ⟨.runner, rfl⟩, forall_mem_nil _⟩) hk
  obtain ⟨setIds, rfl⟩ :=
    @exists_map_of_firstRejected _ FeatureSetId.asStr _ _ (by
      simp only [featureSets, forall_mem_cons]
      exact ⟨⟨.standard, rfl⟩, forall_mem_nil _⟩) knownSets
  have each : ∀ grant ∈ quotas, ∃ source, QuotaGrant.ofGrant source = grant := by
    intro grant hm
    obtain ⟨hk, hl⟩ := (validateQuotas_eq_ok.mp grants).1.1 grant hm
    obtain ⟨limit, same⟩ := exists_limit_of_validate hl
    have hn : ∃ id : QuotaId, id.asStr = grant.id := by
      simp only [quotaIds, mem_cons, not_mem_nil, or_false] at hk
      rcases hk with same | same | same | same
      · exact ⟨.memberSeats, same.symm⟩
      · exact ⟨.runners, same.symm⟩
      · exact ⟨.upstreamAccounts, same.symm⟩
      · exact ⟨.apiKeysPerMember, same.symm⟩
    obtain ⟨id, hn⟩ := hn
    refine ⟨⟨id, limit⟩, ?_⟩
    rw [QuotaGrant.ofGrant, hn, same]
  have ranged : quotas ∈ Set.range (List.map QuotaGrant.ofGrant) := by
    rw [Set.range_list_map]
    exact each
  obtain ⟨sources, rfl⟩ := ranged
  exact ⟨⟨version, capabilityIds, setIds, sources⟩, rfl⟩

theorem quota_ofEntitlements (entitlements : LicenseCore.Entitlements) (id : QuotaId)
    : (Entitlements.ofEntitlements entitlements).quota id.asStr
      = (entitlements.quota id).map QuotaLimit.ofLimit := by
  have compare (grant : LicenseCore.QuotaGrant)
      : (grant.id.asStr == id.asStr) = (grant.id == id) := by
    rw [Bool.eq_iff_iff, beq_iff_eq, beq_iff_eq, QuotaId.asStr_injective.eq_iff]
  simp only [Entitlements.quota, LicenseCore.Entitlements.quota, Entitlements.ofEntitlements,
    List.find?_map, Option.map_map, Function.comp_def, QuotaGrant.ofGrant, compare]

theorem ofLimit_isWithin (limit ceiling : LicenseCore.QuotaLimit)
    : (QuotaLimit.ofLimit limit).isWithin (.ofLimit ceiling) = limit.isWithin ceiling := by
  unfold QuotaLimit.isWithin
  rw [if_neg (by simp [ofLimit_validate])]
  cases limit <;> cases ceiling <;> rfl

theorem ofEntitlements_ensureWithin (entitlements ceiling : LicenseCore.Entitlements)
    : (Entitlements.ofEntitlements entitlements).ensureWithin (.ofEntitlements ceiling) = .ok ()
      ↔ entitlements.ensureWithin ceiling = .ok () := by
  rw [Entitlements.ensureWithin, LicenseCore.Entitlements.ensureWithin]
  simp only [unit_bind_eq_ok, ofEntitlements_validate, check_ok_iff, and_eq_true]
  have features
      : ((Entitlements.ofEntitlements entitlements).features.getD []).all (fun id =>
          (Entitlements.ofEntitlements ceiling).effectiveFeatures.contains id)
        = entitlements.features.all (fun id => ceiling.effectiveFeatures.contains id) := by
    rw [effectiveFeatures_ofEntitlements]
    simp only [Entitlements.ofEntitlements, Option.getD_some, List.all_map, Function.comp_def,
      contains_map CapabilityId.asStr_injective]
  have sets
      : (Entitlements.ofEntitlements entitlements).featureSets.all (fun id =>
          (Entitlements.ofEntitlements ceiling).featureSets.contains id)
        = entitlements.featureSets.all (fun id => ceiling.featureSets.contains id) := by
    simp only [Entitlements.ofEntitlements, List.all_map, Function.comp_def,
      contains_map featureSet_injective]
  have quotas
      : (Entitlements.ofEntitlements entitlements).quotas.all (fun grant =>
          ((Entitlements.ofEntitlements ceiling).quota grant.id).any
            (fun maximum => grant.limit.isWithin maximum))
        = entitlements.quotas.all (fun grant =>
          (ceiling.quota grant.id).any (fun limit => grant.limit.isWithin limit)) := by
    have limits (grant : LicenseCore.QuotaGrant)
        : ((Entitlements.ofEntitlements ceiling).quota grant.id.asStr).any
            (fun maximum => (QuotaLimit.ofLimit grant.limit).isWithin maximum)
          = (ceiling.quota grant.id).any (fun limit => grant.limit.isWithin limit) := by
      rw [quota_ofEntitlements]
      cases ceiling.quota grant.id <;> simp [ofLimit_isWithin]
    rw [Entitlements.ofEntitlements]
    simp only [List.all_map, Function.comp_def, QuotaGrant.ofGrant, limits]
  rw [features, sets, quotas]
  tauto

-- Fields

/-- The pattern asks for one character, which a positive minimum gives. -/
theorem validV2Identifier_iff (name value : String) {minimum : Nat} (hp : 0 < minimum)
    : validV2Identifier value minimum ↔ validateIdentifier name value minimum 128 = .ok () := by
  have inhabited (size : minimum ≤ value.utf8ByteSize) : value.toList ≠ [] := by
    intro empty
    have blank : value = "" := String.ext (by simpa using empty)
    rw [blank] at size
    have none : ("" : String).utf8ByteSize = 0 := rfl
    omega
  have classes : identifierClass = identifierChar := rfl
  simp only [validV2Identifier, identifierPattern, validateIdentifier, check_ok_iff,
    classes, and_eq_true, decide_eq_true_eq, not_eq_true', isEmpty_eq_false_iff]
  refine ⟨fun ⟨sizes, _, chars⟩ => ⟨sizes, chars⟩, ?_⟩
  exact fun ⟨sizes, chars⟩ => ⟨sizes, inhabited sizes.1, chars⟩

theorem ascii_of_isAlphanum {char : Char} (letter : char.isAlphanum) : char.toNat < 128 := by
  simp only [Char.isAlphanum, Char.isAlpha, Char.isUpper, Char.isLower, Char.isDigit,
    or_eq_true, decide_eq_true_eq, UInt32.le_iff_toNat_le, ge_iff_le, and_eq_true] at letter
  have code : char.toNat = char.val.toNat := rfl
  simp at letter
  omega

theorem utf8ByteSize_of_ascii {text : String} (ascii : ∀ char ∈ text.toList, char.toNat < 128)
    : text.utf8ByteSize = text.toList.length := by
  have size := Json.utf8Len_of_ascii ascii
  rw [← String.utf8ByteSize_ofList, String.ofList_toList] at size
  exact size

theorem digestPattern_iff (name value : String)
    : digestPattern value ↔ validateDigest name value = .ok () := by
  have sizes (chars : value.toList.all (fun char => char.isAlphanum || ['_', '-'].contains char)
        = true)
      : value.utf8ByteSize = value.toList.length := by
    apply utf8ByteSize_of_ascii
    intro char hm
    have kind := all_eq_true.mp chars char hm
    simp only [or_eq_true, contains_eq_mem, decide_eq_true_eq, mem_cons,
      not_mem_nil, or_false] at kind
    rcases kind with letter | rfl | rfl
    · exact ascii_of_isAlphanum letter
    · decide
    · decide
  simp only [digestPattern, validateDigest, check_ok_iff, and_eq_true, beq_iff_eq]
  refine ⟨fun ⟨size, chars⟩ => ⟨(sizes chars).trans size, chars⟩, ?_⟩
  exact fun ⟨size, chars⟩ => ⟨(sizes chars).symm.trans size, chars⟩

section

variable {libraries : Libraries} {crates : Crates}

/-- What both sides take from their third-party readers: the issuer's pattern and the semver
crate follow the version grammar, and both time readers follow RFC 3339 on calendar times.
-/
structure ReadersAgree (libraries : Libraries) (crates : Crates) : Prop where
  pattern : MatchesVersions libraries.semanticVersionPattern
  versions : LicenseCore.ReadsVersions crates.parsesVersion
  issuerTimes : ReadsCalendar libraries.parseTime
  verifierTimes : ReadsCalendar crates.parseRfc3339

theorem parseUint_toDigits (value : Nat)
    : (parseUint (Nat.toDigits 10 value)).isSome ↔ value < 2 ^ 64 := by
  have digits : (Nat.toDigits 10 value).all Char.isDigit = true :=
    all_eq_true.mpr (fun _ hm => Json.isDigit_of_mem_toDigits hm)
  unfold parseUint
  rw [Nat.ofDigitChars_ten_toDigits]
  split
  · rename_i ha
    exact iff_of_true rfl ha.2.2
  · rename_i hr
    refine iff_of_false (by simp) ?_
    intro hs
    exact hr ⟨Nat.toDigits_ne_nil, digits, hs⟩

/-- The issuer's bound on the three numbers of a version is the width of the crate's
fields.
-/
theorem validMinimumVersionV2_iff (ha : ReadersAgree libraries crates) (value : String)
    : validMinimumVersionV2 libraries value
      ↔ (decide (value.utf8ByteSize ≤ 64) && crates.parsesVersion value) := by
  have numbers (version : SemanticVersion)
      : (((version.text.toList.takeWhile (fun char => char != '+')).takeWhile
            (fun char => char != '-')).splitOnP (fun char => char == '.')).all
            (fun part => (parseUint part).isSome) = true
        ↔ version.major < 2 ^ 64 ∧ version.minor < 2 ^ 64 ∧ version.patch < 2 ^ 64 := by
    rw [SemanticVersion.text, String.toList_ofList, SemanticVersion.cut_chars,
      SemanticVersion.splitOnP_coreChars]
    simp [parseUint_toDigits]
  refine Iff.trans ?_ (by rw [and_eq_true, ha.versions value])
  unfold validMinimumVersionV2
  split
  · rename_i hm
    rw [and_eq_true, ha.pattern value] at hm
    obtain ⟨size, version, rfl⟩ := hm
    refine ⟨fun hb => ⟨size, version, rfl, (numbers version).mp hb⟩, ?_⟩
    intro ⟨_, other, same, bounds⟩
    rw [same]
    exact (numbers other).mpr bounds
  · rename_i unmatched
    rw [and_eq_true, ha.pattern value] at unmatched
    refine iff_of_false (by decide) ?_
    intro ⟨size, version, same, _⟩
    exact unmatched ⟨size, version, same⟩

theorem exactTime_eq_some (times : ReadsCalendar libraries.parseTime) (value : String)
    (time : CivilTime)
    : exactTime libraries value = some time ↔ time.Exact ∧ time.exactText = value := by
  unfold exactTime
  refine ⟨fun hf => ?_, ?_⟩
  · split at hf
    · cases hf
    · rename_i moment parsed
      split at hf
      · rename_i same
        cases hf
        exact ⟨(times.exact_of_round_trip parsed same).1, same⟩
      · cases hf
  · intro ⟨exact, same⟩
    subst same
    rw [times.exact time exact]
    simp

/-- The verifier's additional checks of the shape hold for every exact text, and a leap
second is read as another time, whose text differs.
-/
theorem verifierExactTime_eq_ok (times : ReadsCalendar crates.parseRfc3339) (name value : String)
    (time : CivilTime)
    : LicenseCore.exactTime crates name value = .ok time ↔ time.Exact ∧ time.exactText = value := by
  rw [LicenseCore.exactTime, except_bind_eq_ok]
  refine ⟨?_, ?_⟩
  · intro ⟨moment, hv, hf⟩
    unfold validateExactTime at hv
    split at hv
    · cases hv
    · split at hv
      · cases hv
      · rename_i parsed
        split at hv
        · cases hv
          split at hf
          · cases hf
          · rename_i same
            cases hf
            rw [not_not] at same
            exact ⟨(times.exact_of_round_trip parsed same).1, same⟩
        · cases hv
  · intro ⟨exact, same⟩
    subst same
    obtain ⟨length, dot, last, chars⟩ := CivilTime.exactChars_shape exact
    have size : time.exactText.utf8ByteSize = 24 := by
      rw [utf8ByteSize_of_ascii, CivilTime.exactText, String.toList_ofList, length]
      intro char hm
      rw [CivilTime.exactText, String.toList_ofList] at hm
      rcases chars char hm with digit | mark
      · exact ascii_of_isAlphanum (by simp [Char.isAlphanum, digit])
      · simp only [mem_cons, not_mem_nil, or_false] at mark
        rcases mark with rfl | rfl | rfl | rfl | rfl <;> decide
    refine ⟨⟨time, true⟩, ?_, by simp⟩
    unfold validateExactTime
    rw [if_neg, times.exact time exact]
    · rfl
    · rw [CivilTime.exactText, String.toList_ofList]
      rw [CivilTime.exactText] at size
      simp [size, dot, last]

theorem validateTimes_iff (ha : ReadersAgree libraries crates) (issuedAt : String)
    (validity : Validity)
    : validateTimes libraries issuedAt ⟨validity.notBefore, .ofExpiry validity.expiry⟩ = .ok ()
      ↔ LicenseCore.validateTimes crates issuedAt validity = .ok () := by
  have read (name value : String)
      : exactTime libraries value = (LicenseCore.exactTime crates name value).toOption := by
    apply Option.ext
    intro time
    rw [exactTime_eq_some ha.issuerTimes, ← verifierExactTime_eq_ok ha.verifierTimes name]
    cases LicenseCore.exactTime crates name value <;> simp [Except.toOption]
  unfold validateTimes LicenseCore.validateTimes
  rw [read "issued_at" issuedAt, read "not_before" validity.notBefore]
  cases LicenseCore.exactTime crates "issued_at" issuedAt with
  | error failure => simp [Except.toOption, bind, Except.bind]
  | ok issued =>
    cases LicenseCore.exactTime crates "not_before" validity.notBefore with
    | error failure => simp [Except.toOption, bind, Except.bind]
    | ok hb =>
      cases validity.expiry with
      | none => simp [Except.toOption, bind, Except.bind, ExpiryV2.ofExpiry, check]
      | fixed expiresAt =>
        simp only [Except.toOption, ExpiryV2.ofExpiry, read "expires_at" expiresAt]
        cases LicenseCore.exactTime crates "expires_at" expiresAt with
        | error failure => simp [bind, Except.bind]
        | ok ends => simp [bind, Except.bind, check_ok_iff]

end

-- Sources, bindings and expiries

theorem validateIdentifiers_eq_ok (fields : List (String × String))
    : validateIdentifiers fields = .ok ()
      ↔ (fields.map Prod.snd).all (fun value => validV2Identifier value 1) := by
  induction fields with
  | nil => simp [validateIdentifiers]
  | cons field rest ih =>
    obtain ⟨name, value⟩ := field
    rw [validateIdentifiers, unit_bind_eq_ok, ih, ← validV2Identifier_iff name value (by decide)]
    simp

theorem ofSource_validate (source : Source)
    : (SourceV2.ofSource source).validate = .ok () ↔ source.validate = .ok () := by
  rw [Source.validate, validateIdentifiers_eq_ok]
  cases source <;>
    simp [SourceV2.ofSource, SourceV2.validate, Source.identifiers, check_bind_eq_ok, check_ok_iff]

theorem exists_source_of_validate {source : SourceV2} (valid : source.validate = .ok ())
    : ∃ found, SourceV2.ofSource found = source := by
  obtain ⟨kind, distribution, order, trial, customer, request⟩ := source
  unfold SourceV2.validate at valid
  dsimp only at valid
  split at valid
  · rename_i same
    simp only [check_bind_eq_ok, and_eq_true, beq_iff_eq] at valid
    obtain ⟨⟨⟨⟨rfl, rfl⟩, rfl⟩, rfl⟩, _⟩ := valid
    exact ⟨.freeDistribution distribution, by rw [same]; rfl⟩
  split at valid
  · rename_i same
    simp only [check_bind_eq_ok, and_eq_true, beq_iff_eq] at valid
    obtain ⟨⟨rfl, rfl⟩, _⟩ := valid
    exact ⟨.commercialOrder order customer request, by rw [same]; rfl⟩
  split at valid
  · rename_i same
    simp only [check_bind_eq_ok, and_eq_true, beq_iff_eq] at valid
    obtain ⟨⟨rfl, rfl⟩, _⟩ := valid
    exact ⟨.approvedTrial trial customer request, by rw [same]; rfl⟩
  · cases valid

theorem ofBinding_validate (binding : Binding)
    : (BindingV2.ofBinding binding).validate = .ok () ↔ binding.validate = .ok () := by
  cases binding with
  | unbound => simp [BindingV2.ofBinding, BindingV2.validate, Binding.validate, check]
  | installation installationId fingerprint sequence =>
    rw [Binding.validate, unit_bind_eq_ok, unit_bind_eq_ok, check_ok_iff,
      ← validV2Identifier_iff "installation_id" installationId (by decide),
      ← digestPattern_iff]
    simp [BindingV2.ofBinding, BindingV2.validate, check_ok_iff, and_assoc]

theorem exists_binding_of_validate {binding : BindingV2} (valid : binding.validate = .ok ())
    : ∃ found, BindingV2.ofBinding found = binding := by
  obtain ⟨mode, installation, fingerprint, sequence⟩ := binding
  unfold BindingV2.validate at valid
  dsimp only at valid
  split at valid
  · rename_i same
    simp only [check_ok_iff, and_eq_true, beq_iff_eq, isNone_iff_eq_none] at valid
    obtain ⟨⟨rfl, rfl⟩, rfl⟩ := valid
    exact ⟨.unbound, by rw [same]; rfl⟩
  split at valid
  · rename_i same
    simp only [check_ok_iff, and_eq_true] at valid
    cases sequence with
    | none => simp at valid
    | some found => exact ⟨.installation installation fingerprint found, by rw [same]; rfl⟩
  · cases valid

theorem exists_expiry_of_validateTimes {libraries : Libraries}
    (valid : validateTimes libraries issuedAt validity = .ok ())
    : ∃ found, ExpiryV2.ofExpiry found = validity.expiry := by
  obtain ⟨hb, mode, expires⟩ := validity
  unfold validateTimes at valid
  split at valid
  · dsimp only at valid
    split at valid
    · rename_i same
      exact ⟨.fixed expires, by rw [same]; rfl⟩
    split at valid
    · rename_i same
      simp only [check_ok_iff, beq_iff_eq] at valid
      exact ⟨.none, by rw [same, valid]; rfl⟩
    · cases valid
  · cases valid

theorem ofSource_kind (source : Source)
    : (SourceV2.ofSource source).kind = sourceKind source.kind := by
  cases source <;> rfl

theorem ofBinding_mode (binding : Binding)
    : (BindingV2.ofBinding binding).mode = bindingKind binding.kind := by
  cases binding <;> rfl

theorem ofExpiry_mode (expiry : Expiry)
    : (ExpiryV2.ofExpiry expiry).mode = expiryKind expiry.kind := by
  cases expiry <;> rfl

theorem sourceKind_injective : Function.Injective sourceKind := by
  intro left right same
  cases left <;> cases right <;> first | rfl | exact absurd same (by decide)

theorem bindingKind_injective : Function.Injective bindingKind := by
  intro left right same
  cases left <;> cases right <;> first | rfl | exact absurd same (by decide)

theorem expiryKind_injective : Function.Injective expiryKind := by
  intro left right same
  cases left <;> cases right <;> first | rfl | exact absurd same (by decide)

-- Claims and policies

section

variable {libraries : Libraries} {crates : Crates}

theorem validateSourcePolicy_iff (source : Source) (binding : Binding) (expiry : Expiry)
    : validateSourcePolicy (.ofSource source) (.ofBinding binding) (.ofExpiry expiry) = .ok ()
      ↔ sourcePolicyHolds source binding expiry := by
  cases source <;> cases binding <;> cases expiry <;>
    simp [validateSourcePolicy, SourceV2.ofSource, BindingV2.ofBinding, ExpiryV2.ofExpiry,
      sourcePolicyHolds, check_ok_iff]

theorem ofClaims_validate (ha : ReadersAgree libraries crates) (claims : Claims)
    : (ClaimsV2.ofClaims claims).validate libraries = .ok () ↔ claims.validate crates = .ok () := by
  have commercial
      : ((SourceV2.ofSource claims.source).kind == "commercial_order")
        = (claims.source.kind == .commercialOrder) := by
    cases claims.source <;> rfl
  have sets : (Entitlements.ofEntitlements claims.entitlements).featureSets.isEmpty
      = claims.entitlements.featureSets.isEmpty := by
    simp [Entitlements.ofEntitlements]
  rw [ClaimsV2.validate, Claims.validate]
  simp only [unit_bind_eq_ok, check_ok_iff, mapError_eq_ok, validateIdentifiers_eq_ok,
    map_cons, map_nil]
  simp only [ClaimsV2.ofClaims, ofSource_validate, ofBinding_validate, ofEntitlements_validate,
    validMinimumVersionV2_iff ha, validateTimes_iff ha, validateSourcePolicy_iff, commercial, sets]
  simp only [schemaV2, schemaName, productName, quotaPolicyVersionV2,
    LicenseCore.quotaPolicyVersion, and_eq_true]
  tauto

/-- Claims that the issuer accepts are the form of some claims of the verifier. -/
theorem exists_claims_of_validate {claims : ClaimsV2} (valid : claims.validate libraries = .ok ())
    : ∃ found, ClaimsV2.ofClaims found = claims := by
  rw [ClaimsV2.validate] at valid
  simp only [unit_bind_eq_ok, check_ok_iff] at valid
  obtain ⟨_, _, _, _, hs, bindingValid, he, _, _, ht⟩ := valid
  obtain ⟨source, sources⟩ := exists_source_of_validate hs
  obtain ⟨binding, bindings⟩ := exists_binding_of_validate bindingValid
  obtain ⟨entitlements, grants⟩ := exists_entitlements_of_validate he
  obtain ⟨expiry, expiries⟩ := exists_expiry_of_validateTimes ht
  refine ⟨{
    schema := claims.schema
    keyId := claims.keyId
    licenseId := claims.licenseId
    serial := claims.serial
    product := claims.product
    edition := claims.edition
    planId := claims.planId
    planVersion := claims.planVersion
    source := source
    entitlements := entitlements
    quotaPolicyVersion := claims.quotaPolicyVersion
    binding := binding
    validity := ⟨claims.validity.notBefore, expiry⟩
    issuedAt := claims.issuedAt
    minimumVersion := claims.minimumVersion }, ?_⟩
  simp only [ClaimsV2.ofClaims, sources, bindings, grants, expiries]

theorem validScopeV2_map {Kind : Type} [DecidableEq Kind] {text : Kind → String}
    (injective : Function.Injective text) (all : ∀ kind, text kind ∈ supported) (kinds : List Kind)
    : validScopeV2 (kinds.map text) supported = nonemptyUnique kinds := by
  rw [Bool.eq_iff_iff]
  simp [validScopeV2, nonemptyUnique, firstRejected_eq_none, all, nodup_map_iff injective]

theorem ofPolicy_validate (policy : IssuerPolicy)
    : (ofPolicy policy).validate = .ok () ↔ policy.validate = .ok () := by
  have free : (policy.sources.map sourceKind).contains "free_distribution"
      = policy.sources.contains .freeDistribution :=
    contains_map sourceKind_injective policy.sources .freeDistribution
  have commercial : (policy.sources.map sourceKind == ["commercial_order"])
      = (policy.sources == [.commercialOrder]) := by
    rw [Bool.eq_iff_iff, beq_iff_eq, beq_iff_eq]
    exact (map_injective_iff.mpr sourceKind_injective).eq_iff (b := [.commercialOrder])
  have sets : (Entitlements.ofEntitlements policy.entitlementCeiling).featureSets.isEmpty
      = policy.entitlementCeiling.featureSets.isEmpty := by
    simp [Entitlements.ofEntitlements]
  rw [validate, IssuerPolicy.validate]
  simp only [unit_bind_eq_ok, check_ok_iff, mapError_eq_ok, ofPolicy,
    ofEntitlements_validate, free, commercial, sets, length_map]
  rw [validScopeV2_map sourceKind_injective (by intro kind; cases kind <;> decide),
    validScopeV2_map bindingKind_injective (by intro kind; cases kind <;> decide),
    validScopeV2_map expiryKind_injective (by intro kind; cases kind <;> decide)]
  simp only [and_eq_true]
  tauto

theorem exists_policy_of_validate {policy : IssuerPolicyV2} (valid : policy.validate = .ok ())
    : ∃ found, ofPolicy found = policy := by
  obtain ⟨sources, bindings, expiries, ceiling⟩ := policy
  rw [validate] at valid
  simp only [unit_bind_eq_ok, check_ok_iff, validScopeV2, and_eq_true] at valid
  obtain ⟨⟨⟨⟨_, knownSources⟩, ⟨_, knownBindings⟩⟩, ⟨_, knownExpiries⟩⟩, _, _, hl⟩ := valid
  obtain ⟨sourceKinds, rfl⟩ := @exists_map_of_firstRejected _ sourceKind _ _ (by
    simp only [forall_mem_cons]
    exact ⟨⟨.freeDistribution, rfl⟩, ⟨.commercialOrder, rfl⟩, ⟨.approvedTrial, rfl⟩,
      forall_mem_nil _⟩) knownSources
  obtain ⟨bindingKinds, rfl⟩ := @exists_map_of_firstRejected _ bindingKind _ _ (by
    simp only [forall_mem_cons]
    exact ⟨⟨.unbound, rfl⟩, ⟨.installation, rfl⟩, forall_mem_nil _⟩) knownBindings
  obtain ⟨expiryKinds, rfl⟩ := @exists_map_of_firstRejected _ expiryKind _ _ (by
    simp only [forall_mem_cons]
    exact ⟨⟨.fixed, rfl⟩, ⟨.none, rfl⟩, forall_mem_nil _⟩) knownExpiries
  obtain ⟨found, rfl⟩ := exists_entitlements_of_validate hl
  exact ⟨⟨sourceKinds, bindingKinds, expiryKinds, found⟩, rfl⟩

theorem ofPolicy_authorize (ha : ReadersAgree libraries crates)
    (policy : IssuerPolicy) (claims : Claims)
    : (ofPolicy policy).authorize libraries (.ofClaims claims) = .ok ()
      ↔ policy.authorize crates claims = .ok () := by
  rw [authorize, IssuerPolicy.authorize]
  simp only [unit_bind_eq_ok, check_ok_iff, mapError_eq_ok, ofPolicy_validate, ofClaims_validate ha]
  simp only [ofPolicy, ClaimsV2.ofClaims, ofEntitlements_ensureWithin,
    ofSource_kind, ofBinding_mode, ofExpiry_mode, contains_map sourceKind_injective,
    contains_map bindingKind_injective, contains_map expiryKind_injective]

/-- The issuer and the verifier accept the same claims, and under the same well-formed
policy they authorize the same claims. What either side accepts has a form on both.
-/
theorem issuer_and_verifier_accept_same_licenses (agree : ReadersAgree libraries crates)
    : (∀ claims : LicenseCore.Claims,
        (ClaimsV2.ofClaims claims).validate libraries = .ok () ↔ claims.validate crates = .ok ())
      ∧ (∀ claims : ClaimsV2, claims.validate libraries = .ok ()
          ↔ ∃ found, ClaimsV2.ofClaims found = claims ∧ found.validate crates = .ok ())
      ∧ (∀ policy : IssuerPolicyV2, policy.validate = .ok ()
          ↔ ∃ found, ofPolicy found = policy ∧ found.validate = .ok ())
      ∧ (∀ (policy : LicenseCore.IssuerPolicy) (claims : LicenseCore.Claims),
          (ofPolicy policy).authorize libraries (.ofClaims claims) = .ok ()
            ↔ policy.authorize crates claims = .ok ())
      ∧ ∀ (policy : LicenseCore.IssuerPolicy) (claims : ClaimsV2),
          (ofPolicy policy).authorize libraries claims = .ok ()
            ↔ ∃ found, ClaimsV2.ofClaims found = claims
              ∧ policy.authorize crates found = .ok () := by
  refine ⟨ofClaims_validate agree, ?_, ?_, ofPolicy_authorize agree, ?_⟩
  · intro claims
    refine ⟨fun valid => ?_, ?_⟩
    · obtain ⟨hf, rfl⟩ := exists_claims_of_validate valid
      exact ⟨hf, rfl, (ofClaims_validate agree hf).mp valid⟩
    · intro ⟨hf, same, valid⟩
      rw [← same]
      exact (ofClaims_validate agree hf).mpr valid
  · intro policy
    refine ⟨fun valid => ?_, ?_⟩
    · obtain ⟨hf, rfl⟩ := exists_policy_of_validate valid
      exact ⟨hf, rfl, (ofPolicy_validate hf).mp valid⟩
    · intro ⟨hf, same, valid⟩
      rw [← same]
      exact (ofPolicy_validate hf).mpr valid
  · intro policy claims
    refine ⟨fun ha => ?_, ?_⟩
    · have checks := ha
      rw [authorize, unit_bind_eq_ok, unit_bind_eq_ok] at checks
      obtain ⟨hf, rfl⟩ := exists_claims_of_validate checks.2.1
      exact ⟨hf, rfl, (ofPolicy_authorize agree policy hf).mp ha⟩
    · intro ⟨hf, same, ha⟩
      rw [← same]
      exact (ofPolicy_authorize agree policy hf).mpr ha

end

-- Sample readers and claims

open Classical in
/-- Readers that know exactly the two grammars. -/
noncomputable def sampleLibraries : Libraries :=
  ⟨fun text => decide (∃ version : SemanticVersion, text = version.text), calendarReader⟩

open Classical in
noncomputable def sampleCrates : Crates :=
  ⟨fun text => decide (∃ version : SemanticVersion, text = version.text
    ∧ version.major < 2 ^ 64 ∧ version.minor < 2 ^ 64 ∧ version.patch < 2 ^ 64), calendarReader⟩

theorem sampleReaders_agree : ReadersAgree sampleLibraries sampleCrates :=
  ⟨fun text => by simp [sampleLibraries], fun text => by simp [sampleCrates],
    calendarReader_reads, calendarReader_reads⟩

def sampleIssuedAt : CivilTime :=
  ⟨2026, 3, 1, 8, 30, 0, 0, by decide, by decide, by decide, by decide, by decide, by decide⟩

def sampleExpiresAt : CivilTime :=
  ⟨2027, 2, 28, 23, 59, 59, 999000000, by decide, by decide, by decide, by decide, by decide,
    by decide⟩

def sampleVersion : SemanticVersion := ⟨1, 4, 0, [], [], by simp, by simp⟩

def sampleEntitlements : LicenseCore.Entitlements :=
  { catalogVersion := 1
    features := [.gateway, .member]
    featureSets := []
    quotas := [⟨.memberSeats, .limited 20⟩, ⟨.runners, .limited 2⟩,
      ⟨.upstreamAccounts, .unlimited⟩, ⟨.apiKeysPerMember, .limited 5⟩] }

def sampleClaims : Claims :=
  { schema := "aster.license.v2"
    keyId := "issuer-2026"
    licenseId := "L-1"
    serial := "S-1"
    product := "aster-team"
    edition := "standard"
    planId := "team"
    planVersion := 3
    source := .commercialOrder "O-1" "C-1" "R-1"
    entitlements := sampleEntitlements
    quotaPolicyVersion := 1
    binding := .installation "installation-1" "AAAAAAAAAAAAAAAAAAAAAAAAAAAAAAAAAAAAAAAAAAA" 0
    validity := ⟨sampleIssuedAt.exactText, .fixed sampleExpiresAt.exactText⟩
    issuedAt := sampleIssuedAt.exactText
    minimumVersion := sampleVersion.text }

theorem sampleClaims_validate : sampleClaims.validate sampleCrates = .ok () := by
  have issued (name : String)
      : LicenseCore.exactTime sampleCrates name sampleIssuedAt.exactText = .ok sampleIssuedAt :=
    (verifierExactTime_eq_ok calendarReader_reads name _ _).mpr ⟨⟨by decide, by decide⟩, rfl⟩
  have expires (name : String)
      : LicenseCore.exactTime sampleCrates name sampleExpiresAt.exactText = .ok sampleExpiresAt :=
    (verifierExactTime_eq_ok calendarReader_reads name _ _).mpr ⟨⟨by decide, by decide⟩, rfl⟩
  have times
      : LicenseCore.validateTimes sampleCrates sampleClaims.issuedAt sampleClaims.validity
        = .ok () := by
    simp only [LicenseCore.validateTimes, sampleClaims, issued, expires]
    rfl
  have version : sampleCrates.parsesVersion sampleClaims.minimumVersion := by
    simp only [sampleCrates, decide_eq_true_eq]
    exact ⟨sampleVersion, rfl, by decide, by decide, by decide⟩
  rw [Claims.validate]
  simp only [unit_bind_eq_ok, check_ok_iff, mapError_eq_ok, times, version, Bool.and_true]
  decide +kernel

theorem sample_claims_accepted_by_both
    : (ClaimsV2.ofClaims sampleClaims).validate sampleLibraries = .ok ()
      ∧ sampleClaims.validate sampleCrates = .ok () :=
  ⟨((issuer_and_verifier_accept_same_licenses sampleReaders_agree).1 sampleClaims).mpr
    sampleClaims_validate, sampleClaims_validate⟩

end AsterTeam.LicenseProtocol
