import AsterTeam.LicenseProtocol.SigningBytes

/-! The scope of an issuer: the ring of trusted keys, what a verified document may claim, and
the order of entitlements that scopes are compared by.
-/

namespace AsterTeam.LicenseCore

inductive KeyringError
  | invalid (error : Error)
  | duplicateTrustedKey (keyId : String)
  | conflictingTrustedKey

structure TrustedLicenseKeys (Public : Type) where
  keys : List (String × Public)
  scopedKeys : List (String × ScopedKey Public)

/-- A registration, after a key in text form has been decoded. -/
inductive KeyInsertion (Public : Type)
  | insert (keyId : String) (key : Public)
  | insertScoped (keyId : String) (key : Public) (policy : IssuerPolicy)

section

variable {Public : Type} [DecidableEq Public] (keyring : TrustedLicenseKeys Public)

def TrustedLicenseKeys.containsKey (keyId : String) : Bool :=
  keyring.keys.any (·.1 == keyId) || keyring.scopedKeys.any (·.1 == keyId)

def KeyInsertion.apply : KeyInsertion Public → Except KeyringError (TrustedLicenseKeys Public)
  | insert keyId key => do
    (validateIdentifier "key_id" keyId 1 128).mapError (.invalid ∘ .license)
    check (!keyring.containsKey keyId) (.duplicateTrustedKey keyId)
    check (!keyring.scopedKeys.any (·.2.key == key)) .conflictingTrustedKey
    return { keyring with keys := (keyId, key) :: keyring.keys }
  | insertScoped keyId key policy => do
    (validateIdentifier "key_id" keyId 1 128).mapError (.invalid ∘ .license)
    policy.validate.mapError .invalid
    check (!keyring.containsKey keyId) (.duplicateTrustedKey keyId)
    check (!(keyring.keys.any (·.2 == key) || keyring.scopedKeys.any (·.2.key == key)))
      .conflictingTrustedKey
    return { keyring with scopedKeys := (keyId, ⟨key, policy⟩) :: keyring.scopedKeys }

def insertAll (insertions : List (KeyInsertion Public))
    : Except KeyringError (TrustedLicenseKeys Public) :=
  insertions.foldlM KeyInsertion.apply ⟨[], []⟩

/-- The registrations with their scopes; the keys of the first version share one. -/
def TrustedLicenseKeys.registered
    : List (String × Public × Option (String × ScopedKey Public)) :=
  keyring.keys.map (fun (keyId, key) => (keyId, key, none))
    ++ keyring.scopedKeys.map fun owner => (owner.1, owner.2.key, some owner)

/-- No key id and no key has two scopes. -/
def TrustedLicenseKeys.Separated : Prop :=
  ∀ first ∈ keyring.registered, ∀ second ∈ keyring.registered,
    first.1 = second.1 ∨ first.2.1 = second.2.1 → first.2.2 = second.2.2

variable {keyring}

/-- A registration adds one scope that agrees with those before. -/
theorem registered_of_apply {insertion : KeyInsertion Public}
    (ha : insertion.apply keyring = .ok next)
    : ∃ keyId key scope,
        (∀ entry ∈ next.registered, entry = (keyId, key, scope) ∨ entry ∈ keyring.registered)
        ∧ ∀ entry ∈ keyring.registered, entry.1 = keyId ∨ entry.2.1 = key → entry.2.2 = scope := by
  cases insertion with
  | insert keyId key =>
    obtain ⟨_, ha⟩ := unit_bind_eq_ok.mp ha
    obtain ⟨fresh, ha⟩ := check_bind_eq_ok.mp ha
    obtain ⟨unused, ha⟩ := check_bind_eq_ok.mp ha
    cases ha
    simp [TrustedLicenseKeys.containsKey] at fresh unused
    refine ⟨keyId, key, none, fun _ hm => List.mem_cons.mp hm, fun entry hm same => ?_⟩
    rcases List.mem_append.mp hm with hm | hm <;> obtain ⟨other, ho, rfl⟩ := List.mem_map.mp hm
    · rfl
    · exact absurd same (not_or.mpr ⟨fresh.2 _ _ ho, unused _ _ ho⟩)
  | insertScoped keyId key policy =>
    obtain ⟨_, ha⟩ := unit_bind_eq_ok.mp ha
    obtain ⟨_, ha⟩ := unit_bind_eq_ok.mp ha
    obtain ⟨fresh, ha⟩ := check_bind_eq_ok.mp ha
    obtain ⟨unused, ha⟩ := check_bind_eq_ok.mp ha
    cases ha
    simp [TrustedLicenseKeys.containsKey] at fresh unused
    refine ⟨keyId, key, _, fun _ hm => List.mem_cons.mp (List.perm_middle.mem_iff.mp hm),
      fun entry hm same => ?_⟩
    rcases List.mem_append.mp hm with hm | hm <;> obtain ⟨other, ho, rfl⟩ := List.mem_map.mp hm
    · exact absurd same (not_or.mpr ⟨fresh.1 _ _ ho, unused.1 _ _ ho⟩)
    · exact absurd same (not_or.mpr ⟨fresh.2 _ _ ho, unused.2 _ _ ho⟩)

theorem separated_of_apply {insertion : KeyInsertion Public}
    (ha : insertion.apply keyring = .ok next) (hs : keyring.Separated)
    : next.Separated := by
  obtain ⟨keyId, key, scope, hr, agrees⟩ := registered_of_apply ha
  intro first hf second hn same
  rcases hr first hf with rfl | hf <;> rcases hr second hn with rfl | hn
  · rfl
  · exact (agrees second hn (same.imp Eq.symm Eq.symm)).symm
  · exact agrees first hf same
  · exact hs first hf second hn same

theorem separated_of_foldlM {insertions : List (KeyInsertion Public)}
    (ha : insertions.foldlM KeyInsertion.apply keyring = .ok next) (hs : keyring.Separated)
    : next.Separated := by
  induction insertions generalizing keyring with
  | nil =>
    cases ha
    exact hs
  | cons insertion rest ih =>
    obtain ⟨middle, hm, ha⟩ := except_bind_eq_ok.mp ha
    exact ih ha (separated_of_apply hm hs)

end

-- Comparing entitlements

def QuotaLimit.Allows (count : Nat) : QuotaLimit → Prop
  | .limited value => count ≤ value.toNat
  | .unlimited => True

namespace Entitlements

def Permits (entitlements : Entitlements) (id : QuotaId) (count : Nat) : Prop :=
  ∃ limit, entitlements.quota id = some limit ∧ limit.Allows count

variable {inner ceiling outer : Entitlements} {id : QuotaId} {limit : QuotaLimit}

theorem ensureWithin_eq_ok
    : inner.ensureWithin ceiling = .ok ()
      ↔ inner.validate = .ok () ∧ ceiling.validate = .ok ()
        ∧ (∀ feature ∈ inner.features, feature ∈ ceiling.effectiveFeatures)
        ∧ (∀ set ∈ inner.featureSets, set ∈ ceiling.featureSets)
        ∧ ∀ grant ∈ inner.quotas, ∃ limit, ceiling.quota grant.id = some limit
          ∧ grant.limit.isWithin limit := by
  rw [ensureWithin, unit_bind_eq_ok, unit_bind_eq_ok, check_ok_iff]
  simp [Option.any_eq_true, and_assoc]

theorem mem_effectiveFeatures
    : feature ∈ inner.effectiveFeatures
      ↔ ∃ entry ∈ capabilities,
          (entry.id ∈ inner.features ∨ entry.featureSet ∈ inner.featureSets)
          ∧ entry.id = feature := by
  simp [effectiveFeatures, and_assoc]

theorem mem_of_quota (hq : inner.quota id = some limit) : ⟨id, limit⟩ ∈ inner.quotas := by
  obtain ⟨grant, hf, rfl⟩ := Option.map_eq_some_iff.mp hq
  have same : grant.id = id := by simpa using List.find?_some hf
  exact same ▸ List.mem_of_find?_eq_some hf

/-- Valid entitlements grant each quota once. -/
theorem quota_of_mem (valid : inner.validate = .ok ()) (hm : grant ∈ inner.quotas)
    : inner.quota grant.id = some grant.limit := by
  simp only [validate, check_bind_eq_ok, check_ok_iff, LicenseProtocol.quotas_complete_iff]
    at valid
  obtain ⟨_, _, _, _, distinct, _⟩ := valid
  have found : (inner.quotas.find? (·.id == grant.id)).isSome := by
    rw [List.find?_isSome]
    exact ⟨grant, hm, by simp⟩
  obtain ⟨other, hf⟩ := Option.isSome_iff_exists.mp found
  have same : other.id = grant.id := by simpa using List.find?_some hf
  rw [quota, hf, List.inj_on_of_nodup_map distinct (List.mem_of_find?_eq_some hf) hm same]
  rfl

theorem ensureWithin_refl (valid : inner.validate = .ok ())
    : inner.ensureWithin inner = .ok () := by
  refine ensureWithin_eq_ok.mpr ⟨valid, valid, fun feature hf => ?_, fun _ => id, fun grant hm =>
    ⟨_, quota_of_mem valid hm, ?_⟩⟩
  · refine mem_effectiveFeatures.mpr ⟨⟨feature, .standard, []⟩, ?_, .inl hf, rfl⟩
    cases feature <;> simp [capabilities]
  · cases grant.limit with
    | unlimited => rfl
    | limited value => simp [QuotaLimit.isWithin]

section

variable (hw : inner.ensureWithin ceiling = .ok ())

include hw

theorem effectiveFeatures_mono (hf : feature ∈ inner.effectiveFeatures)
    : feature ∈ ceiling.effectiveFeatures := by
  obtain ⟨_, _, features, sets, _⟩ := ensureWithin_eq_ok.mp hw
  obtain ⟨entry, he, granted, rfl⟩ := mem_effectiveFeatures.mp hf
  rcases granted with hg | hg
  · exact features _ hg
  · exact mem_effectiveFeatures.mpr ⟨entry, he, .inr (sets _ hg), rfl⟩

theorem quota_mono (hq : inner.quota id = some limit)
    : ∃ other, ceiling.quota id = some other ∧ limit.isWithin other := by
  obtain ⟨_, _, _, _, quotas⟩ := ensureWithin_eq_ok.mp hw
  exact quotas _ (mem_of_quota hq)

theorem permits_mono (hp : inner.Permits id count) : ceiling.Permits id count := by
  obtain ⟨limit, hq, allowed⟩ := hp
  obtain ⟨other, ho, within⟩ := quota_mono hw hq
  refine ⟨other, ho, ?_⟩
  revert within allowed
  cases limit <;> cases other <;>
    simp [QuotaLimit.isWithin, QuotaLimit.Allows, UInt32.le_iff_toNat_le]
  omega

theorem ensureWithin_trans (further : ceiling.ensureWithin outer = .ok ())
    : inner.ensureWithin outer = .ok () := by
  obtain ⟨valid, _, features, sets, quotas⟩ := ensureWithin_eq_ok.mp hw
  obtain ⟨_, outerValid, _, outerSets, _⟩ := ensureWithin_eq_ok.mp further
  refine ensureWithin_eq_ok.mpr ⟨valid, outerValid,
    fun feature hf => effectiveFeatures_mono further (features feature hf),
    fun set hs => outerSets set (sets set hs), fun grant hm => ?_⟩
  obtain ⟨limit, hl, within⟩ := quotas grant hm
  obtain ⟨other, ho, beyond⟩ := quota_mono further hl
  refine ⟨other, ho, ?_⟩
  revert within beyond
  cases grant.limit <;> cases limit <;> cases other <;>
    simp [QuotaLimit.isWithin]
  exact UInt32.le_trans

end

end Entitlements

variable {Private Public : Type}

/-- The document has the signature of the key, and its claims are of the kinds and the extent
that the policy of the key allows.
-/
structure SignedUnder (signatures : Signatures Private Public) (document : Document)
    (trusted : ScopedKey Public)
    : Prop where
  signed
    : ∃ bytes payload, signatures.decode document.signature = some bytes
      ∧ canonicalClaims document.claims = .ok payload
      ∧ signatures.verify trusted.key payload bytes
  source : document.claims.source.kind ∈ trusted.policy.sources
  binding : document.claims.binding.kind ∈ trusted.policy.bindings
  expiry : document.claims.validity.expiry.kind ∈ trusted.policy.expiries
  entitlements
    : document.claims.entitlements.ensureWithin trusted.policy.entitlementCeiling = .ok ()

theorem signed_of_verify (hv : verify crates json signatures scopedKeys data = .ok document)
    : ∃ trusted, scopedKeys.lookup document.claims.keyId = some trusted
      ∧ SignedUnder signatures document trusted := by
  unfold verify at hv
  split_ifs at hv
  split at hv
  · cases hv
  · obtain ⟨_, hv⟩ := unit_bind_eq_ok.mp hv
    split at hv
    · cases hv
    · rename_i trusted found
      split at hv
      · cases hv
      · rename_i bytes decoded
        obtain ⟨_, hv⟩ := check_bind_eq_ok.mp hv
        obtain ⟨payload, canonical, hv⟩ := except_bind_eq_ok.mp hv
        obtain ⟨signed, hv⟩ := check_bind_eq_ok.mp hv
        obtain ⟨ha, hv⟩ := unit_bind_eq_ok.mp hv
        cases hv
        obtain ⟨_, ha⟩ := unit_bind_eq_ok.mp ha
        obtain ⟨_, ha⟩ := unit_bind_eq_ok.mp ha
        obtain ⟨kinds, within⟩ := check_bind_eq_ok.mp ha
        simp only [Bool.and_eq_true, List.contains_eq_mem, decide_eq_true_eq] at kinds
        exact ⟨trusted, found, ⟨bytes, payload, decoded, mapError_eq_ok.mp canonical, signed⟩,
          kinds.1.1, kinds.1.2, kinds.2, mapError_eq_ok.mp within⟩

/-- Registrations that share an id or a key share their scope, a verified document is covered
by the policy of its key, and comparing entitlements is transitive, monotone, and reflexive on
valid ones.
-/
theorem issuer_scopes_hold [DecidableEq Public] {insertions : List (KeyInsertion Public)}
    {keyring : TrustedLicenseKeys Public} (ha : insertAll insertions = .ok keyring)
    : keyring.Separated
      ∧ (∀ crates json (signatures : Signatures Private Public) data document,
        verify crates json signatures keyring.scopedKeys data = .ok document
        → ∃ trusted, keyring.scopedKeys.lookup document.claims.keyId = some trusted
          ∧ SignedUnder signatures document trusted)
      ∧ (∀ inner : Entitlements, inner.validate = .ok () → inner.ensureWithin inner = .ok ())
      ∧ (∀ inner ceiling outer : Entitlements, inner.ensureWithin ceiling = .ok ()
        → ceiling.ensureWithin outer = .ok () → inner.ensureWithin outer = .ok ())
      ∧ ∀ inner ceiling : Entitlements, inner.ensureWithin ceiling = .ok ()
        → (∀ feature ∈ inner.effectiveFeatures, feature ∈ ceiling.effectiveFeatures)
          ∧ ∀ id count, inner.Permits id count → ceiling.Permits id count := by
  have first : (⟨[], []⟩ : TrustedLicenseKeys Public).Separated := fun _ => nofun
  exact ⟨separated_of_foldlM ha first, fun _ _ _ _ _ => signed_of_verify,
    fun _ => Entitlements.ensureWithin_refl, fun _ _ _ => Entitlements.ensureWithin_trans,
    fun _ _ hw => ⟨fun _ => Entitlements.effectiveFeatures_mono hw,
      fun _ _ => Entitlements.permits_mono hw⟩⟩

open LicenseProtocol

def sampleInsertions : List (KeyInsertion Nat) :=
  [.insert "first" 1, .insertScoped "issuer-2026" 2 samplePolicy]

/-- A document that is signed with the second key verifies under its policy. -/
theorem sample_keyring_separates
    : ∃ keyring document trusted, insertAll sampleInsertions = .ok keyring ∧ keyring.Separated
      ∧ verify sampleCrates sampleJson sampleSignatures keyring.scopedKeys
          (sampleJson.marshal (DocumentV2.toValue ⟨.ofClaims sampleClaims, sampleSignatureText⟩))
        = .ok document
      ∧ SignedUnder sampleSignatures document trusted := by
  have built
      : ∃ keyring, insertAll sampleInsertions = .ok keyring
        ∧ keyring.scopedKeys.lookup "issuer-2026" = some ⟨2, samplePolicy⟩ :=
    ⟨_, rfl, rfl⟩
  obtain ⟨keyring, made, found⟩ := built
  obtain ⟨document, verified⟩ := verify_of_signV2 sampleReaders_agree sampleJson_faithful
    sampleSignatures_correct sampleClaims_signed found
    ((ofPolicy_authorize sampleReaders_agree samplePolicy sampleClaims).mpr samplePolicy_authorizes)
  obtain ⟨separated, signed, _⟩ := issuer_scopes_hold made
  obtain ⟨trusted, _, signed⟩ := signed _ _ _ _ _ verified
  exact ⟨keyring, document, trusted, made, separated, verified, signed⟩

/-- Entitlements that are not valid are not within themselves. -/
theorem invalid_entitlements_not_within
    : ¬ ∀ inner : Entitlements, inner.ensureWithin inner = .ok () := by
  intro reflexive
  exact absurd (reflexive ⟨0, [], [], []⟩) (by decide)

end AsterTeam.LicenseCore
