import AsterTeam.LicenseProtocol.Canonical

/-! The verifier's v2 license claims and their signing text.
The claims are serialised to a JSON value with the tags and names of their types, and the
canonical text of this value is signed. Different claims have different signing texts.
-/

namespace AsterTeam.LicenseCore

open Json Utf16

-- The product catalog

inductive FeatureSetId
  | standard
  deriving DecidableEq

inductive CapabilityId
  | gateway
  | member
  | runner
  deriving DecidableEq

inductive QuotaId
  | memberSeats
  | runners
  | upstreamAccounts
  | apiKeysPerMember
  deriving DecidableEq

def FeatureSetId.asStr : FeatureSetId → String
  | .standard => "standard"

def CapabilityId.asStr : CapabilityId → String
  | .gateway => "gateway"
  | .member => "member"
  | .runner => "runner"

def QuotaId.asStr : QuotaId → String
  | .memberSeats => "member_seats"
  | .runners => "runners"
  | .upstreamAccounts => "upstream_accounts"
  | .apiKeysPerMember => "api_keys_per_member"

def QuotaId.all : List QuotaId := [.memberSeats, .runners, .upstreamAccounts, .apiKeysPerMember]

structure CapabilityDescriptor where
  id : CapabilityId
  featureSet : FeatureSetId
  requires : List CapabilityId

def capabilities : List CapabilityDescriptor :=
  [⟨.gateway, .standard, []⟩, ⟨.member, .standard, []⟩, ⟨.runner, .standard, []⟩]

def catalogVersion : UInt32 := 1

-- Claims

inductive QuotaLimit
  | limited (value : UInt32)
  | unlimited
  deriving DecidableEq

structure QuotaGrant where
  id : QuotaId
  limit : QuotaLimit
  deriving DecidableEq

structure Entitlements where
  catalogVersion : UInt32
  features : List CapabilityId
  featureSets : List FeatureSetId
  quotas : List QuotaGrant
  deriving DecidableEq

inductive SourceKind
  | freeDistribution
  | commercialOrder
  | approvedTrial
  deriving DecidableEq

inductive BindingKind
  | unbound
  | installation
  deriving DecidableEq

inductive ExpiryKind
  | fixed
  | none
  deriving DecidableEq

inductive Source
  | freeDistribution (distributionId : String)
  | commercialOrder (orderId customerRef requestId : String)
  | approvedTrial (trialId customerRef requestId : String)
  deriving DecidableEq

inductive Binding
  | unbound
  | installation (installationId machineFingerprintSha256 : String) (transferSequence : UInt32)
  deriving DecidableEq

inductive Expiry
  | fixed (expiresAt : String)
  | none
  deriving DecidableEq

structure Validity where
  notBefore : String
  expiry : Expiry
  deriving DecidableEq

structure Claims where
  (schema keyId licenseId serial product edition planId : String)
  planVersion : UInt32
  source : Source
  entitlements : Entitlements
  quotaPolicyVersion : UInt32
  binding : Binding
  validity : Validity
  (issuedAt minimumVersion : String)
  deriving DecidableEq

-- Serialisation

def u32Value (value : UInt32) : Value := .number value.toNat

def QuotaLimit.toValue : QuotaLimit → Value
  | .limited value => .object [("mode", .string "limited"), ("value", u32Value value)]
  | .unlimited => .object [("mode", .string "unlimited")]

def QuotaGrant.toValue (grant : QuotaGrant) : Value :=
  .object [("id", .string grant.id.asStr), ("limit", grant.limit.toValue)]

/-- An empty list of feature sets is not written. -/
def featureSetMember (featureSets : List FeatureSetId) : List (String × Value) :=
  if featureSets.isEmpty then []
  else [("feature_sets", .array (featureSets.map (fun id => .string id.asStr)))]

def Entitlements.toValue (entitlements : Entitlements) : Value :=
  .object ([("catalog_version", u32Value entitlements.catalogVersion),
      ("features", .array (entitlements.features.map (fun id => .string id.asStr)))]
    ++ featureSetMember entitlements.featureSets
    ++ [("quotas", .array (entitlements.quotas.map QuotaGrant.toValue))])

def Source.toValue : Source → Value
  | .freeDistribution distributionId =>
    .object [("kind", .string "free_distribution"), ("distribution_id", .string distributionId)]
  | .commercialOrder orderId customerRef requestId =>
    .object [("kind", .string "commercial_order"), ("order_id", .string orderId),
      ("customer_ref", .string customerRef), ("request_id", .string requestId)]
  | .approvedTrial trialId customerRef requestId =>
    .object [("kind", .string "approved_trial"), ("trial_id", .string trialId),
      ("customer_ref", .string customerRef), ("request_id", .string requestId)]

def Binding.toValue : Binding → Value
  | .unbound => .object [("mode", .string "unbound")]
  | .installation installationId machineFingerprintSha256 transferSequence =>
    .object [("mode", .string "installation"), ("installation_id", .string installationId),
      ("machine_fingerprint_sha256", .string machineFingerprintSha256),
      ("transfer_sequence", u32Value transferSequence)]

def Expiry.toValue : Expiry → Value
  | .fixed expiresAt => .object [("mode", .string "fixed"), ("expires_at", .string expiresAt)]
  | .none => .object [("mode", .string "none")]

def Validity.toValue (validity : Validity) : Value :=
  .object [("not_before", .string validity.notBefore), ("expiry", validity.expiry.toValue)]

def Claims.toValue (claims : Claims) : Value :=
  .object [("schema", .string claims.schema), ("key_id", .string claims.keyId),
    ("license_id", .string claims.licenseId), ("serial", .string claims.serial),
    ("product", .string claims.product), ("edition", .string claims.edition),
    ("plan_id", .string claims.planId), ("plan_version", u32Value claims.planVersion),
    ("source", claims.source.toValue), ("entitlements", claims.entitlements.toValue),
    ("quota_policy_version", u32Value claims.quotaPolicyVersion),
    ("binding", claims.binding.toValue), ("validity", claims.validity.toValue),
    ("issued_at", .string claims.issuedAt), ("minimum_version", .string claims.minimumVersion)]

def canonicalClaims (claims : Claims) : Except LicenseError String :=
  canonicalize claims.toValue

-- Serialised claims have integers only and distinct names

theorem integer_u32 (value : UInt32) : Integer (value.toNat : Int) := by
  have hs := value.toNat_lt
  unfold Integer
  omega

variable {text : String → Prop} {number : Int → Prop}

theorem allItems_iff : AllItems text number items ↔ ∀ item ∈ items, item.All text number := by
  induction items with
  | nil => simp [AllItems]
  | cons item rest ih => simp [AllItems, ih]

section

attribute [local simp] Integral u32Value Value.All AllFields integer_u32

theorem QuotaLimit.integral (limit : QuotaLimit) : Integral limit.toValue := by
  cases limit with
  | limited value => simp [toValue]
  | unlimited => simp [toValue]

theorem QuotaGrant.integral (grant : QuotaGrant) : Integral grant.toValue := by
  have limit := grant.limit.integral
  unfold Integral at limit
  simp [toValue, limit]

theorem Entitlements.integral (entitlements : Entitlements) : Integral entitlements.toValue := by
  have quotas : ∀ grant ∈ entitlements.quotas, Integral grant.toValue :=
    fun grant _ => grant.integral
  unfold Integral at quotas
  unfold toValue featureSetMember
  split <;>
    simpa [allItems_iff] using quotas

theorem Source.integral (source : Source) : Integral source.toValue := by
  cases source <;> simp [toValue]

theorem Binding.integral (binding : Binding) : Integral binding.toValue := by
  cases binding <;> simp [toValue]

theorem Validity.integral (validity : Validity) : Integral validity.toValue := by
  cases expiry : validity.expiry <;>
    simp [toValue, Expiry.toValue, expiry]

theorem Claims.integral (claims : Claims) : Integral claims.toValue := by
  have source := claims.source.integral
  have entitlements := claims.entitlements.integral
  have binding := claims.binding.integral
  have validity := claims.validity.integral
  unfold Integral at source entitlements binding validity
  simp [toValue, source, entitlements, binding, validity]

end

-- The serialised form determines the claims

def memberOf (name : String) (fields : List (String × Value)) : Option Value :=
  (fields.lookup name).map (Value.sorted encode)

theorem lookup_eq_some_iff {Content : Type} {members : List (String × Content)}
    (hd : (members.map Prod.fst).Nodup) (name : String) (content : Content)
    : members.lookup name = some content ↔ (name, content) ∈ members := by
  induction members with
  | nil => simp
  | cons member rest ih =>
    obtain ⟨first, hfo⟩ := member
    simp only [List.map_cons, List.nodup_cons] at hd
    rw [List.lookup_cons]
    by_cases same : name = first
    · subst same
      have hf : (name, content) ∉ rest :=
        fun present => hd.1 (List.mem_map_of_mem present)
      simp [hf, eq_comm]
    · have differs : (name == first) = false := by simpa using same
      simp [differs, same, ih hd.2]

/-- Objects with one sorted form have equal members, name by name. -/
theorem memberOf_eq {left right : List (String × Value)}
    (leftDistinct : (left.map Prod.fst).Nodup) (rightDistinct : (right.map Prod.fst).Nodup)
    (same : (Value.object left).sorted encode = (Value.object right).sorted encode) (name : String)
    : memberOf name left = memberOf name right := by
  have lookups (fields : List (String × Value)) (hd : (fields.map Prod.fst).Nodup)
      (content : Value)
      : memberOf name fields = some content
        ↔ (name, content) ∈ sortByName encode (sortedFields encode fields) := by
    rw [(sortByName_perm encode _).mem_iff, sortedFields_eq_map, memberOf, Option.map_eq_some_iff]
    simp only [lookup_eq_some_iff hd, List.mem_map, Prod.mk.injEq]
    refine ⟨fun ⟨value, present, image⟩ => ⟨(name, value), present, rfl, image⟩, ?_⟩
    intro ⟨field, present, names, image⟩
    exact ⟨field.2, by rw [← names]; exact present, image⟩
  simp only [Value.sorted, Value.object.injEq] at same
  apply Option.ext
  intro content
  rw [lookups left leftDistinct, lookups right rightDistinct, same]

theorem u32Value_injective (same : (u32Value left).sorted encode = (u32Value right).sorted encode)
    : left = right := by
  simp only [u32Value, Value.sorted, Value.number.injEq, Nat.cast_inj] at same
  exact UInt32.toNat_inj.mp same

theorem CapabilityId.asStr_injective : Function.Injective CapabilityId.asStr := by
  intro left right same
  cases left <;> cases right <;> first | rfl | exact absurd same (by decide)

theorem QuotaId.asStr_injective : Function.Injective QuotaId.asStr := by
  intro left right same
  cases left <;> cases right <;> first | rfl | exact absurd same (by decide)

/-- Arrays with one sorted form come from equal lists, when each item determines its
source.
-/
theorem map_eq_of_sorted {Item : Type} {image : Item → Value} (determined : ∀ left right : Item,
      (image left).sorted encode = (image right).sorted encode → left = right)
    {left right : List Item} (same : (Value.array (left.map image)).sorted encode
      = (Value.array (right.map image)).sorted encode)
    : left = right := by
  simp only [Value.sorted, Value.array.injEq, sortedItems_eq_map, List.map_map] at same
  exact List.map_injective_iff.mpr (fun _ _ => determined _ _) same

attribute [local simp] memberOf List.lookup Value.sorted

theorem QuotaLimit.eq_of_sorted {left right : QuotaLimit}
    (same : left.toValue.sorted encode = right.toValue.sorted encode)
    : left = right := by
  cases left <;> cases right <;>
    have hm := memberOf_eq (by simp) (by simp) same <;>
    have mode := hm "mode" <;> have value := hm "value" <;>
    simp at mode value
  · rw [u32Value_injective value]
  · rfl

theorem QuotaGrant.eq_of_sorted {left right : QuotaGrant}
    (same : left.toValue.sorted encode = right.toValue.sorted encode)
    : left = right := by
  have hm := memberOf_eq (by simp) (by simp) same
  have id := hm "id"
  have limit := hm "limit"
  simp at id limit
  cases left
  cases right
  rw [QuotaGrant.mk.injEq]
  exact ⟨QuotaId.asStr_injective id, QuotaLimit.eq_of_sorted limit⟩

/-- There is a single feature set, so its text is not looked at. -/
theorem FeatureSetId.eq_of_sorted (left right : FeatureSetId)
    (_same : (Value.string left.asStr).sorted encode = (Value.string right.asStr).sorted encode)
    : left = right := by
  cases left
  cases right
  rfl

theorem CapabilityId.eq_of_sorted (left right : CapabilityId)
    (same : (Value.string left.asStr).sorted encode = (Value.string right.asStr).sorted encode)
    : left = right := by
  simp only [Value.sorted] at same
  exact CapabilityId.asStr_injective (Value.string.inj same)

theorem entitlement_names (entitlements : Entitlements)
    : (([("catalog_version", u32Value entitlements.catalogVersion),
          ("features", Value.array (entitlements.features.map (fun id => .string id.asStr)))]
        ++ featureSetMember entitlements.featureSets
        ++ [("quotas", Value.array (entitlements.quotas.map QuotaGrant.toValue))]).map
          Prod.fst).Nodup := by
  unfold featureSetMember
  split <;> simp

theorem Entitlements.eq_of_sorted {left right : Entitlements}
    (same : left.toValue.sorted encode = right.toValue.sorted encode)
    : left = right := by
  have hm := memberOf_eq (entitlement_names left) (entitlement_names right) same
  have version := hm "catalog_version"
  have features := hm "features"
  have sets := hm "feature_sets"
  have quotas := hm "quotas"
  unfold memberOf featureSetMember at version features sets quotas
  have versions : left.catalogVersion = right.catalogVersion := by
    apply u32Value_injective
    split at version <;> split at version <;> simpa using version
  have capabilities : left.features = right.features := by
    apply map_eq_of_sorted CapabilityId.eq_of_sorted
    split at features <;> split at features <;> simpa using features
  have grants : left.quotas = right.quotas := by
    apply map_eq_of_sorted (fun _ _ => QuotaGrant.eq_of_sorted)
    split at quotas <;> split at quotas <;> simpa using quotas
  have featureSets : left.featureSets = right.featureSets := by
    split at sets <;> split at sets <;> rename_i leftEmpty rightEmpty
    · rw [List.isEmpty_iff.mp leftEmpty, List.isEmpty_iff.mp rightEmpty]
    · simp at sets
    · simp at sets
    · apply map_eq_of_sorted FeatureSetId.eq_of_sorted
      simpa using sets
  cases left
  cases right
  rw [Entitlements.mk.injEq]
  exact ⟨versions, capabilities, featureSets, grants⟩

theorem Source.eq_of_sorted {left right : Source}
    (same : left.toValue.sorted encode = right.toValue.sorted encode)
    : left = right := by
  cases left <;> cases right <;>
    have hm := memberOf_eq (by simp) (by simp) same <;>
    have kind := hm "kind" <;> have distribution := hm "distribution_id" <;>
    have order := hm "order_id" <;> have trial := hm "trial_id" <;>
    have customer := hm "customer_ref" <;> have request := hm "request_id" <;>
    simp at kind distribution order trial customer request
  · rw [distribution]
  · rw [order, customer, request]
  · rw [trial, customer, request]

theorem Binding.eq_of_sorted {left right : Binding}
    (same : left.toValue.sorted encode = right.toValue.sorted encode)
    : left = right := by
  cases left <;> cases right <;>
    have hm := memberOf_eq (by simp) (by simp) same <;>
    have mode := hm "mode" <;> have installation := hm "installation_id" <;>
    have fingerprint := hm "machine_fingerprint_sha256" <;>
    have sequence := hm "transfer_sequence" <;>
    simp at mode installation fingerprint sequence
  · rfl
  · rw [installation, fingerprint, u32Value_injective sequence]

theorem Expiry.eq_of_sorted {left right : Expiry}
    (same : left.toValue.sorted encode = right.toValue.sorted encode)
    : left = right := by
  cases left <;> cases right <;>
    have hm := memberOf_eq (by simp) (by simp) same <;>
    have mode := hm "mode" <;> have expires := hm "expires_at" <;>
    simp at mode expires
  · rw [expires]
  · rfl

theorem Validity.eq_of_sorted {left right : Validity}
    (same : left.toValue.sorted encode = right.toValue.sorted encode)
    : left = right := by
  have hm := memberOf_eq (by simp) (by simp) same
  have hb := hm "not_before"
  have expiry := hm "expiry"
  simp at hb expiry
  cases left
  cases right
  rw [Validity.mk.injEq]
  exact ⟨hb, Expiry.eq_of_sorted expiry⟩

theorem Claims.eq_of_sorted {left right : Claims}
    (same : left.toValue.sorted encode = right.toValue.sorted encode)
    : left = right := by
  have hm := memberOf_eq (by simp) (by simp) same
  have schema := hm "schema"
  have keyId := hm "key_id"
  have licenseId := hm "license_id"
  have serial := hm "serial"
  have product := hm "product"
  have edition := hm "edition"
  have planId := hm "plan_id"
  have planVersion := hm "plan_version"
  have source := hm "source"
  have entitlements := hm "entitlements"
  have quotaPolicyVersion := hm "quota_policy_version"
  have binding := hm "binding"
  have validity := hm "validity"
  have issuedAt := hm "issued_at"
  have minimumVersion := hm "minimum_version"
  simp at schema keyId licenseId serial product edition
  simp at planId issuedAt minimumVersion
  simp at planVersion source entitlements quotaPolicyVersion
  simp at binding validity
  cases left
  cases right
  rw [Claims.mk.injEq]
  exact ⟨schema, keyId, licenseId, serial, product, edition, planId,
    u32Value_injective planVersion, Source.eq_of_sorted source,
    Entitlements.eq_of_sorted entitlements, u32Value_injective quotaPolicyVersion,
    Binding.eq_of_sorted binding, Validity.eq_of_sorted validity, issuedAt, minimumVersion⟩

/-- Values without floating-point numbers: equal canonical texts come from values that are
equal up to member order, such values have equal texts, and a text exists. Different claims
have different signing texts.
-/
theorem canonical_text_determines_value
    : (∀ left right : Value, Integral left → Integral right →
        canonicalize left = canonicalize right → left.SameMembers right)
      ∧ (∀ left right : Value, Integral left → Integral right → left.Distinct →
          left.SameMembers right → canonicalize left = canonicalize right)
      ∧ (∀ value : Value, Integral value → ∃ text, canonicalize value = .ok text)
      ∧ (∀ left right : Claims, canonicalClaims left = canonicalClaims right → left = right)
      ∧ ∀ claims : Claims, ∃ text, canonicalClaims claims = .ok text := by
  refine ⟨?_, ?_, fun value integral => ⟨_, canonicalize_of_integral integral⟩, ?_,
    fun claims => ⟨_, canonicalize_of_integral claims.integral⟩⟩
  · intro left right leftIntegral rightIntegral same
    have leftText := canonicalize_of_integral leftIntegral
    exact sameMembers_of_sorted_eq left right
      (sorted_eq_of_canonicalize leftText (same.symm.trans leftText))
  · intro left right leftIntegral rightIntegral hd same
    rw [canonicalize_of_integral leftIntegral, canonicalize_of_integral rightIntegral,
      sorted_eq_of_sameMembers encode_injective left hd same]
  · intro left right same
    have leftText : canonicalClaims left = _ := canonicalize_of_integral left.integral
    exact Claims.eq_of_sorted (sorted_eq_of_canonicalize leftText (same.symm.trans leftText))

theorem sample_members_reordered
    : canonicalize (.object [("serial", .string "S-1"), ("plan_version", .number 2)])
        = canonicalize (.object [("plan_version", .number 2), ("serial", .string "S-1")])
      ∧ (Value.object [("serial", .string "S-1"), ("plan_version", .number 2)]).SameMembers
        (.object [("plan_version", .number 2), ("serial", .string "S-1")]) := by
  have left : Integral (.object [("serial", .string "S-1"), ("plan_version", .number 2)]) := by
    simp [Integral, Value.All, AllFields, Integer]
  have right : Integral (.object [("plan_version", .number 2), ("serial", .string "S-1")]) := by
    simp [Integral, Value.All, AllFields, Integer]
  have texts := canonical_text_determines_value.2.1 _ _ left right
    (by simp [Value.Distinct, DistinctFields])
    (.object rfl (.cons (.string _) (.cons (.number _) .nil)) (List.Perm.swap _ _ _))
  exact ⟨texts, canonical_text_determines_value.1 _ _ left right texts⟩

end AsterTeam.LicenseCore
