import AsterTeam.LicenseProtocol.Agreement

/-! The JSON form in which the issuer writes claims and the verifier reads them.
The issuer leaves empty optional fields out; the verifier accepts an object only with its own
member names, each once. (Its library also reads an array of the fields in their order as such
an object; the issuer never writes one, and the readers here refuse it.) What the issuer writes
of accepted claims is read as the claims they are the form of.
-/

namespace AsterTeam

open Json

-- Writing

namespace LicenseProtocol

def omitEmpty (name value : String) : List (String × Value) :=
  if value = "" then [] else [(name, .string value)]

def omitAbsent (name : String) : Option UInt32 → List (String × Value)
  | none => []
  | some value => [(name, .number value.toNat)]

def QuotaLimit.toValue (limit : QuotaLimit) : Value :=
  .object ([("mode", .string limit.mode)] ++ omitAbsent "value" limit.value)

def QuotaGrant.toValue (grant : QuotaGrant) : Value :=
  .object [("id", .string grant.id), ("limit", grant.limit.toValue)]

def textArray (values : List String) : Value := .array (values.map Value.string)

def Entitlements.toValue (entitlements : Entitlements) : Value :=
  .object ((if entitlements.featureSets.isEmpty then []
      else [("feature_sets", textArray entitlements.featureSets)])
    ++ [("catalog_version", .number entitlements.catalogVersion.toNat),
      ("features", match entitlements.features with
        | none => .null
        | some features => textArray features),
      ("quotas", .array (entitlements.quotas.map QuotaGrant.toValue))])

def SourceV2.toValue (source : SourceV2) : Value :=
  .object ([("kind", .string source.kind)] ++ omitEmpty "distribution_id" source.distributionId
    ++ omitEmpty "order_id" source.orderId ++ omitEmpty "trial_id" source.trialId
    ++ omitEmpty "customer_ref" source.customerRef ++ omitEmpty "request_id" source.requestId)

def BindingV2.toValue (binding : BindingV2) : Value :=
  .object ([("mode", .string binding.mode)]
    ++ omitEmpty "installation_id" binding.installationId
    ++ omitEmpty "machine_fingerprint_sha256" binding.machineFingerprintSHA256
    ++ omitAbsent "transfer_sequence" binding.transferSequence)

def ExpiryV2.toValue (expiry : ExpiryV2) : Value :=
  .object ([("mode", .string expiry.mode)] ++ omitEmpty "expires_at" expiry.expiresAt)

def ValidityV2.toValue (validity : ValidityV2) : Value :=
  .object [("not_before", .string validity.notBefore), ("expiry", validity.expiry.toValue)]

def ClaimsV2.members (claims : ClaimsV2) : List (String × Value) :=
  [("schema", .string claims.schema), ("key_id", .string claims.keyId),
    ("license_id", .string claims.licenseId), ("serial", .string claims.serial),
    ("product", .string claims.product), ("edition", .string claims.edition),
    ("plan_id", .string claims.planId), ("plan_version", .number claims.planVersion.toNat),
    ("source", claims.source.toValue), ("entitlements", claims.entitlements.toValue),
    ("quota_policy_version", .number claims.quotaPolicyVersion.toNat),
    ("binding", claims.binding.toValue), ("validity", claims.validity.toValue),
    ("issued_at", .string claims.issuedAt), ("minimum_version", .string claims.minimumVersion)]

def ClaimsV2.toValue (claims : ClaimsV2) : Value := .object claims.members

structure DocumentV2 where
  claims : ClaimsV2
  signature : String

def DocumentV2.toValue (document : DocumentV2) : Value :=
  .object [("claims", document.claims.toValue), ("signature", .string document.signature)]

end LicenseProtocol

-- Reading

namespace LicenseCore

/-- The members of an object that has only known names, each once. -/
def membersOf (known : List String) : Value → Option (List (String × Value))
  | .object fields =>
    if (fields.map Prod.fst).Nodup ∧ ∀ name ∈ fields.map Prod.fst, name ∈ known then
      some fields
    else none
  | _ => none

def readString : Value → Option String
  | .string value => some value
  | _ => none

def readU32 : Value → Option UInt32
  | .number value => if 0 ≤ value ∧ value < 2 ^ 32 then some (.ofNat value.toNat) else none
  | _ => none

def readItems {Item : Type} (read : Value → Option Item) : List Value → Option (List Item)
  | [] => some []
  | item :: rest => do
      let first ← read item
      let others ← readItems read rest
      return first :: others

def readArray {Item : Type} (read : Value → Option Item) : Value → Option (List Item)
  | .array items => readItems read items
  | _ => none

def readMember {Item : Type} (fields : List (String × Value)) (name : String)
    (read : Value → Option Item)
    : Option Item :=
  (fields.lookup name).bind read

variable (text : String) (value : Value)

def FeatureSetId.fromStr : Option FeatureSetId :=
  if text = "standard" then some .standard else none

def CapabilityId.fromStr : Option CapabilityId :=
  if text = "gateway" then some .gateway
  else if text = "member" then some .member
  else if text = "runner" then some .runner
  else none

def QuotaId.fromStr : Option QuotaId :=
  if text = "member_seats" then some .memberSeats
  else if text = "runners" then some .runners
  else if text = "upstream_accounts" then some .upstreamAccounts
  else if text = "api_keys_per_member" then some .apiKeysPerMember
  else none

/-- The tag of an object whose type is chosen by one of its members. -/
def tagOf (name : String) : Value → Option String
  | .object fields => readMember fields name readString
  | _ => none

def QuotaLimit.ofValue : Option QuotaLimit := do
  let mode ← tagOf "mode" value
  if mode = "limited" then
    let fields ← membersOf ["mode", "value"] value
    return .limited (← readMember fields "value" readU32)
  else if mode = "unlimited" then
    let _ ← membersOf ["mode"] value
    return .unlimited
  else none

def QuotaGrant.ofValue (value : Value) : Option QuotaGrant := do
  let fields ← membersOf ["id", "limit"] value
  let id ← readMember fields "id" (fun member => (readString member).bind QuotaId.fromStr)
  let limit ← readMember fields "limit" QuotaLimit.ofValue
  return ⟨id, limit⟩

/-- Feature sets that are not given are empty. -/
def Entitlements.ofValue (value : Value) : Option Entitlements := do
  let fields ← membersOf ["catalog_version", "features", "feature_sets", "quotas"] value
  let version ← readMember fields "catalog_version" readU32
  let features ← readMember fields "features"
    (readArray (fun item => (readString item).bind CapabilityId.fromStr))
  let sets ← match fields.lookup "feature_sets" with
    | none => some []
    | some member => readArray (fun item => (readString item).bind FeatureSetId.fromStr) member
  let quotas ← readMember fields "quotas" (readArray QuotaGrant.ofValue)
  return ⟨version, features, sets, quotas⟩

def Source.ofValue : Option Source := do
  let kind ← tagOf "kind" value
  if kind = "free_distribution" then
    let fields ← membersOf ["kind", "distribution_id"] value
    return .freeDistribution (← readMember fields "distribution_id" readString)
  else if kind = "commercial_order" then
    let fields ← membersOf ["kind", "order_id", "customer_ref", "request_id"] value
    return .commercialOrder (← readMember fields "order_id" readString)
      (← readMember fields "customer_ref" readString) (← readMember fields "request_id" readString)
  else if kind = "approved_trial" then
    let fields ← membersOf ["kind", "trial_id", "customer_ref", "request_id"] value
    return .approvedTrial (← readMember fields "trial_id" readString)
      (← readMember fields "customer_ref" readString) (← readMember fields "request_id" readString)
  else none

def Binding.ofValue : Option Binding := do
  let mode ← tagOf "mode" value
  if mode = "unbound" then
    let _ ← membersOf ["mode"] value
    return .unbound
  else if mode = "installation" then
    let fields ← membersOf
      ["mode", "installation_id", "machine_fingerprint_sha256", "transfer_sequence"] value
    return .installation (← readMember fields "installation_id" readString)
      (← readMember fields "machine_fingerprint_sha256" readString)
      (← readMember fields "transfer_sequence" readU32)
  else none

def Expiry.ofValue : Option Expiry := do
  let mode ← tagOf "mode" value
  if mode = "fixed" then
    let fields ← membersOf ["mode", "expires_at"] value
    return .fixed (← readMember fields "expires_at" readString)
  else if mode = "none" then
    let _ ← membersOf ["mode"] value
    return .none
  else none

def Validity.ofValue (value : Value) : Option Validity := do
  let fields ← membersOf ["not_before", "expiry"] value
  return ⟨← readMember fields "not_before" readString, ← readMember fields "expiry" Expiry.ofValue⟩

def claimNames : List String :=
  ["schema", "key_id", "license_id", "serial", "product", "edition", "plan_id", "plan_version",
    "source", "entitlements", "quota_policy_version", "binding", "validity", "issued_at",
    "minimum_version"]

def Claims.ofValue (value : Value) : Option Claims := do
  let fields ← membersOf claimNames value
  return {
    schema := ← readMember fields "schema" readString
    keyId := ← readMember fields "key_id" readString
    licenseId := ← readMember fields "license_id" readString
    serial := ← readMember fields "serial" readString
    product := ← readMember fields "product" readString
    edition := ← readMember fields "edition" readString
    planId := ← readMember fields "plan_id" readString
    planVersion := ← readMember fields "plan_version" readU32
    source := ← readMember fields "source" Source.ofValue
    entitlements := ← readMember fields "entitlements" Entitlements.ofValue
    quotaPolicyVersion := ← readMember fields "quota_policy_version" readU32
    binding := ← readMember fields "binding" Binding.ofValue
    validity := ← readMember fields "validity" Validity.ofValue
    issuedAt := ← readMember fields "issued_at" readString
    minimumVersion := ← readMember fields "minimum_version" readString }

structure Document where
  claims : Claims
  signature : String

def Document.ofValue (value : Value) : Option Document := do
  let fields ← membersOf ["claims", "signature"] value
  return ⟨← readMember fields "claims" Claims.ofValue, ← readMember fields "signature" readString⟩

/-- Looking a name up compares it with one member after another. -/
theorem lookup_cons {name first : String} {value : Value}
    : ((first, value) :: rest).lookup name
      = if name = first then some value else rest.lookup name := by
  rw [List.lookup_cons]
  by_cases same : name = first
  · simp [same]
  · have differs : (name == first) = false := by simpa using same
    simp [differs, same]

theorem readU32_toNat (value : UInt32) : readU32 (.number (value.toNat : Int)) = some value := by
  have hs := value.toNat_lt
  have bounds : (0 : Int) ≤ value.toNat ∧ (value.toNat : Int) < 2 ^ 32 := by omega
  rw [readU32, if_pos bounds]
  simp

theorem membersOf_object {fields : List (String × Value)} (names : List String)
    (hn : fields.map Prod.fst = names) (strict : names.Nodup ∧ ∀ name ∈ names, name ∈ known)
    : membersOf known (.object fields) = some fields := by
  rw [membersOf, if_pos (hn ▸ strict)]

theorem readItems_map {Item : Type} {read : Value → Option Item} {write : Item → Value}
    (undone : ∀ item, read (write item) = some item) (items : List Item)
    : readItems read (items.map write) = some items := by
  induction items with
  | nil => rfl
  | cons item rest ih => simp [readItems, undone, ih]

theorem CapabilityId.fromStr_asStr (id : CapabilityId) : fromStr id.asStr = some id := by
  cases id <;> rfl

theorem FeatureSetId.fromStr_asStr (id : FeatureSetId) : fromStr id.asStr = some id := by
  cases id
  rfl

theorem QuotaId.fromStr_asStr (id : QuotaId) : fromStr id.asStr = some id := by
  cases id <;> rfl

end LicenseCore

-- What is written is read back

namespace LicenseProtocol

open LicenseCore (membersOf readMember readString readU32 readArray readItems_map readU32_toNat
  tagOf lookup_cons membersOf_object CapabilityId QuotaId FeatureSetId Source Binding Expiry
  Validity Crates Claims)

attribute [local simp] lookup_cons readMember membersOf readString tagOf

theorem limited_read {value : UInt32} (read : readU32 written = some value)
    : LicenseCore.QuotaLimit.ofValue
        (.object [("mode", .string "limited"), ("value", written)]) = some (.limited value) := by
  simp [LicenseCore.QuotaLimit.ofValue, read]

theorem unlimited_read
    : LicenseCore.QuotaLimit.ofValue (.object [("mode", .string "unlimited")])
      = some .unlimited := by
  simp [LicenseCore.QuotaLimit.ofValue]

theorem limit_read (limit : LicenseCore.QuotaLimit)
    : LicenseCore.QuotaLimit.ofValue (QuotaLimit.ofLimit limit).toValue = some limit := by
  cases limit with
  | limited value => exact limited_read (readU32_toNat value)
  | unlimited => exact unlimited_read

theorem grant_read (grant : LicenseCore.QuotaGrant)
    : LicenseCore.QuotaGrant.ofValue (QuotaGrant.ofGrant grant).toValue = some grant := by
  simp [LicenseCore.QuotaGrant.ofValue, QuotaGrant.ofGrant, QuotaGrant.toValue,
    QuotaId.fromStr_asStr, limit_read]

theorem capabilities_read (ids : List CapabilityId)
    : readArray (fun item => (readString item).bind CapabilityId.fromStr)
        (textArray (ids.map CapabilityId.asStr)) = some ids := by
  rw [textArray, List.map_map, readArray]
  exact readItems_map (fun id => CapabilityId.fromStr_asStr id) ids

theorem featureSets_read (ids : List FeatureSetId)
    : readArray (fun item => (readString item).bind FeatureSetId.fromStr)
        (textArray (ids.map FeatureSetId.asStr)) = some ids := by
  rw [textArray, List.map_map, readArray]
  exact readItems_map (fun id => FeatureSetId.fromStr_asStr id) ids

theorem grants_read (grants : List LicenseCore.QuotaGrant)
    : readArray LicenseCore.QuotaGrant.ofValue
        (.array ((grants.map QuotaGrant.ofGrant).map QuotaGrant.toValue)) = some grants := by
  rw [List.map_map, readArray]
  exact readItems_map grant_read grants

theorem entitlements_read (entitlements : LicenseCore.Entitlements)
    : LicenseCore.Entitlements.ofValue (Entitlements.ofEntitlements entitlements).toValue
      = some entitlements := by
  obtain ⟨version, features, sets, quotas⟩ := entitlements
  -- The members stay opaque, so that their contents are not computed.
  have hp {number list grants : Value} (numberRead : readU32 number = some version)
      (listRead : readArray (fun item => (readString item).bind CapabilityId.fromStr)
        list = some features)
      (grantsRead : readArray LicenseCore.QuotaGrant.ofValue grants = some quotas)
      : LicenseCore.Entitlements.ofValue (.object [("catalog_version", number),
          ("features", list), ("quotas", grants)]) = some ⟨version, features, [], quotas⟩ := by
    simp [LicenseCore.Entitlements.ofValue, numberRead, listRead, grantsRead, -readString]
  have withSets {number list names grants : Value} (numberRead : readU32 number = some version)
      (listRead : readArray (fun item => (readString item).bind CapabilityId.fromStr)
        list = some features)
      (namesRead : readArray (fun item => (readString item).bind FeatureSetId.fromStr)
        names = some sets)
      (grantsRead : readArray LicenseCore.QuotaGrant.ofValue grants = some quotas)
      : LicenseCore.Entitlements.ofValue (.object [("feature_sets", names),
          ("catalog_version", number), ("features", list), ("quotas", grants)])
        = some ⟨version, features, sets, quotas⟩ := by
    simp [LicenseCore.Entitlements.ofValue, numberRead, listRead, namesRead, grantsRead,
      -readString]
  cases sets with
  | nil => exact hp (readU32_toNat version) (capabilities_read features) (grants_read quotas)
  | cons set rest =>
    exact withSets (readU32_toNat version) (capabilities_read features)
      (featureSets_read (set :: rest)) (grants_read quotas)

variable {value : String}

/-- What validation says about the texts that would otherwise be left out. -/
theorem ne_empty_of_identifier (positive : 0 < minimum) (valid : validV2Identifier value minimum)
    : value ≠ "" := by
  intro empty
  subst empty
  simp only [validV2Identifier, Bool.and_eq_true, decide_eq_true_eq] at valid
  have none : ("" : String).utf8ByteSize = 0 := rfl
  omega

variable {name : String}

theorem omitEmpty_of_ne (present : value ≠ "") : omitEmpty name value = [(name, .string value)] :=
  if_neg present

variable {source : Source} {binding : Binding}

theorem source_written (valid : source.validate = .ok ())
    : (SourceV2.ofSource source).toValue = source.toValue := by
  rw [Source.validate, validateIdentifiers_eq_ok, List.all_eq_true] at valid
  have hn : ∀ value ∈ source.identifiers.map Prod.snd, value ≠ "" :=
    fun value member => ne_empty_of_identifier (by decide) (valid value member)
  cases source <;>
    simp [Source.identifiers] at hn <;>
    simp [SourceV2.ofSource, SourceV2.toValue, Source.toValue, omitEmpty, hn]

theorem binding_written (valid : binding.validate = .ok ())
    : (BindingV2.ofBinding binding).toValue = binding.toValue := by
  cases binding with
  | unbound => rfl
  | installation installationId fingerprint sequence =>
    rw [Binding.validate, unit_bind_eq_ok, unit_bind_eq_ok] at valid
    have installation : installationId ≠ "" := ne_empty_of_identifier (by decide)
      ((validV2Identifier_iff _ _ (by decide)).mpr valid.1)
    have digest : fingerprint ≠ "" := by
      intro empty
      have pattern := (digestPattern_iff _ _).mpr valid.2.1
      rw [empty] at pattern
      exact absurd pattern (by decide)
    simp only [BindingV2.ofBinding, BindingV2.toValue, omitEmpty_of_ne installation,
      omitEmpty_of_ne digest]
    rfl

variable {crates : Crates}

theorem exactText_ne_empty (read : LicenseCore.exactTime crates name value = .ok time)
    : value ≠ "" := by
  intro empty
  subst empty
  rw [LicenseCore.exactTime, except_bind_eq_ok] at read
  obtain ⟨moment, validated, _⟩ := read
  rw [LicenseCore.validateExactTime, if_pos (.inl (by decide))] at validated
  cases validated

variable {issuedAt : String} {validity : Validity}

theorem validity_written (valid : LicenseCore.validateTimes crates issuedAt validity = .ok ())
    : ValidityV2.toValue ⟨validity.notBefore, .ofExpiry validity.expiry⟩ = validity.toValue := by
  obtain ⟨hb, expiry⟩ := validity
  cases expiry with
  | none => rfl
  | fixed expiresAt =>
    rw [LicenseCore.validateTimes, except_bind_eq_ok] at valid
    obtain ⟨_, _, valid⟩ := valid
    obtain ⟨_, _, valid⟩ := except_bind_eq_ok.mp valid
    obtain ⟨_, ends, _⟩ := except_bind_eq_ok.mp valid
    simp only [ValidityV2.toValue, ExpiryV2.ofExpiry, ExpiryV2.toValue,
      omitEmpty_of_ne (exactText_ne_empty ends)]
    rfl

theorem source_read (valid : source.validate = .ok ())
    : Source.ofValue (SourceV2.ofSource source).toValue = some source := by
  rw [source_written valid]
  cases source <;>
    simp [Source.ofValue, Source.toValue]

theorem binding_read (valid : binding.validate = .ok ())
    : Binding.ofValue (BindingV2.ofBinding binding).toValue = some binding := by
  rw [binding_written valid]
  cases binding with
  | unbound =>
    simp [Binding.ofValue, Binding.toValue]
  | installation installationId fingerprint sequence =>
    have read {written : Value} (number : readU32 written = some sequence)
        : Binding.ofValue (.object [("mode", .string "installation"),
            ("installation_id", .string installationId),
            ("machine_fingerprint_sha256", .string fingerprint),
            ("transfer_sequence", written)])
          = some (.installation installationId fingerprint sequence) := by
      simp [Binding.ofValue, number]
    exact read (readU32_toNat sequence)

theorem validity_read (valid : LicenseCore.validateTimes crates issuedAt validity = .ok ())
    : Validity.ofValue
        (ValidityV2.toValue ⟨validity.notBefore, .ofExpiry validity.expiry⟩) = some validity := by
  rw [validity_written valid]
  obtain ⟨hb, expiry⟩ := validity
  cases expiry <;>
    simp [Validity.ofValue, Validity.toValue, Expiry.ofValue, Expiry.toValue]

variable {claims : Claims}

/-- The parts of valid claims that the transport depends on. -/
theorem validate_parts (valid : claims.validate crates = .ok ())
    : claims.source.validate = .ok () ∧ claims.binding.validate = .ok ()
      ∧ claims.entitlements.validate = .ok ()
      ∧ LicenseCore.validateTimes crates claims.issuedAt claims.validity = .ok () := by
  rw [Claims.validate] at valid
  simp only [unit_bind_eq_ok, mapError_eq_ok] at valid
  obtain ⟨_, _, _, _, _, _, entitlements, _, source, _, binding, times⟩ := valid
  exact ⟨source, binding, entitlements, times⟩

theorem some_bind {First Second : Type} (first : First) (rest : First → Option Second)
    : (some first >>= rest) = rest first := rfl

section

variable {fields : List (String × Value)} {name : String}

theorem readMember_of_lookup {Item : Type} {read : Value → Option Item} {value : Value}
    (hf : fields.lookup name = some value)
    : readMember fields name read = read value := by
  rw [readMember, hf, Option.bind_some]

theorem string_member {text : String} (hf : fields.lookup name = some (.string text))
    : readMember fields name readString = some text :=
  readMember_of_lookup hf

theorem number_member {value : UInt32} (hf : fields.lookup name = some (.number value.toNat))
    : readMember fields name readU32 = some value :=
  (readMember_of_lookup hf).trans (readU32_toNat value)

theorem member_read {Item : Type} {read : Value → Option Item} {value : Value} {item : Item}
    (hf : fields.lookup name = some value) (hr : read value = some item)
    : readMember fields name read = some item :=
  (readMember_of_lookup hf).trans hr

end

theorem claimNames_strict
    : LicenseCore.claimNames.Nodup
      ∧ ∀ name ∈ LicenseCore.claimNames, name ∈ LicenseCore.claimNames :=
  ⟨by simp [LicenseCore.claimNames], fun _ => id⟩

theorem claims_read (valid : claims.validate crates = .ok ())
    : Claims.ofValue (ClaimsV2.ofClaims claims).toValue = some claims := by
  obtain ⟨hs, bindingValid, _, ht⟩ := validate_parts valid
  rw [ClaimsV2.toValue, Claims.ofValue,
    membersOf_object LicenseCore.claimNames rfl claimNames_strict]
  -- The members in the order in which they are read.
  rw [some_bind, string_member rfl, some_bind, string_member rfl, some_bind, string_member rfl,
    some_bind, string_member rfl, some_bind, string_member rfl, some_bind, string_member rfl,
    some_bind, string_member rfl, some_bind, number_member rfl, some_bind,
    member_read rfl (source_read hs), some_bind,
    member_read rfl (entitlements_read claims.entitlements), some_bind, number_member rfl,
    some_bind, member_read rfl (binding_read bindingValid), some_bind,
    member_read rfl (validity_read ht), some_bind, string_member rfl, some_bind,
    string_member rfl, some_bind]
  rfl

end LicenseProtocol

end AsterTeam
