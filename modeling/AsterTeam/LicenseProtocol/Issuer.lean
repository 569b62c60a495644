import AsterTeam.LicenseProtocol.Verifier

/-! The issuer's v2 claims and their checks.
The issuer keeps kinds, modes and catalog identifiers as texts and optional parts as empty
fields, so its checks also establish what the verifier has by its types.
-/

namespace AsterTeam.LicenseProtocol

open TextFormats

structure Libraries where
  semanticVersionPattern : String → Bool
  parseTime : String → Option Moment

def MatchesVersions (pattern : String → Bool) : Prop :=
  ∀ text, pattern text = true ↔ ∃ version : SemanticVersion, text = version.text

-- Entitlements

structure Capability where
  (id featureSet : String)
  requires : List String

def capabilities : List Capability :=
  [⟨"gateway", "standard", []⟩, ⟨"member", "standard", []⟩, ⟨"runner", "standard", []⟩]

def quotaIds : List String :=
  ["member_seats", "runners", "upstream_accounts", "api_keys_per_member"]

def featureSets : List String := ["standard"]

def catalogVersion : UInt32 := 1

structure QuotaLimit where
  mode : String
  value : Option UInt32
  deriving DecidableEq

structure QuotaGrant where
  id : String
  limit : QuotaLimit
  deriving DecidableEq

/-- A list of features that was never set is `none`. -/
structure Entitlements where
  featureSets : List String
  catalogVersion : UInt32
  features : Option (List String)
  quotas : List QuotaGrant
  deriving DecidableEq

def QuotaLimit.validate (limit : QuotaLimit) : Except String Unit :=
  check (limit.mode == "limited" && limit.value.isSome
    || limit.mode == "unlimited" && limit.value.isNone) "invalid quota limit"

def QuotaLimit.isWithin (limit ceiling : QuotaLimit) : Bool :=
  if limit.validate ≠ .ok () ∨ ceiling.validate ≠ .ok () then false
  else ceiling.mode == "unlimited"
    || limit.mode == "limited" && decide (limit.value.getD 0 ≤ ceiling.value.getD 0)

/-- The first text that is not supported or has been seen before. -/
def firstRejected (supported : List String) : List String → List String → Option String
  | [], _ => none
  | id :: rest, seen =>
    if !supported.contains id || seen.contains id then some id
    else firstRejected supported rest (id :: seen)

/-- Grants are checked one by one: the identifier first, then the limit. -/
def validateQuotas : List QuotaGrant → List String → Except String Nat
  | [], seen => .ok seen.length
  | grant :: rest, seen => do
      check (quotaIds.contains grant.id && !seen.contains grant.id)
        ("unknown or duplicate quota " ++ grant.id.quote)
      grant.limit.validate
      validateQuotas rest (grant.id :: seen)

namespace Entitlements

variable (entitlements : Entitlements)

def effectiveFeatures : List String :=
  (capabilities.filter (fun entry =>
    (entitlements.features.getD []).contains entry.id
      || entitlements.featureSets.contains entry.featureSet)).map Capability.id

def validate : Except String Unit := do
  check (entitlements.catalogVersion == LicenseProtocol.catalogVersion)
    "unsupported capability catalog version"
  check entitlements.features.isSome "features must be explicitly declared"
  let rejected := firstRejected (capabilities.map Capability.id) (entitlements.features.getD []) []
  check rejected.isNone ("unknown or duplicate capability " ++ (rejected.getD "").quote)
  check (firstRejected LicenseProtocol.featureSets entitlements.featureSets []).isNone
    "unknown or duplicate feature set"
  let features := entitlements.features.getD [] ++ entitlements.effectiveFeatures
  let missing := capabilities.findSome? (fun entry =>
    if features.contains entry.id then
      entry.requires.find? (fun dependency => !features.contains dependency)
    else none)
  check missing.isNone ("missing capability dependency " ++ (missing.getD "").quote)
  let declared ← validateQuotas entitlements.quotas []
  check (declared == quotaIds.length) "every quota must be explicitly declared exactly once"

def quota (id : String) : Option QuotaLimit :=
  (entitlements.quotas.find? (fun grant => grant.id == id)).map QuotaGrant.limit

def ensureWithin (ceiling : Entitlements) : Except String Unit := do
  entitlements.validate
  ceiling.validate
  check (entitlements.featureSets.all (fun id => ceiling.featureSets.contains id))
    "feature set exceeds issuer scope"
  check ((entitlements.features.getD []).all (fun id => ceiling.effectiveFeatures.contains id))
    "capability exceeds issuer scope"
  check (entitlements.quotas.all (fun grant =>
    (ceiling.quota grant.id).any (fun maximum => grant.limit.isWithin maximum)))
    "quota exceeds issuer scope"

end Entitlements

-- Claims

structure SourceV2 where
  (kind distributionId orderId trialId customerRef requestId : String)
  deriving DecidableEq

structure BindingV2 where
  (mode installationId machineFingerprintSHA256 : String)
  transferSequence : Option UInt32
  deriving DecidableEq

structure ExpiryV2 where
  (mode expiresAt : String)
  deriving DecidableEq

structure ValidityV2 where
  notBefore : String
  expiry : ExpiryV2
  deriving DecidableEq

structure ClaimsV2 where
  (schema keyId licenseId serial product edition planId : String)
  planVersion : UInt32
  source : SourceV2
  entitlements : Entitlements
  quotaPolicyVersion : UInt32
  binding : BindingV2
  validity : ValidityV2
  (issuedAt minimumVersion : String)
  deriving DecidableEq

def identifierClass (char : Char) : Bool :=
  char.isAlphanum || ['.', '_', ':', '@', '+', '/', '-'].contains char

variable (libraries : Libraries) (value : String)

def identifierPattern : Bool :=
  !value.toList.isEmpty && value.toList.all identifierClass

def digestPattern : Bool :=
  value.toList.length == 43
    && value.toList.all (fun char => char.isAlphanum || ['_', '-'].contains char)

def validV2Identifier (minimum : Nat) : Bool :=
  decide (minimum ≤ value.utf8ByteSize) && decide (value.utf8ByteSize ≤ 128)
    && identifierPattern value

/-- An unsigned decimal number of 64 bits. -/
def parseUint (digits : List Char) : Option Nat :=
  if digits ≠ [] ∧ digits.all Char.isDigit = true ∧ Nat.ofDigitChars 10 digits 0 < 2 ^ 64 then
    some (Nat.ofDigitChars 10 digits 0)
  else none

def validMinimumVersionV2 : Bool :=
  if decide (value.utf8ByteSize ≤ 64) && libraries.semanticVersionPattern value then
    let core := (value.toList.takeWhile (fun char => char != '+')).takeWhile
      (fun char => char != '-')
    (core.splitOnP (fun char => char == '.')).all (fun part => (parseUint part).isSome)
  else false

def SourceV2.validate (source : SourceV2) : Except String Unit :=
  let identifiers (values : List String) : Except String Unit :=
    check (values.all (fun value => validV2Identifier value 1)) "invalid license source identifier"
  if source.kind = "free_distribution" then do
    check (source.orderId == "" && source.trialId == "" && source.customerRef == ""
      && source.requestId == "") "invalid free source fields"
    identifiers [source.distributionId]
  else if source.kind = "commercial_order" then do
    check (source.distributionId == "" && source.trialId == "") "invalid order source fields"
    identifiers [source.orderId, source.customerRef, source.requestId]
  else if source.kind = "approved_trial" then do
    check (source.distributionId == "" && source.orderId == "") "invalid trial source fields"
    identifiers [source.trialId, source.customerRef, source.requestId]
  else .error "unknown license source"

def BindingV2.validate (binding : BindingV2) : Except String Unit :=
  if binding.mode = "unbound" then
    check (binding.installationId == "" && binding.machineFingerprintSHA256 == ""
      && binding.transferSequence.isNone) "unbound license contains installation fields"
  else if binding.mode = "installation" then
    check (validV2Identifier binding.installationId 8
      && digestPattern binding.machineFingerprintSHA256
      && binding.transferSequence.any (fun sequence => decide (sequence ≤ 10000)))
      "invalid installation binding"
  else .error "unknown binding mode"

def exactTime : Option CivilTime :=
  match libraries.parseTime value with
  | none => none
  | some parsed => if parsed.civil.exactText = value then some parsed.civil else none

def validateTimes (issuedAt : String) (validity : ValidityV2) : Except String Unit :=
  match exactTime libraries issuedAt, exactTime libraries validity.notBefore with
  | some issued, some begins =>
    if validity.expiry.mode = "fixed" then
      match exactTime libraries validity.expiry.expiresAt with
      | some ends => check (begins.before ends && issued.before ends) "invalid expiry"
      | none => .error "invalid expiry"
    else if validity.expiry.mode = "none" then
      check (validity.expiry.expiresAt == "") "non-expiring policy cannot include an expiry date"
    else .error "unknown expiry mode"
  | _, _ => .error "invalid license time range"

/-- Free distribution is unbound; everything else is bound and ends. -/
def validateSourcePolicy (source : SourceV2) (binding : BindingV2) (expiry : ExpiryV2)
    : Except String Unit :=
  if source.kind = "free_distribution" then
    check (binding.mode == "unbound") "free distribution must use unbound policy"
  else
    check (binding.mode == "installation" && expiry.mode == "fixed")
      "commercial and trial licenses must be bound and time-limited"

def schemaV2 : String := "aster.license.v2"
def quotaPolicyVersionV2 : UInt32 := 1

def ClaimsV2.validate (libraries : Libraries) (claims : ClaimsV2) : Except String Unit := do
  check (claims.schema == schemaV2 && claims.product == "aster-team") "invalid v2 license identity"
  check ([claims.keyId, claims.licenseId, claims.serial, claims.edition, claims.planId].all
    (fun id => validV2Identifier id 1)) "invalid license identifier"
  check (claims.planVersion != 0 && claims.quotaPolicyVersion == quotaPolicyVersionV2)
    "invalid license policy or plan version"
  check (validMinimumVersionV2 libraries claims.minimumVersion) "invalid minimum version"
  claims.source.validate
  claims.binding.validate
  claims.entitlements.validate
  check (claims.entitlements.featureSets.isEmpty || claims.source.kind == "commercial_order")
    "feature sets require commercial subscription"
  validateSourcePolicy claims.source claims.binding claims.validity.expiry
  validateTimes libraries claims.issuedAt claims.validity

-- Issuer policies

structure IssuerPolicyV2 where
  (sources bindings expiries : List String)
  entitlementCeiling : Entitlements
  deriving DecidableEq

def validScopeV2 (items supported : List String) : Bool :=
  !items.isEmpty && (firstRejected supported items []).isNone

def IssuerPolicyV2.validate (policy : IssuerPolicyV2) : Except String Unit := do
  check (validScopeV2 policy.sources ["free_distribution", "commercial_order", "approved_trial"]
    && validScopeV2 policy.bindings ["unbound", "installation"]
    && validScopeV2 policy.expiries ["fixed", "none"])
    "issuer policy must explicitly declare its scope"
  check (!(policy.sources.contains "free_distribution" && policy.sources.length != 1))
    "free distribution signing keys must be separate from commercial and trial signing keys"
  check (policy.entitlementCeiling.featureSets.isEmpty
    || policy.sources == ["commercial_order"]) "feature set issuer must be commercial only"
  policy.entitlementCeiling.validate

def IssuerPolicyV2.authorize (policy : IssuerPolicyV2) (claims : ClaimsV2)
    : Except String Unit := do
  policy.validate
  claims.validate libraries
  check (policy.sources.contains claims.source.kind
    && policy.bindings.contains claims.binding.mode
    && policy.expiries.contains claims.validity.expiry.mode) "license exceeds issuer policy"
  claims.entitlements.ensureWithin policy.entitlementCeiling

end AsterTeam.LicenseProtocol
