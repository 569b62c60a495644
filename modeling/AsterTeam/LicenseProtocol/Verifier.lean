import AsterTeam.LicenseProtocol.Claims
import AsterTeam.Library.TextFormats

/-! The verifier's checks of v2 claims: the fields and their combination, the entitlements,
and the issuer policy of the signing key. The version and time readers of the two crates are
parameters.
-/

namespace AsterTeam

def check {Failure : Type} (condition : Bool) (failure : Failure) : Except Failure Unit :=
  if condition then .ok () else .error failure

variable {Failure : Type} {condition : Bool}

theorem check_ok_iff {failure : Failure} : check condition failure = .ok () ↔ condition := by
  unfold check
  split <;> simp_all

variable {Result : Type}

theorem check_bind_eq_ok {failure : Failure} {rest : Unit → Except Failure Result} {result : Result}
    : (check condition failure >>= rest) = .ok result ↔ condition ∧ rest () = .ok result := by
  unfold check
  split <;> simp_all [bind, Except.bind]

theorem unit_bind_eq_ok {rest : Unit → Except Failure Result}
    : (first >>= rest) = .ok result ↔ first = .ok () ∧ rest () = .ok result := by
  cases first with
  | error failure => simp [bind, Except.bind]
  | ok value => simp [bind, Except.bind]

theorem except_bind_eq_ok {First : Type} {first : Except Failure First}
    {rest : First → Except Failure Result} {result : Result}
    : (first >>= rest) = .ok result ↔ ∃ value, first = .ok value ∧ rest value = .ok result := by
  cases first with
  | error failure => simp [bind, Except.bind]
  | ok value => simp [bind, Except.bind]

theorem mapError_eq_ok {Other : Type} {convert : Failure → Other} {first : Except Failure Result}
    : first.mapError convert = .ok result ↔ first = .ok result := by
  cases first <;> simp [Except.mapError]

namespace LicenseCore

open Json TextFormats

structure Crates where
  parsesVersion : String → Bool
  parseRfc3339 : String → Option Moment

/-- The semver crate accepts the versions of the grammar whose three numbers fit its
64-bit fields.
-/
def ReadsVersions (parsesVersion : String → Bool) : Prop :=
  ∀ text, parsesVersion text = true
    ↔ ∃ version : SemanticVersion, text = version.text
      ∧ version.major < 2 ^ 64 ∧ version.minor < 2 ^ 64 ∧ version.patch < 2 ^ 64

inductive EntitlementError
  | catalogVersion
  | duplicateCapability
  | missingDependency
  | incompleteQuotas
  | issuerScope
  deriving DecidableEq

inductive Error
  | license (error : LicenseError)
  | entitlements (error : EntitlementError)
  | issuerPolicy
  | issuerScope
  | sourcePolicy
  deriving DecidableEq

-- Entitlements

namespace Entitlements

/-- The granted capabilities and those of the granted sets, in catalog order. -/
def effectiveFeatures (entitlements : Entitlements) : List CapabilityId :=
  (capabilities.filter (fun entry =>
    entitlements.features.contains entry.id
      || entitlements.featureSets.contains entry.featureSet)).map CapabilityDescriptor.id

def quota (entitlements : Entitlements) (id : QuotaId) : Option QuotaLimit :=
  (entitlements.quotas.find? (fun grant => grant.id == id)).map QuotaGrant.limit

/-- The size of a set built from a list is compared with the length of the list. -/
def validate (entitlements : Entitlements) : Except EntitlementError Unit := do
  check (entitlements.catalogVersion == LicenseCore.catalogVersion) .catalogVersion
  check (entitlements.features.dedup.length == entitlements.features.length) .duplicateCapability
  check (entitlements.featureSets.dedup.length == entitlements.featureSets.length)
    .duplicateCapability
  let features := entitlements.effectiveFeatures
  check (capabilities.all (fun entry =>
    !(features.contains entry.id
      && entry.requires.any (fun required => !features.contains required))))
    .missingDependency
  let quotas := (entitlements.quotas.map QuotaGrant.id).dedup
  check (quotas.length == QuotaId.all.length && quotas.length == entitlements.quotas.length
    && QuotaId.all.all (fun id => quotas.contains id)) .incompleteQuotas

end Entitlements

/-- A finite ceiling is not exceeded by an unlimited grant. -/
def QuotaLimit.isWithin : QuotaLimit → QuotaLimit → Bool
  | _, .unlimited => true
  | .unlimited, .limited _ => false
  | .limited value, .limited maximum => decide (value ≤ maximum)

def Entitlements.ensureWithin (entitlements ceiling : Entitlements)
    : Except EntitlementError Unit := do
  entitlements.validate
  ceiling.validate
  check (entitlements.features.all (fun id => ceiling.effectiveFeatures.contains id)
    && entitlements.featureSets.all (fun id => ceiling.featureSets.contains id)
    && entitlements.quotas.all (fun grant =>
      (ceiling.quota grant.id).any (fun limit => grant.limit.isWithin limit))) .issuerScope

-- Fields

def identifierChar (char : Char) : Bool :=
  char.isAlphanum || ['.', '_', ':', '@', '+', '/', '-'].contains char

variable (crates : Crates) (name value : String)

/-- Sizes are in bytes. No byte of a character outside ASCII is in the class, so the class is
tested on characters.
-/
def validateIdentifier (minimum maximum : Nat) : Except LicenseError Unit :=
  check (decide (minimum ≤ value.utf8ByteSize) && decide (value.utf8ByteSize ≤ maximum)
    && value.toList.all identifierChar) (.invalidField name)

def validateDigest : Except LicenseError Unit :=
  check (value.utf8ByteSize == 43
    && value.toList.all (fun char => char.isAlphanum || ['_', '-'].contains char))
    (.invalidField name)

def validateExactTime : Except LicenseError Moment :=
  -- A text with characters beyond ASCII has no exact form and is refused below in any case.
  if value.utf8ByteSize ≠ 24 ∨ value.toList[19]? ≠ some '.'
      ∨ value.toList.getLast? ≠ some 'Z' then
    .error (.invalidField name)
  else
    match crates.parseRfc3339 value with
    | none => .error (.invalidField name)
    | some parsed => if parsed.utc then .ok parsed else .error (.invalidField name)

def exactTime : Except LicenseError CivilTime := do
  let parsed ← validateExactTime crates name value
  if parsed.civil.exactText ≠ value then .error (.invalidField name) else .ok parsed.civil

def Source.kind : Source → SourceKind
  | .freeDistribution _ => .freeDistribution
  | .commercialOrder _ _ _ => .commercialOrder
  | .approvedTrial _ _ _ => .approvedTrial

def Binding.kind : Binding → BindingKind
  | .unbound => .unbound
  | .installation _ _ _ => .installation

def Expiry.kind : Expiry → ExpiryKind
  | .fixed _ => .fixed
  | .none => .none

def Source.identifiers : Source → List (String × String)
  | .freeDistribution distributionId => [("distribution_id", distributionId)]
  | .commercialOrder orderId customerRef requestId =>
    [("order_id", orderId), ("customer_ref", customerRef), ("request_id", requestId)]
  | .approvedTrial trialId customerRef requestId =>
    [("trial_id", trialId), ("customer_ref", customerRef), ("request_id", requestId)]

def validateIdentifiers : List (String × String) → Except LicenseError Unit
  | [] => .ok ()
  | (name, value) :: rest => do
      validateIdentifier name value 1 128
      validateIdentifiers rest

def Source.validate (source : Source) : Except LicenseError Unit :=
  validateIdentifiers source.identifiers

/-- Free distribution is unbound; orders and trials are bound and end. -/
def sourcePolicyHolds : Source → Binding → Expiry → Bool
  | .freeDistribution _, .unbound, _ => true
  | .commercialOrder _ _ _, .installation _ _ _, .fixed _ => true
  | .approvedTrial _ _ _, .installation _ _ _, .fixed _ => true
  | _, _, _ => false

def Binding.validate : Binding → Except LicenseError Unit
  | .unbound => .ok ()
  | .installation installationId machineFingerprintSha256 transferSequence => do
      validateIdentifier "installation_id" installationId 8 128
      validateDigest "machine_fingerprint_sha256" machineFingerprintSha256
      check (decide (transferSequence ≤ 10000)) (.invalidField "transfer_sequence")

def validateTimes (issuedAt : String) (validity : Validity) : Except LicenseError Unit := do
  let issued ← exactTime crates "issued_at" issuedAt
  let begins ← exactTime crates "not_before" validity.notBefore
  match validity.expiry with
  | .fixed expiresAt => do
      let ends ← exactTime crates "expires_at" expiresAt
      check (begins.before ends && issued.before ends) .invalidTimeRange
  | .none => .ok ()

def schemaName : String := "aster.license.v2"
def productName : String := "aster-team"
def quotaPolicyVersion : UInt32 := 1

def Claims.validate (crates : Crates) (claims : Claims) : Except Error Unit := do
  check (claims.schema == schemaName) (.license (.invalidField "schema"))
  check (claims.product == productName) (.license (.invalidField "product"))
  (validateIdentifiers [("key_id", claims.keyId), ("license_id", claims.licenseId),
    ("serial", claims.serial), ("edition", claims.edition), ("plan_id", claims.planId)]).mapError
    .license
  check (claims.planVersion != 0) (.license (.invalidField "plan_version"))
  check (claims.quotaPolicyVersion == LicenseCore.quotaPolicyVersion)
    (.license (.invalidField "quota_policy_version"))
  check (decide (claims.minimumVersion.utf8ByteSize ≤ 64)
    && crates.parsesVersion claims.minimumVersion) (.license (.invalidField "minimum_version"))
  claims.entitlements.validate.mapError .entitlements
  check (claims.entitlements.featureSets.isEmpty || claims.source.kind == .commercialOrder)
    .issuerPolicy
  claims.source.validate.mapError .license
  check (sourcePolicyHolds claims.source claims.binding claims.validity.expiry) .sourcePolicy
  claims.binding.validate.mapError .license
  (validateTimes crates claims.issuedAt claims.validity).mapError .license

-- Issuer policies

structure IssuerPolicy where
  sources : List SourceKind
  bindings : List BindingKind
  expiries : List ExpiryKind
  entitlementCeiling : Entitlements

def nonemptyUnique {Kind : Type} [DecidableEq Kind] (items : List Kind) : Bool :=
  !items.isEmpty && decide items.Nodup

def IssuerPolicy.validate (policy : IssuerPolicy) : Except Error Unit := do
  check (nonemptyUnique policy.sources && nonemptyUnique policy.bindings
    && nonemptyUnique policy.expiries
    && !(policy.sources.contains .freeDistribution && policy.sources.length != 1)) .issuerPolicy
  policy.entitlementCeiling.validate.mapError .entitlements
  check (policy.entitlementCeiling.featureSets.isEmpty
    || policy.sources == [.commercialOrder]) .issuerPolicy

def IssuerPolicy.authorize (policy : IssuerPolicy) (claims : Claims) : Except Error Unit := do
  policy.validate
  claims.validate crates
  check (policy.sources.contains claims.source.kind
    && policy.bindings.contains claims.binding.kind
    && policy.expiries.contains claims.validity.expiry.kind) .issuerScope
  (claims.entitlements.ensureWithin policy.entitlementCeiling).mapError .entitlements

end LicenseCore

end AsterTeam
