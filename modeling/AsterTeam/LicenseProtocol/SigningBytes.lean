import AsterTeam.LicenseProtocol.Transport

/-! The issuer and the verifier sign and check the same text.
The issuer's string encoder escapes five more characters than the verifier's. No text of
accepted claims has one of them, because every such text is made of identifier characters.
-/

namespace AsterTeam

open List (all_eq_true map_map nil_append cons_append)
open Json TextFormats

-- The issuer's canonical text

namespace LicenseProtocol

/-- The issuer's encoder also escapes the characters that HTML and JavaScript treat
specially.
-/
def escapeHtmlChar (char : Char) : List Char :=
  if char = '<' then ['\\', 'u', '0', '0', '3', 'c']
  else if char = '>' then ['\\', 'u', '0', '0', '3', 'e']
  else if char = '&' then ['\\', 'u', '0', '0', '2', '6']
  else if char = Char.ofNat 0x2028 then ['\\', 'u', '2', '0', '2', '8']
  else if char = Char.ofNat 0x2029 then ['\\', 'u', '2', '0', '2', '9']
  else escapeChar char

def marshalString (text : String) : List Char :=
  '"' :: (text.toList.flatMap escapeHtmlChar ++ ['"'])

def appendNumber (value : Int) : Except String (List Char) :=
  if -2 ^ 63 ≤ value ∧ value < 2 ^ 63 then .ok (decimal value)
  else .error "canonical numbers must be signed 64-bit integers"

def appendCanonical : Value → Except String (List Char) :=
  appendWith marshalString appendNumber

def canonicalize (value : Value) : Except String String := do
  let output ← appendCanonical value
  return String.ofList output

/-- The JSON encoder of the issuer, its decoder, and the decoder of the verifier. -/
structure JsonText where
  marshal : Value → String
  (decode fromSlice : String → Option Value)

/-- The claims are written, read back as a plain JSON value, and canonicalized. -/
def canonicalClaimsV2 (json : JsonText) (claims : ClaimsV2) : Except String String :=
  match json.decode (json.marshal claims.toValue) with
  | none => .error "invalid character"
  | some raw => canonicalize raw

end LicenseProtocol

-- Texts of identifier characters

namespace LicenseCore

def IdentifierText (text : String) : Prop := text.toList.all identifierChar = true

def U32 (value : Int) : Prop := 0 ≤ value ∧ value < 2 ^ 32

theorem u32_toNat (value : UInt32) : U32 (value.toNat : Int) := by
  have hs := value.toNat_lt
  unfold U32
  omega

def ShortText (text : String) : Prop := IdentifierText text ∧ text.utf8ByteSize ≤ 128

instance (text : String) : Decidable (ShortText text) :=
  inferInstanceAs (Decidable (text.toList.all identifierChar = true ∧ text.utf8ByteSize ≤ 128))

end LicenseCore

namespace LicenseProtocol

open LicenseCore (IdentifierText ShortText U32 u32_toNat identifierChar CapabilityId FeatureSetId
  Source Binding Expiry Validity Crates Claims)

theorem escapeHtmlChar_of_identifierChar (hp : identifierChar char)
    : escapeHtmlChar char = escapeChar char := by
  have free {other : Char} (outside : identifierChar other = false) : char ≠ other := by
    intro same
    rw [same, outside] at hp
    cases hp
  unfold escapeHtmlChar
  rw [if_neg (free (by decide)), if_neg (free (by decide)), if_neg (free (by decide)),
    if_neg (free (by decide)), if_neg (free (by decide))]

variable {text : String}

theorem marshalString_of_identifierText (hp : IdentifierText text)
    : marshalString text = quote text := by
  have same : text.toList.flatMap escapeHtmlChar = text.toList.flatMap escapeChar := by
    apply List.flatMap_congr
    intro char hm
    exact escapeHtmlChar_of_identifierChar (List.all_eq_true.mp hp char hm)
  rw [marshalString, same, quote]

/-- On values of identifier texts and 32-bit numbers the issuer writes the standard text. -/
theorem canonicalize_of_identifierText {value : Value} (hp : value.All IdentifierText U32)
    : canonicalize value = .ok (value.sorted Utf16.encode).text := by
  have walk : Plain marshalString appendNumber value := by
    refine hp.mono (fun _ => marshalString_of_identifierText) ?_
    intro number hs
    obtain ⟨low, high⟩ := hs
    exact if_pos ⟨by omega, by omega⟩
  rw [canonicalize, appendCanonical, appendWith_of_plain value walk]
  rfl

variable {value : String} {minimum : Nat}

theorem shortText_of_valid (valid : validV2Identifier value minimum) : ShortText value := by
  simp only [validV2Identifier, identifierPattern, Bool.and_eq_true, decide_eq_true_eq] at valid
  exact ⟨valid.2.2, valid.1.2⟩

theorem shortText_of_digest (valid : LicenseCore.validateDigest name value = .ok ())
    : ShortText value := by
  rw [LicenseCore.validateDigest, check_ok_iff, Bool.and_eq_true, beq_iff_eq] at valid
  refine ⟨List.all_eq_true.mpr ?_, by omega⟩
  intro char hm
  have kind := List.all_eq_true.mp valid.2 char hm
  simp only [Bool.or_eq_true, List.contains_eq_mem, decide_eq_true_eq, List.mem_cons,
    List.not_mem_nil, or_false] at kind
  rcases kind with letter | rfl | rfl
  · simp [identifierChar, letter]
  · decide
  · decide

theorem identifierText_of_version (version : SemanticVersion) : IdentifierText version.text := by
  refine List.all_eq_true.mpr ?_
  intro char hm
  rw [SemanticVersion.text, String.toList_ofList] at hm
  rcases SemanticVersion.chars_cases hm with letter | rfl | rfl | rfl
  · simp [identifierChar, letter]
  · decide
  · decide
  · decide

theorem identifierText_of_time {time : CivilTime} (exact : time.Exact)
    : IdentifierText time.exactText := by
  refine List.all_eq_true.mpr ?_
  intro char hm
  rw [CivilTime.exactText, String.toList_ofList] at hm
  rcases (CivilTime.exactChars_shape exact).2.2.2 char hm with digit | mark
  · simp [identifierChar, Char.isAlphanum, digit]
  · simp only [List.mem_cons, List.not_mem_nil, or_false] at mark
    rcases mark with rfl | rfl | rfl | rfl | rfl <;> decide

-- The values are walked once: their texts are short and their numbers have 32 bits.

theorem plain_limit (limit : LicenseCore.QuotaLimit)
    : (QuotaLimit.ofLimit limit).toValue.All ShortText U32 := by
  cases limit with
  | limited value =>
    simp +decide [QuotaLimit.ofLimit, QuotaLimit.toValue, omitAbsent, Value.All, AllFields,
      u32_toNat value]
  | unlimited =>
    simp +decide [QuotaLimit.ofLimit, QuotaLimit.toValue, omitAbsent, Value.All, AllFields]

theorem plain_texts {Id : Type} {text : Id → String} (texts : ∀ id, ShortText (text id))
    (ids : List Id)
    : (textArray (ids.map text)).All ShortText U32 := by
  refine LicenseCore.allItems_iff.mpr ?_
  simp [Value.All, texts]

theorem plain_grants (grants : List LicenseCore.QuotaGrant)
    : (Value.array ((grants.map QuotaGrant.ofGrant).map QuotaGrant.toValue)).All ShortText U32 := by
  refine LicenseCore.allItems_iff.mpr ?_
  rw [map_map, List.forall_mem_map]
  intro grant _
  have name : ShortText grant.id.asStr := by cases grant.id <;> decide
  exact ⟨by decide, name, by decide, plain_limit grant.limit, trivial⟩

theorem plain_entitlements (entitlements : LicenseCore.Entitlements)
    : (Entitlements.ofEntitlements entitlements).toValue.All ShortText U32 := by
  have version : (Value.number entitlements.catalogVersion.toNat).All ShortText U32 :=
    u32_toNat _
  have features := @plain_texts _ CapabilityId.asStr
    (fun id => by cases id <;> decide) entitlements.features
  have sets := @plain_texts _ FeatureSetId.asStr
    (fun id => by cases id; decide) entitlements.featureSets
  have quotas := plain_grants entitlements.quotas
  unfold Entitlements.toValue Entitlements.ofEntitlements
  split
  · exact ⟨by decide, version, by decide, features, by decide, quotas, trivial⟩
  · exact ⟨by decide, sets, by decide, version, by decide, features, by decide, quotas, trivial⟩

variable {source : Source}

theorem plain_source (valid : source.validate = .ok ()) : source.toValue.All ShortText U32 := by
  rw [Source.validate, validateIdentifiers_eq_ok, all_eq_true] at valid
  have texts : ∀ value ∈ source.identifiers.map Prod.snd, ShortText value :=
    fun value hm => shortText_of_valid (valid value hm)
  cases source <;> simp [Source.identifiers] at texts <;>
    simp +decide [Source.toValue, Value.All, AllFields, texts]

variable {binding : Binding}

theorem plain_binding (valid : binding.validate = .ok ()) : binding.toValue.All ShortText U32 := by
  cases binding with
  | unbound => simp +decide [Binding.toValue, Value.All, AllFields]
  | installation installationId fingerprint sequence =>
    rw [Binding.validate, unit_bind_eq_ok, unit_bind_eq_ok] at valid
    have installation := shortText_of_valid ((validV2Identifier_iff _ _ (by decide)).mpr valid.1)
    have digest := shortText_of_digest valid.2.1
    simp +decide [Binding.toValue, LicenseCore.u32Value, Value.All, AllFields,
      installation, digest, u32_toNat sequence]

section

variable {crates : Crates} (times : ReadsCalendar crates.parseRfc3339)
include times

theorem shortText_of_exactTime {name value : String}
    (read : LicenseCore.exactTime crates name value = .ok time)
    : ShortText value := by
  obtain ⟨exact, rfl⟩ := (verifierExactTime_eq_ok times name value time).mp read
  refine ⟨identifierText_of_time exact, ?_⟩
  rw [LicenseCore.exactTime, except_bind_eq_ok] at read
  obtain ⟨moment, hv, _⟩ := read
  unfold LicenseCore.validateExactTime at hv
  split at hv
  · cases hv
  · rename_i shape
    simp only [not_or, not_not] at shape
    omega

variable {issuedAt : String} {validity : Validity}

theorem plain_times (valid : LicenseCore.validateTimes crates issuedAt validity = .ok ())
    : ShortText issuedAt ∧ validity.toValue.All ShortText U32 := by
  rw [LicenseCore.validateTimes, except_bind_eq_ok] at valid
  obtain ⟨issued, issuedRead, valid⟩ := valid
  obtain ⟨hbe, beginsRead, valid⟩ := except_bind_eq_ok.mp valid
  have hb := shortText_of_exactTime times beginsRead
  refine ⟨shortText_of_exactTime times issuedRead, ?_⟩
  obtain ⟨notBefore, expiry⟩ := validity
  cases expiry with
  | none =>
    simp +decide [Validity.toValue, Expiry.toValue, Value.All, AllFields, hb]
  | fixed expiresAt =>
    obtain ⟨ends, endsRead, _⟩ := except_bind_eq_ok.mp valid
    simp +decide [Validity.toValue, Expiry.toValue, Value.All,
      AllFields, hb, shortText_of_exactTime times endsRead]

end

-- The two JSON forms of valid claims

variable {crates : Crates}

theorem grant_written (grant : LicenseCore.QuotaGrant)
    : (QuotaGrant.ofGrant grant).toValue = grant.toValue := by
  obtain ⟨id, limit⟩ := grant
  cases limit <;> rfl

/-- The issuer writes the feature sets first and the verifier third, so the two forms of the
entitlements agree only after sorting.
-/
theorem entitlements_sorted (entitlements : LicenseCore.Entitlements)
    : (Entitlements.ofEntitlements entitlements).toValue.sorted Utf16.encode
      = entitlements.toValue.sorted Utf16.encode := by
  obtain ⟨version, features, sets, quotas⟩ := entitlements
  have grants : (quotas.map QuotaGrant.ofGrant).map QuotaGrant.toValue
      = quotas.map LicenseCore.QuotaGrant.toValue := by
    rw [map_map]
    exact List.map_congr_left (fun grant _ => grant_written grant)
  have names (ids : List CapabilityId)
      : textArray (ids.map CapabilityId.asStr) = .array (ids.map (fun id => .string id.asStr)) := by
    rw [textArray, map_map]
    rfl
  have setNames (ids : List FeatureSetId)
      : textArray (ids.map FeatureSetId.asStr) = .array (ids.map (fun id => .string id.asStr)) := by
    rw [textArray, map_map]
    rfl
  simp only [Entitlements.ofEntitlements, Entitlements.toValue, LicenseCore.Entitlements.toValue,
    LicenseCore.featureSetMember, grants, names, setNames, LicenseCore.u32Value, List.isEmpty_map]
  cases sets with
  | nil => rfl
  | cons set rest =>
    simp only [List.isEmpty_cons, Bool.false_eq_true, if_false, cons_append,
      nil_append, Value.sorted, Value.object.injEq]
    refine sortByName_eq_of_perm Utf16.encode_injective ?_ ?_
    · rw [sortedFields_eq_map, map_map]
      simp
    · rw [sortedFields_eq_map, sortedFields_eq_map]
      exact (@List.perm_middle _ _ [_, _] _).symm.map _

variable {claims : Claims}

theorem claims_sorted (valid : claims.validate crates = .ok ())
    : (ClaimsV2.ofClaims claims).toValue.sorted Utf16.encode
      = claims.toValue.sorted Utf16.encode := by
  obtain ⟨hs, bindingValid, _, ht⟩ := validate_parts valid
  simp only [ClaimsV2.toValue, ClaimsV2.members, ClaimsV2.ofClaims, Claims.toValue,
    source_written hs, binding_written bindingValid, validity_written ht,
    Value.sorted, sortedFields, entitlements_sorted, LicenseCore.u32Value]

theorem plain_claims (times : ReadsCalendar crates.parseRfc3339)
    (versions : LicenseCore.ReadsVersions crates.parsesVersion)
    (valid : claims.validate crates = .ok ())
    : (ClaimsV2.ofClaims claims).toValue.All ShortText U32 := by
  obtain ⟨hs, bindingValid, _, ht⟩ := validate_parts valid
  obtain ⟨issuedAt, validity⟩ := plain_times times ht
  rw [Claims.validate] at valid
  simp only [unit_bind_eq_ok, check_ok_iff, mapError_eq_ok, validateIdentifiers_eq_ok,
    Bool.and_eq_true, beq_iff_eq, decide_eq_true_eq] at valid
  obtain ⟨schema, product, identifiers, _, _, ⟨versionSize, versionRead⟩, _⟩ := valid
  have each (value : String)
      (hm : value ∈ [claims.keyId, claims.licenseId, claims.serial, claims.edition, claims.planId])
      : ShortText value :=
    shortText_of_valid (List.all_eq_true.mp identifiers value hm)
  simp only [List.forall_mem_cons] at each
  have minimum : ShortText claims.minimumVersion := by
    obtain ⟨version, same, _⟩ := (versions _).mp versionRead
    refine ⟨?_, by omega⟩
    rw [same]
    exact identifierText_of_version version
  have schemaText : ShortText claims.schema := by
    rw [schema]
    decide
  have productText : ShortText claims.product := by
    rw [product]
    decide
  simp +decide [ClaimsV2.toValue, ClaimsV2.members, ClaimsV2.ofClaims, Value.All, AllFields,
    source_written hs, binding_written bindingValid, validity_written ht,
    plain_source hs, plain_binding bindingValid, validity, plain_entitlements,
    u32_toNat, each, minimum, schemaText, productText, issuedAt]

-- The size of a document

theorem textArray_size (values : List String) : (textArray values).size = values.length + 1 := by
  rw [textArray, Value.size]
  induction values with
  | nil => rfl
  | cons value rest ih =>
    simp only [List.map_cons, sizeItems, Value.size, List.length_cons] at ih ⊢
    omega

theorem grant_size (grant : LicenseCore.QuotaGrant)
    : (QuotaGrant.ofGrant grant).toValue.size ≤ 9 := by
  obtain ⟨id, limit⟩ := grant
  cases limit <;>
    simp [QuotaGrant.ofGrant, QuotaGrant.toValue, QuotaLimit.ofLimit, QuotaLimit.toValue,
      omitAbsent, Value.size, sizeFields]

/-- Distinct identifiers are at most as many as there are. -/
theorem length_le_of_nodup {Id : Type} {ids all : List Id} (hd : ids.Nodup)
    (total : ∀ id : Id, id ∈ all)
    : ids.length ≤ all.length :=
  (List.subperm_of_subset hd (fun id _ => total id)).length_le

theorem entitlements_size {entitlements : LicenseCore.Entitlements}
    (valid : entitlements.validate = .ok ())
    : (Entitlements.ofEntitlements entitlements).toValue.size ≤ 60 := by
  rw [LicenseCore.Entitlements.validate] at valid
  simp only [check_bind_eq_ok, check_ok_iff, dedup_length_beq, quotas_complete_iff] at valid
  obtain ⟨_, hd, distinctSets, _, _, count⟩ := valid
  have features : entitlements.features.length ≤ 3 :=
    @length_le_of_nodup _ _ [.gateway, .member, .runner] hd (by intro id; cases id <;> simp)
  have sets : entitlements.featureSets.length ≤ 1 :=
    @length_le_of_nodup _ _ [.standard] distinctSets (by intro id; cases id; simp)
  have quotas := @sizeItems_le
    ((entitlements.quotas.map QuotaGrant.ofGrant).map QuotaGrant.toValue) 9 (by simp [grant_size])
  rw [List.length_map, List.length_map, count] at quotas
  unfold Entitlements.toValue Entitlements.ofEntitlements
  split <;>
    simp only [nil_append, cons_append, Value.size, sizeFields, textArray_size, List.length_map] <;>
    omega

theorem claims_size (valid : claims.validate crates = .ok ())
    : (ClaimsV2.ofClaims claims).toValue.size ≤ 130 := by
  obtain ⟨hs, bindingValid, he, ht⟩ := validate_parts valid
  have source : claims.source.toValue.size ≤ 9 := by
    cases claims.source <;> simp [Source.toValue, Value.size, sizeFields]
  have binding : claims.binding.toValue.size ≤ 9 := by
    cases claims.binding <;>
      simp [Binding.toValue, LicenseCore.u32Value, Value.size, sizeFields]
  have validity : claims.validity.toValue.size ≤ 9 := by
    obtain ⟨notBefore, expiry⟩ := claims.validity
    cases expiry <;>
      simp [Validity.toValue, Expiry.toValue, Value.size, sizeFields]
  have entitlements := entitlements_size he
  simp only [ClaimsV2.toValue, ClaimsV2.members, ClaimsV2.ofClaims, Value.size, sizeFields,
    source_written hs, binding_written bindingValid, validity_written ht]
  omega

end LicenseProtocol

-- Signing and verification

/-- Ed25519 signatures over texts, and their unpadded base64url form. -/
structure Signatures (Private Public : Type) where
  publicKey : Private → Public
  sign : Private → String → List UInt8
  verify : Public → String → List UInt8 → Bool
  encode : List UInt8 → String
  decode : String → Option (List UInt8)

/-- What is assumed of them: a signature has 64 bytes and verifies under its own key, and its
encoding is read back, uses identifier characters, and is at most twice as long.
-/
structure Signatures.Correct {Private Public : Type} (signatures : Signatures Private Public)
    : Prop where
  verified : ∀ key text,
    signatures.verify (signatures.publicKey key) text (signatures.sign key text) = true
  length : ∀ key text, (signatures.sign key text).length = 64
  decoded : ∀ key text, signatures.decode (signatures.encode (signatures.sign key text))
    = some (signatures.sign key text)
  plain : ∀ key text, LicenseCore.IdentifierText (signatures.encode (signatures.sign key text))
  short : ∀ key text, (signatures.encode (signatures.sign key text)).utf8ByteSize ≤ 128

namespace LicenseProtocol

/-- Claims or a document, with distinct names, identifier texts and small numbers. -/
structure Transported (value : Value) : Prop where
  distinct : value.Distinct
  plain : value.All LicenseCore.IdentifierText LicenseCore.U32
  shape
    : (∃ claims : ClaimsV2, claims.toValue = value)
      ∨ ∃ document : DocumentV2, document.toValue = value

/-- What is assumed of the JSON libraries: both decoders read back what the encoder wrote of
claims and documents, and the encoder adds no escapes to them.
-/
structure JsonText.Faithful (json : JsonText) : Prop where
  decoded : ∀ value, Transported value → json.decode (json.marshal value) = some value
  sliced : ∀ value, Transported value → json.fromSlice (json.marshal value) = some value
  plain : ∀ value, Transported value → json.marshal value = value.text

variable {Private Public : Type}

def signV2 (libraries : Libraries) (json : JsonText) (signatures : Signatures Private Public)
    (claims : ClaimsV2) (privateKey : Private)
    : Except String DocumentV2 := do
  claims.validate libraries
  let payload ← canonicalClaimsV2 json claims
  return ⟨claims, signatures.encode (signatures.sign privateKey payload)⟩

end LicenseProtocol

namespace LicenseCore

variable {Private Public : Type}

structure ScopedKey (Public : Type) where
  key : Public
  policy : IssuerPolicy

/-- The signature of a read document, under the key and the policy of its key id. -/
def verifyDocument (crates : Crates) (signatures : Signatures Private Public)
    (scopedKeys : List (String × ScopedKey Public)) (document : Document)
    : Except Error Document := do
  document.claims.validate crates
  match scopedKeys.lookup document.claims.keyId with
  | none => .error (.license (.untrustedKey document.claims.keyId))
  | some trusted =>
    match signatures.decode document.signature with
    | none => .error (.license .signatureEncoding)
    | some bytes => do
        check (bytes.length == 64) (.license .signatureEncoding)
        let payload ← (canonicalClaims document.claims).mapError .license
        check (signatures.verify trusted.key payload bytes) (.license .invalidSignature)
        trusted.policy.authorize crates document.claims
        return document

def verify (crates : Crates) (json : LicenseProtocol.JsonText)
    (signatures : Signatures Private Public) (scopedKeys : List (String × ScopedKey Public))
    (data : String)
    : Except Error Document :=
  if data.utf8ByteSize > 2 ^ 20 then .error (.license (.invalidField "document_size"))
  else
    match (json.fromSlice data).bind Document.ofValue with
    | none => .error (.license .invalidJson)
    | some document => verifyDocument crates signatures scopedKeys document

end LicenseCore

namespace LicenseProtocol

open LicenseCore (IdentifierText ShortText U32 CapabilityId FeatureSetId Source Binding Expiry
  Validity Crates Claims IssuerPolicy)

theorem distinct_textArray (values : List String) : (textArray values).Distinct := by
  rw [textArray, Value.Distinct]
  induction values with
  | nil => trivial
  | cons value rest ih => exact ⟨trivial, ih⟩

theorem distinct_grants (grants : List LicenseCore.QuotaGrant)
    : (Value.array ((grants.map QuotaGrant.ofGrant).map QuotaGrant.toValue)).Distinct := by
  rw [Value.Distinct]
  induction grants with
  | nil => trivial
  | cons grant rest ih =>
    refine ⟨?_, ih⟩
    obtain ⟨id, limit⟩ := grant
    cases limit <;>
      simp [QuotaGrant.ofGrant, QuotaGrant.toValue, QuotaLimit.ofLimit, QuotaLimit.toValue,
        omitAbsent, Value.Distinct, DistinctFields]

theorem distinct_entitlements (entitlements : LicenseCore.Entitlements)
    : (Entitlements.ofEntitlements entitlements).toValue.Distinct := by
  have features := distinct_textArray (entitlements.features.map CapabilityId.asStr)
  have sets := distinct_textArray (entitlements.featureSets.map FeatureSetId.asStr)
  have quotas := distinct_grants entitlements.quotas
  unfold Entitlements.toValue Entitlements.ofEntitlements
  split
  · exact ⟨by simp, trivial, features, quotas, trivial⟩
  · exact ⟨by simp, sets, trivial, features, quotas, trivial⟩

theorem distinct_claims {claims : Claims} (valid : claims.validate crates = .ok ())
    : (ClaimsV2.ofClaims claims).toValue.Distinct := by
  obtain ⟨hs, bindingValid, _, ht⟩ := validate_parts valid
  have source : claims.source.toValue.Distinct := by
    cases claims.source <;> simp [Source.toValue, Value.Distinct, DistinctFields]
  have binding : claims.binding.toValue.Distinct := by
    cases claims.binding <;>
      simp [Binding.toValue, LicenseCore.u32Value, Value.Distinct, DistinctFields]
  have validity : claims.validity.toValue.Distinct := by
    obtain ⟨notBefore, expiry⟩ := claims.validity
    cases expiry <;>
      simp [Validity.toValue, Expiry.toValue, Value.Distinct, DistinctFields]
  refine ⟨claimNames_strict.1, ?_⟩
  simp only [ClaimsV2.members, ClaimsV2.ofClaims, source_written hs,
    binding_written bindingValid, validity_written ht]
  exact ⟨trivial, trivial, trivial, trivial, trivial, trivial, trivial, trivial, source,
    distinct_entitlements claims.entitlements, trivial, binding, validity, trivial, trivial,
    trivial⟩

section

variable {libraries : Libraries} {crates : Crates} {json : JsonText} {claims : Claims}

theorem transported_claims (ha : ReadersAgree libraries crates)
    (valid : claims.validate crates = .ok ())
    : Transported (ClaimsV2.ofClaims claims).toValue :=
  ⟨distinct_claims valid,
    (plain_claims ha.verifierTimes ha.versions valid).mono (fun _ => And.left) (fun _ => id),
    .inl ⟨_, rfl⟩⟩

theorem transported_document (ha : ReadersAgree libraries crates)
    (valid : claims.validate crates = .ok ()) (plain : IdentifierText signature)
    : Transported (DocumentV2.toValue ⟨.ofClaims claims, signature⟩) :=
  have transported := transported_claims ha valid
  ⟨⟨by simp, transported.distinct, trivial, trivial⟩,
    ⟨rfl, transported.plain, rfl, plain, trivial⟩, .inr ⟨_, rfl⟩⟩

/-- The signing text of both sides, for claims that the verifier accepts. -/
theorem canonicalClaims_agree (ha : ReadersAgree libraries crates) (faithful : json.Faithful)
    (valid : claims.validate crates = .ok ())
    : canonicalClaimsV2 json (.ofClaims claims)
        = .ok (claims.toValue.sorted Utf16.encode).text
      ∧ LicenseCore.canonicalClaims claims = .ok (claims.toValue.sorted Utf16.encode).text := by
  refine ⟨?_, LicenseCore.canonicalize_of_integral claims.integral⟩
  have transported := transported_claims ha valid
  rw [canonicalClaimsV2, faithful.decoded _ transported]
  dsimp only
  rw [canonicalize_of_identifierText transported.plain, claims_sorted valid]

theorem document_size (ha : ReadersAgree libraries crates) (faithful : json.Faithful)
    (valid : claims.validate crates = .ok ()) (short : ShortText signature)
    : (json.marshal (DocumentV2.toValue ⟨.ofClaims claims, signature⟩)).utf8ByteSize ≤ 2 ^ 20 := by
  have hp : (DocumentV2.toValue ⟨.ofClaims claims, signature⟩).All ShortText U32 :=
    ⟨by decide, plain_claims ha.verifierTimes ha.versions valid, by decide, short, trivial⟩
  rw [faithful.plain _ (transported_document ha valid short.1)]
  have heavy := @weight_lt_size 128 790 (by decide) _
    (hp.mono (fun _ => And.right) (fun _ ⟨low, high⟩ => ⟨by omega, by omega⟩))
  have size := claims_size valid
  have light := utf8ByteSize_text_le_weight (DocumentV2.toValue ⟨.ofClaims claims, signature⟩)
  simp only [DocumentV2.toValue, Value.size, sizeFields] at heavy light ⊢
  omega

variable {Private Public : Type} {signatures : Signatures Private Public}

/-- A signed document passes the verifier that trusts the key with a policy that the issuer
finds satisfied.
-/
theorem verify_of_signV2 (hag : ReadersAgree libraries crates) (faithful : json.Faithful)
    (correct : signatures.Correct) {claims : ClaimsV2}
    (signed : signV2 libraries json signatures claims privateKey = .ok document)
    {scopedKeys : List (String × LicenseCore.ScopedKey Public)}
    (trusted : scopedKeys.lookup claims.keyId = some ⟨signatures.publicKey privateKey, policy⟩)
    (ha : (IssuerPolicyV2.ofPolicy policy).authorize libraries claims = .ok ())
    : ∃ found, LicenseCore.verify crates json signatures scopedKeys
        (json.marshal document.toValue) = .ok found := by
  rw [signV2, unit_bind_eq_ok] at signed
  obtain ⟨hi, signed⟩ := signed
  obtain ⟨payload, written, signed⟩ := except_bind_eq_ok.mp signed
  obtain ⟨source, rfl⟩ := exists_claims_of_validate hi
  have valid := (ofClaims_validate hag source).mp hi
  obtain ⟨issuerText, verifierText⟩ := canonicalClaims_agree hag faithful valid
  rw [issuerText, Except.ok.injEq] at written
  cases signed
  have plain := correct.plain privateKey payload
  have size := document_size hag faithful valid ⟨plain, correct.short _ _⟩
  have read : LicenseCore.Document.ofValue (DocumentV2.toValue ⟨.ofClaims source,
      signatures.encode (signatures.sign privateKey payload)⟩)
      = some ⟨source, signatures.encode (signatures.sign privateKey payload)⟩ := by
    rw [DocumentV2.toValue, LicenseCore.Document.ofValue,
      LicenseCore.membersOf_object ["claims", "signature"] rfl (by decide +kernel), some_bind,
      member_read rfl (claims_read valid), some_bind, string_member rfl, some_bind]
    rfl
  refine ⟨⟨source, signatures.encode (signatures.sign privateKey payload)⟩, ?_⟩
  rw [LicenseCore.verify, if_neg (by omega),
    faithful.sliced _ (transported_document hag valid plain), Option.bind_some, read]
  dsimp only
  rw [LicenseCore.verifyDocument, unit_bind_eq_ok]
  refine ⟨valid, ?_⟩
  have hp := (ofPolicy_authorize hag policy source).mp ha
  have lookup : scopedKeys.lookup source.keyId
      = some ⟨signatures.publicKey privateKey, policy⟩ := trusted
  simp only [lookup, correct.decoded]
  rw [check_bind_eq_ok]
  refine ⟨by rw [correct.length]; rfl, ?_⟩
  rw [verifierText, written]
  refine except_bind_eq_ok.mpr ⟨payload, rfl, ?_⟩
  rw [check_bind_eq_ok, unit_bind_eq_ok]
  exact ⟨correct.verified privateKey payload, hp, rfl⟩

/-- For claims that the issuer accepts, the verifier reads from the issuer's JSON claims with
the same signing text, and every signed document passes verification under the same key and
policy.
-/
theorem issuer_and_verifier_sign_same_bytes (agree : ReadersAgree libraries crates)
    (faithful : json.Faithful) (correct : signatures.Correct)
    : (∀ claims : ClaimsV2, claims.validate libraries = .ok () →
        ∃ found text,
          (json.fromSlice (json.marshal claims.toValue)).bind LicenseCore.Claims.ofValue
            = some found
          ∧ canonicalClaimsV2 json claims = .ok text
          ∧ LicenseCore.canonicalClaims found = .ok text)
      ∧ ∀ (claims : ClaimsV2) (privateKey : Private) (document : DocumentV2)
          (scopedKeys : List (String × LicenseCore.ScopedKey Public))
          (policy : LicenseCore.IssuerPolicy),
          signV2 libraries json signatures claims privateKey = .ok document →
          scopedKeys.lookup claims.keyId = some ⟨signatures.publicKey privateKey, policy⟩ →
          (IssuerPolicyV2.ofPolicy policy).authorize libraries claims = .ok () →
          ∃ found, LicenseCore.verify crates json signatures scopedKeys
            (json.marshal document.toValue) = .ok found := by
  refine ⟨?_, ?_⟩
  · intro claims hi
    obtain ⟨hf, rfl⟩ := exists_claims_of_validate hi
    have valid := (ofClaims_validate agree hf).mp hi
    obtain ⟨issuerText, verifierText⟩ := canonicalClaims_agree agree faithful valid
    refine ⟨hf, _, ?_, issuerText, verifierText⟩
    rw [faithful.sliced _ (transported_claims agree valid), Option.bind_some, claims_read valid]
  · intro claims privateKey document scopedKeys policy signed trusted ha
    exact verify_of_signV2 agree faithful correct signed trusted ha

end

-- Sample libraries

open Classical in
/-- The decoder that knows exactly the standard texts. -/
noncomputable def sampleDecoder (text : String) : Option Value :=
  if found : ∃ value : Value, value.text = text then some found.choose else none

theorem sampleDecoder_text (value : Value) : sampleDecoder value.text = some value := by
  have hf : ∃ other : Value, other.text = value.text := ⟨value, rfl⟩
  rw [sampleDecoder, dif_pos hf, text_injective hf.choose_spec]

noncomputable def sampleJson : JsonText := ⟨Value.text, sampleDecoder, sampleDecoder⟩

theorem sampleJson_faithful : sampleJson.Faithful :=
  ⟨fun value _ => sampleDecoder_text value, fun value _ => sampleDecoder_text value, fun _ _ => rfl⟩

def sampleSignature : List UInt8 := List.replicate 64 7

/-- The signature in base64url. -/
def sampleSignatureText : String :=
  String.ofList ((List.replicate 21 "BwcH".toList).flatten ++ "Bw".toList)

/-- One private key, whose signature is the same for every text. -/
def sampleSignatures : Signatures Unit Nat where
  publicKey _ := 2
  sign _ _ := sampleSignature
  verify key _ bytes := key == 2 && bytes == sampleSignature
  encode _ := sampleSignatureText
  decode text := if text = sampleSignatureText then some sampleSignature else none

theorem sampleSignatures_correct : sampleSignatures.Correct where
  verified _ _ := beq_self_eq_true sampleSignature
  length _ _ := List.length_replicate
  decoded _ _ := by simp [sampleSignatures]
  plain _ _ := by
    have plain : sampleSignatureText.toList.all LicenseCore.identifierChar := by decide +kernel
    exact plain
  short _ _ := (by decide +kernel : sampleSignatureText.utf8ByteSize ≤ 128)

def samplePolicy : IssuerPolicy :=
  ⟨[.commercialOrder], [.installation], [.fixed], sampleEntitlements⟩

theorem samplePolicy_authorizes : samplePolicy.authorize sampleCrates sampleClaims = .ok () := by
  rw [IssuerPolicy.authorize]
  simp only [unit_bind_eq_ok, check_ok_iff, mapError_eq_ok, sampleClaims_validate, true_and]
  decide +kernel

theorem sampleClaims_signed
    : signV2 sampleLibraries sampleJson sampleSignatures (.ofClaims sampleClaims) ()
      = .ok ⟨.ofClaims sampleClaims, sampleSignatureText⟩ := by
  rw [signV2, (ofClaims_validate sampleReaders_agree sampleClaims).mpr sampleClaims_validate,
    (canonicalClaims_agree sampleReaders_agree sampleJson_faithful sampleClaims_validate).1]
  rfl

theorem sample_document_verifies
    : ∃ document found,
        signV2 sampleLibraries sampleJson sampleSignatures (.ofClaims sampleClaims) ()
          = .ok document
        ∧ LicenseCore.verify sampleCrates sampleJson sampleSignatures
            [("issuer-2026", ⟨2, samplePolicy⟩)] (sampleJson.marshal document.toValue)
          = .ok found := by
  have theorems := @issuer_and_verifier_sign_same_bytes _ _ _ _ _ _ sampleReaders_agree
    sampleJson_faithful sampleSignatures_correct
  obtain ⟨hf, hv⟩ := theorems.2 _ () _ [("issuer-2026", ⟨2, samplePolicy⟩)]
    samplePolicy sampleClaims_signed rfl
    ((ofPolicy_authorize sampleReaders_agree samplePolicy sampleClaims).mpr samplePolicy_authorizes)
  exact ⟨_, hf, sampleClaims_signed, hv⟩

end LicenseProtocol

end AsterTeam
