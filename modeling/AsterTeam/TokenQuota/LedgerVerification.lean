import AsterTeam.Control.Signing
import AsterTeam.Library.HashChain
import AsterTeam.TokenQuota.Transitions

/-! How Control verifies the ledger of a token account: every entry has the shape of its
kind and a valid tag, and all entries form one chain from the empty tag to the tag that the
balance names.
-/

namespace AsterTeam

open List

open HashChain MachineInteger QuotaLedgerEntry

variable (value : String) (entry : QuotaLedgerEntry)

def validProcessingTier : Bool :=
  value ∈ ["auto", "standard", "flex", "fast", "ultrafast"]

def validReasoningEffort : Bool :=
  value ∈ ["none", "low", "medium", "high", "xhigh", "max"]

/-- Letters, digits, `-`, `_` and `.`, from 8 to 160 bytes. -/
def validGatewayRequestId : Bool :=
  (8 ≤ value.utf8ByteSize && value.utf8ByteSize ≤ 160)
    && (utf8Bytes value).all (fun byte =>
      isAsciiAlphanumeric byte || byte == 45 || byte == 95 || byte == 46)

def validRequestedModel : Bool :=
  value ≠ "" && value.utf8ByteSize ≤ 160

/-- The part of the shape that usage and failed usage share. -/
def validRequestShape : Bool :=
  entry.protocol ≠ ""
    && entry.model ≠ ""
    && entry.requestedModel.all validRequestedModel
    && entry.processingTier.all validProcessingTier
    && entry.reasoningEffort.all validReasoningEffort
    && entry.clientRequestId.all validGatewayRequestId
    && entry.apiKeyId.any (fun value => value ≠ "")

/-- The part of the shape that grants and failed usage share. -/
def validUnmeteredShape : Bool :=
  entry.uncachedInput == 0
    && entry.cachedInput == 0
    && entry.cacheWrite == 0
    && entry.outputTokens == 0
    && entry.uncoveredTokens == 0
    && entry.rawTokens == 0
    && entry.billedTokens == 0
    && entry.multiplierMicros == 1000000

def validGrantShape : Bool :=
  entry.amountTokens > 0
    && validUnmeteredShape entry
    && entry.protocol == ""
    && entry.model == ""
    && entry.requestedModel.isNone
    && entry.processingTier.isNone
    && entry.reasoningEffort.isNone
    && entry.clientRequestId.isNone
    && entry.apiKeyId.isNone
    && entry.runnerId.isNone

def validUsageShape : Bool :=
  match checkedNeg entry.amountTokens with
  | none => false
  | some chargedTokens =>
    entry.amountTokens ≤ 0
      && entry.uncachedInput ≥ 0
      && entry.cachedInput ≥ 0
      && entry.cacheWrite ≥ 0
      && entry.outputTokens ≥ 0
      && entry.uncoveredTokens ≥ 0
      && entry.rawTokens == (entryRawTokens entry).getD (-1)
      && entry.billedTokens ≥ chargedTokens
      && entry.uncoveredTokens == entry.billedTokens - chargedTokens
      && entry.multiplierMicros > 0
      && validRequestShape entry
      && entry.runnerId.any (fun value => value ≠ "")

def validFailedUsageShape : Bool :=
  entry.amountTokens == 0
    && validUnmeteredShape entry
    && validRequestShape entry
    && entry.runnerId.all (fun value => value ≠ "")

def validSignedLedgerShape : Bool :=
  if entry.id = ""
      ∨ entry.identityId = ""
      ∨ entry.referenceId = ""
      ∨ entry.description = ""
      ∨ entry.integrityHmac = ""
      ∨ entry.createdAt = "" then
    false
  else if entry.kind = "grant" then validGrantShape entry
  else if entry.kind = "usage" then validUsageShape entry
  else if entry.kind = "usage_failed" then validFailedUsageShape entry
  else false

/-- One hop of the verification: the owner, the shape and the tag of an entry, where the
older schemas are accepted for entries without the columns they do not cover.
-/
def verifyLedgerEntry (auth : AuthCore) (identityId : String) (entry : QuotaLedgerEntry)
    : Except ControlError Unit :=
  if entry.identityId ≠ identityId ∨ !validSignedLedgerShape entry then
    .error .dataIntegrityInvalid
  else do
    let expectedHmac ← ledgerIntegrityHmac auth entry
    let priorSchemaHmac ← previousLedgerIntegrityHmac auth entry
    let legacyHmac ← legacyLedgerIntegrityHmac auth entry
    let currentSchemaValid := constantTimeStringEq expectedHmac entry.integrityHmac
    let previousSchemaValid :=
      entry.clientRequestId.isNone && constantTimeStringEq priorSchemaHmac entry.integrityHmac
    let legacySchemaValid :=
      entry.clientRequestId.isNone
        && entry.requestedModel.isNone
        && entry.processingTier.isNone
        && entry.reasoningEffort.isNone
        && constantTimeStringEq legacyHmac entry.integrityHmac
    if !currentSchemaValid && !previousSchemaValid && !legacySchemaValid then
      .error .dataIntegrityInvalid
    else
      .ok ()

def verifyQuotaLedger (auth : AuthCore) (identityId : String) (balance : UserBalanceRecord)
    (entries : List QuotaLedgerEntry)
    : Except ControlError Unit :=
  if entries.isEmpty then
    if balance.lastLedgerHmac = "" then .ok () else .error .dataIntegrityInvalid
  else if ¬ ((entries.map previousEntryHmac).Nodup
      ∧ (entries.map integrityHmac).Nodup) then
    .error .dataIntegrityInvalid
  else do
    let previousHmac ←
      followLinks previousEntryHmac integrityHmac
        .dataIntegrityInvalid (verifyLedgerEntry auth identityId) entries.length "" entries
    if previousHmac ≠ balance.lastLedgerHmac then .error .dataIntegrityInvalid else .ok ()

abbrev LedgerChain (entries : List QuotaLedgerEntry) (last : String) : Prop :=
  Chain previousEntryHmac integrityHmac "" entries last

/-- The purpose of the verification: the entries are one chain of valid entries. -/
structure VerifiedLedger (auth : AuthCore) (identityId last : String)
    (entries : List QuotaLedgerEntry)
    : Prop where
  chained : ∃ ordered, ordered.Perm entries ∧ LedgerChain ordered last
  distinct : (entries.map integrityHmac).Nodup
  valid : ∀ entry ∈ entries, verifyLedgerEntry auth identityId entry = .ok ()

/-- An entry carries the tag of its own contents in an accepted schema. -/
def CarriesTag (auth : AuthCore) (entry : QuotaLedgerEntry) : Prop :=
  ∃ payload,
    AcceptedPayload entry payload
    ∧ auth.securityStateTag ⟨quotaLedgerIntegrityKey, payload.text, 0⟩ = entry.integrityHmac

structure ValidEntry (auth : AuthCore) (identityId : String) (entry : QuotaLedgerEntry)
    : Prop where
  owner : entry.identityId = identityId
  shape : validSignedLedgerShape entry = true
  fits : (ledgerIntegrityPayload entry).text.utf8ByteSize ≤ 1048576
  carries : CarriesTag auth entry

variable {auth : AuthCore} {identityId : String} {entry : QuotaLedgerEntry}

/-- The tags of an honest signer determine the entries that carry them. -/
theorem CarriesTag.eq (free : auth.CollisionFree) (hc : CarriesTag auth entry)
    (ho : CarriesTag auth other) (tags : entry.integrityHmac = other.integrityHmac)
    : entry = other := by
  obtain ⟨payload, ha, tag⟩ := hc
  obtain ⟨otherPayload, hot, hoth⟩ := ho
  have inputs := free.injective (tag.trans (tags.trans hoth.symm))
  exact ha.eq hot (Json.text_injective (SecurityStateIntegrityInput.mk.inj inputs).2.1) tags

/-- What one hop of the verification accepts. The tags of all three schemas are computed, so
the longest payload has to fit, whichever schema the entry was signed in.
-/
theorem verifyLedgerEntry_eq_ok
    : verifyLedgerEntry auth identityId entry = .ok () ↔ ValidEntry auth identityId entry := by
  refine ⟨fun hv => ?_, ?_⟩
  · obtain ⟨hp, hv⟩ := Relational.guard_of_ok hv
    obtain ⟨current, hc, hv⟩ := Relational.bind_eq_ok.mp hv
    obtain ⟨prior, hpr, hv⟩ := Relational.bind_eq_ok.mp hv
    obtain ⟨legacy, hl, hv⟩ := Relational.bind_eq_ok.mp hv
    obtain ⟨ha, _⟩ := Relational.guard_of_ok hv
    obtain ⟨fits, currentTag⟩ :=
      (AuthCore.sign_eq_ok quotaLedgerIntegrityKey_valid).mp hc
    have priorTag := ((AuthCore.sign_eq_ok quotaLedgerIntegrityKey_valid).mp hpr).2
    have legacyTag := ((AuthCore.sign_eq_ok quotaLedgerIntegrityKey_valid).mp hl).2
    simp only [not_or, not_not, Bool.not_eq_true', Bool.not_eq_false] at hp
    simp only [Bool.and_eq_true, Bool.not_eq_true', not_and_or, Bool.not_eq_false,
      constantTimeStringEq_iff, Option.isNone_iff_eq_none, or_assoc] at ha
    refine ⟨hp.1, hp.2, fits, ?_⟩
    rcases ha with hcu | ⟨noClient, hpri⟩
      | ⟨⟨⟨⟨noClient, noModel⟩, noTier⟩, noEffort⟩, hle⟩
    · exact ⟨_, .current, currentTag.trans hcu⟩
    · exact ⟨_, .previous noClient, priorTag.trans hpri⟩
    · exact ⟨_, .legacy noClient noModel noTier noEffort, legacyTag.trans hle⟩
  · rintro ⟨rfl, shape, fits, payload, ha, tag⟩
    obtain ⟨priorSmaller, legacySmaller⟩ := ledgerPayload_sizes entry
    have current : ledgerIntegrityHmac auth entry = .ok _ :=
      (AuthCore.sign_eq_ok quotaLedgerIntegrityKey_valid).mpr ⟨fits, rfl⟩
    have prior : previousLedgerIntegrityHmac auth entry = .ok _ :=
      (AuthCore.sign_eq_ok quotaLedgerIntegrityKey_valid).mpr ⟨priorSmaller.trans fits, rfl⟩
    have legacy : legacyLedgerIntegrityHmac auth entry = .ok _ :=
      (AuthCore.sign_eq_ok quotaLedgerIntegrityKey_valid).mpr ⟨legacySmaller.trans fits, rfl⟩
    have ht := constantTimeStringEq_iff.mpr tag
    cases ha <;>
      simp_all [verifyLedgerEntry, bind, Except.bind]

theorem integrityHmac_ne_empty (shape : validSignedLedgerShape entry)
    : entry.integrityHmac ≠ "" := by
  intro empty
  simp [validSignedLedgerShape, empty] at shape

variable {last : String} {entries : List QuotaLedgerEntry}

/-- The digests that a chain of distinct signed entries starts from are distinct, too: the
start is empty and no tag is.
-/
theorem VerifiedLedger.previous_nodup (hv : VerifiedLedger auth identityId last entries)
    : (entries.map previousEntryHmac).Nodup := by
  obtain ⟨order, perm, chain⟩ := hv.chained
  have tags : ("" :: order.map integrityHmac).Nodup := by
    refine nodup_cons.mpr ⟨?_, (perm.map _).nodup_iff.mpr hv.distinct⟩
    intro hm
    obtain ⟨entry, entryMember, empty⟩ := mem_map.mp hm
    have valid := verifyLedgerEntry_eq_ok.mp (hv.valid entry (perm.mem_iff.mp entryMember))
    exact integrityHmac_ne_empty valid.shape empty
  rw [← chain.previous_cons_last] at tags
  exact (perm.map _).nodup_iff.mp (Nodup.of_append_left tags)

/-- Verification succeeds exactly on chains of valid entries. -/
theorem verifyQuotaLedger_eq_ok
    : verifyQuotaLedger auth identityId balance entries = .ok ()
      ↔ VerifiedLedger auth identityId balance.lastLedgerHmac entries := by
  cases entries with
  | nil =>
    have hs : VerifiedLedger auth identityId balance.lastLedgerHmac []
        ↔ balance.lastLedgerHmac = "" := by
      refine ⟨?_, ?_⟩
      · intro hv
        obtain ⟨order, perm, chain⟩ := hv.chained
        rw [perm_nil.mp perm] at chain
        exact (show "" = balance.lastLedgerHmac from chain).symm
      · intro empty
        exact ⟨⟨[], .refl _, empty.symm⟩, .nil, by simp⟩
    rw [hs]
    simp [verifyQuotaLedger]
  | cons first rest =>
    refine ⟨?_, ?_⟩
    · intro hv
      simp only [verifyQuotaLedger, isEmpty_cons, Bool.false_eq_true, if_false]
        at hv
      split at hv
      · cases hv
      rename_i hdi
      obtain ⟨previousDistinct, tagsDistinct⟩ := not_not.mp hdi
      cases hf : followLinks previousEntryHmac
          integrityHmac ControlError.dataIntegrityInvalid
          (verifyLedgerEntry auth identityId) (first :: rest).length "" (first :: rest) with
      | error _ =>
        rw [hf] at hv
        cases hv
      | ok last =>
        rw [hf] at hv
        have same : last = balance.lastLedgerHmac := by
          by_contra hd
          simp [bind, Except.bind, hd] at hv
        obtain ⟨order, perm, chain, valid⟩ := (followLinks_eq_ok previousDistinct).mp hf
        exact ⟨⟨order, perm, same ▸ chain⟩, tagsDistinct, valid⟩
    · intro hv
      obtain ⟨order, perm, chain⟩ := hv.chained
      have hf
          : followLinks previousEntryHmac integrityHmac
              ControlError.dataIntegrityInvalid (verifyLedgerEntry auth identityId)
              (first :: rest).length "" (first :: rest)
            = .ok balance.lastLedgerHmac :=
        (followLinks_eq_ok hv.previous_nodup).mpr ⟨order, perm, chain, hv.valid⟩
      simp only [verifyQuotaLedger, isEmpty_cons, Bool.false_eq_true, if_false]
      rw [if_neg (not_not.mpr ⟨hv.previous_nodup, hv.distinct⟩), hf]
      simp [bind, Except.bind]

/-- An entry that Control has just signed verifies exactly when it has the shape of its
kind.
-/
theorem verifyLedgerEntry_signed_iff
    (signed : ledgerIntegrityHmac auth entry = .ok entry.integrityHmac)
    : verifyLedgerEntry auth entry.identityId entry = .ok () ↔ validSignedLedgerShape entry := by
  obtain ⟨fits, tag⟩ := (AuthCore.sign_eq_ok quotaLedgerIntegrityKey_valid).mp signed
  rw [verifyLedgerEntry_eq_ok]
  exact ⟨ValidEntry.shape, fun shape => ⟨rfl, shape, fits, _, .current, tag⟩⟩

/-- A verified ledger grows by a freshly signed entry with a new id exactly when that entry
has the shape of its kind.
-/
theorem VerifiedLedger.append_iff (free : auth.CollisionFree)
    (hv : VerifiedLedger auth identityId last entries)
    (owner : entry.identityId = identityId) (previous : entry.previousEntryHmac = last)
    (hf : ∀ stored ∈ entries, stored.id ≠ entry.id)
    (signed : ledgerIntegrityHmac auth entry = .ok entry.integrityHmac)
    : VerifiedLedger auth identityId entry.integrityHmac (entries ++ [entry])
      ↔ validSignedLedgerShape entry := by
  subst owner
  refine ⟨fun grown => ?_, fun shape => ?_⟩
  · exact (verifyLedgerEntry_signed_iff signed).mp (grown.valid entry (by simp))
  · have newTag := ((AuthCore.sign_eq_ok quotaLedgerIntegrityKey_valid).mp signed).2
    have hn
        : entry.integrityHmac ∉ entries.map integrityHmac := by
      intro hm
      obtain ⟨stored, storedMember, sameTag⟩ := mem_map.mp hm
      have valid := verifyLedgerEntry_eq_ok.mp (hv.valid stored storedMember)
      exact hf stored storedMember
        (congrArg QuotaLedgerEntry.id (valid.carries.eq free ⟨_, .current, newTag⟩ sameTag))
    obtain ⟨order, perm, chain⟩ := hv.chained
    refine ⟨⟨order ++ [entry], perm.append_right _, ?_⟩, ?_, ?_⟩
    · exact chain_append_singleton.mpr ⟨previous ▸ chain, rfl⟩
    · rw [map_append]
      refine nodup_append.mpr ⟨hv.distinct, nodup_singleton _, ?_⟩
      intro tag tagMember other hot same
      rw [map_cons, map_nil, mem_singleton] at hot
      exact hn (hot ▸ same ▸ tagMember)
    · intro stored hm
      rcases mem_append.mp hm with old | new
      · exact hv.valid stored old
      · rw [mem_singleton.mp new]
        exact (verifyLedgerEntry_signed_iff signed).mpr shape

end AsterTeam
