import AsterTeam.TokenQuota.ConservedRuns
import AsterTeam.TokenQuota.LedgerVerification

/-! A token ledger cannot be changed unnoticed: the tag of its last entry determines all
entries, whatever schemas they were signed in.
-/

namespace AsterTeam

open HashChain List

/-- The entries can be ordered into one chain of valid entries. -/
def ChainOfValid (auth : AuthCore) (identityId last : String) (entries : List QuotaLedgerEntry)
    : Prop :=
  ∃ ordered,
    ordered.Perm entries
    ∧ LedgerChain ordered last
    ∧ ∀ entry ∈ ordered, ValidEntry auth identityId entry

section

variable {auth : AuthCore} (free : auth.CollisionFree)

include free

theorem CarriesTag.ne_empty (entry : QuotaLedgerEntry) (hc : CarriesTag auth entry)
    : entry.integrityHmac ≠ "" := by
  obtain ⟨_, _, tag⟩ := hc
  exact tag ▸ free.nonempty _

theorem verifyQuotaLedger_iff
    : verifyQuotaLedger auth identityId balance entries = .ok ()
      ↔ ChainOfValid auth identityId balance.lastLedgerHmac entries := by
  rw [verifyQuotaLedger_eq_ok]
  constructor
  · intro hv
    obtain ⟨ordered, perm, chain⟩ := hv.chained
    exact ⟨ordered, perm, chain, fun entry he =>
      verifyLedgerEntry_eq_ok.mp (hv.valid entry (perm.mem_iff.mp he))⟩
  · rintro ⟨ordered, perm, chain, valid⟩
    have distinct := Chain.nodup (fun _ _ => CarriesTag.eq free) (CarriesTag.ne_empty free)
      chain (fun entry he => (valid entry he).carries)
    exact ⟨⟨ordered, perm, chain⟩, (perm.map _).nodup_iff.mp distinct, fun entry he =>
      verifyLedgerEntry_eq_ok.mpr (valid entry (perm.mem_iff.mpr he))⟩

/-- A ledger is accepted exactly if it is one chain of valid entries, in any order, and the
balance determines the accepted entries.
-/
theorem ledger_tamper_evident (identityId : String) (balance : UserBalanceRecord)
    (entries : List QuotaLedgerEntry)
    : (verifyQuotaLedger auth identityId balance entries = .ok ()
        ↔ ChainOfValid auth identityId balance.lastLedgerHmac entries)
      ∧ (∀ reordered,
        reordered.Perm entries
        → (verifyQuotaLedger auth identityId balance reordered = .ok ()
          ↔ verifyQuotaLedger auth identityId balance entries = .ok ()))
      ∧ (verifyQuotaLedger auth identityId balance entries = .ok ()
        → ∀ otherIdentity others,
          verifyQuotaLedger auth otherIdentity balance others = .ok ()
          → others.Perm entries) := by
  simp only [verifyQuotaLedger_iff free, true_and]
  refine ⟨fun reordered perm => ⟨?_, ?_⟩, ?_⟩
  · rintro ⟨ordered, ho, rest⟩
    exact ⟨ordered, ho.trans perm, rest⟩
  · rintro ⟨ordered, ho, rest⟩
    exact ⟨ordered, ho.trans perm.symm, rest⟩
  · rintro ⟨ordered, perm, chain, valid⟩ _ others ⟨otherOrder, otherPerm, otherChain, otherValid⟩
    have same := Chain.unique (fun _ _ => CarriesTag.eq free) (CarriesTag.ne_empty free)
      otherChain chain (fun entry he => (otherValid entry he).carries)
      (fun entry he => (valid entry he).carries)
    exact otherPerm.symm.trans (same ▸ perm)

end

section

variable (auth : AuthCore) (entry : QuotaLedgerEntry) (count : Nat)

def described : QuotaLedgerEntry :=
  { entry with description := String.ofList (replicate count 'a') }

def longEntry : QuotaLedgerEntry :=
  { described entry count with
    integrityHmac :=
      auth.securityStateTag
        ⟨quotaLedgerIntegrityKey,
          (previousLedgerIntegrityPayload (described entry count)).text, 0⟩ }

theorem longEntry_sizes
    : (previousLedgerIntegrityPayload (longEntry auth entry count)).text.utf8ByteSize
        = (previousLedgerIntegrityPayload (described entry 0)).text.utf8ByteSize + count
      ∧ (ledgerIntegrityPayload (longEntry auth entry count)).text.utf8ByteSize
        = (ledgerIntegrityPayload (described entry 0)).text.utf8ByteSize + count :=
  ⟨Json.utf8ByteSize_text_replicate _ (ledgerAmountFields entry).tail _ _ _,
    Json.utf8ByteSize_text_replicate _
      ((ledgerAmountFields entry).tail
        ++ [("client_request_id", jsonOptional entry.clientRequestId)]) _ _ _⟩

-- With a fixed signer this equation would be checked by computing the tag.
theorem longEntry_tag
    : auth.securityStateTag
        ⟨quotaLedgerIntegrityKey,
          (previousLedgerIntegrityPayload (longEntry auth entry count)).text, 0⟩
      = (longEntry auth entry count).integrityHmac :=
  rfl

variable {auth entry count}

theorem longEntry_shape (free : auth.CollisionFree) (hp : 0 < count)
    (shape : validSignedLedgerShape entry)
    : validSignedLedgerShape (longEntry auth entry count) := by
  have tag : (longEntry auth entry count).integrityHmac ≠ "" := free.nonempty _
  have description : (longEntry auth entry count).description ≠ "" := by
    intro empty
    have chars := congrArg String.toList empty
    simp only [longEntry, described, String.toList_ofList, String.toList_empty,
      replicate_eq_nil_iff] at chars
    omega
  unfold validSignedLedgerShape at shape ⊢
  split at shape
  · cases shape
  rename_i hn
  simp only [not_or] at hn
  rw [if_neg]
  · exact shape
  · simp only [not_or]
    exact ⟨hn.1, hn.2.1, hn.2.2.1, description, tag, hn.2.2.2.2.2⟩

theorem grantEntry_sizes
    : (previousLedgerIntegrityPayload (described (grantEntry "member") 0)).text.utf8ByteSize = 444
      ∧ (ledgerIntegrityPayload (described (grantEntry "member") 0)).text.utf8ByteSize = 469 := by
  simp only [Json.Value.text, String.utf8ByteSize_ofList]
  decide +kernel

theorem grantEntry_shape : validSignedLedgerShape (grantEntry "member") := by
  decide +kernel

end

def signedGrant (count : Nat) : QuotaLedgerEntry :=
  longEntry .transparent (grantEntry "member") count

def signedBalance (count : Nat) : UserBalanceRecord :=
  { zeroBalance "member" with lastLedgerHmac := (signedGrant count).integrityHmac }

theorem sample_ledger_evident
    : verifyQuotaLedger .transparent "member" (signedBalance 100) [signedGrant 100] = .ok () := by
  have free := AuthCore.transparent_collisionFree
  refine (ledger_tamper_evident free "member" (signedBalance 100) [signedGrant 100]).1.mpr
    ⟨_, .refl _, ⟨rfl, rfl⟩, fun entry he => ?_⟩
  rw [mem_singleton.mp he]
  refine ⟨rfl, longEntry_shape free (by decide) grantEntry_shape, ?_,
    _, .previous rfl, longEntry_tag _ _ _⟩
  rw [signedGrant, (longEntry_sizes _ _ _).2, grantEntry_sizes.2]
  decide

/-- The tag in the older schema is valid, but the payload of the current one is too long to
compute its tag.
-/
theorem long_older_entry_refused
    : (signedGrant 1048132).identityId = "member"
      ∧ validSignedLedgerShape (signedGrant 1048132) = true
      ∧ (signedGrant 1048132).clientRequestId = none
      ∧ previousLedgerIntegrityHmac .transparent (signedGrant 1048132)
        = .ok (signedGrant 1048132).integrityHmac
      ∧ LedgerChain [signedGrant 1048132] (signedBalance 1048132).lastLedgerHmac
      ∧ verifyQuotaLedger .transparent "member" (signedBalance 1048132) [signedGrant 1048132]
        ≠ .ok () := by
  have free := AuthCore.transparent_collisionFree
  refine ⟨rfl, longEntry_shape free (by decide) grantEntry_shape, rfl, ?_, ⟨rfl, rfl⟩, ?_⟩
  · refine (AuthCore.sign_eq_ok quotaLedgerIntegrityKey_valid).mpr ⟨?_, longEntry_tag _ _ _⟩
    rw [signedGrant, (longEntry_sizes _ _ _).1, grantEntry_sizes.1]
  · intro ha
    obtain ⟨ordered, perm, _, valid⟩ := (verifyQuotaLedger_iff free).mp ha
    have fits := (valid _ (perm.mem_iff.mpr (mem_singleton_self _))).fits
    rw [signedGrant, (longEntry_sizes _ _ _).2, grantEntry_sizes.2] at fits
    exact absurd fits (by decide)

end AsterTeam
