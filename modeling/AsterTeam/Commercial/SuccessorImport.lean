import AsterTeam.Commercial.PaidRuns
import AsterTeam.LicenseState.AntiReplay

/-! The documents that follow one another in the tables of paid licences are documents that
may follow one another in the history of an installation.
-/

namespace AsterTeam

open List
open Relational (Table)
open Transition (Run)

theorem formatTime_mono (le : first ≤ second) : formatTime first ≤ formatTime second := by
  unfold formatTime
  omega

theorem formatTime_formatTime (now : Int) : formatTime (formatTime now) = formatTime now := by
  unfold formatTime
  omega

section

variable {Terms : Type} [DecidableEq Terms] {format : PaidFormat Terms}

/-- Approvals are stored without the digits below a millisecond. -/
structure PaidStore.Timed (store : PaidStore Terms) : Prop where
  fulfillments
    : ∀ record ∈ store.fulfillments.rows,
        formatTime record.snapshot.approvedAt = record.snapshot.approvedAt
  transfers
    : ∀ record ∈ store.transfers.rows,
        formatTime record.snapshot.approvedAt = record.snapshot.approvedAt

variable {store : PaidStore Terms}

theorem PaidStore.Timed.change {next : PaidStore Terms} (timed : store.Timed)
    (hc : store.Chained format) (change : PaidChange format store next)
    : next.Timed := by
  cases change with
  | unchanged => exact timed
  | transferApproved hs isLast current hm transfers fulfillments lifecycles =>
    have chain := hc.chain_of_last hs isLast
    have position :=
      (chain.position (hc.fulfillmentsValid _ hs) (hc.chainValid _)).1
    have ht := (newPaidTransfer_eq_ok hm position).2.2.2.2
    refine ⟨fulfillments ▸ timed.fulfillments, fun record hr => ?_⟩
    rw [transfers, mem_append, mem_singleton] at hr
    rcases hr with earlier | hn
    · exact timed.transfers record earlier
    · rw [hn, ht, formatTime_formatTime]
  | @transferMoved record progress hs hl advances valid =>
    refine ⟨timed.fulfillments, fun other ho => ?_⟩
    rcases (updateTransfer_replaces hs progress).mem_iff.mp ho with
      hr | ⟨isStored, _⟩
    · rw [hr]
      exact timed.transfers record hs
    · exact timed.transfers other isStored
  | fulfillmentApproved _ _ hti _ fulfillments transfers =>
    refine ⟨fun record hr => ?_, transfers ▸ timed.transfers⟩
    rw [fulfillments, mem_append, mem_singleton] at hr
    rcases hr with earlier | hn
    · exact timed.fulfillments record earlier
    · obtain ⟨now, ht⟩ := hti
      rw [hn, ht, formatTime_formatTime]
  | @fulfillmentMoved record progress hs advances valid =>
    refine ⟨fun other ho => ?_, timed.transfers⟩
    rcases (updateFulfillment_replaces hs progress).mem_iff.mp ho with
      hr | ⟨isStored, _⟩
    · rw [hr]
      exact timed.fulfillments record hs
    · exact timed.fulfillments other isStored

theorem PaidRun.reaches (run : PaidRun format .empty transactions store)
    : store.Chained format ∧ store.Timed := by
  refine @Run.invariant _ _ _ (fun store => store.Chained format ∧ store.Timed)
    (fun step hh => ?_) _ _ _ run ⟨PaidStore.chained_empty, ?_⟩
  · exact ⟨hh.1.change step.change, hh.2.change hh.1 step.change⟩
  · exact ⟨fun _ hs => absurd hs not_mem_nil, fun _ hs => absurd hs not_mem_nil⟩

theorem PaidProgress.validate_document {progress : PaidProgress Terms}
    {issued : IssuedDocument Terms}
    {claimsOf : String → Int → Except CommercialError (ClaimsV2 Terms)}
    (valid : progress.validate format claimsOf) (hi : progress.issuedDocument = some issued)
    : issued.2.1.claims = issued.1 := by
  cases progress with
  | approved => cases hi
  | prepared => cases hi
  | issued =>
    cases hi
    simp only [PaidProgress.validate, Bool.and_eq_true, decide_eq_true_eq] at valid
    exact valid.1.2

variable {fulfillment : PaidFulfillmentRecord Terms}

/-- The last document of a chain carries its claims. -/
theorem TransferChain.document (chain : TransferChain fulfillment transfers (some last))
    (valid : fulfillment.validate format) (ht : ∀ record ∈ transfers, record.validate format)
    : last.2.1.claims = last.1 := by
  generalize isLast : some last = issued at chain
  cases chain with
  | initial =>
    simp only [PaidFulfillmentRecord.validate, Bool.and_eq_true] at valid
    exact PaidProgress.validate_document valid.2 isLast.symm
  | @transferred before previous record chain follows =>
    have hr := ht record (by simp)
    simp only [PaidTransferRecord.validate, Bool.and_eq_true] at hr
    exact PaidProgress.validate_document hr.2 isLast.symm

/-- The documents of a chain are issued one after another. -/
theorem TransferChain.approvedAt_le (chain : TransferChain fulfillment transfers (some last))
    (valid : fulfillment.validate format) (ht : ∀ record ∈ transfers, record.validate format)
    : fulfillment.snapshot.approvedAt ≤ last.1.issuedAt := by
  generalize isLast : some last = issued at chain
  induction chain generalizing last with
  | initial =>
    exact (fulfillment.claims_of_valid valid (PaidProgress.claims_of_issued isLast.symm)).approved
  | @transferred before previous record chain follows ih =>
    have claims := record.claims_of_valid (ht record (by simp))
      (PaidProgress.claims_of_issued isLast.symm)
    have earlier := ih (fun other ho =>
      ht other (mem_append_left _ ho)) rfl
    calc
      fulfillment.snapshot.approvedAt ≤ previous.1.issuedAt := earlier
      _ = record.snapshot.previousIssuedAt := follows.issuedAt.symm
      _ ≤ record.snapshot.approvedAt := claims.later
      _ ≤ last.1.issuedAt := claims.approved

/-- The claims that the tables give after other claims: those of a renewal or an upgrade of
them, or those of a transfer of the document that carries them.
-/
inductive Succeeds (format : PaidFormat Terms) (store : PaidStore Terms)
    : ClaimsV2 Terms → ClaimsV2 Terms → Prop
  | lifecycle {record : PaidFulfillmentRecord Terms} {source : PaidLifecycleSource Terms}
    {keyId : String} {issuedAt : Int} {claims : ClaimsV2 Terms}
    (stored : record ∈ store.fulfillments.rows) (isSource : source ∈ record.snapshot.lifecycle)
    (made : record.snapshot.claims format keyId issuedAt = .ok claims)
    : Succeeds format store source.document.claims claims
  | transfer {fulfillment : PaidFulfillmentRecord Terms} {record : PaidTransferRecord Terms}
    {index : Nat} {previous : IssuedDocument Terms} {keyId : String} {issuedAt : Int}
    {claims : ClaimsV2 Terms} (stored : fulfillment ∈ store.fulfillments.rows)
    (isRecord : (store.transfersOf fulfillment.snapshot.id)[index]? = some record)
    (isPrevious
      : issuedBefore fulfillment (store.transfersOf fulfillment.snapshot.id) index = some previous)
    (made : record.snapshot.claims format keyId issuedAt = .ok claims)
    : Succeeds format store previous.1 claims

/-- Claims that move on: with a new identity strictly later, with the same one by a
transfer.
-/
structure ClaimsV2.MovesTo (previous claims : ClaimsV2 Terms) : Prop where
  previousOrigin : previous.origin = .commercialOrder
  origin : claims.origin = .commercialOrder
  moves
    : previous.licenseId ≠ claims.licenseId ∧ previous.issuedAt < claims.issuedAt
      ∨ previous.licenseId = claims.licenseId ∧ previous.issuedAt ≤ claims.issuedAt
        ∧ previous.binding.transferSequence < claims.binding.transferSequence

variable {record : PaidFulfillmentRecord Terms}

theorem PaidFulfillmentRecord.source_issuedAt_lt (valid : record.validate format)
    (hs : source ∈ record.snapshot.lifecycle)
    : source.document.claims.issuedAt < record.snapshot.approvedAt := by
  simp only [PaidFulfillmentRecord.validate, PaidFulfillmentSnapshot.validate,
    Bool.and_eq_true] at valid
  have lifecycle := valid.1.1.2
  rw [Option.mem_def.mp hs, Option.all_some, Bool.and_eq_true] at lifecycle
  have successor := lifecycle.1
  simp only [PaidLifecycleSource.validateSuccessor, Bool.and_eq_true,
    decide_eq_true_eq] at successor
  exact successor.1.2

variable {keyId : String} {issuedAt : Int}

/-- A renewal or an upgrade has a new identity and is issued strictly later. -/
theorem PaidStore.Chained.lifecycle_movesTo (hc : store.Chained format)
    (timed : store.Timed) (hst : record ∈ store.fulfillments.rows)
    (hs : source ∈ record.snapshot.lifecycle)
    (hm : record.snapshot.claims format keyId issuedAt = .ok claims)
    : source.document.claims.MovesTo claims := by
  obtain ⟨fulfillment, issued, hf⟩ :=
    hc.frozen _ (hc.recorded record hst source hs)
  have chain := hc.chain_of_last hf.stored hf.isLast
  have valid := hc.fulfillmentsValid fulfillment hf.stored
  have ht := hc.chainValid fulfillment.snapshot.id
  obtain ⟨_, licenseId, origin⟩ := chain.position valid ht
  have hd : source.document.claims = issued.1 := by
    rw [hf.document]
    exact chain.document valid ht
  have later := record.source_issuedAt_lt (hc.fulfillmentsValid record hst) hs
  have said := PaidFulfillmentSnapshot.claims_eq_ok hm
  refine ⟨by rw [hd]; exact origin, said.origin, .inl ⟨?_, ?_⟩⟩
  · rw [hd, licenseId, said.licenseId]
    intro same
    -- A source with the id of its own successor would have been issued after it.
    cases fulfillment_eq_of_id hf.stored hst (by simpa using same)
    have earlier := chain.approvedAt_le valid ht
    rw [hd] at later
    omega
  · calc
      source.document.claims.issuedAt < record.snapshot.approvedAt := later
      _ = formatTime record.snapshot.approvedAt := (timed.fulfillments record hst).symm
      _ ≤ formatTime issuedAt := formatTime_mono said.approved
      _ = claims.issuedAt := said.issuedAt.symm

/-- A transfer keeps the identity, is not issued earlier and has the next sequence. -/
theorem PaidStore.Chained.transfer_movesTo (hc : store.Chained format) (timed : store.Timed)
    {record : PaidTransferRecord Terms} (hst : fulfillment ∈ store.fulfillments.rows)
    (hr : (store.transfersOf fulfillment.snapshot.id)[index]? = some record)
    (hp : issuedBefore fulfillment (store.transfersOf fulfillment.snapshot.id) index
        = some previous) (hm : record.snapshot.claims format keyId issuedAt = .ok claims)
    : previous.1.MovesTo claims := by
  have hs := (mem_transfersOf.mp (mem_of_getElem? hr)).1
  rw [hc.transfersOf] at hr hp
  obtain ⟨other, before, follows⟩ := (hc.chains fulfillment hst).before hr
  obtain rfl : other = previous := Option.some.inj (before.isLast.trans hp)
  have valid := hc.fulfillmentsValid fulfillment hst
  obtain ⟨position, licenseId, origin⟩ := before.position valid fun transfer ht =>
    hc.chainValid _ transfer (mem_of_mem_take ht)
  have said := PaidTransferSnapshot.claims_eq_ok hm
  have original := fulfillment.claims_of_valid valid follows.original
  refine ⟨origin, said.origin, .inr ⟨?_, ?_, ?_⟩⟩
  · rw [licenseId, said.licenseId, original.licenseId]
  · calc
      other.1.issuedAt = record.snapshot.previousIssuedAt := follows.issuedAt.symm
      _ ≤ record.snapshot.approvedAt := said.later
      _ = formatTime record.snapshot.approvedAt := (timed.transfers record hs).symm
      _ ≤ formatTime issuedAt := formatTime_mono said.approved
      _ = claims.issuedAt := said.issuedAt.symm
  · rw [position, said.sequence, follows.sequence]
    exact Nat.lt_succ_of_le (length_take_le _ _)

theorem Succeeds.movesTo (hsu : Succeeds format store previous claims) (hc : store.Chained format)
    (timed : store.Timed)
    : previous.MovesTo claims := by
  cases hsu with
  | lifecycle hst hs hm =>
    exact hc.lifecycle_movesTo timed hst hs hm
  | transfer hst hr hp hm =>
    exact hc.transfer_movesTo timed hst hr hp hm

end

section

variable {Terms : Type} {verify : List UInt8 → Option LicenseClaims} {digest : List UInt8 → String}

/-- What an installation reads of the claims of a document. -/
structure ClaimsV2.ReadAs (claims : ClaimsV2 Terms) (license : LicenseClaims) : Prop where
  licenseId : license.licenseId = claims.licenseId
  issuedAt : license.issuedAt = claims.issuedAt
  notBefore : license.notBefore = claims.notBefore
  expiresAt : license.expiresAt = claims.expiresAt
  origin : license.origin = claims.origin
  binding : license.binding = claims.binding

variable {history : StateClaims}

/-- Claims that move on are accepted where the claims before are recorded. -/
theorem ClaimsV2.MovesTo.accepted {previous claims : ClaimsV2 Terms}
    (hm : previous.MovesTo claims) {predecessor successor : VerifiedProductLicense verify}
    (hn : history.Names digest predecessor) (position : history.At predecessor)
    (readPrevious : previous.ReadAs predecessor.claims) (readNext : claims.ReadAs successor.claims)
    : validateLicenseProgress digest history successor = .ok () := by
  have paid : successor.isFreeDistribution = false := by
    rw [VerifiedProductLicense.isFreeDistribution, readNext.origin, hm.origin]
    rfl
  unfold validateLicenseProgress
  rw [if_neg (by simp [paid]), if_neg (by simp [isRecordedFree, isPublicFree, paid]), hn.licenseId]
  dsimp only
  rw [readPrevious.licenseId, readNext.licenseId, position.issuedAt, readPrevious.issuedAt,
    readNext.issuedAt]
  rcases hm.moves with ⟨hd, later⟩ | ⟨same, issuedAt, sequence⟩
  · rw [if_pos hd, if_neg (not_le.mpr later)]
  · rw [if_neg (not_not.mpr same), validateSameIdentity, position.issuedAt,
      position.sequence, readNext.issuedAt, readNext.binding, readPrevious.issuedAt,
      readPrevious.binding, if_neg, if_neg]
    · intro hu
      omega
    · intro rolledBack
      omega

variable {encoding : LicenseEncoding} {target : String}

/-- The history of an installation is that of the document it names. -/
theorem history_recorded {labels : List (StoreEvent verify × List FileWrite)}
    {system : StoreSystem verify} (run : Run (StoreStep encoding target) .initial labels system)
    (hh : system.files.history = some history)
    : history.Recorded verify encoding.digest := by
  have hi : @LicenseFiles.Intends verify encoding [] .empty := .of_idle rfl
  have histories := run_historyStep (run_fileMove run) hi
  refine @Run.invariant _ _ _
    (fun hr => ∀ history ∈ hr, history.Recorded verify encoding.digest)
    (fun step hho history hn => ?_) _ _ _ histories (fun _ hno => ?_) history
    hh
  · cases step with
    | record move =>
      cases hn
      exact move.recorded hho
  · cases hno

variable [DecidableEq Terms] {format : PaidFormat Terms}

/-- Every document that follows another one in the tables of paid licences is accepted by
every installation whose history names that other one.
-/
theorem successor_imports (distinct : DistinctDigests verify encoding.digest)
    {transactions : List (PaidTransaction Terms)} {store : PaidStore Terms}
    (issued : PaidRun format .empty transactions store)
    {labels : List (StoreEvent verify × List FileWrite)} {system : StoreSystem verify}
    (installed : Run (StoreStep encoding target) .initial labels system)
    {history : StateClaims} (isHistory : system.files.history = some history)
    {previous claims : ClaimsV2 Terms} (succeeds : Succeeds format store previous claims)
    {predecessor successor : VerifiedProductLicense verify}
    (readPrevious : previous.ReadAs predecessor.claims) (readNext : claims.ReadAs successor.claims)
    (current : history.lastLicenseSha256 = some (encoding.digest predecessor.source))
    : validateLicenseProgress encoding.digest history successor = .ok () := by
  obtain ⟨hc, timed⟩ := issued.reaches
  have hm := succeeds.movesTo hc timed
  obtain ⟨document, hn, position⟩ := history_recorded installed isHistory
  obtain rfl : document = predecessor :=
    distinct.eq (Option.some.inj (hn.sha256.symm.trans current))
  refine hm.accepted hn (position ?_) readPrevious readNext
  simp [isPublicFree, VerifiedProductLicense.isFreeDistribution, readPrevious.origin,
    hm.previousOrigin]

end

def sampleMovedClaims : ClaimsV2 Unit :=
  { sampleClaims with
    serial := "serial_t", requestId := "other machine"
    binding := .installation "other machine" "other machine" 1, issuedAt := 2000000 }

def samplePaidVerify : List UInt8 → Option LicenseClaims
  | [1] =>
    some ⟨"license_f", 1000000, 0, some 1000000000, .commercialOrder,
      .installation "machine" "machine" 0, by decide, by decide⟩
  | [2] =>
    some ⟨"license_f", 2000000, 0, some 1000000000, .commercialOrder,
      .installation "other machine" "other machine" 1, by decide, by decide⟩
  | _ => none

def samplePaidEncoding : LicenseEncoding :=
  { sampleEncoding with digest := fun source => if source = [1] then "document" else "moved" }

def samplePredecessor : VerifiedProductLicense samplePaidVerify := ⟨[1], _, rfl⟩
def sampleSuccessor : VerifiedProductLicense samplePaidVerify := ⟨[2], _, rfl⟩

theorem samplePaidVerify_source (hv : samplePaidVerify source = some claims)
    : source = [1] ∨ source = [2] := by
  unfold samplePaidVerify at hv
  split at hv
  · exact .inl rfl
  · exact .inr rfl
  · cases hv

theorem samplePaid_distinct : DistinctDigests samplePaidVerify samplePaidEncoding.digest := by
  intro first second same
  rcases samplePaidVerify_source first.verified with hf | hf <;>
    rcases samplePaidVerify_source second.verified with hs | hs <;>
    rw [hf, hs] at same ⊢ <;> revert same <;> decide

def sampleMoved : PaidStore Unit := sampleExecute sampleIssued sampleTransfer

theorem sampleMoved_run
    : PaidRun sampleFormat .empty (sampleTransactions ++ [sampleTransfer]) sampleMoved :=
  Transition.run_append.mpr
    ⟨sampleIssued, sampleIssued_run, .cons (.execute sampleReadings _ _) (.nil _)⟩

def sampleFulfillment : PaidFulfillmentRecord Unit :=
  sampleMoved.fulfillments.rows.head (by decide +kernel)

def sampleTransferred : PaidTransferRecord Unit :=
  sampleMoved.transfers.rows.head (by decide +kernel)

theorem sampleMoved_succeeds
    : Succeeds sampleFormat sampleMoved sampleClaims sampleMovedClaims := by
  have hc := sampleMoved_run.reaches.1.transfersOf sampleFulfillment.snapshot.id
  refine @Succeeds.transfer _ _ _ sampleFulfillment sampleTransferred 0
    (sampleClaims, ⟨sampleClaims, "document"⟩, "document") "key" 2000000 _
    (head_mem _) ?_ ?_ (by decide +kernel)
  · rw [hc]
    decide +kernel
  · rw [hc]
    decide +kernel

/-- An installation with the first document accepts the transferred one. -/
theorem sample_transferred_document_imports
    : ∃ (labels : List (StoreEvent samplePaidVerify × List FileWrite))
        (system : StoreSystem samplePaidVerify) (history : StateClaims),
        Run (StoreStep samplePaidEncoding "target") .initial labels system
        ∧ system.files.history = some history
        ∧ history.lastLicenseSha256 = some "document"
        ∧ validateLicenseProgress samplePaidEncoding.digest history sampleSuccessor = .ok () := by
  have run
      : ∃ (labels : List (StoreEvent samplePaidVerify × List FileWrite))
          (system : StoreSystem samplePaidVerify),
          Run (StoreStep samplePaidEncoding "target") .initial labels system
          ∧ (system.files.history.bind (·.lastLicenseSha256)) = some "document" :=
    ⟨_, _, .cons (.operation (.installDocument samplePredecessor 0) prefix_rfl) (.nil _),
      by decide +kernel⟩
  obtain ⟨labels, system, run, hd⟩ := run
  obtain ⟨history, hh, current⟩ := Option.bind_eq_some_iff.mp hd
  exact ⟨labels, system, history, run, hh, current,
    @successor_imports Unit samplePaidVerify samplePaidEncoding "target" _ sampleFormat
      samplePaid_distinct _ _ sampleMoved_run _ _ run _ hh _ _ sampleMoved_succeeds
      samplePredecessor sampleSuccessor ⟨rfl, rfl, rfl, rfl, rfl, rfl⟩
      ⟨rfl, rfl, rfl, rfl, rfl, rfl⟩ current⟩

end AsterTeam
