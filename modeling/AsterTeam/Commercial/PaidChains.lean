import AsterTeam.Commercial.TransferChain

/-! The chains of documents in every reachable state of the tables. -/

namespace AsterTeam

open List
open Relational (Table guard_of_ok)

section

variable {Terms : Type} [DecidableEq Terms] {format : PaidFormat Terms}

omit [DecidableEq Terms] in
theorem PaidProgress.claims_of_issued {progress : PaidProgress Terms}
    {issued : IssuedDocument Terms} (hi : progress.issuedDocument = some issued)
    : progress.claims = some issued.1 := by
  cases progress with
  | approved => cases hi
  | prepared => cases hi
  | issued claims document documentSha256 =>
    cases hi
    rfl

variable {claims : ClaimsV2 Terms}

theorem PaidProgress.validate_claims {progress : PaidProgress Terms}
    (valid : progress.validate format claimsOf) (hc : progress.claims = some claims)
    : claimsOf claims.keyId claims.issuedAt = .ok claims := by
  cases progress with
  | approved => cases hc
  | prepared =>
    cases hc
    simpa [PaidProgress.validate] using valid
  | issued =>
    cases hc
    simp only [PaidProgress.validate, Bool.and_eq_true, decide_eq_true_eq] at valid
    exact valid.1.1.1

structure FulfillmentClaims (snapshot : PaidFulfillmentSnapshot Terms)
    (claims : ClaimsV2 Terms) (issuedAt : Int)
    : Prop where
  licenseId : claims.licenseId = "license_" ++ snapshot.id
  origin : claims.origin = .commercialOrder
  sequence : claims.binding.transferSequence = 0
  approved : snapshot.approvedAt ≤ issuedAt
  issuedAt : claims.issuedAt = formatTime issuedAt

structure TransferClaims (snapshot : PaidTransferSnapshot Terms) (claims : ClaimsV2 Terms)
    (issuedAt : Int)
    : Prop where
  licenseId : claims.licenseId = snapshot.originalClaims.licenseId
  origin : claims.origin = .commercialOrder
  sequence : claims.binding.transferSequence = snapshot.transferSequence
  approved : snapshot.approvedAt ≤ issuedAt
  issuedAt : claims.issuedAt = formatTime issuedAt
  later : snapshot.previousIssuedAt ≤ snapshot.approvedAt

variable {snapshot : PaidTransferSnapshot Terms} {keyId : String} {issuedAt : Int}

omit [DecidableEq Terms] in
theorem PaidFulfillmentSnapshot.claims_eq_ok {snapshot : PaidFulfillmentSnapshot Terms}
    (hm : snapshot.claims format keyId issuedAt = .ok claims)
    : FulfillmentClaims snapshot claims issuedAt := by
  unfold PaidFulfillmentSnapshot.claims at hm
  obtain ⟨_, hm⟩ := guard_of_ok hm
  obtain ⟨early, hm⟩ := guard_of_ok hm
  dsimp only at hm
  split_ifs at hm
  have hc := Except.ok.inj hm
  refine ⟨?_, ?_, ?_, not_lt.mp early, ?_⟩
  · rw [← hc]
  · rw [← hc]
  · rw [← hc]
    rfl
  · rw [← hc]

theorem PaidFulfillmentRecord.claims_of_valid {record : PaidFulfillmentRecord Terms}
    (valid : record.validate format) (hc : record.progress.claims = some claims)
    : FulfillmentClaims record.snapshot claims claims.issuedAt := by
  simp only [PaidFulfillmentRecord.validate, Bool.and_eq_true] at valid
  exact PaidFulfillmentSnapshot.claims_eq_ok (PaidProgress.validate_claims valid.2 hc)

omit [DecidableEq Terms] in
theorem PaidTransferSnapshot.validate_facts (valid : snapshot.validate format)
    : snapshot.originalClaims.origin = .commercialOrder
      ∧ snapshot.previousBinding.transferSequence + 1 = snapshot.transferSequence
      ∧ snapshot.transferSequence ≤ snapshot.transferLimit
      ∧ snapshot.previousIssuedAt ≤ snapshot.approvedAt := by
  simp only [PaidTransferSnapshot.validate, Bool.and_eq_true, decide_eq_true_eq] at valid
  refine ⟨?_, ?_, ?_, ?_⟩ <;> tauto

omit [DecidableEq Terms] in
theorem PaidTransferSnapshot.claims_eq_ok (hm : snapshot.claims format keyId issuedAt = .ok claims)
    : TransferClaims snapshot claims issuedAt := by
  unfold PaidTransferSnapshot.claims at hm
  obtain ⟨valid, hm⟩ := guard_of_ok hm
  obtain ⟨early, hm⟩ := guard_of_ok hm
  rw [Bool.not_eq_true, Bool.not_eq_false'] at valid
  obtain ⟨origin, _, _, later⟩ := PaidTransferSnapshot.validate_facts valid
  dsimp only at hm
  split_ifs at hm
  have hc := Except.ok.inj hm
  rw [Bool.or_eq_true, decide_eq_true_eq, not_or] at early
  refine ⟨?_, ?_, ?_, not_lt.mp early.1, ?_, later⟩
  · rw [← hc]
  · rw [← hc]
    exact origin
  · rw [← hc]
    rfl
  · rw [← hc]

variable {record : PaidTransferRecord Terms}

theorem PaidTransferRecord.claims_of_valid (valid : record.validate format)
    (hc : record.progress.claims = some claims)
    : TransferClaims record.snapshot claims claims.issuedAt := by
  simp only [PaidTransferRecord.validate, Bool.and_eq_true] at valid
  exact PaidTransferSnapshot.claims_eq_ok (PaidProgress.validate_claims valid.2 hc)

variable {fulfillment : PaidFulfillmentRecord Terms}

/-- A new transfer continues the document that it is made from. -/
theorem newPaidTransfer_eq_ok {id actor : String} {now : Int} {count : Nat}
    (hm : newPaidTransfer format id input fulfillment previous.1 previous.2.2 actor now
        = .ok record) (position : previous.1.binding.transferSequence = count)
    : record.progress = .approved ∧ record.validate format
      ∧ record.snapshot.fulfillmentId = fulfillment.snapshot.id
      ∧ record.Follows fulfillment count previous
      ∧ record.snapshot.approvedAt = formatTime now := by
  unfold newPaidTransfer at hm
  split at hm
  next original _ _ isIssued =>
    obtain ⟨_, hm⟩ := guard_of_ok hm
    split at hm
    · cases hm
    · dsimp only at hm
      split_ifs at hm with valid
      have hl := (PaidTransferSnapshot.validate_facts valid).2.2.1
      cases hm
      refine ⟨rfl, ?_, rfl, ⟨?_, rfl, hl, rfl, rfl, rfl, ?_⟩, rfl⟩
      · simp [PaidTransferRecord.validate, PaidProgress.validate, valid]
      · dsimp only
        rw [position]
      · rw [isIssued]
        rfl
  · cases hm

/-- The last document of a chain counts its transfers and keeps the identity of the
fulfilment.
-/
theorem TransferChain.position {transfers : List (PaidTransferRecord Terms)}
    {last : IssuedDocument Terms} (chain : TransferChain fulfillment transfers (some last))
    (valid : fulfillment.validate format) (ht : ∀ record ∈ transfers, record.validate format)
    : last.1.binding.transferSequence = transfers.length
      ∧ last.1.licenseId = "license_" ++ fulfillment.snapshot.id
      ∧ last.1.origin = .commercialOrder := by
  generalize isLast : some last = issued at chain
  cases chain with
  | initial =>
    have claims := fulfillment.claims_of_valid valid (PaidProgress.claims_of_issued isLast.symm)
    exact ⟨claims.sequence, claims.licenseId, claims.origin⟩
  | @transferred before previous record chain follows =>
    have claims := record.claims_of_valid (ht record (by simp))
      (PaidProgress.claims_of_issued isLast.symm)
    have original := fulfillment.claims_of_valid valid follows.original
    refine ⟨?_, claims.licenseId.trans original.licenseId, claims.origin⟩
    rw [claims.sequence, follows.sequence, length_append, length_singleton]

end

section

variable {Terms : Type}

def PaidStore.chainOf (store : PaidStore Terms) (fulfillmentId : String)
    : List (PaidTransferRecord Terms) :=
  store.transfers.selectAll (·.snapshot.fulfillmentId) fulfillmentId

variable {store : PaidStore Terms} {record : PaidTransferRecord Terms}

theorem mem_chainOf
    : record ∈ store.chainOf fulfillmentId
      ↔ record ∈ store.transfers.rows ∧ record.snapshot.fulfillmentId = fulfillmentId :=
  Table.mem_selectAll

variable {fulfillment : PaidFulfillmentRecord Terms} {transfers : List (PaidTransferRecord Terms)}

/-- The chain ends where no other record can be added to it. -/
theorem TransferChain.of_concat (chain : TransferChain fulfillment (transfers ++ [record]) last)
    : ∃ previous,
        TransferChain fulfillment transfers (some previous)
        ∧ record.Follows fulfillment transfers.length previous := by
  generalize ha : transfers ++ [record] = all at chain
  cases chain with
  | initial => simp at ha
  | @transferred before previous newest chain follows =>
    obtain ⟨rfl, hn⟩ := append_inj' ha rfl
    cases hn
    exact ⟨previous, chain, follows⟩

theorem TransferChain.moved (chain : TransferChain fulfillment (transfers ++ [record]) last)
    (progress : PaidProgress Terms)
    : TransferChain fulfillment (transfers ++ [{ record with progress }])
        progress.issuedDocument := by
  obtain ⟨previous, before, follows⟩ := chain.of_concat
  exact .transferred { record with progress } before { follows with }

variable [DecidableEq Terms] {format : PaidFormat Terms}

structure PaidStore.Chained (format : PaidFormat Terms) (store : PaidStore Terms)
    : Prop where
  fulfillmentsValid
    : ∀ record ∈ store.fulfillments.rows, record.validate format = true
  transfersValid : ∀ record ∈ store.transfers.rows, record.validate format = true
  owned
    : ∀ record ∈ store.transfers.rows,
        ∃ fulfillment ∈ store.fulfillments.rows,
          fulfillment.snapshot.id = record.snapshot.fulfillmentId
  chains
    : ∀ fulfillment ∈ store.fulfillments.rows,
        TransferChain fulfillment (store.chainOf fulfillment.snapshot.id)
          (lastIssued fulfillment (store.chainOf fulfillment.snapshot.id))
  frozen
    : ∀ row ∈ store.lifecycles.rows,
        ∃ fulfillment issued, FrozenFrom store row.source fulfillment issued
  recorded
    : ∀ fulfillment ∈ store.fulfillments.rows,
        ∀ source ∈ fulfillment.snapshot.lifecycle,
          ⟨fulfillment.snapshot.id, source⟩ ∈ store.lifecycles.rows

namespace PaidStore.Chained

/-- The order of the approvals is that of the sequences. -/
theorem transfersOf (hch : store.Chained format) (fulfillmentId : String)
    : store.transfersOf fulfillmentId = store.chainOf fulfillmentId := by
  cases hc : store.chainOf fulfillmentId with
  | nil =>
    change (store.chainOf fulfillmentId).mergeSort _ = []
    rw [hc, mergeSort_nil]
  | cons record rest =>
    obtain ⟨hs, ho⟩ := mem_chainOf.mp (hc ▸ mem_cons_self)
    obtain ⟨fulfillment, hf, hi⟩ := hch.owned record hs
    rw [← hc, ← ho, ← hi]
    exact (hch.chains fulfillment hf).sorted

theorem chain_of_last (hc : store.Chained format) (hs : fulfillment ∈ store.fulfillments.rows)
    (isLast : lastIssued fulfillment (store.transfersOf fulfillment.snapshot.id) = some last)
    : TransferChain fulfillment (store.chainOf fulfillment.snapshot.id) (some last) := by
  rw [hc.transfersOf] at isLast
  rw [← isLast]
  exact hc.chains fulfillment hs

theorem chainValid (hc : store.Chained format) (fulfillmentId : String)
    : ∀ record ∈ store.chainOf fulfillmentId, record.validate format :=
  fun record hr => hc.transfersValid record (mem_chainOf.mp hr).1

end PaidStore.Chained

section

omit [DecidableEq Terms]

theorem transfersOf_congr {next : PaidStore Terms}
    (same : next.chainOf fulfillmentId = store.chainOf fulfillmentId)
    : next.transfersOf fulfillmentId = store.transfersOf fulfillmentId := by
  change (next.chainOf fulfillmentId).mergeSort _ = (store.chainOf fulfillmentId).mergeSort _
  rw [same]

theorem chainOf_append {next : PaidStore Terms}
    (transfers : next.transfers.rows = store.transfers.rows ++ [record]) (fulfillmentId : String)
    : next.chainOf fulfillmentId
      = if record.snapshot.fulfillmentId = fulfillmentId
        then store.chainOf fulfillmentId ++ [record] else store.chainOf fulfillmentId :=
  Table.selectAll_of_rows_append transfers fulfillmentId

theorem FrozenFrom.kept {next : PaidStore Terms}
    (frozen : FrozenFrom store source fulfillment issued)
    (stored : fulfillment ∈ next.fulfillments.rows)
    (same : next.chainOf fulfillment.snapshot.id = store.chainOf fulfillment.snapshot.id)
    : FrozenFrom next source fulfillment issued :=
  { frozen with
    stored
    isLast := by
      rw [transfersOf_congr same]
      exact frozen.isLast }

end

variable {next : PaidStore Terms}

variable {id : String} {progress : PaidProgress Terms}

theorem PaidStore.Chained.transferApproved (hc : store.Chained format)
    (hs : fulfillment ∈ store.fulfillments.rows)
    (isLast : lastIssued fulfillment (store.transfersOf fulfillment.snapshot.id) = some previous)
    (current : ∀ row ∈ store.lifecycles.rows, row.source.sourceId ≠ fulfillment.snapshot.id)
    (hm : newPaidTransfer format id input fulfillment previous.1 previous.2.2 actor now
      = .ok record)
    (transfers : next.transfers.rows = store.transfers.rows ++ [record])
    (fulfillments : next.fulfillments = store.fulfillments)
    (lifecycles : next.lifecycles = store.lifecycles)
    : next.Chained format := by
  have chain := hc.chain_of_last hs isLast
  obtain ⟨position, _, _⟩ :=
    chain.position (hc.fulfillmentsValid fulfillment hs) (hc.chainValid _)
  obtain ⟨approved, valid, how, follows, _⟩ := newPaidTransfer_eq_ok hm position
  have ha := chainOf_append transfers
  refine
    { fulfillmentsValid := by rw [fulfillments]; exact hc.fulfillmentsValid
      transfersValid := ?_
      owned := ?_
      chains := ?_
      frozen := ?_
      recorded := by rw [fulfillments, lifecycles]; exact hc.recorded }
  · intro other ho
    rw [transfers, mem_append, mem_singleton] at ho
    rcases ho with earlier | hr
    · exact hc.transfersValid other earlier
    · rw [hr]
      exact valid
  · intro other ho
    rw [transfers, mem_append, mem_singleton] at ho
    rw [fulfillments]
    rcases ho with earlier | hr
    · exact hc.owned other earlier
    · rw [hr]
      exact ⟨fulfillment, hs, how.symm⟩
  · intro other ho
    rw [fulfillments] at ho
    rw [ha]
    split_ifs with same
    · rw [how] at same
      cases fulfillment_eq_of_id hs ho same
      have he := TransferChain.transferred record chain follows
      rw [← he.isLast]
      exact he
    · exact hc.chains other ho
  · intro row hro
    rw [lifecycles] at hro
    obtain ⟨source, issued, hf⟩ := hc.frozen row hro
    refine ⟨source, issued, hf.kept (by rw [fulfillments]; exact hf.stored) ?_⟩
    rw [ha, if_neg]
    intro same
    exact current row hro (hf.isSource.trans (same.symm.trans how))

section

omit [DecidableEq Terms]

theorem PaidProgress.Advances.notIssued {next : PaidProgress Terms} (ha : progress.Advances next)
    : progress.issuedDocument = none := by
  cases ha with
  | prepares claims => rfl
  | completes claims document documentSha256 => rfl

/-- A fulfilment without a document has no transfers. -/
theorem TransferChain.eq_nil (chain : TransferChain fulfillment transfers last)
    (notIssued : fulfillment.progress.issuedDocument = none)
    : transfers = [] := by
  cases chain with
  | initial => rfl
  | transferred record chain follows =>
    have hi := chain.all_issued.1
    rw [notIssued] at hi
    cases hi

theorem updateTransfer_replaces (hs : record ∈ store.transfers.rows) (progress : PaidProgress Terms)
    : store.transfers.Replaces
        (store.updateTransfer record.snapshot.id record.progress.status progress).transfers
        record { record with progress } := by
  refine @Table.updateWhere_replaces _ _ _ record _ _ (keeps_transfer_progress progress) hs
    (by simp) fun other ho hse => ?_
  simp only [Bool.and_eq_true, decide_eq_true_eq] at hse
  exact transfer_eq_of_id ho hs hse.1

theorem updateFulfillment_replaces {record : PaidFulfillmentRecord Terms}
    (hs : record ∈ store.fulfillments.rows) (progress : PaidProgress Terms)
    : store.fulfillments.Replaces
        (store.updateFulfillment record.snapshot.id record.progress.status progress).fulfillments
        record { record with progress } := by
  refine @Table.updateWhere_replaces _ _ _ record _ _ (keeps_fulfillment_progress progress) hs
    (by simp) fun other ho hse => ?_
  simp only [Bool.and_eq_true, decide_eq_true_eq] at hse
  exact fulfillment_eq_of_id ho hs hse.1

theorem chainOf_updateTransfer (fulfillmentId : String)
    : (store.updateTransfer id status progress).chainOf fulfillmentId
      = (store.chainOf fulfillmentId).map fun row =>
          if row.snapshot.id = id && row.progress.status = status
          then { row with progress } else row := by
  unfold PaidStore.chainOf Table.selectAll PaidStore.updateTransfer Table.updateWhere
  rw [filter_map]
  congr 1
  apply filter_congr
  intro row _
  simp only [Function.comp_apply]
  split_ifs <;> rfl

/-- Records beside the one that moves on stay as they are. -/
theorem map_moved (hst : record ∈ store.transfers.rows)
    (hw : ∀ other ∈ transfers, other ∈ store.transfers.rows ∧ other ≠ record)
    : transfers.map
        (fun row =>
          if row.snapshot.id = record.snapshot.id && row.progress.status = record.progress.status
          then { row with progress } else row)
      = transfers := by
  conv_rhs => rw [← map_id transfers]
  apply map_congr_left
  intro other ho
  obtain ⟨hs, hd⟩ := hw other ho
  refine if_neg fun hse => hd ?_
  simp only [Bool.and_eq_true, decide_eq_true_eq] at hse
  exact transfer_eq_of_id hs hst hse.1

theorem chainOf_other (hs : record ∈ store.transfers.rows)
    (hd : record ∉ store.chainOf fulfillmentId)
    : (store.updateTransfer record.snapshot.id record.progress.status progress).chainOf
        fulfillmentId
      = store.chainOf fulfillmentId := by
  rw [chainOf_updateTransfer]
  refine map_moved hs fun other ho => ⟨(mem_chainOf.mp ho).1, ?_⟩
  intro same
  exact hd (same ▸ ho)

end

theorem PaidStore.Chained.transferMoved (hch : store.Chained format)
    (hst : record ∈ store.transfers.rows)
    (hl : (store.transfersOf record.snapshot.fulfillmentId).getLast? = some record)
    (ha : record.progress.Advances progress)
    (valid : PaidTransferRecord.validate format { record with progress })
    : (store.updateTransfer record.snapshot.id record.progress.status progress).Chained format := by
  have hre := updateTransfer_replaces hst progress
  rw [hch.transfersOf] at hl
  refine
    { fulfillmentsValid := hch.fulfillmentsValid
      transfersValid := ?_
      owned := ?_
      chains := ?_
      frozen := ?_
      recorded := hch.recorded }
  · intro other ho
    rcases hre.mem_iff.mp ho with hr | ⟨hs, _⟩
    · rw [hr]
      exact valid
    · exact hch.transfersValid other hs
  · intro other ho
    rcases hre.mem_iff.mp ho with hr | ⟨hs, _⟩
    · rw [hr]
      exact hch.owned record hst
    · exact hch.owned other hs
  · intro fulfillment hs
    have chain := hch.chains fulfillment hs
    by_cases hm : record ∈ store.chainOf fulfillment.snapshot.id
    · obtain ⟨_, how⟩ := mem_chainOf.mp hm
      rw [how] at hl
      obtain ⟨before, hc⟩ := getLast?_eq_some_iff.mp hl
      rw [chainOf_updateTransfer, hc, map_append, map_singleton, if_pos (by simp), map_moved hst]
      · rw [hc] at chain
        have moved := chain.moved progress
        rw [← moved.isLast]
        exact moved
      · intro other ho
        refine ⟨(mem_chainOf.mp (hc ▸ mem_append_left _ ho)).1, ?_⟩
        intro same
        rw [hc] at chain
        obtain ⟨previous, chainBefore, _⟩ := chain.of_concat
        have hi := chainBefore.all_issued.2 other ho
        rw [same, ha.notIssued] at hi
        cases hi
    · rw [chainOf_other hst hm]
      exact chain
  · intro row hro
    obtain ⟨fulfillment, issued, hf⟩ := hch.frozen row hro
    refine ⟨fulfillment, issued, hf.kept hf.stored (chainOf_other hst ?_)⟩
    intro hm
    have hi := (hch.chain_of_last hf.stored hf.isLast).all_issued.2 record hm
    rw [ha.notIssued] at hi
    cases hi

theorem PaidStore.Chained.fulfillmentApproved {record : PaidFulfillmentRecord Terms}
    (hc : store.Chained format) (valid : record.validate format)
    (hfr : ∀ stored ∈ store.fulfillments.rows, stored.snapshot.id ≠ record.snapshot.id)
    (fulfillments : next.fulfillments.rows = store.fulfillments.rows ++ [record])
    (transfers : next.transfers = store.transfers)
    (lifecycles : record.snapshot.lifecycle = none ∧ next.lifecycles = store.lifecycles
        ∨ ∃ source fulfillment issued,
            record.snapshot.lifecycle = some source
            ∧ FrozenFrom store source fulfillment issued
            ∧ next.lifecycles.rows = store.lifecycles.rows ++ [⟨record.snapshot.id, source⟩])
    : next.Chained format := by
  have hsa (id : String) : next.chainOf id = store.chainOf id := by
    unfold PaidStore.chainOf
    rw [transfers]
  have kept {fulfillment : PaidFulfillmentRecord Terms}
      (stored : fulfillment ∈ store.fulfillments.rows)
      : fulfillment ∈ next.fulfillments.rows :=
    fulfillments ▸ mem_append_left _ stored
  have hn {fulfillment : PaidFulfillmentRecord Terms}
      (stored : fulfillment ∈ next.fulfillments.rows)
      : fulfillment ∈ store.fulfillments.rows ∨ fulfillment = record := by
    rwa [fulfillments, mem_append, mem_singleton] at stored
  have hno : store.chainOf record.snapshot.id = [] := by
    apply eq_nil_iff_forall_not_mem.mpr
    intro transfer ht
    obtain ⟨stored, how⟩ := mem_chainOf.mp ht
    obtain ⟨fulfillment, hst, hi⟩ := hc.owned transfer stored
    exact hfr fulfillment hst (hi.trans how)
  have hk (row : LifecycleRow Terms) (hro : row ∈ store.lifecycles.rows)
      : ∃ fulfillment issued, FrozenFrom next row.source fulfillment issued := by
    obtain ⟨fulfillment, issued, hf⟩ := hc.frozen row hro
    exact ⟨fulfillment, issued, hf.kept (kept hf.stored) (hsa _)⟩
  refine
    { fulfillmentsValid := ?_
      transfersValid := by rw [transfers]; exact hc.transfersValid
      owned := ?_
      chains := ?_
      frozen := ?_
      recorded := ?_ }
  · intro other ho
    rcases hn ho with stored | hr
    · exact hc.fulfillmentsValid other stored
    · rw [hr]
      exact valid
  · intro transfer ht
    rw [transfers] at ht
    obtain ⟨fulfillment, hst, hi⟩ := hc.owned transfer ht
    exact ⟨fulfillment, kept hst, hi⟩
  · intro other ho
    rw [hsa]
    rcases hn ho with stored | hr
    · exact hc.chains other stored
    · rw [hr, hno]
      exact .initial
  · intro row hro
    rcases lifecycles with ⟨_, hu⟩ | ⟨source, fulfillment, issued, _, hf, ha⟩
    · exact hk row (hu ▸ hro)
    · rw [ha, mem_append, mem_singleton] at hro
      rcases hro with earlier | hne
      · exact hk row earlier
      · rw [hne]
        exact ⟨fulfillment, issued, hf.kept (kept hf.stored) (hsa _)⟩
  · intro other ho source hs
    rcases lifecycles with ⟨absent, hu⟩ | ⟨present, _, _, hl, _, ha⟩
    · rw [hu]
      rcases hn ho with stored | hr
      · exact hc.recorded other stored source hs
      · rw [hr, absent] at hs
        cases hs
    · rw [ha, mem_append, mem_singleton]
      rcases hn ho with stored | hr
      · exact .inl (hc.recorded other stored source hs)
      · rw [hr, hl] at hs
        cases hs
        exact .inr (by rw [hr])

theorem PaidStore.Chained.fulfillmentMoved {record : PaidFulfillmentRecord Terms}
    (hc : store.Chained format) (hst : record ∈ store.fulfillments.rows)
    (ha : record.progress.Advances progress)
    (valid : PaidFulfillmentRecord.validate format { record with progress })
    : (store.updateFulfillment record.snapshot.id record.progress.status progress).Chained
        format := by
  have hre := updateFulfillment_replaces hst progress
  have hn : store.chainOf record.snapshot.id = [] :=
    (hc.chains record hst).eq_nil ha.notIssued
  refine
    { fulfillmentsValid := ?_
      transfersValid := hc.transfersValid
      owned := ?_
      chains := ?_
      frozen := ?_
      recorded := ?_ }
  · intro other ho
    rcases hre.mem_iff.mp ho with hr | ⟨hs, _⟩
    · rw [hr]
      exact valid
    · exact hc.fulfillmentsValid other hs
  · intro transfer ht
    obtain ⟨fulfillment, hs, hi⟩ := hc.owned transfer ht
    by_cases same : fulfillment = record
    · exact ⟨{ record with progress }, hre.mem_iff.mpr (.inl rfl), same ▸ hi⟩
    · exact ⟨fulfillment, hre.mem_iff.mpr (.inr ⟨hs, same⟩), hi⟩
  · intro other ho
    rcases hre.mem_iff.mp ho with hr | ⟨hs, _⟩
    · rw [hr]
      change TransferChain _ (store.chainOf record.snapshot.id)
        (lastIssued _ (store.chainOf record.snapshot.id))
      rw [hn]
      exact .initial
    · exact hc.chains other hs
  · intro row hro
    obtain ⟨fulfillment, issued, hf⟩ := hc.frozen row hro
    refine ⟨fulfillment, issued, hf.kept (hre.mem_iff.mpr (.inr ⟨hf.stored, ?_⟩)) rfl⟩
    intro same
    have his := (hc.chain_of_last hf.stored hf.isLast).all_issued.1
    rw [same, ha.notIssued] at his
    cases his
  · intro other ho
    rcases hre.mem_iff.mp ho with hr | ⟨hs, _⟩
    · rw [hr]
      exact hc.recorded record hst
    · exact hc.recorded other hs

theorem PaidStore.Chained.change (hc : store.Chained format) (change : PaidChange format store next)
    : next.Chained format := by
  cases change with
  | unchanged => exact hc
  | transferApproved hs isLast current hm transfers fulfillments lifecycles =>
    exact hc.transferApproved hs isLast current hm transfers fulfillments lifecycles
  | transferMoved hs hl advances valid =>
    exact hc.transferMoved hs hl advances valid
  | fulfillmentApproved _ valid _ hf fulfillments transfers lifecycles =>
    exact hc.fulfillmentApproved valid hf fulfillments transfers lifecycles
  | fulfillmentMoved hs advances valid =>
    exact hc.fulfillmentMoved hs advances valid

end

end AsterTeam
