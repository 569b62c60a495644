import AsterTeam.Commercial.PaidStore

/-! Every transaction, classified by what it changes: the rule from which the chain of the
documents of a fulfilment follows.
-/

namespace AsterTeam

open List
open Relational (Table bind_ok guard_of_ok)

theorem demand_eq_ok : demand condition error = .ok value ↔ condition := by
  unfold demand
  split_ifs with hh
  · exact ⟨fun _ => hh, fun _ => rfl⟩
  · exact ⟨nofun, fun ht => absurd ht hh⟩

variable {Row : Type}

theorem requireRow_eq_ok : requireRow error found = .ok row ↔ found = some row := by
  cases found with
  | none => exact ⟨nofun, nofun⟩
  | some other => simp [requireRow]

theorem scanRow_eq_ok {hf result : Option Row} (scanned : scanRow valid hf = .ok result)
    : result = hf ∧ ∀ row ∈ result, valid row := by
  cases hf with
  | none =>
    cases scanned
    exact ⟨rfl, nofun⟩
  | some other =>
    rw [scanRow] at scanned
    split_ifs at scanned with hv
    cases scanned
    refine ⟨rfl, fun row same => ?_⟩
    cases same
    exact hv

section

variable {Terms : Type}

/-- An issued document: its claims, itself and its digest. -/
abbrev IssuedDocument (Terms : Type) : Type := ClaimsV2 Terms × DocumentV2 Terms × String

/-- A transfer that continues a document, as the next one of the fulfilment. -/
structure PaidTransferRecord.Follows (record : PaidTransferRecord Terms)
    (fulfillment : PaidFulfillmentRecord Terms) (count : Nat) (previous : IssuedDocument Terms)
    : Prop where
  sequence : record.snapshot.transferSequence = count + 1
  isLimit : record.snapshot.transferLimit = fulfillment.snapshot.payment.order.transferLimit
  limited : record.snapshot.transferSequence ≤ record.snapshot.transferLimit
  document : record.snapshot.previousDocumentSha256 = previous.2.2
  binding : record.snapshot.previousBinding = previous.1.binding
  issuedAt : record.snapshot.previousIssuedAt = previous.1.issuedAt
  original : fulfillment.progress.claims = some record.snapshot.originalClaims

/-- The transfers of a fulfilment in order, with the document that is issued last, if the
last record has been issued at all.
-/
inductive TransferChain (fulfillment : PaidFulfillmentRecord Terms)
    : List (PaidTransferRecord Terms) → Option (IssuedDocument Terms) → Prop
  | initial : TransferChain fulfillment [] fulfillment.progress.issuedDocument
  | transferred {transfers : List (PaidTransferRecord Terms)}
    {previous : IssuedDocument Terms} (record : PaidTransferRecord Terms)
    (chain : TransferChain fulfillment transfers (some previous))
    (follows : record.Follows fulfillment transfers.length previous)
    : TransferChain fulfillment (transfers ++ [record]) record.progress.issuedDocument

def lastIssued (fulfillment : PaidFulfillmentRecord Terms)
    (transfers : List (PaidTransferRecord Terms))
    : Option (IssuedDocument Terms) :=
  match transfers.getLast? with
  | none => fulfillment.progress.issuedDocument
  | some record => record.progress.issuedDocument

def issuedBefore (fulfillment : PaidFulfillmentRecord Terms)
    (transfers : List (PaidTransferRecord Terms)) (index : Nat)
    : Option (IssuedDocument Terms) :=
  lastIssued fulfillment (transfers.take index)

namespace TransferChain

variable {fulfillment : PaidFulfillmentRecord Terms}
  {transfers : List (PaidTransferRecord Terms)} {last : Option (IssuedDocument Terms)}

theorem isLast (chain : TransferChain fulfillment transfers last)
    : last = lastIssued fulfillment transfers := by
  cases chain with
  | initial => rfl
  | transferred record => simp [lastIssued]

/-- Where the last document is issued, all are. -/
theorem all_issued (chain : TransferChain fulfillment transfers (some issued))
    : fulfillment.progress.issuedDocument.isSome
      ∧ ∀ record ∈ transfers, record.progress.issuedDocument.isSome := by
  generalize isLast : some issued = last at chain
  induction chain generalizing issued with
  | initial =>
    rw [← isLast]
    exact ⟨rfl, fun _ hr => absurd hr not_mem_nil⟩
  | transferred record _ _ ih =>
    obtain ⟨hi, before⟩ := ih rfl
    refine ⟨hi, fun other ho => ?_⟩
    rcases mem_append.mp ho with earlier | hr
    · exact before other earlier
    · rw [mem_singleton.mp hr, ← isLast]
      rfl

variable (chain : TransferChain fulfillment transfers last)

include chain

theorem sequences : transfers.map (·.snapshot.transferSequence) = range' 1 transfers.length := by
  induction chain with
  | initial => rfl
  | transferred record _ follows ih =>
    rw [map_append, ih, length_append, length_singleton,
      range'_1_concat, map_singleton, follows.sequence, Nat.add_comm]

theorem length_le : transfers.length ≤ fulfillment.snapshot.payment.order.transferLimit := by
  cases chain with
  | initial => exact Nat.zero_le _
  | transferred record _ follows =>
    have hl := follows.limited
    rw [follows.isLimit, follows.sequence] at hl
    simpa using hl

variable {index : Nat}

/-- The chain up to a transfer, which continues its last document. -/
theorem before (hr : transfers[index]? = some record)
    : ∃ previous,
        TransferChain fulfillment (transfers.take index) (some previous)
        ∧ record.Follows fulfillment index previous := by
  induction chain with
  | initial => cases hr
  | @transferred transfers previous newest chain follows ih =>
    rcases Nat.lt_or_ge index transfers.length with hw | beyond
    · rw [getElem?_append_left hw] at hr
      rw [take_append_of_le_length hw.le]
      exact ih hr
    · rw [getElem?_append_right beyond] at hr
      have he : index - transfers.length = 0 := by
        by_contra hp
        rw [getElem?_eq_none (by simp; omega)] at hr
        cases hr
      have hi : index = transfers.length := by omega
      subst hi
      rw [Nat.sub_self] at hr
      cases hr
      rw [take_left]
      exact ⟨previous, chain, follows⟩

/-- Every transfer continues the document that was issued before it. -/
theorem follows_before (hr : transfers[index]? = some record)
    : ∃ previous,
        issuedBefore fulfillment transfers index = some previous
        ∧ record.Follows fulfillment index previous := by
  obtain ⟨previous, before, follows⟩ := chain.before hr
  exact ⟨previous, before.isLast.symm, follows⟩

theorem sorted
    : transfers.mergeSort
        (fun first second =>
          first.snapshot.transferSequence ≤ second.snapshot.transferSequence)
      = transfers := by
  apply mergeSort_of_pairwise
  have hi : (range' 1 transfers.length).Pairwise (· ≤ ·) := pairwise_le_range'
  rw [← chain.sequences, pairwise_map] at hi
  exact hi.imp fun le => by simpa using le

end TransferChain

end

section

variable {Terms : Type} [DecidableEq Terms] {format : PaidFormat Terms}

inductive PaidProgress.Advances : PaidProgress Terms → PaidProgress Terms → Prop
  | prepares (claims : ClaimsV2 Terms) : Advances .approved (.prepared claims)
  | completes (claims : ClaimsV2 Terms) (document : DocumentV2 Terms)
    (documentSha256 : String)
    : Advances (.prepared claims) (.issued claims document documentSha256)

/-- What the source of a successor is frozen from. -/
structure FrozenFrom (store : PaidStore Terms) (source : PaidLifecycleSource Terms)
    (fulfillment : PaidFulfillmentRecord Terms) (issued : IssuedDocument Terms)
    : Prop where
  stored : fulfillment ∈ store.fulfillments.rows
  isSource : source.sourceId = fulfillment.snapshot.id
  isLast
    : lastIssued fulfillment (store.transfersOf fulfillment.snapshot.id) = some issued
  document : source.document = issued.2.1
  documentSha256 : source.documentSha256 = issued.2.2

inductive PaidChange (format : PaidFormat Terms) : PaidStore Terms → PaidStore Terms → Prop
  | unchanged (store : PaidStore Terms) : PaidChange format store store
  | transferApproved {store next : PaidStore Terms} {id actor : String}
    {input : ApprovePaidTransferInput} {now : Int}
    {fulfillment : PaidFulfillmentRecord Terms} {record : PaidTransferRecord Terms}
    {previous : IssuedDocument Terms} (stored : fulfillment ∈ store.fulfillments.rows)
    (isLast : lastIssued fulfillment (store.transfersOf fulfillment.snapshot.id) = some previous)
    (current : ∀ row ∈ store.lifecycles.rows, row.source.sourceId ≠ fulfillment.snapshot.id)
    (made
      : newPaidTransfer format id input fulfillment previous.1 previous.2.2 actor now = .ok record)
    (transfers : next.transfers.rows = store.transfers.rows ++ [record])
    (fulfillments : next.fulfillments = store.fulfillments)
    (lifecycles : next.lifecycles = store.lifecycles)
    : PaidChange format store next
  | transferMoved {store : PaidStore Terms} {record : PaidTransferRecord Terms}
    {progress : PaidProgress Terms} (stored : record ∈ store.transfers.rows)
    (isLatest : (store.transfersOf record.snapshot.fulfillmentId).getLast? = some record)
    (advances : record.progress.Advances progress)
    (valid : PaidTransferRecord.validate format { record with progress } = true)
    : PaidChange format store
        (store.updateTransfer record.snapshot.id record.progress.status progress)
  | fulfillmentApproved {store next : PaidStore Terms}
    {record : PaidFulfillmentRecord Terms} (approved : record.progress = .approved)
    (valid : record.validate format = true)
    (timed : ∃ now, record.snapshot.approvedAt = formatTime now)
    (fresh : ∀ stored ∈ store.fulfillments.rows, stored.snapshot.id ≠ record.snapshot.id)
    (fulfillments : next.fulfillments.rows = store.fulfillments.rows ++ [record])
    (transfers : next.transfers = store.transfers)
    (lifecycles : record.snapshot.lifecycle = none ∧ next.lifecycles = store.lifecycles
        ∨ ∃ source fulfillment issued,
            record.snapshot.lifecycle = some source
            ∧ FrozenFrom store source fulfillment issued
            ∧ next.lifecycles.rows = store.lifecycles.rows ++ [⟨record.snapshot.id, source⟩])
    : PaidChange format store next
  | fulfillmentMoved {store : PaidStore Terms} {record : PaidFulfillmentRecord Terms}
    {progress : PaidProgress Terms} (stored : record ∈ store.fulfillments.rows)
    (advances : record.progress.Advances progress)
    (valid : PaidFulfillmentRecord.validate format { record with progress } = true)
    : PaidChange format store
        (store.updateFulfillment record.snapshot.id record.progress.status progress)

variable {store : PaidStore Terms} {id : String}

theorem fulfillment_eq_ok (hf : store.fulfillment format id = .ok found)
    (hr : requireRow error found = .ok record)
    : record ∈ store.fulfillments.rows ∧ record.snapshot.id = id ∧ record.validate format := by
  obtain ⟨same, valid⟩ := scanRow_eq_ok hf
  rw [requireRow_eq_ok] at hr
  rw [hr] at same valid
  have hi := Table.key_of_select? same.symm
  exact ⟨Table.mem_of_select? same.symm, hi, valid record rfl⟩

theorem transfer_eq_ok (hf : store.transfer format id = .ok found)
    (hr : requireRow error found = .ok record)
    : record ∈ store.transfers.rows ∧ record.snapshot.id = id := by
  have same := (scanRow_eq_ok hf).1
  rw [requireRow_eq_ok] at hr
  rw [hr] at same
  have hi := Table.key_of_select? same.symm
  exact ⟨Table.mem_of_select? same.symm, hi⟩

variable {readings : PaidReadings Terms} {fulfillment : PaidFulfillmentRecord Terms}

theorem previousDocument_eq_ok (hi : fulfillment.progress.issuedDocument = some initial)
    (hm : previousDocument format readings store fulfillment.snapshot.id initial = .ok previous)
    : lastIssued fulfillment (store.transfersOf fulfillment.snapshot.id) = some previous := by
  obtain ⟨latest, scanned, hm⟩ := bind_ok hm
  have hl := (scanRow_eq_ok scanned).1
  unfold lastIssued
  rw [← hl]
  cases latest with
  | none =>
    cases hm
    exact hi
  | some latest =>
    obtain ⟨_, _, hm⟩ := bind_ok hm
    exact requireRow_eq_ok.mp hm

section

omit [DecidableEq Terms]

theorem claimInstallationRequest_eq_ok
    (hm : claimCommercialInstallationRequest store row = .ok claimed)
    : claimed.fulfillments = store.fulfillments ∧ claimed.transfers = store.transfers
      ∧ claimed.lifecycles = store.lifecycles := by
  unfold claimCommercialInstallationRequest at hm
  split at hm
  · split_ifs at hm
    cases hm
    exact ⟨rfl, rfl, rfl⟩
  · split at hm
    · cases hm
      exact ⟨rfl, rfl, rfl⟩
    · cases hm

theorem insertTransfer_eq_ok {next : PaidStore Terms} (hm : store.insertTransfer record = .ok next)
    : next.transfers.rows = store.transfers.rows ++ [record]
      ∧ next.fulfillments = store.fulfillments ∧ next.lifecycles = store.lifecycles := by
  obtain ⟨transfers, hi, hm⟩ := bind_ok hm
  cases hm
  exact ⟨(Table.insert?_eq_some.mp (requireRow_eq_ok.mp hi)).2, rfl, rfl⟩

theorem insertFulfillment_eq_ok {next : PaidStore Terms}
    (hm : store.insertFulfillment record = .ok next)
    : next.fulfillments.rows = store.fulfillments.rows ++ [record]
      ∧ (∀ stored ∈ store.fulfillments.rows, stored.snapshot.id ≠ record.snapshot.id)
      ∧ next.transfers = store.transfers ∧ next.lifecycles = store.lifecycles := by
  obtain ⟨fulfillments, hi, hm⟩ := bind_ok hm
  obtain ⟨free, rows⟩ := Table.insert?_eq_some.mp (requireRow_eq_ok.mp hi)
  cases hm
  exact ⟨rows, fun stored hs same => free stored hs (.inl same), rfl, rfl⟩

end

variable {next : PaidStore Terms} {actor : String} {environment : FulfillmentEnvironment}
  {result : PaidTransferRecord Terms}

theorem approvePaidTransfer_change {input : ApprovePaidTransferInput}
    (he : approvePaidTransfer format readings store id fulfillmentId input environment actor
        = .ok (result, next))
    : PaidChange format store next := by
  obtain ⟨_, _, he⟩ := bind_ok he
  obtain ⟨old, _, he⟩ := bind_ok he
  cases old with
  | some old =>
    obtain ⟨_, _, he⟩ := bind_ok he
    obtain ⟨_, _, he⟩ := bind_ok he
    cases he
    exact .unchanged store
  | none =>
    obtain ⟨request, _, he⟩ := bind_ok he
    obtain ⟨hfo, hf, he⟩ := bind_ok he
    obtain ⟨fulfillment, hfu, he⟩ := bind_ok he
    obtain ⟨hs, hi, _⟩ := fulfillment_eq_ok hf hfu
    obtain ⟨_, _, he⟩ := bind_ok he
    obtain ⟨issued, his, he⟩ := bind_ok he
    obtain ⟨_, _, he⟩ := bind_ok he
    obtain ⟨previous, hp, he⟩ := bind_ok he
    obtain ⟨_, noSuccessor, he⟩ := bind_ok he
    obtain ⟨_, _, he⟩ := bind_ok he
    obtain ⟨_, _, he⟩ := bind_ok he
    obtain ⟨_, _, he⟩ := bind_ok he
    obtain ⟨record, hm, he⟩ := bind_ok he
    obtain ⟨hcl, hc, he⟩ := bind_ok he
    obtain ⟨hins, hin, he⟩ := bind_ok he
    cases he
    obtain ⟨sameFulfillments, sameTransfers, sameLifecycles⟩ :=
      claimInstallationRequest_eq_ok hc
    obtain ⟨transfers, fulfillments, lifecycles⟩ := insertTransfer_eq_ok hin
    rw [demand_eq_ok, Option.isNone_iff_eq_none, Table.select?_eq_none_iff] at noSuccessor
    rw [← hi] at hp noSuccessor
    exact .transferApproved hs
      (previousDocument_eq_ok (requireRow_eq_ok.mp his) hp) noSuccessor hm
      (by rw [transfers, sameTransfers]) (fulfillments.trans sameFulfillments)
      (lifecycles.trans sameLifecycles)

section

omit [DecidableEq Terms]

theorem transfer_eq_of_id (hf : first ∈ store.transfers.rows) (hs : second ∈ store.transfers.rows)
    (same : first.snapshot.id = second.snapshot.id)
    : first = second :=
  Table.eq_of_conflicts hf hs (.inl same)

theorem fulfillment_eq_of_id (hf : first ∈ store.fulfillments.rows)
    (hs : second ∈ store.fulfillments.rows) (same : first.snapshot.id = second.snapshot.id)
    : first = second :=
  Table.eq_of_conflicts hf hs (.inl same)

theorem mem_transfersOf
    : record ∈ store.transfersOf fulfillmentId
      ↔ record ∈ store.transfers.rows ∧ record.snapshot.fulfillmentId = fulfillmentId := by
  rw [PaidStore.transfersOf, mem_mergeSort, Table.mem_selectAll]

end

theorem validatePaidTransferProgress_latest (hst : record ∈ store.transfers.rows)
    (hp : validatePaidTransferProgress format readings store record environment = .ok value)
    : (store.transfersOf record.snapshot.fulfillmentId).getLast? = some record := by
  obtain ⟨_, _, hp⟩ := bind_ok hp
  obtain ⟨_, _, hp⟩ := bind_ok hp
  obtain ⟨latest, hl, hp⟩ := bind_ok hp
  rw [requireRow_eq_ok] at hl
  rw [demand_eq_ok, decide_eq_true_eq] at hp
  have hs := (mem_transfersOf.mp (mem_of_getLast? hl)).1
  rw [hl, transfer_eq_of_id hs hst hp]

variable {keyId : String}

theorem preparePaidTransfer_change
    (he : preparePaidTransfer format readings store id keyId environment = .ok (result, next))
    : PaidChange format store next := by
  obtain ⟨hfo, hf, he⟩ := bind_ok he
  obtain ⟨record, hr, he⟩ := bind_ok he
  obtain ⟨hs, hi⟩ := transfer_eq_ok hf hr
  obtain ⟨_, _, he⟩ := bind_ok he
  split at he
  · obtain ⟨_, _, he⟩ := bind_ok he
    cases he
    exact .unchanged store
  · obtain ⟨_, _, he⟩ := bind_ok he
    cases he
    exact .unchanged store
  next approved =>
    obtain ⟨_, hp, he⟩ := bind_ok he
    obtain ⟨claims, _, he⟩ := bind_ok he
    obtain ⟨_, valid, he⟩ := bind_ok he
    cases he
    have change := PaidChange.transferMoved hs
      (validatePaidTransferProgress_latest hs hp) (approved ▸ .prepares claims)
      (demand_eq_ok.mp valid)
    rw [hi, approved] at change
    exact change

variable {document : DocumentV2 Terms}

theorem completePaidTransfer_change
    (he : completePaidTransfer format readings store id document environment = .ok (result, next))
    : PaidChange format store next := by
  obtain ⟨hfo, hf, he⟩ := bind_ok he
  obtain ⟨record, hr, he⟩ := bind_ok he
  obtain ⟨hs, hi⟩ := transfer_eq_ok hf hr
  obtain ⟨_, _, he⟩ := bind_ok he
  split at he
  · obtain ⟨_, _, he⟩ := bind_ok he
    cases he
    exact .unchanged store
  · cases he
  next claims prepared =>
    obtain ⟨_, hp, he⟩ := bind_ok he
    obtain ⟨_, valid, he⟩ := bind_ok he
    cases he
    have change := PaidChange.transferMoved hs
      (validatePaidTransferProgress_latest hs hp)
      (prepared ▸ .completes claims document (format.documentDigest document))
      (demand_eq_ok.mp valid)
    rw [hi, prepared] at change
    exact change

theorem preparePaidFulfillment_change {result : PaidFulfillmentRecord Terms}
    (he : preparePaidFulfillment format readings store id keyId environment = .ok (result, next))
    : PaidChange format store next := by
  obtain ⟨hfo, hf, he⟩ := bind_ok he
  obtain ⟨record, hr, he⟩ := bind_ok he
  obtain ⟨hs, hi, _⟩ := fulfillment_eq_ok hf hr
  obtain ⟨_, _, he⟩ := bind_ok he
  split at he
  · obtain ⟨_, _, he⟩ := bind_ok he
    cases he
    exact .unchanged store
  · obtain ⟨_, _, he⟩ := bind_ok he
    cases he
    exact .unchanged store
  next approved =>
    obtain ⟨_, _, he⟩ := bind_ok he
    obtain ⟨claims, _, he⟩ := bind_ok he
    obtain ⟨_, valid, he⟩ := bind_ok he
    cases he
    have change := PaidChange.fulfillmentMoved hs (approved ▸ .prepares claims)
      (demand_eq_ok.mp valid)
    rw [hi, approved] at change
    exact change

theorem completePaidFulfillment_change {result : PaidFulfillmentRecord Terms}
    (he
      : completePaidFulfillment format readings store id document environment = .ok (result, next))
    : PaidChange format store next := by
  obtain ⟨hfo, hf, he⟩ := bind_ok he
  obtain ⟨record, hr, he⟩ := bind_ok he
  obtain ⟨hs, hi, _⟩ := fulfillment_eq_ok hf hr
  obtain ⟨_, _, he⟩ := bind_ok he
  split at he
  · obtain ⟨_, _, he⟩ := bind_ok he
    cases he
    exact .unchanged store
  · cases he
  next claims prepared =>
    obtain ⟨_, _, he⟩ := bind_ok he
    obtain ⟨_, valid, he⟩ := bind_ok he
    cases he
    have change := PaidChange.fulfillmentMoved hs
      (prepared ▸ .completes claims document (format.documentDigest document))
      (demand_eq_ok.mp valid)
    rw [hi, prepared] at change
    exact change

theorem continueLifecycle_eq_ok {current next : LifecyclePosition Terms}
    (hm : continueLifecycle format fulfillment current transfer = .ok next)
    : transfer.progress.issuedDocument
      = some (next.claims, next.document, next.documentSha256) := by
  unfold continueLifecycle at hm
  split at hm
  next hi =>
    split_ifs at hm
    cases hm
    rw [hi]
    rfl
  · cases hm

/-- A walk along the transfers ends at the last document. -/
theorem foldlM_continueLifecycle {transfers : List (PaidTransferRecord Terms)}
    {start last : LifecyclePosition Terms}
    (hm : transfers.foldlM (continueLifecycle format fulfillment) start = .ok last)
    : transfers.getLast?.elim (some (start.claims, start.document, start.documentSha256))
        (·.progress.issuedDocument)
      = some (last.claims, last.document, last.documentSha256) := by
  induction transfers generalizing start with
  | nil =>
    cases hm
    rfl
  | cons transfer rest ih =>
    rw [foldlM_cons] at hm
    obtain ⟨next, continued, hm⟩ := bind_ok hm
    have hr := ih hm
    cases rest with
    | nil =>
      rw [← hr]
      exact continueLifecycle_eq_ok continued
    | cons second others =>
      rw [getLast?_cons_cons]
      rw [getLast?_eq_some_getLast (by simp)] at hr ⊢
      exact hr

variable {validateSources : PaidFulfillmentRecord Terms → Except CommercialError Unit}

theorem currentPaidLifecycleSource_eq_ok
    (hm : currentPaidLifecycleSource format validateSources store request environment = .ok source)
    : ∃ fulfillment issued, FrozenFrom store source fulfillment issued := by
  obtain ⟨hfo, hf, hm⟩ := bind_ok hm
  obtain ⟨fulfillment, hfu, hm⟩ := bind_ok hm
  obtain ⟨hs, _, _⟩ := fulfillment_eq_ok hf hfu
  obtain ⟨_, _, hm⟩ := bind_ok hm
  obtain ⟨_, _, hm⟩ := bind_ok hm
  obtain ⟨⟨claims, document, documentSha256⟩, hi, hm⟩ := bind_ok hm
  obtain ⟨current, hc, hm⟩ := bind_ok hm
  obtain ⟨_, _, hm⟩ := bind_ok hm
  obtain ⟨validUntil, _, hm⟩ := bind_ok hm
  cases hm
  refine ⟨fulfillment, (current.claims, current.document, current.documentSha256),
    hs, rfl, ?_, rfl, rfl⟩
  rw [← foldlM_continueLifecycle hc, lastIssued, requireRow_eq_ok.mp hi]
  cases (store.transfersOf fulfillment.snapshot.id).getLast? with
  | none => rfl
  | some record => rfl

variable {lifecycle : Option (PaidLifecycleSource Terms)}

theorem resolvePaidLifecycleSource_eq_ok
    (hm
      : resolvePaidLifecycleSource format validateSources store request environment = .ok lifecycle)
    : ∀ source ∈ lifecycle, ∃ fulfillment issued, FrozenFrom store source fulfillment issued := by
  cases request with
  | none =>
    cases hm
    intro source hs
    cases hs
  | some request =>
    obtain ⟨_, _, hm⟩ := bind_ok hm
    obtain ⟨source, hs, hm⟩ := bind_ok hm
    obtain ⟨_, _, hm⟩ := bind_ok hm
    obtain ⟨_, _, hm⟩ := bind_ok hm
    cases hm
    intro other same
    cases same
    exact currentPaidLifecycleSource_eq_ok hs

variable {input : ApprovePaidFulfillmentInput}

theorem newPaidFulfillment_eq_ok
    (hm : newPaidFulfillmentWithLifecycle format id input payment customerRef environment actor
          now lifecycle
        = .ok record)
    : record.progress = .approved ∧ record.validate format
      ∧ record.snapshot.id = id ∧ record.snapshot.lifecycle = lifecycle
      ∧ record.snapshot.approvedAt = formatTime now := by
  unfold newPaidFulfillmentWithLifecycle at hm
  obtain ⟨_, hm⟩ := guard_of_ok hm
  split at hm
  · cases hm
  · obtain ⟨_, hm⟩ := guard_of_ok hm
    dsimp only at hm
    split_ifs at hm with valid
    cases hm
    refine ⟨rfl, ?_, rfl, rfl, rfl⟩
    simp [PaidFulfillmentRecord.validate, PaidProgress.validate, valid]

omit [DecidableEq Terms] in
theorem storePaidLifecycleSource_eq_ok
    (hm : storePaidLifecycleSource format store id lifecycle = .ok next)
    : next.fulfillments = store.fulfillments ∧ next.transfers = store.transfers
      ∧ (lifecycle = none ∧ next.lifecycles = store.lifecycles
        ∨ ∃ source,
            lifecycle = some source
            ∧ next.lifecycles.rows = store.lifecycles.rows ++ [⟨id, source⟩]) := by
  cases lifecycle with
  | none =>
    cases hm
    exact ⟨rfl, rfl, .inl ⟨rfl, rfl⟩⟩
  | some source =>
    obtain ⟨_, _, hm⟩ := bind_ok hm
    obtain ⟨lifecycles, hi, hm⟩ := bind_ok hm
    cases hm
    exact ⟨rfl, rfl, .inr ⟨source, rfl, (Table.insert?_eq_some.mp (requireRow_eq_ok.mp hi)).2⟩⟩

theorem approvePaidFulfillment_change {result : PaidFulfillmentRecord Terms}
    (he : approvePaidFulfillment format readings store id orderId input environment actor
        = .ok (result, next))
    : PaidChange format store next := by
  obtain ⟨_, _, he⟩ := bind_ok he
  obtain ⟨old, _, he⟩ := bind_ok he
  cases old with
  | some old =>
    obtain ⟨_, _, he⟩ := bind_ok he
    obtain ⟨_, _, he⟩ := bind_ok he
    cases he
    exact .unchanged store
  | none =>
    obtain ⟨⟨order, orderSha256⟩, _, he⟩ := bind_ok he
    obtain ⟨_, _, he⟩ := bind_ok he
    obtain ⟨_, _, he⟩ := bind_ok he
    obtain ⟨_, _, he⟩ := bind_ok he
    obtain ⟨payment, _, he⟩ := bind_ok he
    obtain ⟨_, _, he⟩ := bind_ok he
    obtain ⟨_, _, he⟩ := bind_ok he
    obtain ⟨_, _, he⟩ := bind_ok he
    obtain ⟨customerRef, _, he⟩ := bind_ok he
    obtain ⟨lifecycle, hl, he⟩ := bind_ok he
    obtain ⟨record, hm, he⟩ := bind_ok he
    obtain ⟨_, _, he⟩ := bind_ok he
    obtain ⟨hcl, hc, he⟩ := bind_ok he
    obtain ⟨hin, hi, he⟩ := bind_ok he
    obtain ⟨hst, hs, he⟩ := bind_ok he
    cases he
    obtain ⟨approved, valid, hid, hr, ht⟩ := newPaidFulfillment_eq_ok hm
    obtain ⟨sameFulfillments, sameTransfers, sameLifecycles⟩ :=
      claimInstallationRequest_eq_ok hc
    obtain ⟨rows, hfr, transfers, lifecycles⟩ := insertFulfillment_eq_ok hi
    obtain ⟨storedFulfillments, storedTransfers, source⟩ :=
      storePaidLifecycleSource_eq_ok hs
    refine .fulfillmentApproved approved valid ⟨_, ht⟩ (by rwa [← sameFulfillments])
      (by rw [storedFulfillments, rows, sameFulfillments])
      (storedTransfers.trans (transfers.trans sameTransfers)) ?_
    rcases source with ⟨absent, hu⟩ | ⟨source, present, ha⟩
    · exact .inl ⟨hr.trans absent, hu.trans (lifecycles.trans sameLifecycles)⟩
    · obtain ⟨fulfillment, issued, hf⟩ :=
        resolvePaidLifecycleSource_eq_ok hl source present
      refine .inr ⟨source, fulfillment, issued, hr.trans present, hf, ?_⟩
      rw [ha, lifecycles, sameLifecycles, hid]

omit [DecidableEq Terms] in
theorem map_snd_eq_ok {Record : Type} {outcome : Except CommercialError (Record × PaidStore Terms)}
    (hn : Prod.snd <$> outcome = .ok next)
    : ∃ result, outcome = .ok (result, next) := by
  cases outcome with
  | error => cases hn
  | ok result =>
    obtain ⟨record, store⟩ := result
    cases hn
    exact ⟨record, rfl⟩

theorem PaidStep.change (step : PaidStep format store transaction next)
    : PaidChange format store next := by
  cases step with
  | rollsBack => exact .unchanged store
  | commits readings he =>
    cases transaction with
    | approveTransfer id fulfillmentId input environment actor =>
      obtain ⟨_, he⟩ := map_snd_eq_ok he
      exact approvePaidTransfer_change he
    | prepareTransfer id keyId environment =>
      obtain ⟨_, he⟩ := map_snd_eq_ok he
      exact preparePaidTransfer_change he
    | completeTransfer id document environment =>
      obtain ⟨_, he⟩ := map_snd_eq_ok he
      exact completePaidTransfer_change he
    | approveFulfillment id orderId input environment actor =>
      obtain ⟨_, he⟩ := map_snd_eq_ok he
      exact approvePaidFulfillment_change he
    | prepareFulfillment id keyId environment =>
      obtain ⟨_, he⟩ := map_snd_eq_ok he
      exact preparePaidFulfillment_change he
    | completeFulfillment id document environment =>
      obtain ⟨_, he⟩ := map_snd_eq_ok he
      exact completePaidFulfillment_change he

end

end AsterTeam
