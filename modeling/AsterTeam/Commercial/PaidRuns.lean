import AsterTeam.Commercial.PaidChains

/-! Runs of the transactions on paid licences from empty tables, in every order: what the
tables say at any time and what no later transaction changes.
-/

namespace AsterTeam

open Relational (Table)
open Transition (Run)

section

variable {Terms : Type}

structure PaidProgress.KeptIn (progress next : PaidProgress Terms) : Prop where
  claims : ∀ claims ∈ progress.claims, next.claims = some claims
  issuedDocument : ∀ issued ∈ progress.issuedDocument, next.issuedDocument = some issued

theorem PaidProgress.KeptIn.refl (progress : PaidProgress Terms) : progress.KeptIn progress :=
  ⟨fun _ => id, fun _ => id⟩

theorem PaidProgress.KeptIn.trans {first second third : PaidProgress Terms}
    (kept : first.KeptIn second) (later : second.KeptIn third)
    : first.KeptIn third :=
  ⟨fun claims hc => later.claims claims (kept.claims claims hc),
    fun issued hi => later.issuedDocument issued (kept.issuedDocument issued hi)⟩

variable {progress : PaidProgress Terms}

theorem PaidProgress.Advances.keptIn {next : PaidProgress Terms} (ha : progress.Advances next)
    : progress.KeptIn next := by
  cases ha with
  | prepares claims =>
    refine ⟨fun _ hc => ?_, fun _ hi => ?_⟩
    · cases hc
    · cases hi
  | completes claims document documentSha256 =>
    refine ⟨fun _ => id, fun _ hi => ?_⟩
    cases hi

/-- What no later transaction changes: records stay, with the claims and the document that
they have, and a fulfilment with a successor keeps its transfers as they are.
-/
structure PaidStore.KeptIn (store next : PaidStore Terms) : Prop where
  fulfillments
    : ∀ record ∈ store.fulfillments.rows,
        ∃ later ∈ next.fulfillments.rows,
          later.snapshot = record.snapshot ∧ record.progress.KeptIn later.progress
  transfers
    : ∀ record ∈ store.transfers.rows,
        ∃ later ∈ next.transfers.rows,
          later.snapshot = record.snapshot ∧ record.progress.KeptIn later.progress
  lifecycles : ∀ row ∈ store.lifecycles.rows, row ∈ next.lifecycles.rows
  closed
    : ∀ row ∈ store.lifecycles.rows,
        next.chainOf row.source.sourceId = store.chainOf row.source.sourceId

theorem PaidStore.KeptIn.refl (store : PaidStore Terms) : store.KeptIn store :=
  { fulfillments := fun record hs => ⟨record, hs, rfl, .refl _⟩
    transfers := fun record hs => ⟨record, hs, rfl, .refl _⟩
    lifecycles := fun _ => id
    closed := fun _ _ => rfl }

theorem PaidStore.KeptIn.trans {first second third : PaidStore Terms}
    (kept : first.KeptIn second) (later : second.KeptIn third)
    : first.KeptIn third := by
  refine
    { fulfillments := fun record hs => ?_
      transfers := fun record hs => ?_
      lifecycles := fun row hr => later.lifecycles row (kept.lifecycles row hr)
      closed := fun row hr =>
        (later.closed row (kept.lifecycles row hr)).trans (kept.closed row hr) }
  · obtain ⟨middle, hm, sameSnapshot, progress⟩ := kept.fulfillments record hs
    obtain ⟨last, isLast, lastSnapshot, lastProgress⟩ := later.fulfillments middle hm
    exact ⟨last, isLast, lastSnapshot.trans sameSnapshot, progress.trans lastProgress⟩
  · obtain ⟨middle, hm, sameSnapshot, progress⟩ := kept.transfers record hs
    obtain ⟨last, isLast, lastSnapshot, lastProgress⟩ := later.transfers middle hm
    exact ⟨last, isLast, lastSnapshot.trans sameSnapshot, progress.trans lastProgress⟩

variable {store : PaidStore Terms}

theorem updateTransfer_keptIn (hs : record ∈ store.transfers.rows)
    (ha : record.progress.Advances progress)
    : ∀ other ∈ store.transfers.rows,
        ∃ later ∈ (store.updateTransfer record.snapshot.id record.progress.status
            progress).transfers.rows,
          later.snapshot = other.snapshot ∧ other.progress.KeptIn later.progress := by
  intro other ho
  have hr := updateTransfer_replaces hs progress
  by_cases same : other = record
  · rw [same]
    exact ⟨{ record with progress }, hr.mem_iff.mpr (.inl rfl), rfl, ha.keptIn⟩
  · exact ⟨other, hr.mem_iff.mpr (.inr ⟨ho, same⟩), rfl, .refl _⟩

theorem updateFulfillment_keptIn (hs : record ∈ store.fulfillments.rows)
    (ha : record.progress.Advances progress)
    : ∀ other ∈ store.fulfillments.rows,
        ∃ later ∈ (store.updateFulfillment record.snapshot.id record.progress.status
            progress).fulfillments.rows,
          later.snapshot = other.snapshot ∧ other.progress.KeptIn later.progress := by
  intro other ho
  have hr := updateFulfillment_replaces hs progress
  by_cases same : other = record
  · rw [same]
    exact ⟨{ record with progress }, hr.mem_iff.mpr (.inl rfl), rfl, ha.keptIn⟩
  · exact ⟨other, hr.mem_iff.mpr (.inr ⟨ho, same⟩), rfl, .refl _⟩

end

section

variable {Terms : Type} [DecidableEq Terms] {format : PaidFormat Terms} {store : PaidStore Terms}

variable (hc : store.Chained format)

include hc in
/-- The source of a successor has issued all of its transfers. -/
theorem PaidStore.Chained.not_mem_closed
    (hr : row ∈ store.lifecycles.rows) {record : PaidTransferRecord Terms}
    (notIssued : record.progress.issuedDocument = none)
    : record ∉ store.chainOf row.source.sourceId := by
  intro hm
  obtain ⟨fulfillment, issued, hf⟩ := hc.frozen row hr
  rw [hf.isSource] at hm
  have hi :=
    (hc.chain_of_last hf.stored hf.isLast).all_issued.2 record hm
  rw [notIssued] at hi
  cases hi

variable {next : PaidStore Terms}

include hc in
theorem PaidStore.Chained.keptIn (change : PaidChange format store next) : store.KeptIn next := by
  cases change with
  | unchanged => exact .refl store
  | transferApproved hs isLast current hm transfers fulfillments lifecycles =>
    have chain := hc.chain_of_last hs isLast
    have position :=
      (chain.position (hc.fulfillmentsValid _ hs) (hc.chainValid _)).1
    have ho := (newPaidTransfer_eq_ok hm position).2.2.1
    refine
      { fulfillments := fun record hre => ⟨record, ?_, rfl, .refl _⟩
        transfers := fun record hre => ⟨record, ?_, rfl, .refl _⟩
        lifecycles := fun row hr => lifecycles ▸ hr
        closed := fun row hr => ?_ }
    · rw [fulfillments]
      exact hre
    · rw [transfers]
      exact List.mem_append_left _ hre
    · rw [chainOf_append transfers, if_neg]
      intro same
      exact current row hr (same.symm.trans ho)
  | transferMoved hs hl advances valid =>
    exact
      { fulfillments := (PaidStore.KeptIn.refl store).fulfillments
        transfers := updateTransfer_keptIn hs advances
        lifecycles := fun _ => id
        closed := fun row hr =>
          chainOf_other hs (hc.not_mem_closed hr advances.notIssued) }
  | fulfillmentApproved _ _ _ _ fulfillments transfers lifecycles =>
    refine
      { fulfillments := fun record hre => ⟨record, ?_, rfl, .refl _⟩
        transfers := fun record hre => ⟨record, transfers ▸ hre, rfl, .refl _⟩
        lifecycles := fun row hr => ?_
        closed := fun row hr => ?_ }
    · rw [fulfillments]
      exact List.mem_append_left _ hre
    · rcases lifecycles with ⟨_, unchanged⟩ | ⟨_, _, _, _, _, appended⟩
      · rw [unchanged]
        exact hr
      · rw [appended]
        exact List.mem_append_left _ hr
    · unfold PaidStore.chainOf
      rw [transfers]
  | fulfillmentMoved hs advances valid =>
    exact
      { fulfillments := updateFulfillment_keptIn hs advances
        transfers := (PaidStore.KeptIn.refl store).transfers
        lifecycles := fun _ => id
        closed := fun _ _ => rfl }

theorem PaidStore.chained_empty : (PaidStore.empty : PaidStore Terms).Chained format where
  fulfillmentsValid _ stored := absurd stored List.not_mem_nil
  transfersValid _ stored := absurd stored List.not_mem_nil
  owned _ stored := absurd stored List.not_mem_nil
  chains _ stored := absurd stored List.not_mem_nil
  frozen _ isRow := absurd isRow List.not_mem_nil
  recorded _ stored := absurd stored List.not_mem_nil

/-- The transactions of all processes, in the order in which they end. -/
abbrev PaidRun (format : PaidFormat Terms)
    : PaidStore Terms → List (PaidTransaction Terms) → PaidStore Terms → Prop :=
  Run (PaidStep format)

variable {transactions : List (PaidTransaction Terms)}

include hc in
theorem PaidStore.Chained.run (run : PaidRun format store transactions next)
    : next.Chained format :=
  run.invariant (fun step hh => hh.change step.change) hc

include hc in
theorem PaidStore.Chained.keptIn_run (run : PaidRun format store transactions next)
    : store.KeptIn next := by
  induction run with
  | nil state => exact .refl state
  | cons head _ ih =>
    exact (hc.keptIn head.change).trans (ih (hc.change head.change))

structure PaidStore.DocumentChains (store : PaidStore Terms) : Prop where
  owned
    : ∀ record ∈ store.transfers.rows,
        ∃ fulfillment ∈ store.fulfillments.rows, record ∈ store.transfersOf fulfillment.snapshot.id
  sequences
    : ∀ fulfillment ∈ store.fulfillments.rows,
        (store.transfersOf fulfillment.snapshot.id).map (·.snapshot.transferSequence)
        = List.range' 1 (store.transfersOf fulfillment.snapshot.id).length
  limited
    : ∀ fulfillment ∈ store.fulfillments.rows,
        (store.transfersOf fulfillment.snapshot.id).length
        ≤ fulfillment.snapshot.payment.order.transferLimit
  predecessors
    : ∀ fulfillment ∈ store.fulfillments.rows, ∀ index record,
        (store.transfersOf fulfillment.snapshot.id)[index]? = some record
        → ∃ previous,
            issuedBefore fulfillment (store.transfersOf fulfillment.snapshot.id) index
            = some previous
            ∧ record.Follows fulfillment index previous
  oneSuccessor
    : ∀ first ∈ store.fulfillments.rows, ∀ second ∈ store.fulfillments.rows,
        ∀ firstSource ∈ first.snapshot.lifecycle,
          ∀ secondSource ∈ second.snapshot.lifecycle,
            firstSource.sourceId = secondSource.sourceId → first = second
  frozen
    : ∀ successor ∈ store.fulfillments.rows, ∀ source ∈ successor.snapshot.lifecycle,
        ⟨successor.snapshot.id, source⟩ ∈ store.lifecycles.rows
        ∧ ∃ fulfillment issued, FrozenFrom store source fulfillment issued

include hc in
theorem PaidStore.Chained.oneSuccessor
    (hf : first ∈ store.fulfillments.rows) (hs : second ∈ store.fulfillments.rows)
    (hh : firstSource ∈ first.snapshot.lifecycle) (hha : secondSource ∈ second.snapshot.lifecycle)
    (same : firstSource.sourceId = secondSource.sourceId)
    : first = second := by
  have firstRow := hc.recorded first hf firstSource hh
  have secondRow := hc.recorded second hs secondSource hha
  have sameRow := Table.eq_of_conflicts firstRow secondRow (.inr same)
  exact fulfillment_eq_of_id hf hs (congrArg LifecycleRow.fulfillmentId sameRow)

include hc in
theorem PaidStore.Chained.documentChains : store.DocumentChains := by
  refine
    { owned := fun record hsto => ?_
      sequences := fun fulfillment hsto => ?_
      limited := fun fulfillment hsto => ?_
      predecessors := fun fulfillment hsto index record hr => ?_
      oneSuccessor := fun _ hf _ hs _ hh _ hha same =>
        hc.oneSuccessor hf hs hh hha same
      frozen := fun successor hsto source hso => ?_ }
  · obtain ⟨fulfillment, hst, hi⟩ := hc.owned record hsto
    exact ⟨fulfillment, hst, mem_transfersOf.mpr ⟨hsto, hi.symm⟩⟩
  · rw [hc.transfersOf]
    exact (hc.chains fulfillment hsto).sequences
  · rw [hc.transfersOf]
    exact (hc.chains fulfillment hsto).length_le
  · rw [hc.transfersOf] at hr ⊢
    exact (hc.chains fulfillment hsto).follows_before hr
  · have hro := hc.recorded successor hsto source hso
    exact ⟨hro, hc.frozen _ hro⟩

/-- Whatever the order of the transactions, the documents of each fulfilment form a chain,
and no later transaction changes what is recorded of it.
-/
theorem paid_documents_form_chains {store next : PaidStore Terms}
    {transactions later : List (PaidTransaction Terms)}
    (run : PaidRun format .empty transactions store) (continued : PaidRun format store later next)
    : store.DocumentChains ∧ store.KeptIn next :=
  ⟨(PaidStore.chained_empty.run run).documentChains,
    (PaidStore.chained_empty.run run).keptIn_run continued⟩

/-- The tables after a transaction, whether it commits or not. -/
def PaidTransaction.execute (format : PaidFormat Terms) (readings : PaidReadings Terms)
    (store : PaidStore Terms) (transaction : PaidTransaction Terms)
    : PaidStore Terms :=
  match transaction.run format readings store with
  | .ok next => next
  | .error _ => store

theorem PaidStep.execute (readings : PaidReadings Terms) (store : PaidStore Terms)
    (transaction : PaidTransaction Terms)
    : PaidStep format store transaction (transaction.execute format readings store) := by
  unfold PaidTransaction.execute
  split
  next next ended => exact .commits readings ended
  next => exact .rollsBack store transaction

end

def sampleFormat : PaidFormat Unit where
  identifier _ := true
  catalogDigest _ := true
  reasonText _ := true
  claimsText _ := true
  bindingText _ := true
  orderValid _ := true
  paymentValid _ := true
  requestValid _ := true
  parseRequest text := some ⟨text, "1.0.0", text, text, 0⟩
  supports _ _ := true
  signatureShape _ := true
  requestDigest request := request.requestId
  documentDigest document := document.signature
  fulfillmentDigest snapshot := snapshot.id
  transferDigest snapshot := snapshot.id

def samplePayment : PaymentRecord Unit :=
  ⟨"payment", ⟨"order", "customer", 0, 1000000000, (), 1, none⟩, "order", 0, "payment"⟩

def sampleReadings : PaidReadings Unit :=
  { now := 1000000
    paymentIntact := fun _ => true
    order := some (samplePayment.order, "order")
    orderPending := true
    payment := some samplePayment
    customerActive := true
    customerRef := some "customer" }

def sampleClaims : ClaimsV2 Unit :=
  { keyId := "key", licenseId := "license_f", serial := "serial_f", origin := .commercialOrder
    orderId := "order", customerRef := "customer", requestId := "machine", terms := ()
    binding := .installation "machine" "machine" 0, notBefore := 0
    expiresAt := some 1000000000, issuedAt := 1000000 }

def sampleTransactions : List (PaidTransaction Unit) :=
  [.approveFulfillment "f" "order" ⟨"approval", "order", "payment", "machine", "reason", none⟩
      .production "actor",
    .prepareFulfillment "f" "key" .production,
    .completeFulfillment "f" ⟨sampleClaims, "document"⟩ .production]

def sampleTransfer : PaidTransaction Unit :=
  .approveTransfer "t" "f" ⟨"transfer", "document", "other machine", "reason"⟩ .production "actor"

def sampleExecute (store : PaidStore Unit) (transaction : PaidTransaction Unit)
    : PaidStore Unit :=
  transaction.execute sampleFormat sampleReadings store

def sampleIssued : PaidStore Unit := sampleTransactions.foldl sampleExecute .empty

theorem sampleIssued_run : PaidRun sampleFormat .empty sampleTransactions sampleIssued :=
  .cons (.execute sampleReadings _ _)
    (.cons (.execute sampleReadings _ _) (.cons (.execute sampleReadings _ _) (.nil _)))

/-- A licence is issued and then moved to another machine. -/
theorem sample_transfer_continues_document
    : (sampleIssued.fulfillments.rows.map (·.progress.issuedDocument)
        = [some (sampleClaims, ⟨sampleClaims, "document"⟩, "document")])
      ∧ ((sampleExecute sampleIssued sampleTransfer).transfers.rows.map
          (fun record =>
            (record.snapshot.transferSequence, record.snapshot.previousDocumentSha256))
        = [(1, "document")])
      ∧ sampleIssued.DocumentChains
      ∧ sampleIssued.KeptIn (sampleExecute sampleIssued sampleTransfer) := by
  have transfers
      : PaidRun sampleFormat sampleIssued [sampleTransfer]
          (sampleExecute sampleIssued sampleTransfer) :=
    .cons (.execute sampleReadings _ _) (.nil _)
  exact ⟨by decide +kernel, by decide +kernel,
    paid_documents_form_chains sampleIssued_run transfers⟩

end AsterTeam
