import AsterTeam.Library.Relational
import AsterTeam.Library.Transition
import AsterTeam.Commercial.PaidRecords

/-! The tables of paid licences and the transactions on them. Transactions are serializable,
so they follow one another; one that fails or is interrupted leaves the tables as they were.
What a transaction reads outside of these tables is given with it.
-/

namespace AsterTeam

open Relational (Keys Table)

inductive PaidStatus
  | approved
  | prepared
  | issued
  deriving DecidableEq

def PaidProgress.status {Terms : Type} : PaidProgress Terms → PaidStatus
  | approved => .approved
  | prepared _ => .prepared
  | issued _ _ _ => .issued

inductive RequestUsage
  | initial
  | transfer
  | successor
  deriving DecidableEq

structure InstallationRequestRow where
  (requestId requestSha256 customerId : String)
  usageKind : RequestUsage
  deriving DecidableEq

structure LifecycleRow (Terms : Type) where
  fulfillmentId : String
  source : PaidLifecycleSource Terms
  deriving DecidableEq

section

variable {Terms : Type}

def fulfillmentKeys : Keys (PaidFulfillmentRecord Terms) :=
  (Keys.on (·.snapshot.id)).or
    ((Keys.on (·.snapshot.request.operationId)).or (Keys.on (·.snapshot.payment.order.orderId)))

def transferKeys : Keys (PaidTransferRecord Terms) :=
  (Keys.on (·.snapshot.id)).or
    ((Keys.on (·.snapshot.request.operationId)).or
      ((Keys.on fun row => (row.snapshot.fulfillmentId, row.snapshot.transferSequence)).or
        (Keys.on (·.snapshot.installationRequest.requestId))))

def lifecycleKeys : Keys (LifecycleRow Terms) :=
  (Keys.on (·.fulfillmentId)).or (Keys.on (·.source.sourceId))

end

structure PaidStore (Terms : Type) where
  fulfillments : Table (@fulfillmentKeys Terms)
  transfers : Table (@transferKeys Terms)
  lifecycles : Table (@lifecycleKeys Terms)
  installationRequests : Table (Keys.on InstallationRequestRow.requestId)

def PaidStore.empty {Terms : Type} : PaidStore Terms := ⟨.empty, .empty, .empty, .empty⟩

/-- What a transaction reads beside the tables: its time, whether the payment of a record is
still the stored one, and the order and the customer.
-/
structure PaidReadings (Terms : Type) where
  now : Int
  paymentIntact : PaymentRecord Terms → Bool
  order : Option (OrderSnapshot Terms × String)
  orderPending : Bool
  payment : Option (PaymentRecord Terms)
  customerActive : Bool
  customerRef : Option String

def demand (condition : Bool) (error : CommercialError) : Except CommercialError Unit :=
  if condition then .ok () else .error error

/-- A row as it is read, checked, if there is one. -/
def scanRow {Row : Type} (valid : Row → Bool) : Option Row → Except CommercialError (Option Row)
  | none => .ok none
  | some row => if valid row then .ok (some row) else .error .paidFulfillmentIntegrity

def requireRow {Row : Type} (error : CommercialError) : Option Row → Except CommercialError Row
  | none => .error error
  | some row => .ok row

section

variable {Terms : Type} [DecidableEq Terms] (format : PaidFormat Terms)
variable (readings : PaidReadings Terms) (store : PaidStore Terms)

variable (record : PaidTransferRecord Terms) (id fulfillmentId : String)
    (environment : FulfillmentEnvironment)

def PaidStore.fulfillment : Except CommercialError (Option (PaidFulfillmentRecord Terms)) :=
  scanRow (·.validate format) (store.fulfillments.select? (·.snapshot.id) id)

def PaidStore.transfer : Except CommercialError (Option (PaidTransferRecord Terms)) :=
  scanRow (·.validate format) (store.transfers.select? (·.snapshot.id) id)

def PaidStore.transfersOf : List (PaidTransferRecord Terms) :=
  (store.transfers.selectAll (·.snapshot.fulfillmentId) fulfillmentId).mergeSort
    fun first second => first.snapshot.transferSequence ≤ second.snapshot.transferSequence

/-- A document of a chain with the record that it was issued for. -/
structure LifecyclePosition (Terms : Type) where
  claims : ClaimsV2 Terms
  document : DocumentV2 Terms
  documentSha256 : String
  recordKind : PaidRecordKind
  (recordId recordSha256 : String)

def continueLifecycle (fulfillment : PaidFulfillmentRecord Terms)
    (current : LifecyclePosition Terms) (transfer : PaidTransferRecord Terms)
    : Except CommercialError (LifecyclePosition Terms) :=
  match transfer.progress with
  | .issued claims document documentSha256 =>
    if transfer.validate format && transfer.validateFulfillment format fulfillment
        && transfer.validatePredecessor format current.claims current.documentSha256 then
      .ok ⟨claims, document, documentSha256, .paidTransfer, transfer.snapshot.id, transfer.sha256⟩
    else .error .paidFulfillmentIntegrity
  | _ => .error .paidFulfillmentIntegrity

/-- The last document of a fulfilment, all transfers of which must be issued. -/
def currentPaidLifecycleSource
    (validateSources : PaidFulfillmentRecord Terms → Except CommercialError Unit)
    (store : PaidStore Terms) (request : PaidLifecycleRequest)
    (environment : FulfillmentEnvironment)
    : Except CommercialError (PaidLifecycleSource Terms) := do
  let found ← store.fulfillment format request.sourceId
  let fulfillment ← requireRow .notFound found
  validateSources fulfillment
  demand (fulfillment.snapshot.environment = environment) .fulfillmentEnvironment
  let (claims, document, documentSha256) ←
    requireRow .invalidPaidLifecycle fulfillment.progress.issuedDocument
  let current ← (store.transfersOf fulfillment.snapshot.id).foldlM
    (continueLifecycle format fulfillment)
    ⟨claims, document, documentSha256, .paidFulfillment, fulfillment.snapshot.id,
      fulfillment.sha256⟩
  demand current.claims.binding.isInstallation .paidFulfillmentIntegrity
  let validUntil ← requireRow .paidFulfillmentIntegrity current.claims.expiresAt
  return {
    kind := request.kind
    sourceId := fulfillment.snapshot.id
    sourceRecordKind := current.recordKind
    sourceRecordId := current.recordId
    sourceRecordSha256 := current.recordSha256
    customerId := fulfillment.snapshot.payment.order.customerId
    customerRef := current.claims.customerRef
    licenseId := current.claims.licenseId
    environment
    documentSha256 := current.documentSha256
    document := current.document
    binding := current.claims.binding
    validFrom := current.claims.notBefore
    validUntil }

def resolvePaidLifecycleSource
    (validateSources : PaidFulfillmentRecord Terms → Except CommercialError Unit)
    (store : PaidStore Terms) (request : Option PaidLifecycleRequest)
    (environment : FulfillmentEnvironment)
    : Except CommercialError (Option (PaidLifecycleSource Terms)) :=
  match request with
  | none => .ok none
  | some request => do
      demand (request.validate format) .invalidPaidLifecycle
      let source ←
        currentPaidLifecycleSource format validateSources store request environment
      demand (request.expectedDocumentSha256 = source.documentSha256) .conflict
      demand (source.validate format) .invalidPaidLifecycle
      return some source

/-- The payment and the frozen source of a fulfilment, this one with its own sources. A chain
of sources never visits a fulfilment twice, so the number of fulfilments bounds its length.
-/
def validatePaidSources (readings : PaidReadings Terms) (store : PaidStore Terms)
    : Nat → PaidFulfillmentRecord Terms → Except CommercialError Unit
  | 0, _ => .error .paidFulfillmentIntegrity
  | depth + 1, record => do
      demand (readings.paymentIntact record.snapshot.payment) .paidFulfillmentIntegrity
      match record.snapshot.lifecycle with
      | none => return ()
      | some source =>
        let row ← requireRow .paidFulfillmentIntegrity
          (store.lifecycles.select? (·.fulfillmentId) record.snapshot.id)
        demand (row.source = source) .paidFulfillmentIntegrity
        let current ← resolvePaidLifecycleSource format
          (validatePaidSources readings store depth) store record.snapshot.request.lifecycle
          record.snapshot.environment
        demand (current = some source) .conflict

def PaidStore.validateSources (readings : PaidReadings Terms)
    : PaidFulfillmentRecord Terms → Except CommercialError Unit :=
  validatePaidSources format readings store (store.fulfillments.rows.length + 1)

/-- Every transfer back to the first continues the document before it. -/
def validateTransferChain (store : PaidStore Terms)
    (fulfillment : PaidFulfillmentRecord Terms)
    : Nat → PaidTransferRecord Terms → Except CommercialError Unit
  | 0, _ => .error .paidFulfillmentIntegrity
  | 1, current => do
      let (claims, _, documentSha256) ←
        requireRow .paidFulfillmentIntegrity fulfillment.progress.issuedDocument
      demand (current.validatePredecessor format claims documentSha256) .paidFulfillmentIntegrity
  | sequence + 2, current => do
      let found ← scanRow (·.validate format)
        (store.transfers.select?
          (fun row => (row.snapshot.fulfillmentId, row.snapshot.transferSequence))
          (current.snapshot.fulfillmentId, sequence + 1))
      let previous ← requireRow .paidFulfillmentIntegrity found
      let (claims, _, documentSha256) ←
        requireRow .paidFulfillmentIntegrity previous.progress.issuedDocument
      demand (current.validatePredecessor format claims documentSha256) .paidFulfillmentIntegrity
      demand (previous.validateFulfillment format fulfillment) .paidFulfillmentIntegrity
      validateTransferChain store fulfillment (sequence + 1) previous

def validatePaidTransferSources : Except CommercialError Unit := do
  let found ← store.fulfillment format record.snapshot.fulfillmentId
  let fulfillment ← requireRow .paidFulfillmentIntegrity found
  store.validateSources format readings fulfillment
  demand (record.validateFulfillment format fulfillment) .paidFulfillmentIntegrity
  validateTransferChain format store fulfillment record.snapshot.transferSequence record

/-- Records the use of an installation request, which is for one customer and one kind. -/
def claimCommercialInstallationRequest (row : InstallationRequestRow)
    : Except CommercialError (PaidStore Terms) :=
  match store.installationRequests.select? (·.requestId) row.requestId with
  | some stored => if stored = row then .ok store else .error .conflict
  | none =>
    match store.installationRequests.insert? row with
    | some installationRequests => .ok { store with installationRequests }
    | none => .error .conflict

def PaidStore.insertTransfer : Except CommercialError (PaidStore Terms) := do
  let transfers ← requireRow .conflict (store.transfers.insert? record)
  return { store with transfers }

def PaidStore.insertFulfillment (record : PaidFulfillmentRecord Terms)
    : Except CommercialError (PaidStore Terms) := do
  let fulfillments ← requireRow .conflict (store.fulfillments.insert? record)
  return { store with fulfillments }

def storePaidLifecycleSource (source : Option (PaidLifecycleSource Terms))
    : Except CommercialError (PaidStore Terms) :=
  match source with
  | none => .ok store
  | some source => do
      demand (source.validate format) .invalidPaidLifecycle
      let lifecycles ← requireRow .conflict (store.lifecycles.insert? ⟨fulfillmentId, source⟩)
      return { store with lifecycles }

omit [DecidableEq Terms] in
theorem keeps_transfer_progress (progress : PaidProgress Terms)
    : Table.Keeps transferKeys fun row : PaidTransferRecord Terms => { row with progress } :=
  ⟨Iff.rfl, Iff.rfl⟩

omit [DecidableEq Terms] in
theorem keeps_fulfillment_progress (progress : PaidProgress Terms)
    : Table.Keeps fulfillmentKeys fun row : PaidFulfillmentRecord Terms => { row with progress } :=
  ⟨Iff.rfl, Iff.rfl⟩

/-- Moves the transfer with the id on, if it has the status. -/
def PaidStore.updateTransfer (status : PaidStatus) (next : PaidProgress Terms)
    : PaidStore Terms :=
  { store with
    transfers := store.transfers.updateWhere
      (fun row => row.snapshot.id = id && row.progress.status = status)
      (fun row => { row with progress := next }) (keeps_transfer_progress next) }

def PaidStore.updateFulfillment (status : PaidStatus) (next : PaidProgress Terms)
    : PaidStore Terms :=
  { store with
    fulfillments := store.fulfillments.updateWhere
      (fun row => row.snapshot.id = id && row.progress.status = status)
      (fun row => { row with progress := next }) (keeps_fulfillment_progress next) }

def previousDocument (initial : ClaimsV2 Terms × DocumentV2 Terms × String)
    : Except CommercialError (ClaimsV2 Terms × DocumentV2 Terms × String) := do
  match ← scanRow (·.validate format) (store.transfersOf fulfillmentId).getLast? with
  | none => return initial
  | some latest =>
    validatePaidTransferSources format readings store latest
    requireRow .conflict latest.progress.issuedDocument

def approvePaidTransfer (input : ApprovePaidTransferInput) (environment : FulfillmentEnvironment)
    (actor : String)
    : Except CommercialError (PaidTransferRecord Terms × PaidStore Terms) := do
  demand (input.validate format) .invalidPaidTransfer
  let old ← scanRow (·.validate format)
    (store.transfers.select? (·.snapshot.request.operationId) input.operationId)
  match old with
  | some old =>
    demand (old.matches id fulfillmentId actor input) .conflict
    validatePaidTransferSources format readings store old
    return (old, store)
  | none =>
    let request ← requireRow .invalidPaidTransfer (format.parseRequest input.licenseRequestJson)
    let found ← store.fulfillment format fulfillmentId
    let fulfillment ← requireRow .notFound found
    store.validateSources format readings fulfillment
    let issued ← requireRow .conflict fulfillment.progress.issuedDocument
    demand (fulfillment.snapshot.environment = environment) .fulfillmentEnvironment
    let previous ← previousDocument format readings store fulfillmentId issued
    demand (store.lifecycles.select? (·.source.sourceId) fulfillmentId).isNone .conflict
    demand (input.expectedCurrentDocumentSha256 = previous.2.2) .conflict
    demand (store.fulfillments.select? (·.snapshot.installationRequest.requestId)
      request.requestId).isNone .conflict
    demand (store.transfers.select? (·.snapshot.installationRequest.requestId)
      request.requestId).isNone .conflict
    let record ← newPaidTransfer format id input fulfillment previous.1 previous.2.2 actor
      (formatTime readings.now)
    let claimed ← claimCommercialInstallationRequest store
      ⟨record.snapshot.installationRequest.requestId, record.snapshot.requestSha256,
        record.snapshot.customerId, .transfer⟩
    let next ← claimed.insertTransfer record
    return (record, next)

/-- A transfer that is not issued yet must be the latest one. -/
def validatePaidTransferProgress : Except CommercialError Unit := do
  demand (record.snapshot.environment = environment) .fulfillmentEnvironment
  validatePaidTransferSources format readings store record
  let latest ← requireRow .notFound (store.transfersOf record.snapshot.fulfillmentId).getLast?
  demand (latest.snapshot.id = record.snapshot.id) .conflict

def preparePaidTransfer (keyId : String) (environment : FulfillmentEnvironment)
    : Except CommercialError (PaidTransferRecord Terms × PaidStore Terms) := do
  let found ← store.transfer format id
  let record ← requireRow .notFound found
  demand (record.progress.claims.all (·.keyId = keyId)) .conflict
  match record.progress with
  | .issued _ _ _ =>
    validatePaidTransferSources format readings store record
    return (record, store)
  | .prepared _ =>
    validatePaidTransferProgress format readings store record environment
    return (record, store)
  | .approved =>
    validatePaidTransferProgress format readings store record environment
    let claims ← record.snapshot.claims format keyId (formatTime readings.now)
    let prepared := { record with progress := .prepared claims }
    demand (prepared.validate format) .paidFulfillmentIntegrity
    return (prepared, store.updateTransfer id .approved (.prepared claims))

def completePaidTransfer (document : DocumentV2 Terms) (environment : FulfillmentEnvironment)
    : Except CommercialError (PaidTransferRecord Terms × PaidStore Terms) := do
  let digest := format.documentDigest document
  let found ← store.transfer format id
  let record ← requireRow .notFound found
  validatePaidTransferSources format readings store record
  match record.progress with
  | .issued _ _ documentSha256 =>
    demand (documentSha256 = digest) .conflict
    return (record, store)
  | .approved => .error .conflict
  | .prepared claims =>
    validatePaidTransferProgress format readings store record environment
    let issued := { record with progress := .issued claims document digest }
    demand (issued.validate format) .paidFulfillmentIntegrity
    return (issued, store.updateTransfer id .prepared (.issued claims document digest))

def matchesPaidApproval (record : PaidFulfillmentRecord Terms) (id orderId actor : String)
    (input : ApprovePaidFulfillmentInput)
    : Bool :=
  record.snapshot.id = id && record.snapshot.payment.order.orderId = orderId
    && record.snapshot.approvedBy = actor && record.snapshot.request = input

def approvePaidFulfillment (orderId : String) (input : ApprovePaidFulfillmentInput)
    (environment : FulfillmentEnvironment) (actor : String)
    : Except CommercialError (PaidFulfillmentRecord Terms × PaidStore Terms) := do
  demand (input.validate format) .invalidPaidFulfillment
  let old ← scanRow (·.validate format)
    (store.fulfillments.select? (·.snapshot.request.operationId) input.operationId)
  match old with
  | some old =>
    demand (matchesPaidApproval old id orderId actor input) .conflict
    store.validateSources format readings old
    return (old, store)
  | none =>
    let (order, orderSha256) ← requireRow .notFound readings.order
    demand (orderSha256 = input.expectedOrderSha256 && readings.orderPending) .conflict
    demand (order.sourceEnvironment.all (· = environment)) .fulfillmentEnvironment
    demand (store.fulfillments.select? (·.snapshot.payment.order.orderId) orderId).isNone .conflict
    let payment ← requireRow .notFound readings.payment
    demand (payment.sha256 = input.expectedPaymentSha256) .conflict
    demand (readings.paymentIntact payment && payment.order.orderId = orderId)
      .paidFulfillmentIntegrity
    demand readings.customerActive .conflict
    let customerRef ← requireRow .customerReferenceUnavailable readings.customerRef
    let lifecycle ← resolvePaidLifecycleSource format
      (store.validateSources format readings) store input.lifecycle environment
    let record ← newPaidFulfillmentWithLifecycle format id input payment customerRef
      environment actor (formatTime readings.now) lifecycle
    let requestId := record.snapshot.installationRequest.requestId
    demand ((store.fulfillments.selectAll (·.snapshot.installationRequest.requestId)
      requestId).all fun previous =>
        previous.validate format
          && previous.snapshot.payment.order.customerId = order.customerId
          && previous.snapshot.installationRequest = record.snapshot.installationRequest)
      .conflict
    let claimed ← claimCommercialInstallationRequest store
      ⟨requestId, record.snapshot.requestSha256, order.customerId,
        if lifecycle.isSome then .successor else .initial⟩
    let inserted ← claimed.insertFulfillment record
    let next ← storePaidLifecycleSource format inserted id lifecycle
    return (record, next)

def validatePaidProgress (record : PaidFulfillmentRecord Terms)
    (environment : FulfillmentEnvironment)
    : Except CommercialError Unit := do
  demand (record.snapshot.environment = environment) .fulfillmentEnvironment
  store.validateSources format readings record
  demand readings.orderPending .conflict
  demand readings.customerActive .conflict

def preparePaidFulfillment (keyId : String) (environment : FulfillmentEnvironment)
    : Except CommercialError (PaidFulfillmentRecord Terms × PaidStore Terms) := do
  let found ← store.fulfillment format id
  let record ← requireRow .notFound found
  demand (record.progress.claims.all (·.keyId = keyId)) .conflict
  match record.progress with
  | .issued _ _ _ =>
    store.validateSources format readings record
    return (record, store)
  | .prepared _ =>
    validatePaidProgress format readings store record environment
    return (record, store)
  | .approved =>
    validatePaidProgress format readings store record environment
    let claims ← record.snapshot.claims format keyId (formatTime readings.now)
    let prepared := { record with progress := .prepared claims }
    demand (prepared.validate format) .paidFulfillmentIntegrity
    return (prepared, store.updateFulfillment id .approved (.prepared claims))

def completePaidFulfillment (document : DocumentV2 Terms) (environment : FulfillmentEnvironment)
    : Except CommercialError (PaidFulfillmentRecord Terms × PaidStore Terms) := do
  let digest := format.documentDigest document
  let found ← store.fulfillment format id
  let record ← requireRow .notFound found
  store.validateSources format readings record
  match record.progress with
  | .issued _ _ documentSha256 =>
    demand (documentSha256 = digest) .conflict
    return (record, store)
  | .approved => .error .conflict
  | .prepared claims =>
    validatePaidProgress format readings store record environment
    let issued := { record with progress := .issued claims document digest }
    demand (issued.validate format) .paidFulfillmentIntegrity
    return (issued, store.updateFulfillment id .prepared (.issued claims document digest))

end

inductive PaidTransaction (Terms : Type)
  | approveTransfer (id fulfillmentId : String) (input : ApprovePaidTransferInput)
      (environment : FulfillmentEnvironment) (actor : String)
  | prepareTransfer (id keyId : String) (environment : FulfillmentEnvironment)
  | completeTransfer (id : String) (document : DocumentV2 Terms)
      (environment : FulfillmentEnvironment)
  | approveFulfillment (id orderId : String) (input : ApprovePaidFulfillmentInput)
      (environment : FulfillmentEnvironment) (actor : String)
  | prepareFulfillment (id keyId : String) (environment : FulfillmentEnvironment)
  | completeFulfillment (id : String) (document : DocumentV2 Terms)
      (environment : FulfillmentEnvironment)

section

variable {Terms : Type} [DecidableEq Terms]

def PaidTransaction.run (format : PaidFormat Terms) (readings : PaidReadings Terms)
    (store : PaidStore Terms)
    : PaidTransaction Terms → Except CommercialError (PaidStore Terms)
  | approveTransfer id fulfillmentId input environment actor =>
    Prod.snd <$> approvePaidTransfer format readings store id fulfillmentId input environment actor
  | prepareTransfer id keyId environment =>
    Prod.snd <$> preparePaidTransfer format readings store id keyId environment
  | completeTransfer id document environment =>
    Prod.snd <$> completePaidTransfer format readings store id document environment
  | approveFulfillment id orderId input environment actor =>
    Prod.snd <$> approvePaidFulfillment format readings store id orderId input environment actor
  | prepareFulfillment id keyId environment =>
    Prod.snd <$> preparePaidFulfillment format readings store id keyId environment
  | completeFulfillment id document environment =>
    Prod.snd <$> completePaidFulfillment format readings store id document environment

/-- A transaction commits, or leaves the tables as they were: it was refused, it was retried
later or its process has stopped.
-/
inductive PaidStep (format : PaidFormat Terms)
    : PaidStore Terms → PaidTransaction Terms → PaidStore Terms → Prop
  | commits {store next : PaidStore Terms} {transaction : PaidTransaction Terms}
    (readings : PaidReadings Terms) (ended : transaction.run format readings store = .ok next)
    : PaidStep format store transaction next
  | rollsBack (store : PaidStore Terms) (transaction : PaidTransaction Terms)
    : PaidStep format store transaction store

end

end AsterTeam
