import AsterTeam.LicenseState.Progress

/-! The immutable records of paid licences: fulfilments, their transfers to other machines
and the source of a renewal or an upgrade. Times are in nanoseconds.
-/

namespace AsterTeam

inductive CommercialError
  | notFound
  | conflict
  | invalidPaidTransfer
  | invalidPaidFulfillment
  | invalidPaidLifecycle
  | paidFulfillmentIntegrity
  | fulfillmentEnvironment
  | customerReferenceUnavailable
  deriving DecidableEq

inductive FulfillmentEnvironment
  | localSite
  | production
  deriving DecidableEq

inductive PaidLifecycleKind
  | renewal
  | upgrade
  deriving DecidableEq

inductive PaidRecordKind
  | paidFulfillment
  | paidTransfer
  deriving DecidableEq

/-- The claims of a document; `Terms` holds what the plan grants. -/
structure ClaimsV2 (Terms : Type) where
  (keyId licenseId serial : String)
  origin : LicenseOrigin
  (orderId customerRef requestId : String)
  terms : Terms
  binding : LicenseBinding
  notBefore : Int
  expiresAt : Option Int
  issuedAt : Int
  deriving DecidableEq

structure DocumentV2 (Terms : Type) where
  claims : ClaimsV2 Terms
  signature : String
  deriving DecidableEq

structure RequestV2 where
  (requestId productVersion installationId machineFingerprintSha256 : String)
  generatedAt : Int
  deriving DecidableEq

structure OrderSnapshot (Terms : Type) where
  (orderId customerId : String)
  (startsAt endsAt : Int)
  terms : Terms
  transferLimit : Nat
  sourceEnvironment : Option FulfillmentEnvironment
  deriving DecidableEq

structure PaymentRecord (Terms : Type) where
  id : String
  order : OrderSnapshot Terms
  orderSha256 : String
  confirmedAt : Int
  sha256 : String
  deriving DecidableEq

structure PaidLifecycleRequest where
  kind : PaidLifecycleKind
  (sourceId expectedDocumentSha256 : String)
  deriving DecidableEq

structure PaidLifecycleSource (Terms : Type) where
  kind : PaidLifecycleKind
  sourceId : String
  sourceRecordKind : PaidRecordKind
  (sourceRecordId sourceRecordSha256 customerId customerRef licenseId : String)
  environment : FulfillmentEnvironment
  documentSha256 : String
  document : DocumentV2 Terms
  binding : LicenseBinding
  (validFrom validUntil : Int)
  deriving DecidableEq

structure ApprovePaidFulfillmentInput where
  (operationId expectedOrderSha256 expectedPaymentSha256 licenseRequestJson reason : String)
  lifecycle : Option PaidLifecycleRequest
  deriving DecidableEq

structure PaidFulfillmentSnapshot (Terms : Type) where
  id : String
  payment : PaymentRecord Terms
  request : ApprovePaidFulfillmentInput
  installationRequest : RequestV2
  (requestSha256 customerRef : String)
  environment : FulfillmentEnvironment
  approvedBy : String
  approvedAt : Int
  lifecycle : Option (PaidLifecycleSource Terms)
  deriving DecidableEq

structure ApprovePaidTransferInput where
  (operationId expectedCurrentDocumentSha256 licenseRequestJson reason : String)
  deriving DecidableEq

structure PaidTransferSnapshot (Terms : Type) where
  (id fulfillmentId fulfillmentSha256 customerId : String)
  originalClaims : ClaimsV2 Terms
  transferLimit : Nat
  request : ApprovePaidTransferInput
  installationRequest : RequestV2
  (requestSha256 previousDocumentSha256 : String)
  previousBinding : LicenseBinding
  previousIssuedAt : Int
  transferSequence : Nat
  environment : FulfillmentEnvironment
  approvedBy : String
  approvedAt : Int
  deriving DecidableEq

/-- The state of a record with what belongs to it: claims from the preparation on, the
signed document and its digest once it is issued.
-/
inductive PaidProgress (Terms : Type)
  | approved
  | prepared (claims : ClaimsV2 Terms)
  | issued (claims : ClaimsV2 Terms) (document : DocumentV2 Terms) (documentSha256 : String)
  deriving DecidableEq

structure PaidFulfillmentRecord (Terms : Type) where
  snapshot : PaidFulfillmentSnapshot Terms
  sha256 : String
  progress : PaidProgress Terms
  deriving DecidableEq

structure PaidTransferRecord (Terms : Type) where
  snapshot : PaidTransferSnapshot Terms
  sha256 : String
  progress : PaidProgress Terms
  deriving DecidableEq

/-- The shapes of the texts, the parsers and the digests of the canonical encodings. -/
structure PaidFormat (Terms : Type) where
  (identifier catalogDigest reasonText : String → Bool)
  claimsText : ClaimsV2 Terms → Bool
  bindingText : LicenseBinding → Bool
  orderValid : OrderSnapshot Terms → Bool
  paymentValid : PaymentRecord Terms → Bool
  requestValid : RequestV2 → Bool
  parseRequest : String → Option RequestV2
  supports : RequestV2 → Terms → Bool
  signatureShape : String → Bool
  requestDigest : RequestV2 → String
  documentDigest : DocumentV2 Terms → String
  fulfillmentDigest : PaidFulfillmentSnapshot Terms → String
  transferDigest : PaidTransferSnapshot Terms → String

def PaidProgress.claims {Terms : Type} : PaidProgress Terms → Option (ClaimsV2 Terms)
  | approved => none
  | prepared claims => some claims
  | issued claims _ _ => some claims

def PaidProgress.issuedDocument {Terms : Type}
    : PaidProgress Terms → Option (ClaimsV2 Terms × DocumentV2 Terms × String)
  | issued claims document documentSha256 => some (claims, document, documentSha256)
  | _ => none

def LicenseBinding.isInstallation : LicenseBinding → Bool
  | .unbound => false
  | .installation .. => true

section

variable {Terms : Type} [DecidableEq Terms] (format : PaidFormat Terms)

def ClaimsV2.validate (claims : ClaimsV2 Terms) : Bool :=
  format.claimsText claims && format.bindingText claims.binding
    && (if claims.origin = .freeDistribution then claims.binding = .unbound
        else claims.binding.isInstallation && claims.expiresAt.isSome)
    && claims.expiresAt.all fun expires =>
        claims.notBefore < expires && claims.issuedAt < expires

def PaidLifecycleRequest.validate (request : PaidLifecycleRequest) : Bool :=
  format.identifier request.sourceId && request.sourceId.utf8ByteSize ≤ 64
    && format.catalogDigest request.expectedDocumentSha256

def PaidLifecycleSource.validate (source : PaidLifecycleSource Terms) : Bool :=
  let claims := source.document.claims
  ([source.sourceId, source.sourceRecordId, source.customerId, source.customerRef,
      source.licenseId].all fun id => format.identifier id && id.utf8ByteSize ≤ 128)
    && format.catalogDigest source.sourceRecordSha256
    && format.catalogDigest source.documentSha256
    && format.bindingText source.binding && source.binding.isInstallation
    && source.validFrom < source.validUntil
    && claims.validate format && format.documentDigest source.document = source.documentSha256
    && claims.licenseId = source.licenseId && claims.customerRef = source.customerRef
    && claims.binding.isInstallation && claims.notBefore = source.validFrom
    && claims.expiresAt = some source.validUntil && claims.binding = source.binding

/-- A successor is for the same customer and machine, is approved strictly after the
predecessor was issued and continues its validity.
-/
def PaidLifecycleSource.validateSuccessor (source : PaidLifecycleSource Terms)
    (order : OrderSnapshot Terms) (request : RequestV2) (approvedAt : Int)
    : Bool :=
  source.validate format && format.orderValid order && format.requestValid request
    && order.customerId = source.customerId
    && (match source.binding with
      | .unbound => false
      | .installation installationId machineFingerprintSha256 _ =>
        request.installationId = installationId
          && request.machineFingerprintSha256 = machineFingerprintSha256)
    && source.document.claims.issuedAt < approvedAt
    && match source.kind with
      | .renewal => order.startsAt = source.validUntil
      | .upgrade =>
        source.validFrom ≤ order.startsAt && order.startsAt < source.validUntil
          && approvedAt < source.validUntil

def ApprovePaidFulfillmentInput.validate (input : ApprovePaidFulfillmentInput) : Bool :=
  format.identifier input.operationId && format.catalogDigest input.expectedOrderSha256
    && format.catalogDigest input.expectedPaymentSha256
    && input.licenseRequestJson.utf8ByteSize ≤ 16384 && format.reasonText input.reason
    && (format.parseRequest input.licenseRequestJson).isSome
    && input.lifecycle.all (·.validate format)

def PaidFulfillmentSnapshot.validate (snapshot : PaidFulfillmentSnapshot Terms) : Bool :=
  let order := snapshot.payment.order
  format.identifier snapshot.id && snapshot.id.utf8ByteSize ≤ 64
    && format.identifier snapshot.approvedBy && snapshot.approvedBy.utf8ByteSize ≤ 64
    && format.identifier snapshot.customerRef && format.paymentValid snapshot.payment
    && snapshot.request.validate format && format.requestValid snapshot.installationRequest
    && snapshot.request.lifecycle.isNone = snapshot.lifecycle.isNone
    && snapshot.request.expectedPaymentSha256 = snapshot.payment.sha256
    && snapshot.request.expectedOrderSha256 = snapshot.payment.orderSha256
    && order.sourceEnvironment.all (· = snapshot.environment)
    && format.supports snapshot.installationRequest order.terms
    && format.parseRequest snapshot.request.licenseRequestJson = some snapshot.installationRequest
    && format.requestDigest snapshot.installationRequest = snapshot.requestSha256
    && snapshot.payment.confirmedAt ≤ snapshot.approvedAt
    && snapshot.installationRequest.generatedAt ≤ snapshot.approvedAt
    && snapshot.approvedAt < order.endsAt
    && snapshot.lifecycle.all fun source =>
        source.validateSuccessor format order snapshot.installationRequest snapshot.approvedAt
          && snapshot.request.lifecycle = some ⟨source.kind, source.sourceId, source.documentSha256⟩

/-- The claims of a fulfilment, which start without a transfer. -/
def PaidFulfillmentSnapshot.claims (snapshot : PaidFulfillmentSnapshot Terms) (keyId : String)
    (issuedAt : Int)
    : Except CommercialError (ClaimsV2 Terms) :=
  if !snapshot.validate format then .error .invalidPaidFulfillment
  else if issuedAt < snapshot.approvedAt then .error .invalidPaidFulfillment
  else
    let order := snapshot.payment.order
    let request := snapshot.installationRequest
    let claims : ClaimsV2 Terms :=
      { keyId
        licenseId := "license_" ++ snapshot.id
        serial := "serial_" ++ snapshot.id
        origin := .commercialOrder
        orderId := order.orderId
        customerRef := snapshot.customerRef
        requestId := request.requestId
        terms := order.terms
        binding := .installation request.installationId request.machineFingerprintSha256 0
        notBefore := order.startsAt
        expiresAt := some order.endsAt
        issuedAt := formatTime issuedAt }
    if claims.validate format then .ok claims else .error .invalidPaidFulfillment

variable (record : PaidTransferRecord Terms) (id : String) (input : ApprovePaidTransferInput)

def newPaidFulfillmentWithLifecycle (input : ApprovePaidFulfillmentInput)
    (payment : PaymentRecord Terms) (customerRef : String) (environment : FulfillmentEnvironment)
    (actor : String) (now : Int) (lifecycle : Option (PaidLifecycleSource Terms))
    : Except CommercialError (PaidFulfillmentRecord Terms) :=
  if !input.validate format then .error .invalidPaidFulfillment
  else
    match format.parseRequest input.licenseRequestJson with
    | none => .error .invalidPaidFulfillment
    | some request =>
      if lifecycle.any fun source =>
          source.customerRef ≠ customerRef || source.environment ≠ environment then
        .error .invalidPaidFulfillment
      else
        let snapshot : PaidFulfillmentSnapshot Terms :=
          ⟨id, payment, input, request, format.requestDigest request, customerRef,
            environment, actor, formatTime now, lifecycle⟩
        if snapshot.validate format then
          .ok ⟨snapshot, format.fulfillmentDigest snapshot, .approved⟩
        else .error .invalidPaidFulfillment

def ApprovePaidTransferInput.validate : Bool :=
  format.identifier input.operationId && input.operationId.utf8ByteSize ≤ 128
    && format.catalogDigest input.expectedCurrentDocumentSha256
    && input.licenseRequestJson.utf8ByteSize ≤ 16384 && format.reasonText input.reason
    && (format.parseRequest input.licenseRequestJson).isSome

def PaidTransferSnapshot.validate (snapshot : PaidTransferSnapshot Terms) : Bool :=
  let original := snapshot.originalClaims
  let request := snapshot.installationRequest
  ([snapshot.id, snapshot.approvedBy, snapshot.fulfillmentId, snapshot.customerId].all
      fun id => format.identifier id && id.utf8ByteSize ≤ 64)
    && format.catalogDigest snapshot.fulfillmentSha256
    && original.validate format && original.origin = .commercialOrder
    && original.binding.isInstallation && original.binding.transferSequence = 0
    && snapshot.transferLimit ≤ 10000
    && snapshot.request.validate format && format.requestValid request
    && format.catalogDigest snapshot.requestSha256
    && format.catalogDigest snapshot.previousDocumentSha256
    && snapshot.request.expectedCurrentDocumentSha256 = snapshot.previousDocumentSha256
    && snapshot.previousBinding.isInstallation && snapshot.transferSequence ≠ 0
    && snapshot.previousBinding.transferSequence + 1 = snapshot.transferSequence
    && snapshot.transferSequence ≤ snapshot.transferLimit
    && format.supports request original.terms
    && (match snapshot.previousBinding with
      | .unbound => true
      | .installation installationId machineFingerprintSha256 _ =>
        request.installationId ≠ installationId
          || request.machineFingerprintSha256 ≠ machineFingerprintSha256)
    && format.parseRequest snapshot.request.licenseRequestJson = some request
    && format.requestDigest request = snapshot.requestSha256
    && snapshot.previousIssuedAt ≤ snapshot.approvedAt
    && request.generatedAt ≤ snapshot.approvedAt
    && original.expiresAt.any (snapshot.approvedAt < ·)

/-- The claims of a transfer: those of the fulfilment with the new machine and the next
sequence.
-/
def PaidTransferSnapshot.claims (snapshot : PaidTransferSnapshot Terms) (keyId : String)
    (issuedAt : Int)
    : Except CommercialError (ClaimsV2 Terms) :=
  if !snapshot.validate format then .error .invalidPaidTransfer
  else if issuedAt < snapshot.approvedAt
      || snapshot.originalClaims.expiresAt.all (· ≤ issuedAt) then
    .error .invalidPaidTransfer
  else
    let request := snapshot.installationRequest
    let claims : ClaimsV2 Terms :=
      { snapshot.originalClaims with
        keyId
        serial := "serial_" ++ snapshot.id
        requestId := request.requestId
        binding := .installation request.installationId request.machineFingerprintSha256
          snapshot.transferSequence
        issuedAt := formatTime issuedAt }
    if claims.validate format then .ok claims else .error .invalidPaidTransfer

/-- The state of a record agrees with the claims that its snapshot gives. -/
def PaidProgress.validate (claimsOf : String → Int → Except CommercialError (ClaimsV2 Terms))
    : PaidProgress Terms → Bool
  | approved => true
  | prepared claims => claimsOf claims.keyId claims.issuedAt = .ok claims
  | issued claims document documentSha256 =>
    claimsOf claims.keyId claims.issuedAt = .ok claims
      && format.signatureShape document.signature && document.claims = claims
      && format.documentDigest document = documentSha256

def PaidFulfillmentRecord.validate (record : PaidFulfillmentRecord Terms) : Bool :=
  record.snapshot.validate format && format.fulfillmentDigest record.snapshot = record.sha256
    && record.progress.validate format (record.snapshot.claims format)

def PaidTransferRecord.validate (record : PaidTransferRecord Terms) : Bool :=
  record.snapshot.validate format && format.transferDigest record.snapshot = record.sha256
    && record.progress.validate format (record.snapshot.claims format)

def newPaidTransfer (fulfillment : PaidFulfillmentRecord Terms) (previousClaims : ClaimsV2 Terms)
    (previousDocumentSha256 actor : String) (now : Int)
    : Except CommercialError (PaidTransferRecord Terms) :=
  match fulfillment.progress with
  | .issued original _ _ =>
    if !(input.validate format && fulfillment.validate format
        && previousClaims.validate format && previousClaims.licenseId = original.licenseId
        && previousClaims.orderId = original.orderId && previousClaims.binding.isInstallation
        && input.expectedCurrentDocumentSha256 = previousDocumentSha256
        && format.catalogDigest previousDocumentSha256) then
      .error .invalidPaidTransfer
    else
      match format.parseRequest input.licenseRequestJson with
      | none => .error .invalidPaidTransfer
      | some request =>
        let order := fulfillment.snapshot.payment.order
        let snapshot : PaidTransferSnapshot Terms :=
          { id
            fulfillmentId := fulfillment.snapshot.id
            fulfillmentSha256 := fulfillment.sha256
            customerId := order.customerId
            originalClaims := original
            transferLimit := order.transferLimit
            request := input
            installationRequest := request
            requestSha256 := format.requestDigest request
            previousDocumentSha256
            previousBinding := previousClaims.binding
            previousIssuedAt := previousClaims.issuedAt
            transferSequence := previousClaims.binding.transferSequence + 1
            environment := fulfillment.snapshot.environment
            approvedBy := actor
            approvedAt := formatTime now }
        if snapshot.validate format then
          .ok ⟨snapshot, format.transferDigest snapshot, .approved⟩
        else .error .invalidPaidTransfer
  | _ => .error .invalidPaidTransfer

def PaidTransferRecord.matches (fulfillmentId actor : String) (input : ApprovePaidTransferInput)
    : Bool :=
  record.snapshot.id = id && record.snapshot.fulfillmentId = fulfillmentId
    && record.snapshot.approvedBy = actor && record.snapshot.request = input

def PaidTransferRecord.validateFulfillment (fulfillment : PaidFulfillmentRecord Terms) : Bool :=
  let order := fulfillment.snapshot.payment.order
  record.validate format && fulfillment.validate format
    && (match fulfillment.progress with
      | .issued claims _ _ => record.snapshot.originalClaims = claims
      | _ => false)
    && record.snapshot.fulfillmentId = fulfillment.snapshot.id
    && record.snapshot.fulfillmentSha256 = fulfillment.sha256
    && record.snapshot.customerId = order.customerId
    && record.snapshot.transferLimit = order.transferLimit
    && record.snapshot.environment = fulfillment.snapshot.environment

def PaidTransferRecord.validatePredecessor (claims : ClaimsV2 Terms) (documentSha256 : String)
    : Bool :=
  record.validate format && claims.validate format && format.catalogDigest documentSha256
    && record.snapshot.previousDocumentSha256 = documentSha256
    && record.snapshot.previousIssuedAt = claims.issuedAt
    && claims.licenseId = record.snapshot.originalClaims.licenseId
    && claims.orderId = record.snapshot.originalClaims.orderId
    && record.snapshot.previousBinding = claims.binding

end

end AsterTeam
