import AsterTeam.TokenQuota.Storage

/-! Vouchers: a redemption changes the voucher, its delivery, the balance, the ledger and the
audit log in one transaction.
-/

namespace AsterTeam.Vouchers

open MachineInteger Relational

-- Records and tables

inductive VoucherStatus
  | active
  | disabled
  | redeemed
  deriving DecidableEq

structure VoucherRecord where
  (id codeHash codePrefix name : String)
  quotaTokens : Int64
  status : VoucherStatus
  (maxRedemptions redeemedCount : UInt32)
  expiresAt : Option String
  createdBy : String
  revision : UInt32
  (integrityHmac createdAt : String)
  deriving DecidableEq

inductive DeliveryStatus
  | pending
  | redeemed
  deriving DecidableEq

structure VoucherDeliveryRecord where
  (id voucherId identityId : String)
  status : DeliveryStatus
  deliveredAt : String
  redeemedAt : Option String
  deriving DecidableEq

structure VoucherRedemptionRecord where
  (id voucherId identityId : String)
  amountTokens : Int64
  (ledgerEntryId createdAt : String)
  deriving DecidableEq

inductive VoucherRedeemOutcome
  | applied
  | unavailable
  | alreadyRedeemed
  | conflict
  deriving DecidableEq

def voucherKeys : Keys VoucherRecord :=
  (Keys.on VoucherRecord.id).or (Keys.on VoucherRecord.codeHash)

def deliveryKeys : Keys VoucherDeliveryRecord :=
  (Keys.on VoucherDeliveryRecord.id).or
    (Keys.on fun delivery => (delivery.voucherId, delivery.identityId))

def redemptionKeys : Keys VoucherRedemptionRecord :=
  ((Keys.on VoucherRedemptionRecord.id).or
    (Keys.on fun redemption => (redemption.voucherId, redemption.identityId))).or
    (Keys.on VoucherRedemptionRecord.ledgerEntryId)

structure VoucherDatabase where
  base : Database
  vouchers : Table voucherKeys
  deliveries : Table deliveryKeys
  redemptions : Table redemptionKeys

variable (db : VoucherDatabase) (args : Redemption) (voucherId : String)
    (voucher : VoucherRecord) (identityId : String)

def VoucherDatabase.voucher? (id : String) : Option VoucherRecord :=
  db.vouchers.select? VoucherRecord.id id

def VoucherDatabase.redemptionsOf : List VoucherRedemptionRecord :=
  db.redemptions.selectAll VoucherRedemptionRecord.voucherId voucherId

def VoucherDatabase.deliveriesOf : List VoucherDeliveryRecord :=
  db.deliveries.selectAll VoucherDeliveryRecord.voucherId voucherId

-- The transaction

structure Redemption where
  expectedVoucher : VoucherRecord
  expectedDelivery : Option VoucherDeliveryRecord
  (identityId now : String)
  (expectedBalance nextBalance : UserBalanceRecord)
  ledger : QuotaLedgerEntry
  redemption : VoucherRedemptionRecord
  nextVoucherIntegrityHmac : String
  audit : Option AuditAppend

def saturatingCount (value : UInt32) : UInt32 := .ofNat (min (value.toNat + 1) (2 ^ 32 - 1))

def setRedeemed (integrityHmac : String) (row : VoucherRecord) : VoucherRecord :=
  { row with
    redeemedCount := saturatingCount voucher.redeemedCount
    status :=
      if voucher.maxRedemptions ≤ saturatingCount voucher.redeemedCount then .redeemed
      else .active
    revision := saturatingCount voucher.revision
    integrityHmac }

theorem setRedeemed_keeps (voucher : VoucherRecord) (integrityHmac : String)
    : Table.Keeps voucherKeys (setRedeemed voucher integrityHmac) :=
  ⟨Iff.rfl, Iff.rfl⟩

def setDelivered (now : String) (row : VoucherDeliveryRecord) : VoucherDeliveryRecord :=
  { row with status := .redeemed, redeemedAt := some now }

theorem setDelivered_keeps (now : String) : Table.Keeps deliveryKeys (setDelivered now) :=
  ⟨Iff.rfl, Iff.rfl⟩

def validRedemption : Bool :=
  validGrantTransition args.expectedBalance args.nextBalance args.ledger
    && args.expectedVoucher.quotaTokens == args.ledger.amountTokens
    && args.expectedVoucher.quotaTokens == args.redemption.amountTokens
    && args.expectedVoucher.id == args.redemption.voucherId
    && args.expectedBalance.identityId == args.identityId
    && args.ledger.identityId == args.identityId
    && args.redemption.identityId == args.identityId
    && args.redemption.ledgerEntryId == args.ledger.id
    && args.expectedVoucher.integrityHmac ≠ ""
    && args.nextVoucherIntegrityHmac ≠ ""

/-- A voucher that was delivered needs the pending delivery of the identity. -/
def deliveryAvailable : Bool :=
  match args.expectedDelivery with
  | some expected =>
    db.deliveries.rows.find? (fun row =>
        row.id = expected.id && row.identityId = args.identityId)
      == some expected
      && expected.voucherId == args.expectedVoucher.id
      && expected.status == .pending
  | none => (db.deliveriesOf args.expectedVoucher.id).length == 0

def insertRedemption (redemption : VoucherRedemptionRecord) : Option (Table redemptionKeys) :=
  if redemption.amountTokens ≤ 0 then none else db.redemptions.insert? redemption

/-- Counts the redemption, if the voucher is still the one that was read. -/
def countRedemption : Option (Table voucherKeys) :=
  let voucher := args.expectedVoucher
  let selected (row : VoucherRecord) : Bool :=
    row.id = voucher.id
      && row.status = .active
      && row.redeemedCount = voucher.redeemedCount
      && row.revision = voucher.revision
      && row.integrityHmac = voucher.integrityHmac
  if db.vouchers.rows.countP selected ≠ 1 then none
  else
    some (db.vouchers.updateWhere selected (setRedeemed voucher args.nextVoucherIntegrityHmac)
      (setRedeemed_keeps voucher args.nextVoucherIntegrityHmac))

def consumeDelivery : Option (Table deliveryKeys) :=
  match args.expectedDelivery with
  | none => some db.deliveries
  | some delivery =>
    let selected (row : VoucherDeliveryRecord) : Bool :=
      row.id = delivery.id && row.identityId = args.identityId && row.status = .pending
    if db.deliveries.rows.countP selected ≠ 1 then none
    else
      some (db.deliveries.updateWhere selected (setDelivered args.now)
        (setDelivered_keeps args.now))

def redeemVoucherBody (db : VoucherDatabase)
    : Except StorageError
        (MutationWithAuditOutcome VoucherRedeemOutcome × Option VoucherDatabase) :=
  let voucher := args.expectedVoucher
  if !validRedemption args then rollback (.mutation .conflict)
  else if db.voucher? voucher.id ≠ some voucher then rollback (.mutation .conflict)
  else if ((db.redemptionsOf voucher.id).any fun row => row.identityId == args.identityId) then
    rollback (.mutation .alreadyRedeemed)
  else if voucher.status ≠ .active
      ∨ voucher.maxRedemptions ≤ voucher.redeemedCount
      ∨ voucher.expiresAt.any (fun expiresAt => expiresAt ≤ args.now) then
    rollback (.mutation .unavailable)
  else if !deliveryAvailable db args then rollback (.mutation .unavailable)
  else
    match insertLedger db.base args.ledger with
    | none => .error .database
    | some inserted => do
        let (changed, base) ← updateBalance inserted args.expectedBalance args.nextBalance
        if !changed then rollback (.mutation .conflict)
        else
          match insertRedemption db args.redemption with
          | none => .error .database
          | some redemptions =>
            match countRedemption db args, consumeDelivery db args with
            | some vouchers, some deliveries =>
              match args.audit with
              | none =>
                commit (.mutation .applied) ⟨base, vouchers, deliveries, redemptions⟩
              | some append => do
                  let appended ← appendAuditEvents base append.expectedSequence
                    append.expectedHmac append.events
                  match appended with
                  | none => rollback .auditConflict
                  | some logged =>
                    commit (.mutation .applied) ⟨logged, vouchers, deliveries, redemptions⟩
            | _, _ => rollback (.mutation .conflict)

def redeemVoucherInner
    : VoucherDatabase
      → Except StorageError (MutationWithAuditOutcome VoucherRedeemOutcome) × VoucherDatabase :=
  transaction (redeemVoucherBody args)

-- The Control that prepares a redemption

/-- The tags of the installation key; none covers the tag of its own row. -/
structure RedemptionSigner where
  ledger : QuotaLedgerEntry → String
  balance : UserBalanceRecord → String
  voucher : VoucherRecord → String

def voucherReference : String :=
  "voucher:" ++ voucherId ++ ":" ++ identityId

def checkedAddNonnegative (left right : Int64) : Option Int64 :=
  (checkedAdd left right).filter fun value => 0 ≤ value

structure RedemptionDraw where
  (ledgerId redemptionId now : String)

def voucherLedgerEntry (signer : RedemptionSigner) (voucher : VoucherRecord)
    (identityId : String) (previousEntryHmac : String) (draw : RedemptionDraw)
    : QuotaLedgerEntry :=
  let entry : QuotaLedgerEntry :=
    { id := draw.ledgerId
      identityId
      kind := "grant"
      amountTokens := voucher.quotaTokens
      uncachedInput := 0
      cachedInput := 0
      cacheWrite := 0
      outputTokens := 0
      uncoveredTokens := 0
      rawTokens := 0
      billedTokens := 0
      multiplierMicros := 1000000
      referenceId := voucherReference voucher.id identityId
      clientRequestId := none
      description := "兑换券：" ++ voucher.name
      protocol := ""
      model := ""
      requestedModel := none
      processingTier := none
      reasoningEffort := none
      apiKeyId := none
      runnerId := none
      previousEntryHmac
      integrityHmac := ""
      createdAt := draw.now }
  { entry with integrityHmac := signer.ledger entry }

/-- One attempt of a redemption, from the voucher, the delivery and the balance that the
Control has read.
-/
def redeemVoucherAtomic (signer : RedemptionSigner) (identityId : String)
    (voucher : VoucherRecord) (delivery : Option VoucherDeliveryRecord)
    (balance : UserBalanceRecord) (draw : RedemptionDraw) (audit : AuditAppend)
    : Option Redemption := do
  if signer.voucher { voucher with integrityHmac := "" } ≠ voucher.integrityHmac then none
  else do
    let ledger := voucherLedgerEntry signer voucher identityId balance.lastLedgerHmac draw
    let balanceTokens ← checkedAddNonnegative balance.balanceTokens voucher.quotaTokens
    let grantedTokens ← checkedAddNonnegative balance.grantedTokens voucher.quotaTokens
    let revision ← checkedSucc balance.revision
    let nextBalance :=
      { balance with
        balanceTokens, grantedTokens, revision
        lastLedgerHmac := ledger.integrityHmac
        integrityHmac := ""
        updatedAt := draw.now }
    if 2 ^ 32 ≤ voucher.redeemedCount.toNat + 1 ∨ 2 ^ 32 ≤ voucher.revision.toNat + 1 then none
    else
      let redeemedCount := voucher.redeemedCount + 1
      let nextVoucher :=
        { voucher with
          redeemedCount
          status := if voucher.maxRedemptions ≤ redeemedCount then .redeemed else .active
          revision := voucher.revision + 1
          integrityHmac := "" }
      some {
        expectedVoucher := voucher
        expectedDelivery := delivery
        identityId
        now := draw.now
        expectedBalance := balance
        nextBalance := { nextBalance with integrityHmac := signer.balance nextBalance }
        ledger
        redemption := {
          id := draw.redemptionId
          voucherId := voucher.id
          identityId
          amountTokens := voucher.quotaTokens
          ledgerEntryId := ledger.id
          createdAt := draw.now }
        nextVoucherIntegrityHmac := signer.voucher nextVoucher
        audit := some audit }

end AsterTeam.Vouchers
