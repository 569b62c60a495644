import AsterTeam.Library.Transition
import AsterTeam.TokenQuota.ConservedRuns
import AsterTeam.Vouchers.Storage

/-! Redemptions of one voucher by any identities in every interleaving: each is credited exactly
once.
-/

namespace AsterTeam.Vouchers

open List Relational
open Transition (Run)

-- What an applied redemption has written

inductive DeliveryUsed (args : Redemption) (before after : Table deliveryKeys) : Prop
  | none (isNone : args.expectedDelivery = none)
    (undelivered : before.selectAll VoucherDeliveryRecord.voucherId args.expectedVoucher.id = [])
    (same : after = before)
  | consumed {delivery : VoucherDeliveryRecord}
    (isVoucher : delivery.voucherId = args.expectedVoucher.id)
    (isOwner : delivery.identityId = args.identityId) (isPending : delivery.status = .pending)
    (replaces : before.Replaces after delivery (setDelivered args.now delivery))

structure RedeemApplied (args : Redemption) (db after : VoucherDatabase) : Prop where
  valid : validRedemption args = true
  isRead : db.voucher? args.expectedVoucher.id = some args.expectedVoucher
  fresh
    : ∀ row ∈ db.redemptionsOf args.expectedVoucher.id, row.identityId ≠ args.identityId
  room
    : args.expectedVoucher.redeemedCount.toNat < args.expectedVoucher.maxRedemptions.toNat
  base
    : (∀ row ∈ db.base.balances.rows, row.identityId = args.expectedBalance.identityId
        → row.revision = args.expectedBalance.revision
        → row.integrityHmac = args.expectedBalance.integrityHmac
        → row = args.expectedBalance)
      → GrantApplied args.expectedBalance args.nextBalance args.ledger db.base after.base
  ledger : after.base.ledger.rows = db.base.ledger.rows ++ [args.ledger]
  redemptions : after.redemptions.rows = db.redemptions.rows ++ [args.redemption]
  voucher
    : after.voucher? args.expectedVoucher.id
      = some (setRedeemed args.expectedVoucher args.nextVoucherIntegrityHmac args.expectedVoucher)
  deliveries : DeliveryUsed args db.deliveries after.deliveries

section

variable {args : Redemption} {db : VoucherDatabase}

/-- An update changes balances only, and has found the row that was read. -/
theorem updateBalance_found {base after : Database} {expected next : UserBalanceRecord}
    (hu : updateBalance base expected next = .ok (changed, after))
    : after = { base with balances := after.balances }
      ∧ (changed → ∃ row ∈ base.balances.rows, row.identityId = expected.identityId
        ∧ row.revision = expected.revision ∧ row.integrityHmac = expected.integrityHmac) := by
  obtain ⟨_, hu⟩ := guard_of_ok hu
  cases hu
  refine ⟨rfl, fun ho => ?_⟩
  obtain ⟨row, hr, hs⟩ :=
    countP_pos_iff.mp (lt_of_lt_of_eq Nat.one_pos (beq_iff_eq.mp ho).symm)
  simp only [Bool.and_eq_true, decide_eq_true_eq] at hs
  exact ⟨row, hr, hs.1.1, hs.1.2, hs.2⟩

theorem insertRedemption_eq_some (hi : insertRedemption db redemption = some redemptions)
    : redemptions.rows = db.redemptions.rows ++ [redemption] := by
  unfold insertRedemption at hi
  split at hi
  · cases hi
  · exact (Table.insert?_eq_some.mp hi).2

theorem countRedemption_eq_some (hc : countRedemption db args = some vouchers)
    (hr : db.voucher? args.expectedVoucher.id = some args.expectedVoucher)
    (isActive : args.expectedVoucher.status = .active)
    : vouchers.select? VoucherRecord.id args.expectedVoucher.id
      = some (setRedeemed args.expectedVoucher args.nextVoucherIntegrityHmac
          args.expectedVoucher) := by
  unfold countRedemption at hc
  dsimp only at hc
  split at hc
  · cases hc
  cases hc
  obtain ⟨hm, _⟩ := (Table.select?_eq_some_iff Or.inl).mp hr
  have hre := @Table.updateWhere_replaces _ _ db.vouchers args.expectedVoucher
    (fun row => row.id = args.expectedVoucher.id && row.status = .active
      && row.redeemedCount = args.expectedVoucher.redeemedCount
      && row.revision = args.expectedVoucher.revision
      && row.integrityHmac = args.expectedVoucher.integrityHmac)
    (setRedeemed args.expectedVoucher args.nextVoucherIntegrityHmac)
    (setRedeemed_keeps args.expectedVoucher args.nextVoucherIntegrityHmac) hm (by simp [isActive])
    (fun other ho hs => by
      simp only [Bool.and_eq_true, decide_eq_true_eq, and_assoc] at hs
      exact Table.eq_of_conflicts ho hm (.inl hs.1))
  rw [hre.select?_eq .inl rfl, if_pos rfl]

theorem consumeDelivery_eq_some (consumed : consumeDelivery db args = some deliveries)
    (ha : deliveryAvailable db args)
    : DeliveryUsed args db.deliveries deliveries := by
  unfold consumeDelivery at consumed
  unfold deliveryAvailable at ha
  cases hd : args.expectedDelivery with
  | none =>
    rw [hd] at consumed ha
    cases consumed
    exact .none hd (length_eq_zero_iff.mp (beq_iff_eq.mp ha)) rfl
  | some delivery =>
    rw [hd] at consumed ha
    simp only [Bool.and_eq_true, beq_iff_eq] at ha
    obtain ⟨⟨hf, hv⟩, hp⟩ := ha
    dsimp only at consumed
    split at consumed
    · cases consumed
    cases consumed
    have hm := mem_of_find?_eq_some hf
    have hs := find?_some hf
    simp only [Bool.and_eq_true, decide_eq_true_eq] at hs
    refine .consumed hv hs.2 hp ?_
    apply Table.updateWhere_replaces hm (by simp [hs.2, hp])
    intro other ho hse
    simp only [Bool.and_eq_true, decide_eq_true_eq] at hse
    exact Table.eq_of_conflicts ho hm (.inl hse.1.1)

end

theorem redeemVoucherBody_commits (args : Redemption) (db : VoucherDatabase)
    : CommitsExactly (.mutation .applied) (redeemVoucherBody args db) := by
  unfold redeemVoucherBody
  refine commitsExactly_guard nofun (commitsExactly_guard nofun (commitsExactly_guard nofun
    (commitsExactly_guard nofun (commitsExactly_guard nofun ?_))))
  split
  · exact commitsExactly_error
  refine commitsExactly_bind fun hu => commitsExactly_guard nofun ?_
  split
  · exact commitsExactly_error
  split
  · split
    · exact commitsExactly_commit
    · refine commitsExactly_bind fun ha => ?_
      cases ha with
      | none => exact commitsExactly_rollback nofun
      | some logged => exact commitsExactly_commit
  · exact commitsExactly_rollback nofun

variable {args : Redemption} {db : VoucherDatabase}

theorem redeemVoucherInner_refused (hr : (redeemVoucherInner args db).1 ≠ .ok (.mutation .applied))
    : (redeemVoucherInner args db).2 = db :=
  (transaction_commitsExactly (redeemVoucherBody_commits args db)).2 hr

theorem redeemVoucherInner_applied
    (happ : (redeemVoucherInner args db).1 = .ok (.mutation .applied))
    : RedeemApplied args db (redeemVoucherInner args db).2 := by
  have he : redeemVoucherBody args db
      = .ok (.mutation .applied, some (redeemVoucherInner args db).2) :=
    (transaction_commitsExactly (redeemVoucherBody_commits args db)).1 happ
  revert he
  generalize (redeemVoucherInner args db).2 = after
  intro he
  obtain ⟨valid, he⟩ := guard_of_commit he
  obtain ⟨hr, he⟩ := guard_of_commit he
  obtain ⟨hfr, he⟩ := guard_of_commit he
  obtain ⟨usable, he⟩ := guard_of_commit he
  obtain ⟨hav, he⟩ := guard_of_commit he
  simp only [Bool.not_eq_true', Bool.not_eq_false] at valid hav
  simp only [not_or, not_not] at usable
  have hr := not_not.mp hr
  split at he
  · cases he
  rename_i hi insertion
  obtain ⟨_, _, ledger, rfl, rows⟩ := insertLedger_eq_some.mp insertion
  obtain ⟨⟨hch, base⟩, update, he⟩ := bind_ok he
  obtain ⟨hc, he⟩ := guard_of_commit he
  split at he
  · cases he
  rename_i redemptions redeemed
  split at he
  on_goal 2 => cases he
  rename_i vouchers deliveries hco consumed
  have grants : Grants args.expectedBalance args.nextBalance args.ledger := by
    refine Grants.of_valid ?_
    simp only [validRedemption, Bool.and_eq_true, and_assoc] at valid
    exact valid.1
  obtain ⟨hb, hf⟩ := updateBalance_found update
  have room
      : args.expectedVoucher.redeemedCount.toNat < args.expectedVoucher.maxRedemptions.toNat := by
    rw [← not_le, ← UInt32.le_iff_toNat_le]
    exact usable.2.1
  have hh (audit : Table auditEventKeys)
      : RedeemApplied args db ⟨{ base with audit }, vouchers, deliveries, redemptions⟩ := by
    refine ⟨valid, hr, ?_, room, fun sound => ?_, ?_,
      insertRedemption_eq_some redeemed, countRedemption_eq_some hco hr usable.1,
      consumeDelivery_eq_some consumed hav⟩
    · simpa using hfr
    · obtain ⟨row, hro, hs, hsa, sameTag⟩ :=
        hf (by simpa using hc)
      have hst : args.expectedBalance ∈ db.base.balances.rows :=
        sound row hro hs hsa sameTag ▸ hro
      obtain ⟨balances, hre, hrep⟩ :=
        updateBalance_eq_ok update hst grants.step.identity
      cases hre
      exact ⟨grants, hst, hrep, rows, rfl⟩
    · rw [hb]
      exact rows
  split at he
  · cases he
    exact hh base.audit
  · obtain ⟨hap, ha, he⟩ := bind_ok he
    cases hap with
    | none => cases he
    | some logged =>
      cases he
      rw [(appendAuditEvents_rows ha).1]
      exact hh logged.audit

-- The account of a voucher

def isVoucherGrant (voucherId : String) (entry : QuotaLedgerEntry) : Bool :=
  entry.kind == "grant" && entry.referenceId == voucherReference voucherId entry.identityId

def VoucherDatabase.grantsOf (db : VoucherDatabase) (voucherId : String)
    : List QuotaLedgerEntry :=
  db.base.ledger.rows.filter (isVoucherGrant voucherId)

/-- The count of a voucher, its redemptions, its grants and its deliveries agree. -/
structure VoucherAccount (voucherId : String) (quotaTokens : Int64) (maxRedemptions : UInt32)
    (db : VoucherDatabase)
    : Prop where
  counted
    : ∃ voucher, db.voucher? voucherId = some voucher
      ∧ voucher.quotaTokens = quotaTokens ∧ voucher.maxRedemptions = maxRedemptions
      ∧ voucher.redeemedCount.toNat = (db.redemptionsOf voucherId).length
      ∧ voucher.redeemedCount.toNat ≤ maxRedemptions.toNat
  once : ((db.redemptionsOf voucherId).map (·.identityId)).Nodup
  granted
    : (db.grantsOf voucherId).map (fun entry => (entry.id, entry.identityId))
      = (db.redemptionsOf voucherId).map fun row => (row.ledgerEntryId, row.identityId)
  amounts : ∀ row ∈ db.redemptionsOf voucherId, row.amountTokens = quotaTokens
  grantAmounts : ∀ entry ∈ db.grantsOf voucherId, entry.amountTokens = quotaTokens
  delivered
    : db.deliveriesOf voucherId ≠ []
      → ∀ row ∈ db.redemptionsOf voucherId, ∃ delivery ∈ db.deliveriesOf voucherId,
          delivery.identityId = row.identityId ∧ delivery.status = .redeemed
  accounts : Sound db.base

section

variable {args : Redemption} {db after : VoucherDatabase} {voucherId : String}
  {quotaTokens : Int64} {maxRedemptions : UInt32}

theorem nodup_redeemers (db : VoucherDatabase) (voucherId : String)
    : ((db.redemptionsOf voucherId).map (·.identityId)).Nodup := by
  refine pairwise_map.mpr ?_
  have hd : (db.redemptionsOf voucherId).Pairwise fun left right =>
      ¬ redemptionKeys.conflicts left right :=
    db.redemptions.distinct.sublist filter_sublist
  refine hd.imp_of_mem fun {left right} hl hr free same => free ?_
  have leftVoucher := (Table.mem_selectAll.mp hl).2
  have rightVoucher := (Table.mem_selectAll.mp hr).2
  exact .inl (.inr (Prod.ext (leftVoucher.trans rightVoucher.symm) same))

theorem toNat_saturatingCount {value bound : UInt32} (room : value.toNat < bound.toNat)
    : (saturatingCount value).toNat = value.toNat + 1 := by
  have hs := bound.toNat_lt
  unfold saturatingCount
  rw [Nat.min_eq_left (by omega), UInt32.toNat_ofNat_of_lt' (by simp only [UInt32.size]; omega)]

variable {before next : Table deliveryKeys}

theorem DeliveryUsed.kept (used : DeliveryUsed args before next)
    (hd : delivery ∈ before.selectAll VoucherDeliveryRecord.voucherId voucherId)
    (hr : delivery.status = .redeemed)
    : delivery ∈ next.selectAll VoucherDeliveryRecord.voucherId voucherId := by
  obtain ⟨hm, hv⟩ := Table.mem_selectAll.mp hd
  refine Table.mem_selectAll.mpr ⟨?_, hv⟩
  cases used with
  | none _ _ same => exact same ▸ hm
  | @consumed other _ _ hp hre =>
    refine hre.mem_iff.mpr (.inr ⟨hm, fun same => ?_⟩)
    rw [same, hp] at hr
    cases hr

theorem DeliveryUsed.delivered (used : DeliveryUsed args before next)
    (hd : next.selectAll VoucherDeliveryRecord.voucherId args.expectedVoucher.id ≠ [])
    : before.selectAll VoucherDeliveryRecord.voucherId args.expectedVoucher.id ≠ []
      ∧ ∃ delivery ∈ next.selectAll VoucherDeliveryRecord.voucherId args.expectedVoucher.id,
          delivery.identityId = args.identityId ∧ delivery.status = .redeemed := by
  cases used with
  | none _ undelivered same =>
    rw [same] at hd
    exact absurd undelivered hd
  | @consumed delivery hv ho _ hr =>
    refine ⟨ne_nil_of_mem
        (Table.mem_selectAll.mpr ⟨hr.mem_before, hv⟩),
      setDelivered args.now delivery, Table.mem_selectAll.mpr ⟨?_, hv⟩, ho, rfl⟩
    exact hr.mem_iff.mpr (.inl rfl)

theorem isVoucherGrant_of_reference
    (hr : args.ledger.referenceId = voucherReference args.expectedVoucher.id args.ledger.identityId)
    (hg : args.ledger.kind = "grant")
    : isVoucherGrant args.expectedVoucher.id args.ledger := by
  simp [isVoucherGrant, hr, hg]

theorem RedeemApplied.account (ha : RedeemApplied args db after)
    (hv : args.expectedVoucher.id = voucherId)
    (hre
      : args.ledger.referenceId = voucherReference args.expectedVoucher.id args.ledger.identityId)
    (sound : ∀ row ∈ db.base.balances.rows, row.identityId = args.expectedBalance.identityId
        → row.revision = args.expectedBalance.revision
        → row.integrityHmac = args.expectedBalance.integrityHmac
        → row = args.expectedBalance)
    (account : VoucherAccount voucherId quotaTokens maxRedemptions db)
    : VoucherAccount voucherId quotaTokens maxRedemptions after := by
  subst hv
  have valid := ha.valid
  simp only [validRedemption, Bool.and_eq_true, beq_iff_eq] at valid
  obtain ⟨⟨⟨⟨⟨⟨⟨⟨⟨_, ledgerAmount⟩, rowAmount⟩, rowVoucher⟩, _⟩, ledgerOwner⟩, rowOwner⟩,
    rowEntry⟩, _⟩, _⟩ := valid
  have hgr := ha.base sound
  have hg := isVoucherGrant_of_reference hre hgr.grants.kind
  have redemptions := @Table.selectAll_of_rows_append _ _ _ _ VoucherRedemptionRecord.voucherId
    _ _ _ ha.redemptions args.expectedVoucher.id
  rw [if_pos rowVoucher.symm] at redemptions
  have grants
      : after.grantsOf args.expectedVoucher.id
        = db.grantsOf args.expectedVoucher.id ++ [args.ledger] := by
    unfold VoucherDatabase.grantsOf
    rw [ha.ledger, List.filter_append, List.filter_singleton, hg]
    rfl
  obtain ⟨voucher, hs, hq, hm, hc, _⟩ := account.counted
  obtain rfl := Option.some.inj (hs.symm.trans ha.isRead)
  have room := ha.room
  have hn := toNat_saturatingCount room
  refine ⟨⟨_, ha.voucher, hq, hm, ?_, ?_⟩, nodup_redeemers after _, ?_, ?_, ?_,
    ?_, hgr.accountChange.sound account.accounts⟩
  · rw [VoucherDatabase.redemptionsOf, redemptions, List.length_append, List.length_singleton]
    exact hn.trans (congrArg (· + 1) hc)
  · rw [← hm]
    exact le_of_eq_of_le hn room
  · rw [grants, VoucherDatabase.redemptionsOf, redemptions, List.map_append, List.map_append,
      account.granted, List.map_singleton, List.map_singleton, rowEntry, ledgerOwner, rowOwner]
    rfl
  · intro row hr
    rw [VoucherDatabase.redemptionsOf, redemptions, List.mem_append, List.mem_singleton] at hr
    rcases hr with ho | rfl
    · exact account.amounts row ho
    · exact rowAmount.symm.trans hq
  · intro entry he
    rw [grants, List.mem_append, List.mem_singleton] at he
    rcases he with ho | rfl
    · exact account.grantAmounts entry ho
    · exact ledgerAmount.symm.trans hq
  · intro hd row hr
    obtain ⟨wasDelivered, delivery, hde, how, hred⟩ :=
      ha.deliveries.delivered hd
    rw [VoucherDatabase.redemptionsOf, redemptions, List.mem_append, List.mem_singleton] at hr
    rcases hr with ho | rfl
    · obtain ⟨old, hol, sameOwner, wasRedeemed⟩ :=
        account.delivered wasDelivered row ho
      exact ⟨old, ha.deliveries.kept hol wasRedeemed, sameOwner, wasRedeemed⟩
    · exact ⟨delivery, hde, how.trans rowOwner.symm, hred⟩

end

-- Runs

inductive VoucherEvent
  | redeem (args : Redemption)
  | others

/-- A Control redeems the voucher with anything it may have read; the tag of a balance
identifies the row. Other transactions keep the voucher with its redemptions and deliveries,
and add no grant for it to the ledger.
-/
inductive VoucherStep (signer : RedemptionSigner) (voucherId : String)
    : VoucherDatabase → VoucherEvent → VoucherDatabase → Prop
  | redeem {db : VoucherDatabase} {identityId : String} {voucher : VoucherRecord}
    {delivery : Option VoucherDeliveryRecord} {balance : UserBalanceRecord}
    {draw : RedemptionDraw} {audit : AuditAppend} {args : Redemption}
    (isVoucher : voucher.id = voucherId)
    (prepared
      : redeemVoucherAtomic signer identityId voucher delivery balance draw audit = some args)
    (soundTag : ∀ row ∈ db.base.balances.rows, row.identityId = balance.identityId
        → row.revision = balance.revision → row.integrityHmac = balance.integrityHmac
        → row = balance)
    : VoucherStep signer voucherId db (.redeem args) (redeemVoucherInner args db).2
  | others {db next : VoucherDatabase}
    (sameVoucher : next.voucher? voucherId = db.voucher? voucherId)
    (sameRedemptions : next.redemptionsOf voucherId = db.redemptionsOf voucherId)
    (sameDeliveries : next.deliveriesOf voucherId = db.deliveriesOf voucherId)
    (sameGrants : next.grantsOf voucherId = db.grantsOf voucherId)
    (accounts : Sound db.base → Sound next.base)
    : VoucherStep signer voucherId db .others next

abbrev VoucherRun (signer : RedemptionSigner) (voucherId : String)
    : VoucherDatabase → List VoucherEvent → VoucherDatabase → Prop :=
  Run (VoucherStep signer voucherId)

variable {voucher : VoucherRecord}

theorem prepared_eq_some
    (prepared
      : redeemVoucherAtomic signer identityId voucher delivery balance draw audit = some args)
    : args.expectedVoucher = voucher ∧ args.expectedBalance = balance
      ∧ args.ledger.referenceId = voucherReference voucher.id args.ledger.identityId := by
  unfold redeemVoucherAtomic at prepared
  split at prepared
  · cases prepared
  obtain ⟨balanceTokens, _, prepared⟩ := Option.bind_eq_some_iff.mp prepared
  obtain ⟨grantedTokens, _, prepared⟩ := Option.bind_eq_some_iff.mp prepared
  obtain ⟨revision, _, prepared⟩ := Option.bind_eq_some_iff.mp prepared
  split at prepared
  · cases prepared
  cases prepared
  exact ⟨rfl, rfl, rfl⟩

structure RedemptionOutcome (args : Redemption) (db next : VoucherDatabase) : Prop where
  refused : (redeemVoucherInner args db).1 ≠ .ok (.mutation .applied) → next = db
  deliveryConsumed
    : (redeemVoucherInner args db).1 = .ok (.mutation .applied)
      → db.deliveriesOf args.expectedVoucher.id ≠ []
      → ∃ delivery ∈ db.deliveriesOf args.expectedVoucher.id,
          delivery.identityId = args.identityId ∧ delivery.status = .pending
          ∧ db.deliveries.Replaces next.deliveries delivery (setDelivered args.now delivery)

theorem redemptionOutcome (args : Redemption) (db : VoucherDatabase)
    : RedemptionOutcome args db (redeemVoucherInner args db).2 := by
  refine ⟨redeemVoucherInner_refused, fun ha hd => ?_⟩
  cases (redeemVoucherInner_applied ha).deliveries with
  | none _ undelivered _ => exact absurd undelivered hd
  | @consumed delivery hv ho hp hr =>
    exact ⟨delivery, Table.mem_selectAll.mpr ⟨hr.mem_before, hv⟩, ho, hp, hr⟩

theorem VoucherAccount.step {voucherId : String} {quotaTokens : Int64} {maxRedemptions : UInt32}
    {next : VoucherDatabase} (hs : VoucherStep signer voucherId db event next)
    (account : VoucherAccount voucherId quotaTokens maxRedemptions db)
    : VoucherAccount voucherId quotaTokens maxRedemptions next := by
  cases hs with
  | @redeem identityId voucher delivery balance draw audit args hv prepared soundTag =>
    obtain ⟨rfl, rfl, hr⟩ := prepared_eq_some prepared
    by_cases ha : (redeemVoucherInner args db).1 = .ok (.mutation .applied)
    · exact (redeemVoucherInner_applied ha).account hv hr soundTag account
    · rw [redeemVoucherInner_refused ha]
      exact account
  | others sameVoucher sameRedemptions sameDeliveries sameGrants accounts =>
    refine ⟨?_, ?_, ?_, ?_, ?_, ?_, accounts account.accounts⟩ <;>
      simp only [sameVoucher, sameRedemptions, sameDeliveries, sameGrants]
    · exact account.counted
    · exact account.once
    · exact account.granted
    · exact account.amounts
    · exact account.grantAmounts
    · exact account.delivered

structure VoucherIssued (voucher : VoucherRecord) (db : VoucherDatabase) : Prop where
  isStored : db.voucher? voucher.id = some voucher
  isUnused : voucher.redeemedCount = 0
  unredeemed : db.redemptionsOf voucher.id = []
  ungranted : db.grantsOf voucher.id = []
  accounts : Sound db.base

theorem VoucherIssued.account (issued : VoucherIssued voucher db)
    : VoucherAccount voucher.id voucher.quotaTokens voucher.maxRedemptions db := by
  refine ⟨⟨voucher, issued.isStored, rfl, rfl, ?_, ?_⟩, nodup_redeemers db _, ?_, ?_, ?_, ?_,
    issued.accounts⟩
  · rw [issued.isUnused, issued.unredeemed]
    rfl
  · rw [issued.isUnused]
    exact Nat.zero_le _
  · rw [issued.ungranted, issued.unredeemed]
    rfl
  · rw [issued.unredeemed]
    exact fun _ hr => absurd hr not_mem_nil
  · rw [issued.ungranted]
    exact fun _ he => absurd he not_mem_nil
  · rw [issued.unredeemed]
    exact fun _ _ hr => absurd hr not_mem_nil

/-- In every interleaving of redemptions the count of the voucher is the number of its
redemptions, each identity is credited at most once, and a refused redemption changes nothing.
-/
theorem voucher_credited_exactly_once {signer : RedemptionSigner} {voucher : VoucherRecord}
    {db : VoucherDatabase} (issued : VoucherIssued voucher db) {events : List VoucherEvent}
    {after : VoucherDatabase} (isRun : VoucherRun signer voucher.id db events after)
    : VoucherAccount voucher.id voucher.quotaTokens voucher.maxRedemptions after
      ∧ ∀ {args next}, VoucherStep signer voucher.id after (.redeem args) next
        → RedemptionOutcome args after next := by
  have account
      : VoucherAccount voucher.id voucher.quotaTokens voucher.maxRedemptions after :=
    isRun.invariant (fun head before => before.step head) issued.account
  refine ⟨account, fun hs => ?_⟩
  cases hs with
  | redeem hv prepared soundTag => exact redemptionOutcome _ _

def sampleSigner : RedemptionSigner := ⟨fun _ => "entry", fun _ => "balance", fun _ => "voucher"⟩

def sampleMember : IdentityRecord :=
  { id := "member", email := "member@example", displayName := "member", passwordHash := "hash"
    role := .member, status := .active, canConsumeModel := true
    passwordChangeRequired := false, revision := 0, integrityHmac := "i"
    createdAt := "t0", updatedAt := "t0" }

def sampleBalance : UserBalanceRecord :=
  { identityId := "member", balanceTokens := 0, reservedTokens := 0, grantedTokens := 0
    consumedTokens := 0, requestCount := 0, rawTokens := 0, billedTokens := 0
    uncachedInput := 0, cachedInput := 0, cacheWrite := 0, outputTokens := 0, revision := 0
    lastLedgerHmac := "", integrityHmac := "first", updatedAt := "t0" }

def sampleVoucher : VoucherRecord :=
  { id := "voucher", codeHash := "code", codePrefix := "c", name := "sample", quotaTokens := 10
    status := .active, maxRedemptions := 2, redeemedCount := 0, expiresAt := none
    createdBy := "owner", revision := 0, integrityHmac := "voucher", createdAt := "t0" }

def sampleDelivery : VoucherDeliveryRecord :=
  ⟨"delivery", "voucher", "member", .pending, "t0", none⟩

def sampleBase : Database :=
  { Database.empty with balances := ⟨[sampleBalance], pairwise_singleton _ _⟩ }

def sampleDatabase : VoucherDatabase :=
  { base := sampleBase
    vouchers := ⟨[sampleVoucher], pairwise_singleton _ _⟩
    deliveries := ⟨[sampleDelivery], pairwise_singleton _ _⟩
    redemptions := .empty }

def sampleAudit : AuditAppend :=
  ⟨0, "", [{
    id := "event", sequence := 1, actorIdentityId := some "member", actorRole := .member
    action := "voucher.redeem", targetType := "identity", targetId := some "member"
    outcome := .succeeded, previousEventHmac := ""
    integrityHmac := "aaaaaaaaaaaaaaaaaaaaaaaaaaaaaaaaaaaaaaaaaaa", createdAt := "t1" }]⟩

def sampleRedemption : Redemption :=
  (redeemVoucherAtomic sampleSigner "member" sampleVoucher (some sampleDelivery) sampleBalance
    ⟨"ledger", "redemption", "t1"⟩ sampleAudit).get (by decide +kernel)

/-- The same member's redemption, prepared before the first one is stored. -/
def competingRedemption : Redemption :=
  (redeemVoucherAtomic sampleSigner "member" sampleVoucher none sampleBalance
    ⟨"other-ledger", "other-redemption", "t2"⟩ sampleAudit).get (by decide +kernel)

theorem sampleDatabase_issued : VoucherIssued sampleVoucher sampleDatabase := by
  have ho
      : insertInitialBalanceBody sampleMember sampleBalance .empty = .ok ((), some sampleBase) := by
    rfl
  exact ⟨by decide +kernel, rfl, rfl, rfl, (insertInitialBalance_applied ho).sound sound_empty⟩

theorem sample_voucher_redeemed
    : ∃ after,
        VoucherRun sampleSigner "voucher" sampleDatabase
          [.redeem sampleRedemption, .redeem competingRedemption] after
        ∧ VoucherAccount "voucher" 10 2 after
        ∧ (after.grantsOf "voucher").length = 1 := by
  have redeems
      : VoucherStep sampleSigner "voucher" sampleDatabase (.redeem sampleRedemption)
          (redeemVoucherInner sampleRedemption sampleDatabase).2 :=
    .redeem rfl (Option.some_get _).symm (by decide +kernel)
  have competes
      : VoucherStep sampleSigner "voucher" (redeemVoucherInner sampleRedemption sampleDatabase).2
          (.redeem competingRedemption) _ :=
    .redeem rfl (Option.some_get _).symm (by decide +kernel)
  have run := Run.cons redeems (.cons competes (.nil _))
  exact ⟨_, run, (voucher_credited_exactly_once sampleDatabase_issued run).1, by decide +kernel⟩

end AsterTeam.Vouchers
