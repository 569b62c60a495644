import AsterTeam.TokenQuota.Applied
import AsterTeam.TokenQuota.LedgerVerification

/-! The snapshot of a token account that Control works on, and what it verifies of it. -/

namespace AsterTeam

open MachineInteger Relational

structure QuotaStateSnapshot where
  balance : UserBalanceRecord
  activeReservations : List QuotaReservationRecord
  ledgerEntries : List QuotaLedgerEntry

/-- The rows of one account, read in one transaction: reservations by id, entries by time
and id.
-/
def Database.quotaStateSnapshot (db : Database) (identityId : String)
    : Option QuotaStateSnapshot := do
  let balance ← db.balance? identityId
  return {
    balance
    activeReservations :=
      (db.activeReservations identityId).insertionSort (fun left right => left.id ≤ right.id)
    ledgerEntries :=
      (db.ledgerOf identityId).insertionSort
        (fun left right =>
          left.createdAt < right.createdAt
          ∨ (left.createdAt = right.createdAt ∧ left.id ≤ right.id))
  }

def verifyReservations (auth : AuthCore) (identityId : String)
    : Int64 → List QuotaReservationRecord → Except ControlError Int64
  | reservedTotal, [] => .ok reservedTotal
  | reservedTotal, reservation :: rest =>
    if reservation.identityId ≠ identityId
        ∨ reservation.status ≠ .active
        ∨ reservation.reservedTokens ≤ 0
        ∨ reservation.settledAt.isSome then
      .error .dataIntegrityInvalid
    else
      match checkedAdd reservedTotal reservation.reservedTokens with
      | none => .error .dataIntegrityInvalid
      | some nextTotal => do
          let expectedHmac ← reservationIntegrityHmac auth reservation
          if !constantTimeStringEq expectedHmac reservation.integrityHmac then
            .error .dataIntegrityInvalid
          else
            verifyReservations auth identityId nextTotal rest

def verifyQuotaBalance (auth : AuthCore) (identityId : String)
    (balance : UserBalanceRecord)
    : Except ControlError Unit :=
  if balance.identityId ≠ identityId
      ∨ balance.balanceTokens < 0
      ∨ balance.reservedTokens < 0
      ∨ balance.reservedTokens > balance.balanceTokens
      ∨ balance.grantedTokens < 0
      ∨ balance.consumedTokens < 0
      ∨ balance.requestCount < 0
      ∨ balance.rawTokens < 0
      ∨ balance.billedTokens < 0
      ∨ balance.uncachedInput < 0
      ∨ balance.cachedInput < 0
      ∨ balance.cacheWrite < 0
      ∨ balance.outputTokens < 0 then
    .error .dataIntegrityInvalid
  else do
    let expectedBalanceHmac ← balanceIntegrityHmac auth balance
    if !constantTimeStringEq expectedBalanceHmac balance.integrityHmac then
      .error .dataIntegrityInvalid
    else
      .ok ()

def verifiedQuotaSnapshot (auth : AuthCore) (db : Database) (identityId : String)
    : Except ControlError QuotaStateSnapshot :=
  match db.quotaStateSnapshot identityId with
  | none => .error .dataIntegrityInvalid
  | some snapshot => do
      verifyQuotaBalance auth identityId snapshot.balance
      verifyQuotaLedger auth identityId snapshot.balance snapshot.ledgerEntries
      let reservedTotal ← verifyReservations auth identityId 0 snapshot.activeReservations
      if reservedTotal ≠ snapshot.balance.reservedTokens then .error .dataIntegrityInvalid
      else .ok snapshot

/-- A recomputed tag that compares equal to the stored one is the stored one. -/
theorem compareTag_eq_ok {Value : Type} {signed : Except ControlError String}
    {stored : String} {rest : Except ControlError Value} {value : Value}
    : (signed >>= fun expected =>
        if !constantTimeStringEq expected stored then .error .dataIntegrityInvalid
        else rest) = .ok value
      ↔ signed = .ok stored ∧ rest = .ok value := by
  rw [bind_eq_ok]
  refine ⟨?_, ?_⟩
  · intro found
    obtain ⟨expected, he, ended⟩ := found
    obtain ⟨same, ended⟩ := guard_of_ok ended
    have equal : expected = stored := constantTimeStringEq_iff.mp (by simpa using same)
    exact ⟨equal ▸ he, ended⟩
  · intro both
    refine ⟨stored, both.1, ?_⟩
    rw [constantTimeStringEq_iff.mpr rfl]
    exact both.2

structure SignedReservation (auth : AuthCore) (identityId : String)
    (reservation : QuotaReservationRecord)
    : Prop where
  owner : reservation.identityId = identityId
  active : reservation.status = .active
  positive : 0 < reservation.reservedTokens.toInt
  unsettled : reservation.settledAt = none
  signed : reservationIntegrityHmac auth reservation = .ok reservation.integrityHmac

variable {auth : AuthCore} {identityId : String}

/-- The loop succeeds exactly on signed reservations, with the sum of what they hold. No
partial sum overflows, since every summand is positive and the last sum is in range.
-/
theorem verifyReservations_eq_ok {start total : Int64} (hn : 0 ≤ start.toInt)
    : verifyReservations auth identityId start rows = .ok total
      ↔ (∀ row ∈ rows, SignedReservation auth identityId row)
        ∧ total.toInt = start.toInt + (rows.map (fun row => row.reservedTokens.toInt)).sum := by
  induction rows generalizing start with
  | nil =>
    simp only [verifyReservations, Except.ok.injEq, ← Int64.toInt_inj, List.not_mem_nil,
      false_implies, implies_true, List.map_nil, List.sum_nil, add_zero, true_and]
    exact eq_comm
  | cons row rest ih =>
    rw [List.map_cons, List.sum_cons, List.forall_mem_cons, verifyReservations]
    refine ⟨?_, ?_⟩
    · intro hv
      obtain ⟨hpa, hv⟩ := guard_of_ok hv
      simp only [not_or, not_not, Int64.not_le, Bool.not_eq_true,
        Option.isSome_eq_false_iff, Option.isNone_iff_eq_none, pos_iff] at hpa
      obtain ⟨owner, active, hp, unsettled⟩ := hpa
      cases sum : checkedAdd start row.reservedTokens with
      | none =>
        rw [sum] at hv
        cases hv
      | some next =>
        rw [sum] at hv
        obtain ⟨signed, hv⟩ := compareTag_eq_ok.mp hv
        have value := checkedAdd_eq_some.mp sum
        obtain ⟨others, result⟩ := (ih (by omega)).mp hv
        exact ⟨⟨⟨owner, active, hp, unsettled, signed⟩, others⟩, by omega⟩
    · intro good
      obtain ⟨⟨this, others⟩, result⟩ := good
      have hr : 0 ≤ (rest.map (fun row => row.reservedTokens.toInt)).sum := by
        apply List.sum_nonneg
        intro value member
        obtain ⟨other, otherMember, rfl⟩ := List.mem_map.mp member
        exact (others other otherMember).positive.le
      have hp := this.positive
      have ht := total.toInt_lt
      obtain ⟨next, sum, value⟩ :=
        exists_fit (start.toInt + row.reservedTokens.toInt) (by omega) (by omega)
      have checked : checkedAdd start row.reservedTokens = some next := sum
      rw [if_neg (by
        simp [this.owner, this.active, this.unsettled, Int64.le_iff_toInt_le, hp]),
        checked]
      refine compareTag_eq_ok.mpr ⟨this.signed, (ih (by omega)).mpr ⟨others, by omega⟩⟩

structure VerifiedAccount (auth : AuthCore) (db : Database) (identityId : String)
    (balance : UserBalanceRecord)
    : Prop where
  stored : db.balance? identityId = some balance
  nonneg : ∀ counter, 0 ≤ balance.totals counter
  covered : balance.totals .reserved ≤ balance.totals .balance
  signed : balanceIntegrityHmac auth balance = .ok balance.integrityHmac
  ledger
    : VerifiedLedger auth identityId balance.lastLedgerHmac (db.ledgerOf identityId)
  reservations
    : ∀ reservation ∈ db.activeReservations identityId,
        SignedReservation auth identityId reservation
  reserved
    : balance.totals .reserved
      = ((db.activeReservations identityId).map
          (fun reservation => reservation.reservedTokens.toInt)).sum

variable {db : Database} {balance : UserBalanceRecord}

theorem VerifiedAccount.identity (account : VerifiedAccount auth db identityId balance)
    : balance.identityId = identityId :=
  (balance?_eq_some.mp account.stored).2

theorem verifyQuotaBalance_eq_ok
    : verifyQuotaBalance auth identityId balance = .ok ()
      ↔ balance.identityId = identityId
        ∧ (∀ counter, 0 ≤ balance.totals counter)
        ∧ balance.totals .reserved ≤ balance.totals .balance
        ∧ balanceIntegrityHmac auth balance = .ok balance.integrityHmac := by
  refine ⟨?_, ?_⟩
  · intro hv
    obtain ⟨hp, hv⟩ := guard_of_ok hv
    simp only [not_or, not_not, Int64.not_lt, gt_iff_lt, Int64.le_iff_toInt_le] at hp
    obtain ⟨owner, h1, h2, hc, h3, h4, h5, h6, h7, h8, h9, h10, h11⟩ := hp
    refine ⟨owner, ?_, hc, (compareTag_eq_ok.mp hv).1⟩
    intro counter
    cases counter <;> assumption
  · intro good
    obtain ⟨owner, hn, hc, signed⟩ := good
    have hp (counter : Counter) : ¬ balance.column counter < 0 := by
      rw [Int64.not_lt, nonneg_iff]
      exact hn counter
    have notOver : ¬ balance.reservedTokens > balance.balanceTokens := by
      rw [gt_iff_lt, Int64.not_lt, Int64.le_iff_toInt_le]
      exact hc
    rw [verifyQuotaBalance, if_neg]
    · exact compareTag_eq_ok.mpr ⟨signed, rfl⟩
    · simp only [not_or, not_not]
      exact ⟨
        owner, hp .balance, hp .reserved, notOver, hp .granted,
        hp .consumed, hp .requests, hp .raw, hp .billed,
        hp .uncachedInput, hp .cachedInput, hp .cacheWrite, hp .output
      ⟩

theorem VerifiedLedger.perm {left right : List QuotaLedgerEntry} (perm : left.Perm right)
    (hv : VerifiedLedger auth identityId last left)
    : VerifiedLedger auth identityId last right := by
  obtain ⟨ho, orderedPerm, chain⟩ := hv.chained
  exact ⟨
    ⟨ho, orderedPerm.trans perm, chain⟩, (perm.map _).nodup_iff.mp hv.distinct,
    fun entry member => hv.valid entry (perm.mem_iff.mpr member)
  ⟩

/-- Control gets a snapshot exactly of the verified accounts, in whatever order the rows
are read.
-/
theorem verifiedQuotaSnapshot_eq_ok
    : verifiedQuotaSnapshot auth db identityId = .ok snapshot
      ↔ db.quotaStateSnapshot identityId = some snapshot
        ∧ VerifiedAccount auth db identityId snapshot.balance := by
  unfold verifiedQuotaSnapshot
  cases hf : db.quotaStateSnapshot identityId with
  | none => simp
  | some read =>
    obtain ⟨balance, hs, rows⟩ := Option.bind_eq_some_iff.mp hf
    cases rows
    have hl :=
      List.perm_insertionSort
        (fun left right : QuotaLedgerEntry =>
          left.createdAt < right.createdAt
          ∨ (left.createdAt = right.createdAt ∧ left.id ≤ right.id))
        (db.ledgerOf identityId)
    have hr :=
      List.perm_insertionSort
        (fun left right : QuotaReservationRecord => left.id ≤ right.id)
        (db.activeReservations identityId)
    rw [check_eq_ok, check_eq_ok, bind_eq_ok]
    simp only [verifyQuotaBalance_eq_ok, verifyQuotaLedger_eq_ok,
      verifyReservations_eq_ok (show (0 : Int) ≤ (0 : Int64).toInt by decide),
      (hr.map _).sum_eq, hr.mem_iff, Option.some.injEq]
    refine ⟨?_, ?_⟩
    · intro hv
      obtain ⟨⟨_, hn, hc, signed⟩, ledger, total, ⟨reservations, sum⟩, he⟩ := hv
      obtain ⟨same, he⟩ := guard_of_ok he
      cases he
      refine ⟨rfl, hs, hn, hc, signed, ledger.perm hl, reservations, ?_⟩
      rw [not_not.mp same, Int64.toInt_zero, zero_add] at sum
      exact sum
    · intro good
      obtain ⟨rfl, account⟩ := good
      refine ⟨⟨account.identity, account.nonneg, account.covered, account.signed⟩,
        account.ledger.perm hl.symm, balance.reservedTokens,
        ⟨account.reservations, ?_⟩, by simp⟩
      rw [Int64.toInt_zero, zero_add]
      exact account.reserved

end AsterTeam
