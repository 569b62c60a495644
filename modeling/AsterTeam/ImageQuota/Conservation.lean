import AsterTeam.ImageQuota.Storage

/-! Image accounts are conserved by the mutations whose ledger amount is the change of their
reservation.
-/

namespace AsterTeam.ImageQuota

open ImageLedgerRecord

open MachineInteger Relational

-- Conserved accounts

def ImageReservationRecord.outstanding (reservation : ImageReservationRecord) : Int :=
  reservation.reservedImages.toInt - reservation.confirmedImages.toInt
    - reservation.releasedImages.toInt

variable (db : ImageDatabase) (account : String × String)

/-- A counter of an account, which is zero before its first row. -/
def ImageDatabase.counter (value : ImageBalanceRecord → Int64) : Int :=
  (db.balance? account).elim 0 fun balance => (value balance).toInt

def ImageDatabase.reservationSum (value : ImageReservationRecord → Int) : Int :=
  ((db.reservations.selectAll ImageReservationRecord.account account).map value).sum

def ImageLedgerRecord.adjusted (entry : ImageLedgerRecord) : Int :=
  if entry.kind = .adjust then entry.amountImages.toInt else 0

def ImageDatabase.adjustments : Int :=
  ((db.ledger.selectAll ImageLedgerRecord.account account).map adjusted).sum

/-- The counters of an account agree with its reservations and its adjustments. -/
structure ImageConserved (db : ImageDatabase) (account : String × String) : Prop where
  reserved : db.counter account (·.reservedImages) = db.reservationSum account (·.outstanding)
  consumed
    : db.counter account (·.consumedImages) = db.reservationSum account (·.confirmedImages.toInt)
  total
    : db.counter account (·.availableImages) + db.counter account (·.reservedImages)
        + db.counter account (·.consumedImages)
      = db.adjustments account
  availableNonneg : 0 ≤ db.counter account (·.availableImages)
  reservedNonneg : 0 ≤ db.counter account (·.reservedImages)
  consumedNonneg : 0 ≤ db.counter account (·.consumedImages)

-- What an applied mutation changes

inductive ReservationWritten (before after : Table imageReservationKeys)
    : Option ImageReservationRecord → Option ImageReservationRecord → Prop
  | kept (same : after = before) : ReservationWritten before after none none
  | inserted {next : ImageReservationRecord} (rows : after.rows = before.rows ++ [next])
    : ReservationWritten before after none (some next)
  | replaced {expected next row : ImageReservationRecord} (sameId : row.id = next.id)
    (replaces : before.Replaces after row (setImageReservation next row))
    : ReservationWritten before after (some expected) (some next)

structure ImageApplied (write : ImageQuotaWrite) (db after : ImageDatabase) : Prop where
  validBalance
    : validImageBalanceTransition write.expectedBalance write.nextBalance write.ledger = true
  validReservation
    : validImageReservationTransition write.expectedReservation write.nextReservation
        write.ledger
      = true
  isRead
    : (db.balance? write.nextBalance.account).map (fun row => (row.revision, row.integrityHmac))
      = write.expectedBalance.map fun row => (row.revision, row.integrityHmac)
  balance
    : ∀ account,
        after.balance? account
        = if account = write.nextBalance.account then some write.nextBalance
          else db.balance? account
  reservations
    : ReservationWritten db.reservations after.reservations write.expectedReservation
        write.nextReservation
  ledger : after.ledger.rows = db.ledger.rows ++ [write.ledger]

section

variable {db : ImageDatabase} {next : ImageBalanceRecord}

theorem writeImageBalance_eq_ok {expected : Option ImageBalanceRecord}
    (hr : (db.balance? next.account).map (fun row => (row.revision, row.integrityHmac))
        = expected.map fun row => (row.revision, row.integrityHmac))
    (hw : writeImageBalance db expected next = .ok balances) (account : String × String)
    : balances.select? ImageBalanceRecord.account account
      = if account = next.account then some next else db.balance? account := by
  unfold writeImageBalance at hw
  cases expected with
  | some expected =>
    cases hw
    obtain ⟨row, hro, sameTag⟩ := Option.map_eq_some_iff.mp hr
    obtain ⟨hm, ha⟩ := (Table.select?_eq_some_iff id).mp hro
    have hre := @Table.updateWhere_replaces _ _ db.balances row
      (fun row => row.account = next.account && row.revision = expected.revision
        && row.integrityHmac = expected.integrityHmac)
      (setImageBalance next) (setImageBalance_keeps next) hm (by simpa [ha] using sameTag)
      (fun other ho hse => by
        simp only [Bool.and_eq_true, decide_eq_true_eq] at hse
        exact Table.eq_of_conflicts ho hm (hse.1.1.trans ha.symm : other.account = row.account))
    have hn : setImageBalance next row = next := by
      have hs : row.identityId = next.identityId := congrArg Prod.fst ha
      have hsa : row.publicModelId = next.publicModelId := congrArg Prod.snd ha
      rw [setImageBalance, hs, hsa]
    rw [hre.select?_eq id rfl, hn, ha]
    rfl
  | none =>
    split_ifs at hw
    cases hi : db.balances.insert? next with
    | none =>
      rw [hi] at hw
      cases hw
    | some table =>
      rw [hi] at hw
      cases hw
      exact Table.select?_of_rows_append (Table.insert?_eq_some.mp hi).2
        (Option.map_eq_none_iff.mp hr) account

theorem writeImageReservation_eq_ok {account : String × String}
    {expected next : Option ImageReservationRecord}
    (hw : writeImageReservation db account expected next = .ok (some reservations))
    : ReservationWritten db.reservations reservations expected next := by
  unfold writeImageReservation at hw
  cases next with
  | none =>
    cases expected with
    | none =>
      cases hw
      exact .kept rfl
    | some _ => cases hw
  | some next =>
    obtain ⟨_, hw⟩ := guard_of_ok hw
    cases expected with
    | some expected =>
      dsimp only at hw
      by_cases hm : db.reservations.rows.countP (fun row =>
        decide (row.id = next.id) && decide (row.revision = expected.revision)
          && decide (row.integrityHmac = expected.integrityHmac)) ≠ 1
      · rw [if_pos hm] at hw
        cases hw
      rw [if_neg hm] at hw
      cases hw
      obtain ⟨row, hme, hse⟩ :=
        List.countP_pos_iff.mp (lt_of_lt_of_eq Nat.one_pos (not_not.mp hm).symm)
      have hs := hse
      simp only [Bool.and_eq_true, decide_eq_true_eq] at hs
      refine .replaced hs.1.1 ?_
      apply Table.updateWhere_replaces hme hse
      intro other ho otherSelected
      simp only [Bool.and_eq_true, decide_eq_true_eq] at otherSelected
      exact Table.eq_of_conflicts ho hme (.inl (otherSelected.1.1.trans hs.1.1.symm))
    | none =>
      cases hi : db.reservations.insert? next with
      | none =>
        simp only [hi] at hw
        cases hw
      | some table =>
        simp only [hi] at hw
        cases hw
        exact .inserted (Table.insert?_eq_some.mp hi).2

theorem insertImageLedger_eq_ok (hin : insertImageLedger db entry = .ok ledger)
    : ledger.rows = db.ledger.rows ++ [entry] := by
  obtain ⟨_, hin⟩ := guard_of_ok hin
  cases hi : db.ledger.insert? entry with
  | none =>
    rw [hi] at hin
    cases hin
  | some table =>
    rw [hi] at hin
    cases hin
    exact (Table.insert?_eq_some.mp hi).2

end

theorem mutateImageQuotaBody_commits (write : ImageQuotaWrite) (db : ImageDatabase)
    : CommitsExactly .applied (mutateImageQuotaBody write db) := by
  unfold mutateImageQuotaBody
  split
  · exact commitsExactly_rollback nofun
  refine commitsExactly_guard nofun (commitsExactly_guard nofun ?_)
  refine commitsExactly_bind fun balances => commitsExactly_bind fun hw => ?_
  cases hw with
  | none => exact commitsExactly_rollback nofun
  | some reservations =>
    refine commitsExactly_bind fun ledger => ?_
    dsimp only
    split
    · exact commitsExactly_commit
    · refine commitsExactly_bind fun ha => ?_
      cases ha with
      | none => exact commitsExactly_rollback nofun
      | some base => exact commitsExactly_commit

variable {write : ImageQuotaWrite} {db : ImageDatabase}

theorem mutateImageQuota_refused (hr : (mutateImageQuota write db).1 ≠ .ok .applied)
    : (mutateImageQuota write db).2 = db := by
  unfold mutateImageQuota at hr ⊢
  split_ifs at hr ⊢
  · rfl
  · exact (transaction_commitsExactly (mutateImageQuotaBody_commits write db)).2 hr

theorem mutateImageQuota_applied (hap : (mutateImageQuota write db).1 = .ok .applied)
    : ImageApplied write db (mutateImageQuota write db).2 := by
  unfold mutateImageQuota at hap ⊢
  split_ifs at hap ⊢ with invalid
  simp only [Bool.or_eq_true, Bool.not_eq_true', not_or, Bool.not_eq_false] at invalid
  obtain ⟨validBalance, validReservation⟩ := invalid
  have he := (transaction_commitsExactly (mutateImageQuotaBody_commits write db)).1 hap
  revert he
  generalize (transaction (mutateImageQuotaBody write) db).2 = after
  intro he
  unfold mutateImageQuotaBody at he
  split at he
  · cases he
  obtain ⟨_, he⟩ := guard_of_commit he
  obtain ⟨hr, he⟩ := guard_of_commit he
  obtain ⟨balances, wroteBalance, he⟩ := bind_ok he
  obtain ⟨hw, wroteReservation, he⟩ := bind_ok he
  cases hw with
  | none => cases he
  | some reservations =>
    obtain ⟨ledger, hi, he⟩ := bind_ok he
    have hh (base : Database)
        : ImageApplied write db { db with base, balances, reservations, ledger } :=
      ⟨validBalance, validReservation, not_not.mp hr,
        writeImageBalance_eq_ok (not_not.mp hr) wroteBalance,
        writeImageReservation_eq_ok wroteReservation, insertImageLedger_eq_ok hi⟩
    dsimp only at he
    split at he
    · cases he
      exact hh db.base
    · obtain ⟨ha, _, he⟩ := bind_ok he
      cases ha with
      | none => cases he
      | some base =>
        cases he
        exact hh base

-- The moves of a ledger entry

/-- What a ledger entry adds to the counters of a balance. -/
structure Moves where
  (available reserved consumed : Int)

def ImageLedgerRecord.moves (entry : ImageLedgerRecord) : Moves :=
  let amount := entry.amountImages.toInt
  match entry.kind with
  | .adjust => ⟨amount, 0, 0⟩
  | .reserve => ⟨-amount, amount, 0⟩
  | .dispatch | .delivery => ⟨0, 0, 0⟩
  | .confirm => ⟨0, -amount, amount⟩
  | .release => ⟨amount, -amount, 0⟩

/-- Only an adjustment changes the total. -/
theorem ImageLedgerRecord.moves_total (entry : ImageLedgerRecord)
    : entry.moves.available + entry.moves.reserved + entry.moves.consumed = entry.adjusted := by
  unfold moves adjusted
  cases entry.kind <;> simp

structure BalanceMoves (expected : Option ImageBalanceRecord) (next : ImageBalanceRecord)
    (entry : ImageLedgerRecord)
    : Prop where
  account : entry.account = next.account
  available
    : next.availableImages.toInt
      = (expected.elim 0 fun balance => balance.availableImages.toInt) + entry.moves.available
  reserved
    : next.reservedImages.toInt
      = (expected.elim 0 fun balance => balance.reservedImages.toInt) + entry.moves.reserved
  consumed
    : next.consumedImages.toInt
      = (expected.elim 0 fun balance => balance.consumedImages.toInt) + entry.moves.consumed
  availableNonneg : 0 ≤ next.availableImages.toInt
  reservedNonneg : 0 ≤ next.reservedImages.toInt
  consumedNonneg : 0 ≤ next.consumedImages.toInt

theorem guard_of_true {guard : Prop} [Decidable guard] {rest : Bool}
    (valid : (if guard then false else rest) = true)
    : ¬ guard ∧ rest = true := by
  split at valid
  · cases valid
  · rename_i hp
    exact ⟨hp, valid⟩

theorem toInt_nonneg_of_not_lt {value : Int64} (hn : ¬ value < 0) : 0 ≤ value.toInt := by
  rw [Int64.lt_iff_toInt_lt] at hn
  simpa using hn

variable {entry : ImageLedgerRecord}

theorem balanceMoves_of_valid {next : ImageBalanceRecord}
    (valid : validImageBalanceTransition expected next entry)
    : BalanceMoves expected next entry := by
  unfold validImageBalanceTransition at valid
  split_ifs at valid with hre
  simp only [Bool.or_eq_true, decide_eq_true_eq, not_or, not_not] at hre
  obtain ⟨⟨⟨⟨⟨⟨⟨hav, hr⟩, consumed⟩, hs⟩, hsa⟩, _⟩, _⟩, _⟩ := hre
  have ha : entry.account = next.account := Prod.ext hs hsa
  have hm
      : next.availableImages.toInt
          = (expected.elim 0 fun balance => balance.availableImages.toInt) + entry.moves.available
        ∧ next.reservedImages.toInt
          = (expected.elim 0 fun balance => balance.reservedImages.toInt) + entry.moves.reserved
        ∧ next.consumedImages.toInt
          = (expected.elim 0 fun balance => balance.consumedImages.toInt)
            + entry.moves.consumed := by
    have previous (value : ImageBalanceRecord → Int64) (default : ImageBalanceRecord)
        (hz : value default = 0)
        : (expected.elim 0 fun balance => (value balance).toInt)
          = (value (expected.getD default)).toInt := by
      cases expected with
      | none => simp [hz]
      | some _ => rfl
    revert valid
    generalize hd : ImageBalanceRecord.mk next.identityId _ _ _ _ _ _ _ = default
    intro valid
    rw [previous (·.availableImages) default (by rw [← hd]),
      previous (·.reservedImages) default (by rw [← hd]),
      previous (·.consumedImages) default (by rw [← hd])]
    unfold ImageLedgerRecord.moves
    cases hk : entry.kind <;>
      simp only [hk, Bool.and_eq_true, beq_iff_eq, checkedSub_eq_some, decide_eq_true_eq,
        ← Int64.toInt_inj] at valid ⊢ <;>
      omega
  exact ⟨ha, hm.1, hm.2.1, hm.2.2, toInt_nonneg_of_not_lt hav,
    toInt_nonneg_of_not_lt hr, toInt_nonneg_of_not_lt consumed⟩

structure ReservationMoves (expected next : Option ImageReservationRecord)
    (entry : ImageLedgerRecord)
    : Prop where
  account : ∀ reservation, next = some reservation → reservation.account = entry.account
  same
    : ∀ before after, expected = some before → next = some after
      → setImageReservation after before = after
  outstanding
    : (next.elim 0 (·.outstanding)) - (expected.elim 0 (·.outstanding)) = entry.moves.reserved
  confirmed
    : (next.elim 0 (·.confirmedImages.toInt)) - (expected.elim 0 (·.confirmedImages.toInt))
      = entry.moves.consumed

/-- A settled child is one image. -/
def ImageLedgerRecord.SettlesOne (entry : ImageLedgerRecord) : Prop :=
  entry.kind = .confirm ∨ entry.kind = .release → entry.amountImages = 1

instance (entry : ImageLedgerRecord) : Decidable entry.SettlesOne :=
  inferInstanceAs (Decidable (_ → _))

theorem reservationMoves_of_valid {expected next : Option ImageReservationRecord}
    (valid : validImageReservationTransition expected next entry) (settlesOne : entry.SettlesOne)
    : ReservationMoves expected next entry := by
  unfold validImageReservationTransition at valid
  cases next with
  | none =>
    simp only [Bool.and_eq_true, Option.isNone_iff_eq_none, beq_iff_eq] at valid
    obtain ⟨rfl, hk⟩ := valid
    exact ⟨nofun, nofun, by simp [ImageLedgerRecord.moves, hk],
      by simp [ImageLedgerRecord.moves, hk]⟩
  | some next =>
    dsimp only at valid
    split at valid
    · cases valid
    obtain ⟨hre, valid⟩ := guard_of_true valid
    simp only [Bool.or_eq_true, decide_eq_true_eq, not_or, not_not] at hre
    obtain ⟨⟨⟨⟨⟨⟨⟨⟨hs, hsa⟩, _⟩, _⟩, _⟩, _⟩, _⟩, _⟩, _⟩ := hre
    have ha (reservation : ImageReservationRecord)
        (hn : some next = some reservation)
        : reservation.account = entry.account := by
      cases hn
      exact Prod.ext hs hsa
    cases expected with
    | none =>
      simp only [Bool.and_eq_true, beq_iff_eq, ← Int64.toInt_inj] at valid
      obtain ⟨⟨⟨⟨⟨⟨hk, _⟩, _⟩, _⟩, unconfirmed⟩, unreleased⟩, ham⟩ := valid
      have zero : (0 : Int64).toInt = 0 := rfl
      refine ⟨ha, nofun, ?_, ?_⟩
      · simp only [Option.elim_some, Option.elim_none, ImageLedgerRecord.moves, hk,
          ImageReservationRecord.outstanding]
        omega
      · simp only [Option.elim_some, Option.elim_none, ImageLedgerRecord.moves, hk]
        omega
    | some expected =>
      obtain ⟨hch, valid⟩ := guard_of_true valid
      simp only [Bool.or_eq_true, decide_eq_true_eq, not_or, not_not] at hch
      obtain ⟨⟨⟨⟨⟨⟨⟨⟨hsame, sameOwner⟩, sameKey⟩, sameTarget⟩, hsam⟩, sameReserved⟩,
        sameCreated⟩, sameExpiry⟩, _⟩ := hch
      split at valid
      · rename_i deltaConfirmed deltaReleased hc hr
        rw [checkedSub_eq_some] at hc hr
        have one : (1 : Int64).toInt = 1 := rfl
        have zero : (0 : Int64).toInt = 0 := rfl
        have ho
            : entry.kind = .confirm ∨ entry.kind = .release → entry.amountImages.toInt = 1 :=
          fun hse => by rw [settlesOne hse, one]
        have hm
            : deltaConfirmed.toInt = entry.moves.consumed
              ∧ deltaConfirmed.toInt + deltaReleased.toInt = -entry.moves.reserved := by
          unfold ImageLedgerRecord.moves
          cases hk : entry.kind <;>
            simp only [hk, Bool.and_eq_true, beq_iff_eq, ← Int64.toInt_inj, reduceCtorEq,
              or_true, true_or, or_self, forall_const, Bool.false_eq_true] at valid ho ⊢ <;>
            omega
        refine ⟨ha, ?_, ?_, ?_⟩
        · intro before after hb haf
          cases hb
          cases haf
          rw [setImageReservation, hsame, sameOwner, sameKey, sameTarget, hsam,
            sameReserved, sameCreated, sameExpiry]
        · simp only [Option.elim_some, ImageReservationRecord.outstanding, sameReserved]
          omega
        · simp only [Option.elim_some]
          omega
      · cases valid

-- Conservation by one mutation

/-- The expected records are the stored ones, and a settled child is one image. -/
structure ImageQuotaWrite.Regular (write : ImageQuotaWrite) (db : ImageDatabase) : Prop where
  readsBalance
    : write.expectedBalance.isSome → db.balance? write.nextBalance.account = write.expectedBalance
  readsReservation
    : ∀ reservation, write.expectedReservation = some reservation
      → db.reservation? reservation.id = some reservation
  settlesOne : write.ledger.SettlesOne

section

variable {after : ImageDatabase}

section

variable (applied : ImageApplied write db after)

include applied

theorem ImageApplied.balance_eq (regular : write.Regular db)
    : db.balance? write.nextBalance.account = write.expectedBalance := by
  cases he : write.expectedBalance with
  | some expected =>
    rw [← he]
    exact regular.readsBalance (by rw [he]; rfl)
  | none =>
    have hr := applied.isRead
    rw [he] at hr
    exact Option.map_eq_none_iff.mp hr

theorem ImageApplied.counter_eq (account : String × String) (value : ImageBalanceRecord → Int64)
    : after.counter account value
      = if account = write.nextBalance.account then (value write.nextBalance).toInt
        else db.counter account value := by
  unfold ImageDatabase.counter
  rw [applied.balance]
  split_ifs <;> rfl

/-- A sum over reservations changes by the written one. -/
theorem ImageApplied.reservationSum_eq (regular : write.Regular db) (account : String × String)
    (value : ImageReservationRecord → Int)
    : after.reservationSum account value
      = db.reservationSum account value
        + if account = write.ledger.account then
            write.nextReservation.elim 0 value - write.expectedReservation.elim 0 value
          else 0 := by
  have hm := reservationMoves_of_valid applied.validReservation regular.settlesOne
  have reads := regular.readsReservation
  have hw := applied.reservations
  revert hw hm reads
  generalize write.expectedReservation = expected
  generalize write.nextReservation = next
  intro hm reads hw
  unfold ImageDatabase.reservationSum
  cases hw with
  | kept same => simp [same]
  | @inserted next rows =>
    rw [Table.sum_selectAll_of_rows_append rows, hm.account next rfl]
    simp [eq_comm]
  | @replaced expected next row hs hre =>
    have same := hm.same expected next rfl rfl
    have hi : expected.id = next.id := by
      rw [← same]
      rfl
    have hr : row = expected := by
      have he := Table.mem_of_select? (reads expected rfl)
      exact Table.eq_of_conflicts hre.mem_before he (.inl (hs.trans hi.symm))
    rw [hr, same] at hre
    have ha : next.account = expected.account := by
      rw [← same]
      rfl
    rw [hre.sum_selectAll ha, ← ha, hm.account next rfl]
    simp [eq_comm]

theorem ImageApplied.adjustments_eq (account : String × String)
    : after.adjustments account
      = db.adjustments account
        + if account = write.ledger.account then write.ledger.adjusted else 0 := by
  unfold ImageDatabase.adjustments
  rw [Table.sum_selectAll_of_rows_append applied.ledger]
  simp [eq_comm]

theorem ImageApplied.conserved (regular : write.Regular db) {account : String × String}
    (hcon : ImageConserved db account)
    : ImageConserved after account := by
  have balance := balanceMoves_of_valid applied.validBalance
  have reservation := reservationMoves_of_valid applied.validReservation regular.settlesOne
  have total := write.ledger.moves_total
  have ha := balance.account
  by_cases hc : account = write.nextBalance.account
  · subst hc
    have before (value : ImageBalanceRecord → Int64)
        : db.counter write.nextBalance.account value
          = write.expectedBalance.elim 0 fun balance => (value balance).toInt := by
      rw [ImageDatabase.counter, applied.balance_eq regular]
    have sums (value : ImageReservationRecord → Int) :=
      applied.reservationSum_eq regular write.nextBalance.account value
    have adjustments := applied.adjustments_eq write.nextBalance.account
    simp only [ha, if_true] at sums adjustments
    have hr := hcon.reserved
    have hco := hcon.consumed
    have ht := hcon.total
    simp only [before] at hr hco ht
    have hav := balance.available
    have hre := balance.reserved
    have consumed := balance.consumed
    refine ⟨?_, ?_, ?_, ?_, ?_, ?_⟩ <;> simp only [applied.counter_eq, if_true]
    · have outstanding := reservation.outstanding
      rw [sums]
      omega
    · have confirmed := reservation.confirmed
      rw [sums]
      omega
    · rw [adjustments]
      omega
    · exact balance.availableNonneg
    · exact balance.reservedNonneg
    · exact balance.consumedNonneg
  · have counter (value : ImageBalanceRecord → Int64)
        : after.counter account value = db.counter account value := by
      rw [applied.counter_eq, if_neg hc]
    have sums (value : ImageReservationRecord → Int)
        : after.reservationSum account value = db.reservationSum account value := by
      rw [applied.reservationSum_eq regular, ha, if_neg hc, add_zero]
    have adjustments : after.adjustments account = db.adjustments account := by
      rw [applied.adjustments_eq, ha, if_neg hc, add_zero]
    refine ⟨?_, ?_, ?_, ?_, ?_, ?_⟩ <;> simp only [counter, sums, adjustments]
    · exact hcon.reserved
    · exact hcon.consumed
    · exact hcon.total
    · exact hcon.availableNonneg
    · exact hcon.reservedNonneg
    · exact hcon.consumedNonneg

end

end

-- Runs

/-- A mutation, or a change of the tables that the image tables refer to. -/
inductive ImageEvent
  | mutate (write : ImageQuotaWrite)
  | others (base : Database) (imageModels : List String)

def ImageEvent.apply : ImageEvent → ImageDatabase → ImageDatabase
  | .mutate write, db => (mutateImageQuota write db).2
  | .others base imageModels, db => { db with base, imageModels }

def runImageEvents (db : ImageDatabase) : List ImageEvent → ImageDatabase
  | [] => db
  | event :: rest => runImageEvents (event.apply db) rest

def ImageEvent.Regular (db : ImageDatabase) : ImageEvent → Prop
  | .mutate write => (mutateImageQuota write db).1 = .ok .applied → write.Regular db
  | .others _ _ => True

/-- Every mutation of a run that is applied is a regular one. -/
def AllRegular : ImageDatabase → List ImageEvent → Prop
  | _, [] => True
  | db, event :: rest => event.Regular db ∧ AllRegular (event.apply db) rest

variable {account : String × String}

theorem ImageEvent.conserved {event : ImageEvent} (regular : event.Regular db)
    (hc : ImageConserved db account)
    : ImageConserved (event.apply db) account := by
  cases event with
  | others base imageModels => exact ⟨hc.1, hc.2, hc.3, hc.4, hc.5, hc.6⟩
  | mutate write =>
    by_cases ha : (mutateImageQuota write db).1 = .ok .applied
    · exact (mutateImageQuota_applied ha).conserved (regular ha) hc
    · rw [ImageEvent.apply, mutateImageQuota_refused ha]
      exact hc

theorem imageConserved_run (regular : AllRegular db events) (hc : ImageConserved db account)
    : ImageConserved (runImageEvents db events) account := by
  induction events generalizing db with
  | nil => exact hc
  | cons event rest ih => exact ih regular.2 (ImageEvent.conserved regular.1 hc)

theorem imageConserved_fresh (base : Database) (imageModels : List String)
    (account : String × String)
    : ImageConserved (.fresh base imageModels) account :=
  ⟨rfl, rfl, rfl, le_refl _, le_refl _, le_refl _⟩

/-- From empty image tables every account stays conserved, as long as the expected records of
an applied mutation are the stored ones and a confirmation or release is of one image.
-/
theorem image_accounts_conserved (base : Database) (imageModels : List String)
    (events : List ImageEvent) (regular : AllRegular (.fresh base imageModels) events)
    (account : String × String)
    : ImageConserved (runImageEvents (.fresh base imageModels) events) account :=
  imageConserved_run regular (imageConserved_fresh base imageModels account)

-- A sample account

def sampleMember : IdentityRecord :=
  { id := "member", email := "member@example", displayName := "member", passwordHash := "hash"
    role := .member, status := .active, canConsumeModel := true
    passwordChangeRequired := false, revision := 0, integrityHmac := "i"
    createdAt := "t0", updatedAt := "t0" }

def sampleBase : Database :=
  { Database.empty with identities := ⟨[sampleMember], List.pairwise_singleton _ _⟩ }

def sampleBalance (available reserved consumed revision : Int64) (tag : String)
    : ImageBalanceRecord :=
  ⟨"member", "image", available, reserved, consumed, revision, "entry" ++ tag, "balance" ++ tag⟩

def sampleReservation (confirmed released revision : Int64) (settledAt : Option String)
    (tag : String)
    : ImageReservationRecord :=
  ⟨"reservation", "member", "key", "image", "request", 2, confirmed, released,
    if settledAt.isSome then .settled else .reserved, revision, "reservation" ++ tag, "t1", "t2",
    settledAt⟩

def sampleEntry (reservation child : Option String) (kind : ImageLedgerKind)
    (amount produced : Int64) (previous tag : String)
    : ImageLedgerRecord :=
  ⟨"id" ++ tag, "member", "image", reservation, child, kind, amount, produced, "none", "member",
    "sample", previous, "entry" ++ tag, "t1"⟩

def sampleAdjust : ImageQuotaWrite :=
  ⟨none, sampleBalance 2 0 0 0 "0", none, none, sampleEntry none none .adjust 2 0 "" "0", none⟩

def sampleReserve : ImageQuotaWrite :=
  ⟨some (sampleBalance 2 0 0 0 "0"), sampleBalance 0 2 0 1 "1", none,
    some (sampleReservation 0 0 0 none "1"),
    sampleEntry (some "reservation") none .reserve 2 0 "entry0" "1", none⟩

/-- A confirmation of one image whose ledger entry is about some other number of images. -/
def sampleConfirm (amount : Int64) : ImageQuotaWrite :=
  ⟨some (sampleBalance 0 2 0 1 "1"), sampleBalance 0 (2 - amount) amount 2 "2",
    some (sampleReservation 0 0 0 none "1"), some (sampleReservation 1 0 1 none "2"),
    sampleEntry (some "reservation") (some "child") .confirm amount 1 "entry1" "2", none⟩

def sampleRelease : ImageQuotaWrite :=
  ⟨some (sampleBalance 0 1 1 2 "2"), sampleBalance 1 0 1 3 "3",
    some (sampleReservation 1 0 1 none "2"),
    some (sampleReservation 1 1 2 (some "t3") "3"),
    sampleEntry (some "reservation") (some "other") .release 1 0 "entry2" "3", none⟩

def sampleReserved : ImageDatabase :=
  runImageEvents (.fresh sampleBase ["image"]) [.mutate sampleAdjust, .mutate sampleReserve]

/-- A confirmation for two images that confirms one image of its reservation is applied. The
reservation then still holds an image, and the balance holds none.
-/
theorem confirmation_of_two_images_accepted
    : sampleReserved.balance? ("member", "image") = (sampleConfirm 2).expectedBalance
      ∧ sampleReserved.reservation? "reservation" = (sampleConfirm 2).expectedReservation
      ∧ (mutateImageQuota (sampleConfirm 2) sampleReserved).1 = .ok .applied
      ∧ (mutateImageQuota (sampleConfirm 2) sampleReserved).2.counter ("member", "image")
          (·.reservedImages)
        = 0
      ∧ (mutateImageQuota (sampleConfirm 2) sampleReserved).2.reservationSum
          ("member", "image") (·.outstanding)
        = 1
      ∧ (mutateImageQuota (sampleConfirm 2) sampleReserved).2.counter ("member", "image")
          (·.consumedImages)
        = 2
      ∧ (mutateImageQuota (sampleConfirm 2) sampleReserved).2.reservationSum
          ("member", "image") (·.confirmedImages.toInt)
        = 1 := by
  decide +kernel

def sampleEvents : List ImageEvent :=
  [.mutate sampleAdjust, .mutate sampleReserve, .mutate (sampleConfirm 1), .mutate sampleRelease]

theorem sampleEvents_regular : AllRegular (.fresh sampleBase ["image"]) sampleEvents := by
  refine ⟨fun _ => ⟨by decide, nofun, by decide⟩,
    fun _ => ⟨by decide +kernel, nofun, by decide⟩,
    fun _ => ⟨by decide +kernel, ?_, by decide⟩,
    fun _ => ⟨by decide +kernel, ?_, by decide⟩, trivial⟩
  all_goals
    intro reservation he
    cases he
    decide +kernel

/-- Two images are granted and reserved; one is consumed and one comes back. -/
theorem sample_account_conserved
    : ImageConserved (runImageEvents (.fresh sampleBase ["image"]) sampleEvents)
        ("member", "image")
      ∧ (runImageEvents (.fresh sampleBase ["image"]) sampleEvents).balance?
          ("member", "image")
        = some (sampleBalance 1 0 1 3 "3") :=
  ⟨image_accounts_conserved sampleBase ["image"] sampleEvents sampleEvents_regular
    ("member", "image"), by decide +kernel⟩

end AsterTeam.ImageQuota
