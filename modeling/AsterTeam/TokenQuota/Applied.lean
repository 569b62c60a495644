import AsterTeam.TokenQuota.Storage

/-! What an applied transaction on a token account has checked and written.
Every later result about token accounts starts from these facts.
-/

namespace AsterTeam

open MachineInteger Relational

-- Statements

variable {db : Database} {balance : UserBalanceRecord}

theorem balance?_eq_some
    : db.balance? identityId = some balance
      ↔ balance ∈ db.balances.rows ∧ balance.identityId = identityId :=
  Table.select?_eq_some_iff id

variable {reservation : QuotaReservationRecord}

theorem reservation?_eq_some {id : String}
    : db.reservation? id = some reservation
      ↔ reservation ∈ db.reservations.rows ∧ reservation.id = id :=
  Table.select?_eq_some_iff .inl

/-- Counting the rows that satisfy a predicate only one stored row satisfies. -/
theorem countP_eq_one {Row : Type} {keys : Keys Row} {table : Table keys} {row : Row}
    {selected : Row → Bool} (hm : row ∈ table.rows) (hsel : selected row)
    (only : ∀ other ∈ table.rows, selected other → other = row)
    : table.rows.countP selected = 1 := by
  obtain ⟨before, after, rows⟩ := List.append_of_mem hm
  have hs : table.rows.Perm (row :: (before ++ after)) := rows ▸ List.perm_middle
  have others : (before ++ after).countP selected = 0 := by
    rw [List.countP_eq_zero]
    intro other ho hc
    have hst := hs.mem_iff.mpr (List.mem_cons_of_mem _ ho)
    have same := only other hst hc
    exact (List.pairwise_cons.mp (Table.perm_distinct hs)).1 other ho (same ▸ keys.refl row)
  rw [hs.countP_eq, List.countP_cons_of_pos hsel, others]

variable {expected next : UserBalanceRecord} {result : Bool × Database}

theorem updateBalance_eq_ok (hu : updateBalance db expected next = .ok result)
    (hst : expected ∈ db.balances.rows) (identity : next.identityId = expected.identityId)
    : ∃ balances,
        result = (true, { db with balances })
        ∧ db.balances.Replaces balances expected next := by
  obtain ⟨_, he⟩ := guard_of_ok hu
  let selects (row : UserBalanceRecord) : Bool :=
    row.identityId = expected.identityId
      && row.revision = expected.revision
      && row.integrityHmac = expected.integrityHmac
  have only (other) (hm : other ∈ db.balances.rows) (hc : selects other = true)
      : other = expected := by
    simp only [selects, Bool.and_eq_true, decide_eq_true_eq] at hc
    exact Table.eq_of_conflicts hm hst hc.1.1
  have hse : selects expected := by simp [selects]
  have replacement : setBalance next expected = next := by
    simp only [setBalance, ← identity]
  have hr
      : db.balances.Replaces
          (db.balances.updateWhere selects (setBalance next) (setBalance_keeps next))
          expected (setBalance next expected) :=
    Table.updateWhere_replaces hst hse only
  refine ⟨_, ?_, replacement ▸ hr⟩
  have count : db.balances.rows.countP selects = 1 := countP_eq_one hst hse only
  rw [← Except.ok.inj he]
  exact congrArg (Prod.mk · _) (beq_iff_eq.mpr count)

theorem updateReservation_eq_ok {expected next : QuotaReservationRecord}
    (hu : updateReservation db expected next = .ok result)
    (hst : expected ∈ db.reservations.rows) (kept : setReservation next expected = next)
    : ∃ reservations,
        result = (true, { db with reservations })
        ∧ db.reservations.Replaces reservations expected next := by
  obtain ⟨_, he⟩ := guard_of_ok hu
  let selects (row : QuotaReservationRecord) : Bool :=
    row.id = expected.id
      && row.status = expected.status
      && row.revision = expected.revision
      && row.integrityHmac = expected.integrityHmac
  have only (other) (hm : other ∈ db.reservations.rows)
      (hc : selects other = true)
      : other = expected := by
    simp only [selects, Bool.and_eq_true, decide_eq_true_eq] at hc
    exact Table.eq_of_conflicts hm hst (.inl hc.1.1.1)
  have hse : selects expected := by simp [selects]
  have hr
      : db.reservations.Replaces
          (db.reservations.updateWhere selects (setReservation next) (setReservation_keeps next))
          expected (setReservation next expected) :=
    Table.updateWhere_replaces hst hse only
  refine ⟨_, ?_, kept ▸ hr⟩
  have count : db.reservations.rows.countP selects = 1 := countP_eq_one hst hse only
  rw [← Except.ok.inj he]
  exact congrArg (Prod.mk · _) (beq_iff_eq.mpr count)

variable {entry : QuotaLedgerEntry}

/-- An inserted entry passed the column checks and is the newest row of the ledger. -/
theorem insertLedger_eq_some {next : Database}
    : insertLedger db entry = some next
      ↔ ledgerChecks entry
        ∧ (∀ stored ∈ db.ledger.rows, ¬ ledgerKeys.conflicts stored entry)
        ∧ ∃ ledger,
            next = { db with ledger } ∧ ledger.rows = db.ledger.rows ++ [entry] := by
  unfold insertLedger
  constructor
  · intro hi
    split at hi
    · rename_i checks
      obtain ⟨ledger, ha, rfl⟩ := Option.map_eq_some_iff.mp hi
      obtain ⟨free, rows⟩ := Table.insert?_eq_some.mp ha
      exact ⟨checks, free, ledger, rfl, rows⟩
    · cases hi
  · rintro ⟨checks, free, ledger, rfl, rows⟩
    rw [if_pos checks, Table.insert?_eq_some.mpr ⟨free, rows⟩, Option.map_some]

-- Transactions

structure OpenApplied (balance : UserBalanceRecord) (db after : Database) : Prop where
  shape : WellShaped balance
  zero : ∀ counter, balance.totals counter = 0
  first : balance.lastLedgerHmac = ""
  fresh : ∀ stored ∈ db.balances.rows, stored.identityId ≠ balance.identityId
  balances : after.balances.rows = db.balances.rows ++ [balance]
  others : after = { db with balances := after.balances }

variable {after : Database}

theorem insertInitialBalance_applied
    (ha : insertInitialBalanceBody identity balance db = .ok ((), some after))
    : OpenApplied balance db after := by
  obtain ⟨wellFormed, ha⟩ := guard_of_ok ha
  simp only [not_or, not_not] at wellFormed
  obtain ⟨_, h1, h2, h3, h4, h5, h6, h7, h8, h9, h10, h11, _, first, signed, _⟩ := wellFormed
  have zero (counter) : balance.totals counter = 0 := by
    cases counter <;> simp [UserBalanceRecord.totals, UserBalanceRecord.column, *]
  have shape : WellShaped balance :=
    ⟨fun counter => (zero counter).ge, by rw [zero, zero], signed⟩
  split at ha
  · cases ha
  · rename_i balances hi
    obtain ⟨free, rows⟩ := Table.insert?_eq_some.mp hi
    cases ha
    exact ⟨shape, zero, first, free, rows, rfl⟩

structure ReserveApplied (expected next : UserBalanceRecord)
    (reservation : QuotaReservationRecord) (db after : Database)
    : Prop where
  reserves : Reserves expected next reservation
  stored : expected ∈ db.balances.rows
  fresh : ∀ row ∈ db.reservations.rows, ¬ reservationKeys.conflicts row reservation
  balances : db.balances.Replaces after.balances expected next
  reservations : after.reservations.rows = db.reservations.rows ++ [reservation]
  others
    : after = { db with balances := after.balances, reservations := after.reservations }

theorem reserveQuota_applied
    (ha : reserveQuotaBody subject expected next reservation db = .ok (.applied, some after))
    : ReserveApplied expected next reservation db after := by
  obtain ⟨valid, ha⟩ := guard_of_commit ha
  obtain ⟨_, ha⟩ := guard_of_commit ha
  obtain ⟨hs, ha⟩ := guard_of_commit ha
  obtain ⟨_, ha⟩ := guard_of_commit ha
  obtain ⟨_, ha⟩ := guard_of_commit ha
  obtain ⟨_, ha⟩ := guard_of_ok ha
  have hr : Reserves expected next reservation := Reserves.of_valid (by simpa using valid)
  obtain ⟨hm, _⟩ := balance?_eq_some.mp (not_not.mp hs)
  split at ha
  · cases ha
  · rename_i reservations hi
    obtain ⟨free, rows⟩ := Table.insert?_eq_some.mp hi
    obtain ⟨_, update, ha⟩ := bind_ok ha
    obtain ⟨balances, rfl, hre⟩ := updateBalance_eq_ok update hm hr.step.identity
    cases ha
    exact ⟨hr, hm, free, hre, rows, rfl⟩

structure GrantApplied (expected next : UserBalanceRecord) (entry : QuotaLedgerEntry)
    (db after : Database)
    : Prop where
  grants : Grants expected next entry
  stored : expected ∈ db.balances.rows
  balances : db.balances.Replaces after.balances expected next
  ledger : after.ledger.rows = db.ledger.rows ++ [entry]
  others
    : after
      = { db with
          balances := after.balances, ledger := after.ledger, audit := after.audit }

structure FinishApplied (expected next : UserBalanceRecord)
    (reservation nextReservation : QuotaReservationRecord)
    (entry : Option QuotaLedgerEntry) (db after : Database)
    : Prop where
  stored : expected ∈ db.balances.rows
  storedReservation : reservation ∈ db.reservations.rows
  balances : db.balances.Replaces after.balances expected next
  reservations : db.reservations.Replaces after.reservations reservation nextReservation
  ledger : after.ledger.rows = db.ledger.rows ++ entry.toList
  checks : ∀ added ∈ entry, ledgerChecks added = true
  fresh
    : ∀ added ∈ entry, ∀ row ∈ db.ledger.rows, ¬ ledgerKeys.conflicts row added
  others
    : after
      = { db with
          balances := after.balances
          reservations := after.reservations
          ledger := after.ledger }

theorem grantQuota_applied
    (hap : grantQuotaBody expected next entry audit db = .ok (.mutation .applied, some after))
    : GrantApplied expected next entry db after := by
  obtain ⟨valid, hap⟩ := guard_of_commit hap
  obtain ⟨hs, hap⟩ := guard_of_commit hap
  have grants : Grants expected next entry := Grants.of_valid (by simpa using valid)
  obtain ⟨hm, _⟩ := balance?_eq_some.mp (not_not.mp hs)
  split at hap
  · cases hap
  · rename_i hi insertion
    obtain ⟨_, _, ledger, rfl, rows⟩ := insertLedger_eq_some.mp insertion
    obtain ⟨_, update, hap⟩ := bind_ok hap
    obtain ⟨balances, rfl, hr⟩ := updateBalance_eq_ok update hm grants.step.identity
    obtain ⟨_, hap⟩ := guard_of_commit hap
    cases audit with
    | none =>
      cases hap
      exact ⟨grants, hm, hr, rows, rfl⟩
    | some append =>
      obtain ⟨ha, logging, hap⟩ := bind_ok hap
      cases ha with
      | none => cases hap
      | some logged =>
        cases hap
        obtain ⟨others, _⟩ := appendAuditEvents_rows logging
        rw [others]
        exact ⟨grants, hm, hr, rows, rfl⟩

theorem finishReservation_applied {entry : Option QuotaLedgerEntry}
    (identity : next.identityId = expected.identityId)
    (finishes : Finishes reservation nextReservation status)
    (applied : finishReservationBody expected next reservation nextReservation entry db
        = .ok (.applied, some after))
    : FinishApplied expected next reservation nextReservation entry db after := by
  obtain ⟨same, applied⟩ := guard_of_commit applied
  obtain ⟨storedBalance, storedReservation⟩ := not_or.mp same
  obtain ⟨hm, _⟩ := balance?_eq_some.mp (not_not.mp storedBalance)
  obtain ⟨reservationMember, _⟩ := reservation?_eq_some.mp (not_not.mp storedReservation)
  have kept : setReservation nextReservation reservation = nextReservation := by
    rw [setReservation, finishes.revision, finishes.finished, ← finishes.kept]
  split at applied
  · cases applied
  · rename_i hi insertion
    obtain ⟨ledger, rfl, rows, checks, fresh⟩
        : ∃ ledger,
            hi = { db with ledger }
            ∧ ledger.rows = db.ledger.rows ++ entry.toList
            ∧ (∀ added ∈ entry, ledgerChecks added = true)
            ∧ ∀ added ∈ entry, ∀ row ∈ db.ledger.rows, ¬ ledgerKeys.conflicts row added := by
      cases entry with
      | none =>
        cases insertion
        exact ⟨
          db.ledger, rfl, (List.append_nil _).symm,
          fun _ he => absurd he (Option.not_mem_none _),
          fun _ he => absurd he (Option.not_mem_none _)
        ⟩
      | some added =>
        obtain ⟨checks, free, ledger, same, rows⟩ := insertLedger_eq_some.mp insertion
        exact ⟨
          ledger, same, rows,
          fun _ ha => Option.some.inj ha ▸ checks,
          fun _ ha => Option.some.inj ha ▸ free
        ⟩
    obtain ⟨_, updateRow, applied⟩ := bind_ok applied
    obtain ⟨reservations, rfl, reservationReplaces⟩ :=
      updateReservation_eq_ok updateRow reservationMember kept
    obtain ⟨_, update, applied⟩ := bind_ok applied
    obtain ⟨balances, rfl, hr⟩ := updateBalance_eq_ok update hm identity
    cases applied
    exact ⟨ hm, reservationMember, hr, reservationReplaces, rows, checks, fresh, rfl
    ⟩

end AsterTeam
