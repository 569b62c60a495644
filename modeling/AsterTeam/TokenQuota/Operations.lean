import AsterTeam.TokenQuota.Applied

/-! Runs of storage operations on the token accounts of one installation, with any
arguments and any answers.
-/

namespace AsterTeam

open Relational

/-- A call of storage that can touch a token account. Administration stands for everything
that changes only other tables.
-/
inductive QuotaOperation
  | openAccount (identity : IdentityRecord) (balance : UserBalanceRecord)
  | reserve (subject : AuthorizedApiKey) (expected next : UserBalanceRecord)
    (reservation : QuotaReservationRecord)
  | grant (expected next : UserBalanceRecord) (ledger : QuotaLedgerEntry)
    (audit : Option AuditAppend)
  | release (expectedBalance nextBalance : UserBalanceRecord)
    (expectedReservation nextReservation : QuotaReservationRecord)
  | fail (expectedBalance nextBalance : UserBalanceRecord)
    (expectedReservation nextReservation : QuotaReservationRecord) (ledger : QuotaLedgerEntry)
  | settle (expectedBalance nextBalance : UserBalanceRecord)
    (expectedReservation nextReservation : QuotaReservationRecord) (ledger : QuotaLedgerEntry)
  | administration (identities : Table identityKeys) (apiKeys : Table apiKeyKeys)
    (moneyBalances : Table moneyBalanceKeys) (moneyLedger : Table moneyLedgerKeys)
    (audit : Table auditEventKeys)

abbrev QuotaAnswer := Except StorageError (MutationWithAuditOutcome QuotaMutationOutcome)

def QuotaAnswer.applied : QuotaAnswer := .ok (.mutation .applied)

instance (answer : QuotaAnswer) : Decidable (answer = .applied) :=
  match answer with
  | .error _ => isFalse nofun
  | .ok outcome =>
    decidable_of_iff (outcome = .mutation .applied) ⟨congrArg _, Except.ok.inj⟩

/-- An answer without audit, in the form of one with audit. -/
def withoutAudit (answered : Except StorageError QuotaMutationOutcome × Database)
    : QuotaAnswer × Database :=
  (answered.1.map .mutation, answered.2)

def QuotaOperation.execute (operation : QuotaOperation) (db : Database)
    : QuotaAnswer × Database :=
  match operation with
  | .openAccount identity balance =>
    let opened := insertInitialBalance identity balance db
    withoutAudit (opened.1.map fun _ => .applied, opened.2)
  | .reserve subject expected next reservation =>
    withoutAudit (reserveQuota subject expected next reservation db)
  | .grant expected next ledger audit => grantQuotaInner expected next ledger audit db
  | .release expectedBalance nextBalance expectedReservation nextReservation =>
    withoutAudit (releaseQuotaReservation expectedBalance nextBalance
      expectedReservation nextReservation db)
  | .fail expectedBalance nextBalance expectedReservation nextReservation ledger =>
    withoutAudit (failQuotaReservation expectedBalance nextBalance expectedReservation
      nextReservation ledger db)
  | .settle expectedBalance nextBalance expectedReservation nextReservation ledger =>
    withoutAudit (settleQuotaReservation expectedBalance nextBalance expectedReservation
      nextReservation ledger db)
  | .administration identities apiKeys moneyBalances moneyLedger audit =>
    (.applied, { db with identities, apiKeys, moneyBalances, moneyLedger, audit })

def runOperations (db : Database) (operations : List QuotaOperation) : Database :=
  operations.foldl (fun db operation => (operation.execute db).2) db

/-- Every operation of the list is answered with success, one after the other. -/
def AllApplied : Database → List QuotaOperation → Prop
  | _, [] => True
  | db, operation :: rest =>
    (operation.execute db).1 = .applied ∧ AllApplied (operation.execute db).2 rest

instance decidableAllApplied
    : (db : Database) → (operations : List QuotaOperation) → Decidable (AllApplied db operations)
  | _, [] => isTrue trivial
  | db, operation :: rest =>
    have := decidableAllApplied (operation.execute db).2 rest
    inferInstanceAs (Decidable (_ ∧ _))

-- Answers

theorem reserveQuotaBody_commits (subject : AuthorizedApiKey)
    (expected next : UserBalanceRecord) (reservation : QuotaReservationRecord) (db : Database)
    : CommitsExactly .applied (reserveQuotaBody subject expected next reservation db) := by
  refine commitsExactly_guard nofun <| commitsExactly_guard nofun <|
    commitsExactly_guard nofun <| commitsExactly_guard nofun <|
    commitsExactly_guard nofun ?_
  split
  · exact commitsExactly_error
  split
  · exact commitsExactly_error
  · refine commitsExactly_bind fun _ => ?_
    exact commitsExactly_guard nofun commitsExactly_commit

variable (expected next : UserBalanceRecord) (reservation nextReservation : QuotaReservationRecord)

theorem grantQuotaBody_commits (ledger : QuotaLedgerEntry) (audit : Option AuditAppend)
    (db : Database)
    : CommitsExactly (.mutation .applied) (grantQuotaBody expected next ledger audit db) := by
  refine commitsExactly_guard nofun <| commitsExactly_guard nofun ?_
  split
  · exact commitsExactly_rollback nofun
  · refine commitsExactly_bind fun _ => commitsExactly_guard nofun ?_
    cases audit with
    | none => exact commitsExactly_commit
    | some append =>
      refine commitsExactly_bind fun appended => ?_
      cases appended with
      | none => exact commitsExactly_rollback nofun
      | some logged => exact commitsExactly_commit

theorem finishReservationBody_commits (ledger : Option QuotaLedgerEntry) (db : Database)
    : CommitsExactly .applied
        (finishReservationBody expected next reservation nextReservation ledger db) := by
  refine commitsExactly_guard nofun ?_
  split
  · exact commitsExactly_rollback nofun
  · refine commitsExactly_bind fun _ => commitsExactly_bind fun _ => ?_
    exact commitsExactly_guard nofun commitsExactly_commit

theorem insertInitialBalanceBody_commits (identity : IdentityRecord)
    (balance : UserBalanceRecord) (db : Database)
    : CommitsExactly () (insertInitialBalanceBody identity balance db) := by
  unfold insertInitialBalanceBody
  split
  · exact commitsExactly_error
  split
  · exact commitsExactly_error
  · exact commitsExactly_commit

def QuotaOperation.Effect (db after : Database) : QuotaOperation → Prop
  | .openAccount _ balance => OpenApplied balance db after
  | .reserve _ expected next reservation => ReserveApplied expected next reservation db after
  | .grant expected next entry _ => GrantApplied expected next entry db after
  | .release expected next reservation nextReservation =>
    Releases expected next reservation nextReservation
    ∧ FinishApplied expected next reservation nextReservation none db after
  | .fail expected next reservation nextReservation entry =>
    Fails expected next reservation nextReservation entry
    ∧ FinishApplied expected next reservation nextReservation (some entry) db after
  | .settle expected next reservation nextReservation entry =>
    Settles expected next reservation nextReservation entry
    ∧ FinishApplied expected next reservation nextReservation (some entry) db after
  | .administration identities apiKeys moneyBalances moneyLedger audit =>
    after = { db with identities, apiKeys, moneyBalances, moneyLedger, audit }

/-- Dropping the audit part of an answer loses nothing. -/
theorem withoutAudit_applied_iff : (withoutAudit run).1 = .applied ↔ run.1 = .ok .applied := by
  obtain ⟨answer, after⟩ := run
  cases answer with
  | error _ => exact ⟨nofun, nofun⟩
  | ok outcome => simp [withoutAudit, QuotaAnswer.applied, Except.map]

/-- A transaction that ends a reservation after a check. -/
theorem checkedFinish_cases (entry : Option QuotaLedgerEntry) (db : Database)
    (body : Database → Except StorageError (QuotaMutationOutcome × Option Database))
    (checked : body db = if !valid then rollback .conflict
      else finishReservationBody expected next reservation nextReservation entry db)
    : ((withoutAudit (transaction body db)).1 = .applied
        → valid = true
          ∧ finishReservationBody expected next reservation nextReservation entry db
            = .ok (.applied, some (transaction body db).2))
      ∧ ((withoutAudit (transaction body db)).1 ≠ .applied → (transaction body db).2 = db) := by
  have exactly : CommitsExactly .applied (body db) := by
    rw [checked]
    exact commitsExactly_guard nofun (finishReservationBody_commits _ _ _ _ _ _)
  obtain ⟨committed, unchanged⟩ := transaction_commitsExactly exactly
  constructor
  · intro ha
    have he := committed (withoutAudit_applied_iff.mp ha)
    obtain ⟨hp, he⟩ := guard_of_commit (checked.symm.trans he)
    exact ⟨by simpa using hp, he⟩
  · intro hr
    exact unchanged fun ha => hr (withoutAudit_applied_iff.mpr ha)

variable {operation : QuotaOperation} {db : Database}

/-- An operation answered with anything but success leaves the whole database alone. -/
theorem QuotaOperation.execute_refused (hr : (operation.execute db).1 ≠ .applied)
    : (operation.execute db).2 = db := by
  cases operation with
  | openAccount identity balance =>
    have exactly := insertInitialBalanceBody_commits identity balance db
    refine (transaction_commitsExactly exactly).2 fun ho => hr ?_
    apply withoutAudit_applied_iff.mpr
    exact congrArg (Except.map fun _ => QuotaMutationOutcome.applied) ho
  | reserve subject expected next reservation =>
    have exactly := reserveQuotaBody_commits subject expected next reservation db
    exact (transaction_commitsExactly exactly).2 fun ha =>
      hr (withoutAudit_applied_iff.mpr ha)
  | grant expected next ledger audit =>
    have exactly := grantQuotaBody_commits expected next ledger audit db
    exact (transaction_commitsExactly exactly).2 hr
  | release expected next reservation nextReservation =>
    exact (checkedFinish_cases _ _ _ _ _ db _ rfl).2 hr
  | fail expected next reservation nextReservation ledger =>
    exact (checkedFinish_cases _ _ _ _ _ db _ rfl).2 hr
  | settle expected next reservation nextReservation ledger =>
    exact (checkedFinish_cases _ _ _ _ _ db _ rfl).2 hr
  | administration => exact absurd rfl hr

theorem QuotaOperation.execute_applied (ha : (operation.execute db).1 = .applied)
    : operation.Effect db (operation.execute db).2 := by
  cases operation with
  | openAccount identity balance =>
    have exactly := insertInitialBalanceBody_commits identity balance db
    have han := withoutAudit_applied_iff.mp ha
    cases ho : (insertInitialBalance identity balance db).1 with
    | error _ =>
      rw [ho] at han
      cases han
    | ok _ =>
      exact insertInitialBalance_applied ((transaction_commitsExactly exactly).1 ho)
  | reserve subject expected next reservation =>
    have exactly := reserveQuotaBody_commits subject expected next reservation db
    exact reserveQuota_applied
      ((transaction_commitsExactly exactly).1 (withoutAudit_applied_iff.mp ha))
  | grant expected next ledger audit =>
    have exactly := grantQuotaBody_commits expected next ledger audit db
    exact grantQuota_applied ((transaction_commitsExactly exactly).1 ha)
  | release expected next reservation nextReservation =>
    obtain ⟨valid, he⟩ := (checkedFinish_cases _ _ _ _ _ db _ rfl).1 ha
    have releases := validReleaseTransition_iff.mp valid
    exact ⟨
      releases,
      finishReservation_applied releases.step.identity releases.finishes he
    ⟩
  | fail expected next reservation nextReservation ledger =>
    obtain ⟨valid, he⟩ := (checkedFinish_cases _ _ _ _ _ db _ rfl).1 ha
    have fails := validFailedRequestTransition_iff.mp valid
    exact ⟨
      fails,
      finishReservation_applied fails.step.identity fails.finishes he
    ⟩
  | settle expected next reservation nextReservation ledger =>
    obtain ⟨valid, he⟩ := (checkedFinish_cases _ _ _ _ _ db _ rfl).1 ha
    have hs := validSettlementTransition_iff.mp valid
    exact ⟨
      hs,
      finishReservation_applied hs.step.identity hs.finishes he
    ⟩
  | administration => exact rfl

end AsterTeam
