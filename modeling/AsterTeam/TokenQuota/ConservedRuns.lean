import AsterTeam.TokenQuota.Conservation

/-! Every run of storage operations conserves the token accounts, as long as no settlement
charges one account for a reservation of another.
-/

namespace AsterTeam

open List

open HashChain Relational

-- Applied operations

variable {db after : Database} {expected next : UserBalanceRecord}
  {reservation : QuotaReservationRecord}

/-- A new active reservation adds to what its owner's account holds. -/
theorem ReserveApplied.accountChange (ha : ReserveApplied expected next reservation db after)
    : AccountChange db after expected next none reservation.hold where
  step := by simpa using ha.reserves.step
  balances := ha.balances
  ledger := by
    have same : after.ledger = db.ledger := by rw [ha.others]
    rw [same, Option.toList_none, append_nil]
  held identityId counter := by
    rw [Database.heldEffect, ha.reservations, map_append, sum_append, ← Database.heldEffect]
    by_cases owner : identityId = expected.identityId
    · simp [ha.reserves.owner, ha.reserves.active, owner]
    · simp [ha.reserves.owner, owner, Ne.symm owner]
  last := ha.reserves.last
  appended _ isEntry := absurd isEntry (Option.not_mem_none _)
  reservations row member := by
    rw [ha.reservations, mem_append, mem_singleton] at member
    rcases member with old | rfl
    · exact .inl ⟨row, old, rfl, rfl⟩
    · exact .inr ⟨ha.reserves.owner, ha.reserves.positive⟩

theorem heldEffect_of_reservations (same : after.reservations = db.reservations)
    (identityId : String) (counter : Counter)
    : after.heldEffect identityId counter = db.heldEffect identityId counter := by
  rw [Database.heldEffect, same, ← Database.heldEffect]

variable {entry : QuotaLedgerEntry}

theorem GrantApplied.accountChange (ha : GrantApplied expected next entry db after)
    : AccountChange db after expected next (some entry) (fun _ => 0) where
  step := by simpa using ha.grants.step
  balances := ha.balances
  ledger := ha.ledger
  held identityId counter := by
    have same : after.reservations = db.reservations := by rw [ha.others]
    rw [heldEffect_of_reservations same, ite_self, add_zero]
  last := ha.grants.appends.last
  appended added isEntry := by
    cases isEntry
    refine ⟨ha.grants.appends.owner, ha.grants.appends.previous, ?_⟩
    simp [effect_of_grant ha.grants.kind]
  reservations row member := by
    have same : after.reservations = db.reservations := by rw [ha.others]
    exact .inl ⟨row, same ▸ member, rfl, rfl⟩

variable {nextReservation : QuotaReservationRecord} {status : ReservationStatus}

/-- A finished reservation gives back what it held to its owner's account. -/
theorem FinishApplied.heldEffect_eq {entry : Option QuotaLedgerEntry}
    (ha : FinishApplied expected next reservation nextReservation entry db after)
    (hf : Finishes reservation nextReservation status) (he : status ≠ .active)
    (identityId : String) (counter : Counter)
    : after.heldEffect identityId counter
      = db.heldEffect identityId counter
        + if identityId = reservation.identityId then -reservation.hold counter else 0 := by
  have hi : nextReservation.status ≠ .active := hf.finished ▸ he
  rw [Database.heldEffect, ha.reservations.sum_map, ← Database.heldEffect]
  simp only [hf.active, hi, decide_true, decide_false, Bool.and_true,
    Bool.and_false, Bool.false_eq_true, if_false, decide_eq_true_eq, add_zero]
  by_cases owner : identityId = reservation.identityId
  · rw [if_pos owner.symm, if_pos owner, sub_eq_add_neg]
  · rw [if_neg (Ne.symm owner), if_neg owner, sub_zero, add_zero]

/-- Finishing a reservation of the account whose balance is changed. -/
theorem FinishApplied.accountChange {entry : Option QuotaLedgerEntry}
    (hap : FinishApplied expected next reservation nextReservation entry db after)
    (hf : Finishes reservation nextReservation status) (he : status ≠ .active)
    (owner : reservation.identityId = expected.identityId)
    (step : BalanceStep expected next
          (fun counter =>
            entry.elim 0 (fun added => added.effect counter) + -reservation.hold counter))
    (last : next.lastLedgerHmac = entry.elim expected.lastLedgerHmac (·.integrityHmac))
    (ha : ∀ added ∈ entry,
          added.identityId = expected.identityId
          ∧ added.previousEntryHmac = expected.lastLedgerHmac
          ∧ added.effect .granted = added.effect .balance + added.effect .consumed)
    : AccountChange db after expected next entry (fun counter => -reservation.hold counter) where
  step := step
  balances := hap.balances
  ledger := hap.ledger
  held identityId counter := owner ▸ hap.heldEffect_eq hf he identityId counter
  last := last
  appended := ha
  reservations row member := by
    rcases hap.reservations.mem_iff.mp member with rfl | ⟨old, _⟩
    · rw [hf.kept]
      exact .inl ⟨reservation, hap.storedReservation, rfl, rfl⟩
    · exact .inl ⟨row, old, rfl, rfl⟩

theorem Fails.effect_eq_zero (fails : Fails expected next reservation nextReservation entry)
    (counter : Counter)
    : entry.effect counter = 0 := by
  cases counter <;>
    simp [QuotaLedgerEntry.effect, QuotaLedgerEntry.whenKind, fails.kind, fails.amount]

theorem OpenApplied.sound (ha : OpenApplied balance db after) (sound : Sound db) : Sound after := by
  have grown {identityId : String}
      (before : ∃ stored ∈ db.balances.rows, stored.identityId = identityId)
      : ∃ stored ∈ after.balances.rows, stored.identityId = identityId := by
    obtain ⟨stored, hm, owner⟩ := before
    exact ⟨stored, ha.balances ▸ mem_append_left _ hm, owner⟩
  have noEntry (entry) (hm : entry ∈ db.ledger.rows)
      : entry.identityId ≠ balance.identityId := by
    obtain ⟨stored, storedMember, owner⟩ := sound.entriesOwned entry hm
    exact owner ▸ ha.fresh stored storedMember
  have hn (row) (hm : row ∈ db.reservations.rows)
      : row.identityId ≠ balance.identityId := by
    obtain ⟨stored, storedMember, owner⟩ := sound.reservationsOwned row hm
    exact owner ▸ ha.fresh stored storedMember
  rw [ha.others] at grown ⊢
  refine ⟨?_, fun entry hm => grown (sound.entriesOwned entry hm),
    fun row hm => grown (sound.reservationsOwned row hm),
    sound.reservationsPositive, sound.entriesBalanced⟩
  intro stored hm
  rw [ha.balances, mem_append, mem_singleton] at hm
  rcases hm with old | rfl
  · have account := sound.accounts stored old
    exact ⟨account.shape, account.totals, account.chained⟩
  · refine ⟨ha.shape, ?_, ?_⟩
    · intro counter
      have hno : db.ledgerEffect stored.identityId counter = 0 := by
        apply sum_eq_zero
        intro value hv
        obtain ⟨entry, hm, rfl⟩ := mem_map.mp hv
        exact if_neg (noEntry entry hm)
      have noHold : db.heldEffect stored.identityId counter = 0 := by
        apply sum_eq_zero
        intro value hv
        obtain ⟨row, hm, rfl⟩ := mem_map.mp hv
        simp [hn row hm]
      change stored.totals counter
        = db.ledgerEffect stored.identityId counter + db.heldEffect stored.identityId counter
      rw [ha.zero counter, hno, noHold, add_zero]
    · have empty : db.ledgerOf stored.identityId = [] := by
        apply filter_eq_nil_iff.mpr
        intro entry hm
        simpa using noEntry entry hm
      change Chain _ _ "" (db.ledgerOf stored.identityId) _
      rw [empty]
      exact ha.first.symm

/-- The operation settles a reservation of the account it charges, if it settles one. -/
def QuotaOperation.OwnerMatches : QuotaOperation → Prop
  | .settle expectedBalance _ expectedReservation _ _ =>
    expectedReservation.identityId = expectedBalance.identityId
  | _ => True

variable {operation : QuotaOperation}

/-- An applied operation keeps the invariant, if it does not settle a reservation of
another account.
-/
theorem QuotaOperation.Effect.sound (effect : operation.Effect db after)
    (hm : operation.OwnerMatches) (sound : Sound db)
    : Sound after := by
  cases operation with
  | openAccount => exact OpenApplied.sound effect sound
  | reserve => exact (ReserveApplied.accountChange effect).sound sound
  | grant => exact (GrantApplied.accountChange effect).sound sound
  | release =>
    obtain ⟨hr, ha⟩ := effect
    refine (ha.accountChange hr.finishes nofun hr.owner ?_
      hr.last fun _ he => absurd he (Option.not_mem_none _)).sound sound
    simpa using hr.step
  | fail =>
    obtain ⟨fails, ha⟩ := effect
    refine (ha.accountChange fails.finishes nofun fails.owner ?_ fails.appends.last ?_).sound sound
    · simpa [fails.effect_eq_zero] using fails.step
    · rintro _ ⟨⟩
      refine ⟨fails.appends.owner, fails.appends.previous, ?_⟩
      simp [fails.effect_eq_zero]
  | settle =>
    obtain ⟨hs, ha⟩ := effect
    refine (ha.accountChange hs.finishes nofun hm ?_ hs.appends.last ?_).sound sound
    · simpa [sub_eq_add_neg] using hs.step
    · rintro _ ⟨⟩
      refine ⟨hs.appends.owner, hs.appends.previous, ?_⟩
      simp [QuotaLedgerEntry.effect, QuotaLedgerEntry.whenKind, hs.kind]
  | administration =>
    rw [show after = _ from effect]
    exact ⟨
      fun balance hst =>
        let account := sound.accounts balance hst
        ⟨account.shape, account.totals, account.chained⟩,
      sound.entriesOwned, sound.reservationsOwned, sound.reservationsPositive,
      sound.entriesBalanced
    ⟩

/-- Settling a reservation of another account takes its tokens out of the reserved
counter of an account that never held them.
-/
theorem QuotaOperation.Effect.not_conserved (effect : operation.Effect db after)
    (hm : ¬ operation.OwnerMatches) (sound : Sound db)
    : ∃ balance ∈ after.balances.rows, ¬ Conserved after balance := by
  cases operation with
  | settle expected next reservation nextReservation entry =>
    obtain ⟨hs, ha⟩ := effect
    refine ⟨next, ha.balances.mem_iff.mpr (.inl rfl), fun hc => ?_⟩
    have account := sound.conserved ha.stored
    have before := account.reserved
    have held := ha.heldEffect_eq hs.finishes nofun expected.identityId .reserved
    have hd := hs.step.totals .reserved
    have hp := sound.reservationsPositive reservation ha.storedReservation
    have hr := hc.reserved
    rw [hs.step.identity, ← heldEffect_reserved, held,
      if_neg (Ne.symm hm), add_zero, heldEffect_reserved, ← before] at hr
    change next.reservedTokens.toInt
      = expected.reservedTokens.toInt + (0 - reservation.reservedTokens.toInt) at hd
    omega
  | _ => exact absurd trivial hm

-- Runs

def AllConserved (db : Database) : Prop :=
  ∀ balance ∈ db.balances.rows, Conserved db balance

theorem sound_empty : Sound .empty :=
  ⟨
    fun _ hs => absurd hs not_mem_nil,
    fun _ hs => absurd hs not_mem_nil,
    fun _ hs => absurd hs not_mem_nil,
    fun _ hs => absurd hs not_mem_nil,
    fun _ hs => absurd hs not_mem_nil
  ⟩

/-- An operation that is refused or settles within one account keeps the invariant. -/
theorem QuotaOperation.execute_sound (sound : Sound db)
    (hm : (operation.execute db).1 = .applied → operation.OwnerMatches)
    : Sound (operation.execute db).2 := by
  by_cases ha : (operation.execute db).1 = .applied
  · exact (operation.execute_applied ha).sound (hm ha) sound
  · rw [operation.execute_refused ha]
    exact sound

/-- Along a run from a sound database, all states are conserved exactly when no applied
settlement crosses accounts. Witness: induction on the run; the first crossing settlement
breaks conservation at once.
-/
theorem run_conserved_iff (operations : List QuotaOperation) (sound : Sound db)
    : (∀ before after, operations = before ++ after
        → AllConserved (runOperations db before))
      ↔ ∀ before operation after, operations = before ++ operation :: after
        → (operation.execute (runOperations db before)).1 = .applied
        → operation.OwnerMatches := by
  induction operations generalizing db with
  | nil =>
    constructor
    · intro _ before operation after split
      exact absurd split (by simp)
    · intro _ before after split
      obtain ⟨rfl, rfl⟩ := append_eq_nil_iff.mp split.symm
      exact fun balance hs => sound.conserved hs
  | cons first rest ih =>
    by_cases hma : (first.execute db).1 = .applied → first.OwnerMatches
    · have tail := ih (QuotaOperation.execute_sound sound hma)
      constructor
      · intro hc before operation after split ha
        cases before with
        | nil =>
          cases split
          exact hma ha
        | cons head more =>
          cases split
          refine tail.mp ?_ more operation after rfl ha
          intro start finish same
          exact hc (first :: start) finish (by rw [same, cons_append])
      · intro crossing before after split
        cases before with
        | nil => exact fun balance hs => sound.conserved hs
        | cons head more =>
          cases split
          refine tail.mpr ?_ more after rfl
          intro start operation finish same
          exact crossing (first :: start) operation finish (by rw [same, cons_append])
    · obtain ⟨ha, hm⟩ := Classical.not_imp.mp hma
      constructor
      · intro hc
        obtain ⟨balance, hs, broken⟩ :=
          (first.execute_applied ha).not_conserved hm sound
        exact absurd (hc [first] rest rfl balance hs) broken
      · intro crossing
        exact absurd (crossing [] first rest rfl ha) hm

/-- In every run of storage operations from an empty database, every account is conserved
in every state exactly when each applied settlement names a reservation of the account it
charges; and whatever the arguments, an operation that is not applied leaves the token
tables as they were.
-/
theorem quota_runs_conserve_accounts (operations : List QuotaOperation)
    : ((∀ before after, operations = before ++ after
          → AllConserved (runOperations .empty before))
        ↔ ∀ before operation after, operations = before ++ operation :: after
          → (operation.execute (runOperations .empty before)).1 = .applied
          → operation.OwnerMatches)
      ∧ ∀ before operation after, operations = before ++ operation :: after
        → (operation.execute (runOperations .empty before)).1 ≠ .applied
        → runOperations .empty (before ++ [operation]) = runOperations .empty before := by
  refine ⟨run_conserved_iff operations sound_empty, ?_⟩
  intro before operation after _ hr
  rw [runOperations, foldl_append]
  exact operation.execute_refused hr

-- A settlement that crosses accounts

variable (id : String)

def sampleIdentity : IdentityRecord :=
  { id, email := id ++ "@example", displayName := id, passwordHash := "hash"
    role := .member, status := .active, canConsumeModel := true
    passwordChangeRequired := false, revision := 0, integrityHmac := "i"
    createdAt := "t0", updatedAt := "t0" }

def sampleKey : ApiKeyRecord :=
  { id := "key-" ++ id, identityId := id, name := "key", keyHash := "hash-" ++ id
    keyPrefix := "sk", status := .active, revision := 0, integrityHmac := "k"
    createdAt := "t0", lastUsedAt := none }

def zeroBalance : UserBalanceRecord :=
  { identityId := id, balanceTokens := 0, reservedTokens := 0, grantedTokens := 0
    consumedTokens := 0, requestCount := 0, rawTokens := 0, billedTokens := 0
    uncachedInput := 0, cachedInput := 0, cacheWrite := 0, outputTokens := 0
    revision := 0, lastLedgerHmac := "", integrityHmac := "b0", updatedAt := "t0" }

def grantedBalance : UserBalanceRecord :=
  { zeroBalance id with
    balanceTokens := 10, grantedTokens := 10, revision := 1
    lastLedgerHmac := "grant-" ++ id, integrityHmac := "b1" }

def reservedBalance : UserBalanceRecord :=
  { grantedBalance id with reservedTokens := 5, revision := 2, integrityHmac := "b2" }

def grantEntry : QuotaLedgerEntry :=
  { id := "ledger-" ++ id, identityId := id, kind := "grant", amountTokens := 10
    uncachedInput := 0, cachedInput := 0, cacheWrite := 0, outputTokens := 0
    uncoveredTokens := 0, rawTokens := 0, billedTokens := 0, multiplierMicros := 1000000
    referenceId := "grant", clientRequestId := none, description := "grant"
    protocol := "", model := "", requestedModel := none, processingTier := none
    reasoningEffort := none, apiKeyId := none, runnerId := none, previousEntryHmac := ""
    integrityHmac := "grant-" ++ id, createdAt := "t1" }

def activeReservation : QuotaReservationRecord :=
  { id := "reservation-" ++ id, identityId := id, apiKeyId := "key-" ++ id
    requestId := "request-" ++ id, reservedTokens := 5, status := .active, revision := 0
    integrityHmac := "r0", createdAt := "t2", expiresAt := "t9", settledAt := none }

/-- A usage entry of one member for the request of the other. -/
def crossingEntry : QuotaLedgerEntry :=
  { grantEntry "member-a" with
    id := "ledger-usage", kind := "usage", amountTokens := -3, uncachedInput := 3
    rawTokens := 3, billedTokens := 3, referenceId := "request-member-b"
    apiKeyId := some "key-member-b", runnerId := some "runner"
    previousEntryHmac := "grant-member-a", integrityHmac := "usage" }

def sampleTables : QuotaOperation :=
  .administration ⟨[sampleIdentity "member-a", sampleIdentity "member-b"], by decide +kernel⟩
    ⟨[sampleKey "member-a", sampleKey "member-b"], by decide +kernel⟩ .empty .empty .empty

def reserving : List QuotaOperation :=
  [.openAccount (sampleIdentity id) (zeroBalance id),
   .grant (zeroBalance id) (grantedBalance id) (grantEntry id) none,
   .reserve ⟨sampleKey id, sampleIdentity id⟩ (grantedBalance id) (reservedBalance id)
     (activeReservation id)]

def crossingSettlement : QuotaOperation :=
  .settle (reservedBalance "member-a")
    { reservedBalance "member-a" with
      balanceTokens := 7, reservedTokens := 0, consumedTokens := 3, requestCount := 1
      rawTokens := 3, billedTokens := 3, uncachedInput := 3, revision := 3
      lastLedgerHmac := "usage", integrityHmac := "b3" }
    (activeReservation "member-b")
    { activeReservation "member-b" with
      status := .settled, revision := 1, integrityHmac := "r1", settledAt := some "t3" }
    crossingEntry

def crossingRun : List QuotaOperation :=
  sampleTables :: reserving "member-a" ++ reserving "member-b" ++ [crossingSettlement]

/-- Storage applies every operation of the run, and afterwards an account has nothing
reserved while its reservation is still active.
-/
theorem crossing_settlement_not_conserved
    : AllApplied .empty crossingRun ∧ ¬ AllConserved (runOperations .empty crossingRun) := by
  refine ⟨by decide +kernel, fun hc => ?_⟩
  have broken
      : ∃ balance ∈ (runOperations .empty crossingRun).balances.rows,
          balance.reservedTokens.toInt
          ≠ (((runOperations .empty crossingRun).activeReservations
              balance.identityId).map
                (fun reservation => reservation.reservedTokens.toInt)).sum := by
    decide +kernel
  obtain ⟨balance, hs, hd⟩ := broken
  exact hd (hc balance hs).reserved

end AsterTeam
