import AsterTeam.Library.HashChain
import AsterTeam.TokenQuota.Operations

/-! Token accounts are conserved: the counters of a balance are the sums over its ledger
and its active reservations, and its ledger is one chain.
-/

namespace AsterTeam

open List

open HashChain Relational

-- Conserved accounts

variable (db : Database) (identityId : String)

def Database.usageOf : List QuotaLedgerEntry :=
  (db.ledgerOf identityId).filter (fun entry => entry.kind = "usage")

/-- The counters of a balance agree with its ledger and its active reservations. -/
structure Conserved (db : Database) (balance : UserBalanceRecord) : Prop where
  balanced
    : balance.balanceTokens.toInt = balance.grantedTokens.toInt - balance.consumedTokens.toInt
  reserved
    : balance.reservedTokens.toInt
      = ((db.activeReservations balance.identityId).map
          (fun reservation => reservation.reservedTokens.toInt)).sum
  reservedNonneg : 0 ≤ balance.reservedTokens.toInt
  reservedCovered : balance.reservedTokens.toInt ≤ balance.balanceTokens.toInt
  ledgerTotal
    : ((db.ledgerOf balance.identityId).map (fun entry => entry.amountTokens.toInt)).sum
      = balance.balanceTokens.toInt
  consumed
    : balance.consumedTokens.toInt
      = ((db.usageOf balance.identityId).map (fun entry => -entry.amountTokens.toInt)).sum
  raw
    : balance.rawTokens.toInt
      = ((db.usageOf balance.identityId).map (fun entry => entry.rawTokens.toInt)).sum
  billed
    : balance.billedTokens.toInt
      = ((db.usageOf balance.identityId).map (fun entry => entry.billedTokens.toInt)).sum
  uncachedInput
    : balance.uncachedInput.toInt
      = ((db.usageOf balance.identityId).map (fun entry => entry.uncachedInput.toInt)).sum
  cachedInput
    : balance.cachedInput.toInt
      = ((db.usageOf balance.identityId).map (fun entry => entry.cachedInput.toInt)).sum
  cacheWrite
    : balance.cacheWrite.toInt
      = ((db.usageOf balance.identityId).map (fun entry => entry.cacheWrite.toInt)).sum
  outputTokens
    : balance.outputTokens.toInt
      = ((db.usageOf balance.identityId).map (fun entry => entry.outputTokens.toInt)).sum
  requestCount : balance.requestCount.toInt = (db.usageOf balance.identityId).length
  chained
    : Chain QuotaLedgerEntry.previousEntryHmac QuotaLedgerEntry.integrityHmac ""
        (db.ledgerOf balance.identityId) balance.lastLedgerHmac

-- The invariant

def Database.ledgerEffect (counter : Counter) : Int :=
  (db.ledger.rows.map (fun entry =>
    if entry.identityId = identityId then entry.effect counter else 0)).sum

def Database.heldEffect (counter : Counter) : Int :=
  (db.reservations.rows.map (fun reservation =>
    if reservation.identityId = identityId && reservation.status = .active then
      reservation.hold counter
    else 0)).sum

/-- The invariant of one account: every counter is the sum of all effects on it. -/
structure SoundAccount (db : Database) (balance : UserBalanceRecord) : Prop where
  shape : WellShaped balance
  totals
    : ∀ counter,
        balance.totals counter
        = db.ledgerEffect balance.identityId counter + db.heldEffect balance.identityId counter
  chained
    : Chain QuotaLedgerEntry.previousEntryHmac QuotaLedgerEntry.integrityHmac ""
        (db.ledgerOf balance.identityId) balance.lastLedgerHmac

/-- The invariant of the token tables: sound accounts, and no row without an account. -/
structure Sound (db : Database) : Prop where
  accounts : ∀ balance ∈ db.balances.rows, SoundAccount db balance
  entriesOwned
    : ∀ entry ∈ db.ledger.rows, ∃ balance ∈ db.balances.rows, balance.identityId = entry.identityId
  reservationsOwned
    : ∀ reservation ∈ db.reservations.rows, ∃ balance ∈ db.balances.rows,
        balance.identityId = reservation.identityId
  reservationsPositive
    : ∀ reservation ∈ db.reservations.rows, 0 < reservation.reservedTokens.toInt
  entriesBalanced
    : ∀ entry ∈ db.ledger.rows,
        entry.effect .granted = entry.effect .balance + entry.effect .consumed

theorem sum_map_filter {Row : Type} (rows : List Row) (selected : Row → Bool) (value : Row → Int)
    : ((rows.filter selected).map value).sum
      = (rows.map (fun row => if selected row then value row else 0)).sum := by
  induction rows with
  | nil => rfl
  | cons row rest ih =>
    rw [filter_cons, map_cons, sum_cons, ← ih]
    split
    · rw [map_cons, sum_cons]
    · rw [zero_add]

theorem sum_ledgerOf (db : Database) (identityId : String) (counter : Counter)
    : ((db.ledgerOf identityId).map (fun entry => entry.effect counter)).sum
      = db.ledgerEffect identityId counter := by
  simp only [Database.ledgerOf, Table.selectAll, sum_map_filter, decide_eq_true_eq]
  rfl

/-- A counter that only usage entries contribute to is their sum. -/
theorem sum_usageOf (db : Database) (identityId : String) (counter : Counter)
    (hm : ∀ entry : QuotaLedgerEntry, entry.effect counter = entry.whenKind "usage" (value entry))
    : ((db.usageOf identityId).map value).sum = db.ledgerEffect identityId counter := by
  rw [← sum_ledgerOf, Database.usageOf, sum_map_filter]
  simp only [hm, QuotaLedgerEntry.whenKind, decide_eq_true_eq]

theorem heldEffect_reserved (db : Database) (identityId : String)
    : db.heldEffect identityId .reserved
      = ((db.activeReservations identityId).map
          (fun reservation => reservation.reservedTokens.toInt)).sum := by
  rw [Database.activeReservations, sum_map_filter]
  rfl

theorem heldEffect_other (db : Database) (identityId : String) (other : counter ≠ .reserved)
    : db.heldEffect identityId counter = 0 := by
  have none (reservation : QuotaReservationRecord) : reservation.hold counter = 0 := by
    cases counter <;> first | rfl | contradiction
  simp only [Database.heldEffect, none, ite_self, map_const', sum_replicate, smul_zero]

theorem Sound.conserved {db : Database} (sound : Sound db) (hs : balance ∈ db.balances.rows)
    : Conserved db balance := by
  obtain ⟨shape, totals, chained⟩ := sound.accounts balance hs
  have ledger (counter) (other : counter ≠ .reserved)
      : balance.totals counter = db.ledgerEffect balance.identityId counter := by
    rw [totals counter, heldEffect_other db _ other, add_zero]
  have usage (counter) (other : counter ≠ .reserved) {value : QuotaLedgerEntry → Int}
      (metered
        : ∀ entry : QuotaLedgerEntry, entry.effect counter = entry.whenKind "usage" (value entry))
      : balance.totals counter = ((db.usageOf balance.identityId).map value).sum := by
    rw [ledger counter other, sum_usageOf db _ counter metered]
  have hr
      : balance.totals .reserved = db.heldEffect balance.identityId .reserved := by
    have hn : db.ledgerEffect balance.identityId .reserved = 0 := by
      simp [Database.ledgerEffect, QuotaLedgerEntry.effect]
    rw [totals .reserved, hn, zero_add]
  have hg
      : db.ledgerEffect balance.identityId .granted
        = db.ledgerEffect balance.identityId .balance
          + db.ledgerEffect balance.identityId .consumed := by
    simp only [← sum_ledgerOf]
    rw [← sum_map_add]
    apply congrArg List.sum
    apply map_congr_left
    intro entry hm
    exact sound.entriesBalanced entry (Table.mem_selectAll.mp hm).1
  have hc : balance.totals .requests = (db.usageOf balance.identityId).length := by
    rw [usage .requests (by simp) (fun _ => rfl)]
    simp
  exact {
    balanced := by
      rw [← ledger .balance (by simp), ← ledger .granted (by simp),
        ← ledger .consumed (by simp)] at hg
      exact eq_sub_of_add_eq hg.symm
    reserved := hr.trans (heldEffect_reserved db _)
    reservedNonneg := shape.nonneg .reserved
    reservedCovered := shape.covered
    ledgerTotal := (sum_ledgerOf db _ .balance).trans (ledger .balance (by simp)).symm
    consumed := usage .consumed (by simp) fun _ => rfl
    raw := usage .raw (by simp) fun _ => rfl
    billed := usage .billed (by simp) fun _ => rfl
    uncachedInput := usage .uncachedInput (by simp) fun _ => rfl
    cachedInput := usage .cachedInput (by simp) fun _ => rfl
    cacheWrite := usage .cacheWrite (by simp) fun _ => rfl
    outputTokens := usage .output (by simp) fun _ => rfl
    requestCount := hc
    chained
  }

-- Steps

/-- A change of one account: its balance, at most one new entry and what its active
reservations hold. Every other account keeps its rows.
-/
structure AccountChange (db after : Database) (expected next : UserBalanceRecord)
    (entry : Option QuotaLedgerEntry) (held : Counter → Int)
    : Prop where
  step
    : BalanceStep expected next
        (fun counter => entry.elim 0 (fun added => added.effect counter) + held counter)
  balances : db.balances.Replaces after.balances expected next
  ledger : after.ledger.rows = db.ledger.rows ++ entry.toList
  held
    : ∀ identityId counter,
        after.heldEffect identityId counter
        = db.heldEffect identityId counter
          + if identityId = expected.identityId then held counter else 0
  last : next.lastLedgerHmac = entry.elim expected.lastLedgerHmac (·.integrityHmac)
  appended
    : ∀ added ∈ entry,
        added.identityId = expected.identityId
        ∧ added.previousEntryHmac = expected.lastLedgerHmac
        ∧ added.effect .granted = added.effect .balance + added.effect .consumed
  reservations
    : ∀ row ∈ after.reservations.rows,
        (∃ old ∈ db.reservations.rows,
          old.identityId = row.identityId ∧ old.reservedTokens = row.reservedTokens)
        ∨ (row.identityId = expected.identityId ∧ 0 < row.reservedTokens.toInt)

namespace AccountChange

variable {db after : Database} {expected next : UserBalanceRecord}
  {entry : Option QuotaLedgerEntry} {held : Counter → Int}

variable (change : AccountChange db after expected next entry held)

include change

theorem ledgerEffect_eq (identityId : String) (counter : Counter)
    : after.ledgerEffect identityId counter
      = db.ledgerEffect identityId counter
        + if identityId = expected.identityId then
            entry.elim 0 (fun appended => appended.effect counter)
          else 0 := by
  rw [Database.ledgerEffect, change.ledger, map_append, sum_append, ← Database.ledgerEffect]
  cases entry with
  | none => simp
  | some appended =>
    have owner := (change.appended appended rfl).1
    simp [owner, eq_comm]

theorem ledgerOf_eq (identityId : String)
    : after.ledgerOf identityId
      = db.ledgerOf identityId
        ++ if identityId = expected.identityId then entry.toList else [] := by
  rw [Database.ledgerOf, Table.selectAll, change.ledger, filter_append]
  congr 1
  cases entry with
  | none => simp
  | some ha =>
    have owner := (change.appended ha rfl).1
    simp [filter_cons, owner, eq_comm]

/-- The changed account gets exactly the effects it writes down. -/
theorem soundAccount_next (sound : Sound db) : SoundAccount after next := by
  have old := sound.accounts expected change.balances.mem_before
  refine ⟨change.step.nextShape, ?_, ?_⟩
  · intro counter
    rw [change.step.identity, change.step.totals counter, old.totals counter,
      change.ledgerEffect_eq, change.held, if_pos rfl, if_pos rfl]
    ring
  · rw [change.step.identity, change.ledgerOf_eq, if_pos rfl, change.last]
    cases entry with
    | none =>
      rw [Option.toList_none, append_nil]
      exact old.chained
    | some ha =>
      rw [Option.toList_some, chain_append_singleton, (change.appended ha rfl).2.1]
      exact ⟨old.chained, rfl⟩

/-- An account that is not the changed one is as sound as before. -/
theorem soundAccount_other (sound : SoundAccount db balance)
    (other : balance.identityId ≠ expected.identityId)
    : SoundAccount after balance := by
  refine ⟨sound.shape, ?_, ?_⟩
  · intro counter
    rw [change.ledgerEffect_eq, change.held, if_neg other, if_neg other, add_zero, add_zero]
    exact sound.totals counter
  · rw [change.ledgerOf_eq, if_neg other, append_nil]
    exact sound.chained

/-- Replacing a balance keeps an account for every identity that had one. -/
theorem owned {identityId : String}
    (before : ∃ balance ∈ db.balances.rows, balance.identityId = identityId)
    : ∃ balance ∈ after.balances.rows, balance.identityId = identityId := by
  obtain ⟨balance, hs, owner⟩ := before
  by_cases he : balance = expected
  · refine ⟨next, change.balances.mem_iff.mpr (.inl rfl), ?_⟩
    rw [change.step.identity, ← he, owner]
  · exact ⟨balance, change.balances.mem_iff.mpr (.inr ⟨hs, he⟩), owner⟩

theorem sound (sound : Sound db) : Sound after := by
  have he := change.balances.mem_before
  have hex := change.owned ⟨expected, he, rfl⟩
  refine ⟨?_, ?_, ?_, ?_, ?_⟩
  · intro balance hs
    rcases change.balances.mem_iff.mp hs with rfl | ⟨kept, notExpected⟩
    · exact change.soundAccount_next sound
    · refine change.soundAccount_other (sound.accounts balance kept) ?_
      intro same
      exact notExpected (Table.eq_of_conflicts kept he same)
  · intro ha hm
    rw [change.ledger, mem_append, Option.mem_toList] at hm
    rcases hm with old | new
    · exact change.owned (sound.entriesOwned ha old)
    · rw [(change.appended ha new).1]
      exact hex
  · intro row hm
    rcases change.reservations row hm with ⟨old, hs, owner, _⟩ | ⟨owner, _⟩
    · exact owner ▸ change.owned (sound.reservationsOwned old hs)
    · exact owner ▸ hex
  · intro row hm
    rcases change.reservations row hm with ⟨old, hs, _, tokens⟩ | ⟨_, hp⟩
    · exact tokens ▸ sound.reservationsPositive old hs
    · exact hp
  · intro ha hm
    rw [change.ledger, mem_append, Option.mem_toList] at hm
    rcases hm with old | new
    · exact sound.entriesBalanced ha old
    · exact (change.appended ha new).2.2

end AccountChange

end AsterTeam
