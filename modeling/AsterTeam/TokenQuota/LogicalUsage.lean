import AsterTeam.Library.AssocList
import AsterTeam.TokenQuota.AccountIntegrity
import AsterTeam.TokenQuota.ConservedRuns

/-! The usage log shows one row for each client request: the attempts of a request are ledger
entries of their own, which are grouped and added up.
-/

namespace AsterTeam

open AssocList MachineInteger Relational
open List hiding lookup

structure LogicalUsageEntry where
  ledger : QuotaLedgerEntry
  attemptCount : Nat

def usageTotals : List (QuotaLedgerEntry → Int64) :=
  [(·.amountTokens), (·.uncachedInput), (·.cachedInput), (·.cacheWrite), (·.outputTokens),
    (·.uncoveredTokens), (·.rawTokens), (·.billedTokens)]

def addTotals (left right : QuotaLedgerEntry) : Option QuotaLedgerEntry := do
  let amountTokens ← checkedAdd left.amountTokens right.amountTokens
  let uncachedInput ← checkedAdd left.uncachedInput right.uncachedInput
  let cachedInput ← checkedAdd left.cachedInput right.cachedInput
  let cacheWrite ← checkedAdd left.cacheWrite right.cacheWrite
  let outputTokens ← checkedAdd left.outputTokens right.outputTokens
  let uncoveredTokens ← checkedAdd left.uncoveredTokens right.uncoveredTokens
  let rawTokens ← checkedAdd left.rawTokens right.rawTokens
  let billedTokens ← checkedAdd left.billedTokens right.billedTokens
  pure
    { left with
      amountTokens, uncachedInput, cachedInput, cacheWrite, outputTokens, uncoveredTokens,
      rawTokens, billedTokens }

/-- The identity, the API key and the client request id or the entry's own reference. -/
def logicalKey (entry : QuotaLedgerEntry) : String × String × String :=
  (entry.identityId, entry.apiKeyId.getD "",
    entry.clientRequestId.getD ("aster:" ++ entry.referenceId))

def LogicalUsageEntry.absorb (existing : LogicalUsageEntry) (entry : QuotaLedgerEntry)
    : Except ControlError LogicalUsageEntry :=
  let attemptCount := existing.attemptCount + 1
  if 2 ^ 32 ≤ attemptCount then .error .dataIntegrityInvalid
  else if existing.ledger.kind = "usage_failed" ∧ entry.kind = "usage" then
    .ok ⟨entry, attemptCount⟩
  else if existing.ledger.kind = "usage_failed" ∧ entry.kind = "usage_failed"
      ∧ existing.ledger.createdAt < entry.createdAt then
    .ok ⟨entry, attemptCount⟩
  else if existing.ledger.kind = "usage" ∧ entry.kind = "usage" then do
    let sum ← okOr .dataIntegrityInvalid (addTotals existing.ledger entry)
    if existing.ledger.createdAt < entry.createdAt then
      let ledger :=
        { sum with id := entry.id, runnerId := entry.runnerId, createdAt := entry.createdAt }
      .ok ⟨ledger, attemptCount⟩
    else .ok ⟨sum, attemptCount⟩
  else .ok ⟨existing.ledger, attemptCount⟩

abbrev LogicalMap := List ((String × String × String) × LogicalUsageEntry)

def logicalStep (logical : LogicalMap) (entry : QuotaLedgerEntry)
    : Except ControlError LogicalMap :=
  match lookup (logicalKey entry) logical with
  | none => .ok (upsert (logicalKey entry) ⟨entry, 1⟩ logical)
  | some existing => do
    let next ← existing.absorb entry
    .ok (upsert (logicalKey entry) next logical)

/-- The rows by their keys. The source returns them in the order of a hash map. -/
def logicalUsageEntries (entries : List QuotaLedgerEntry) : Except ControlError LogicalMap :=
  entries.foldlM logicalStep []

-- What the rows say

def groupOf (key : String × String × String) (entries : List QuotaLedgerEntry)
    : List QuotaLedgerEntry :=
  entries.filter (logicalKey · = key)

def usageSum (total : QuotaLedgerEntry → Int64) (entries : List QuotaLedgerEntry) : Int :=
  ((entries.filter (·.kind = "usage")).map fun entry => (total entry).toInt).sum

def datesOf (kind : String) (entries : List QuotaLedgerEntry) : Set String :=
  {createdAt | ∃ entry ∈ entries, entry.kind = kind ∧ entry.createdAt = createdAt}

structure Summary (group : List QuotaLedgerEntry) (row : LogicalUsageEntry) : Prop where
  key : ∀ entry ∈ group, logicalKey entry = logicalKey row.ledger
  attempts : row.attemptCount = group.length
  kind
    : row.ledger.kind = if ∃ entry ∈ group, entry.kind = "usage" then "usage" else "usage_failed"
  totals : ∀ total ∈ usageTotals, (total row.ledger).toInt = usageSum total group
  latest : IsGreatest (datesOf row.ledger.kind group) row.ledger.createdAt

/-- One row for each key that occurs, with the attempts and the totals of all entries. -/
structure Grouped (entries : List QuotaLedgerEntry) (logical : LogicalMap) : Prop where
  distinct : (logical.map Prod.fst).Nodup
  covers : ∀ key, lookup key logical = none → groupOf key entries = []
  rows : ∀ key row, lookup key logical = some row → Summary (groupOf key entries) row
  attempts : (logical.map fun row => row.2.attemptCount).sum = entries.length
  totals
    : ∀ total ∈ usageTotals,
      (logical.map fun row => (total row.2.ledger).toInt).sum = usageSum total entries

structure AdmittedUsage (entry : QuotaLedgerEntry) : Prop where
  kind : entry.kind = "usage" ∨ entry.kind = "usage_failed"
  unmetered : entry.kind = "usage_failed" → ∀ total ∈ usageTotals, (total entry).toInt = 0
  client : entry.clientRequestId.all validGatewayRequestId = true
  apiKey : entry.apiKeyId.isSome = true

theorem admittedUsage_of_shape (shape : validSignedLedgerShape entry) (hk : entry.kind ≠ "grant")
    : AdmittedUsage entry := by
  have request (valid : validRequestShape entry = true)
      : entry.clientRequestId.all validGatewayRequestId = true ∧ entry.apiKeyId.isSome = true := by
    simp only [validRequestShape, Bool.and_eq_true] at valid
    refine ⟨valid.1.2, ?_⟩
    cases hf : entry.apiKeyId with
    | none => simp [hf] at valid
    | some key => rfl
  obtain ⟨_, ⟨kind, _⟩ | ⟨kind, shape⟩ | ⟨kind, shape⟩⟩ := validSignedLedgerShape_iff.mp shape
  · exact absurd kind hk
  · unfold validUsageShape at shape
    split at shape
    · cases shape
    · simp only [Bool.and_eq_true] at shape
      obtain ⟨client, apiKey⟩ := request shape.1.2
      exact ⟨.inl kind, fun hfa => absurd (kind.symm.trans hfa) (by decide), client, apiKey⟩
  · simp only [validFailedUsageShape, validUnmeteredShape, Bool.and_eq_true, beq_iff_eq] at shape
    obtain ⟨client, apiKey⟩ := request shape.1.2
    refine ⟨.inr kind, fun _ total ht => ?_, client, apiKey⟩
    simp only [usageTotals, mem_cons, not_mem_nil, or_false] at ht
    rcases ht with rfl | rfl | rfl | rfl | rfl | rfl | rfl | rfl <;> simp_all

section

variable {group : List QuotaLedgerEntry} {entry : QuotaLedgerEntry}

theorem addTotals_eq_some {left right sum : QuotaLedgerEntry} (ha : addTotals left right = some sum)
    : (∀ total ∈ usageTotals, (total sum).toInt = (total left).toInt + (total right).toInt)
      ∧ logicalKey sum = logicalKey left ∧ sum.kind = left.kind
      ∧ sum.createdAt = left.createdAt := by
  simp only [addTotals, Option.bind_eq_bind, Option.bind_eq_some_iff, checkedAdd_eq_some] at ha
  obtain ⟨_, h1, _, h2, _, h3, _, h4, _, h5, _, h6, _, h7, _, h8, hm⟩ := ha
  cases hm
  refine ⟨fun total ht => ?_, rfl, rfl, rfl⟩
  simp only [usageTotals, mem_cons, not_mem_nil, or_false] at ht
  rcases ht with rfl | rfl | rfl | rfl | rfl | rfl | rfl | rfl <;> assumption

theorem usageSum_append (total : QuotaLedgerEntry → Int64)
    : usageSum total (group ++ [entry])
      = usageSum total group + if entry.kind = "usage" then (total entry).toInt else 0 := by
  unfold usageSum
  split_ifs with hk <;> simp [filter_append, hk]

theorem datesOf_append
    : datesOf kind (group ++ [entry])
      = if entry.kind = kind then insert entry.createdAt (datesOf kind group)
        else datesOf kind group := by
  ext createdAt
  split_ifs with hk
  · simp [datesOf, hk, or_and_right, exists_or, or_comm, eq_comm]
  · simp [datesOf, hk, or_and_right, exists_or]

theorem latest_append (latest : IsGreatest (datesOf kind group) createdAt) (hk : entry.kind = kind)
    : IsGreatest (datesOf kind (group ++ [entry]))
        (if createdAt < entry.createdAt then entry.createdAt else createdAt) := by
  rw [datesOf_append, if_pos hk, ← max_def_lt, max_comm]
  exact latest.insert _

theorem Summary.first (ha : AdmittedUsage entry) : Summary [entry] ⟨entry, 1⟩ where
  key _ he := by rw [mem_singleton.mp he]
  attempts := rfl
  kind := by rcases ha.kind with hk | hk <;> simp [hk]
  totals total ht := by
    rcases ha.kind with hk | hk
    · simp [hk, usageSum]
    · rw [ha.unmetered hk total ht]
      simp [hk, usageSum]
  latest := by
    refine ⟨⟨entry, mem_cons_self, rfl, rfl⟩, ?_⟩
    rintro _ ⟨other, ho, _, rfl⟩
    rw [mem_singleton.mp ho]

variable {row next : LogicalUsageEntry}

theorem Summary.all_failed (summary : Summary group row) (hf : row.ledger.kind = "usage_failed")
    : ∀ entry ∈ group, entry.kind ≠ "usage" := by
  intro entry he hk
  rw [summary.kind, if_pos ⟨entry, he, hk⟩] at hf
  exact absurd hf (by decide)

theorem Summary.unmetered (summary : Summary group row) (hf : row.ledger.kind = "usage_failed")
    : ∀ total ∈ usageTotals, (total row.ledger).toInt = 0 := by
  intro total ht
  rw [summary.totals total ht, usageSum,
    filter_eq_nil_iff.mpr (by simpa using summary.all_failed hf)]
  rfl

/-- A group with one more entry, for a ledger that has taken the entry up. -/
theorem Summary.extend (summary : Summary group row) (ha : AdmittedUsage entry)
    (same : logicalKey entry = logicalKey row.ledger)
    (key : logicalKey ledger = logicalKey row.ledger)
    (kind : ledger.kind = if entry.kind = "usage" then "usage" else row.ledger.kind)
    (totals : ∀ total ∈ usageTotals,
        (total ledger).toInt
          = (total row.ledger).toInt + if entry.kind = "usage" then (total entry).toInt else 0)
    (latest : IsGreatest (datesOf ledger.kind (group ++ [entry])) ledger.createdAt)
    : Summary (group ++ [entry]) ⟨ledger, row.attemptCount + 1⟩ where
  key other ho := by
    rw [key]
    rcases mem_append.mp ho with ho | ho
    · exact summary.key other ho
    · rw [mem_singleton.mp ho, same]
  attempts := by rw [length_append, summary.attempts, length_singleton]
  kind := by
    rw [kind, summary.kind]
    rcases ha.kind with hk | hk <;> simp [hk, or_and_right, exists_or]
  totals total ht := by rw [totals total ht, usageSum_append, summary.totals total ht]
  latest := latest

theorem Summary.absorb (summary : Summary group row) (ha : AdmittedUsage entry)
    (same : logicalKey entry = logicalKey row.ledger) (hm : row.absorb entry = .ok next)
    : Summary (group ++ [entry]) next := by
  obtain ⟨_, hm⟩ := guard_of_ok hm
  have kinds : row.ledger.kind = "usage" ∨ row.ledger.kind = "usage_failed" := by
    rw [summary.kind]
    split_ifs <;> simp
  rcases kinds with hr | hr <;> rcases ha.kind with he | he
  · -- another usage is added up
    rw [if_neg (by simp [hr]), if_neg (by simp [hr]), if_pos ⟨hr, he⟩] at hm
    obtain ⟨sum, had, hm⟩ := bind_ok hm
    obtain ⟨totals, key, kind, createdAt⟩ := addTotals_eq_some (okOr_eq_ok.mp had)
    have latest := latest_append summary.latest (he.trans hr.symm)
    split_ifs at hm with later
    · cases hm
      refine summary.extend ha same key (by simp [kind, hr, he]) ?_ ?_
      · intro total ht
        rw [if_pos he]
        simp only [usageTotals, mem_cons, not_mem_nil, or_false] at ht
        rcases ht with rfl | rfl | rfl | rfl | rfl | rfl | rfl | rfl <;>
          exact totals _ (by simp [usageTotals])
      · rw [if_pos later] at latest
        simpa [kind] using latest
    · cases hm
      rw [if_neg later] at latest
      refine summary.extend ha same key (by simp [kind, hr, he]) ?_ ?_
      · intro total ht
        rw [if_pos he, totals total ht]
      · rwa [kind, createdAt]
  · -- a failure beside a usage only counts
    rw [if_neg (by simp [hr]), if_neg (by simp [hr]), if_neg (by simp [he])] at hm
    cases hm
    refine summary.extend ha same rfl (by simp [he]) (by simp [he]) ?_
    rw [datesOf_append, if_neg (by simp [hr, he])]
    exact summary.latest
  · -- the first usage takes the place of the failures
    rw [if_pos ⟨hr, he⟩] at hm
    cases hm
    refine summary.extend ha same same (by simp [he]) (fun total ht => ?_) ?_
    · rw [summary.unmetered hr total ht, if_pos he, zero_add]
    · have empty : datesOf entry.kind group = ∅ := by
        refine Set.eq_empty_of_forall_notMem ?_
        rintro _ ⟨other, ho, hk, _⟩
        exact summary.all_failed hr other ho (hk.trans he)
      rw [datesOf_append, if_pos rfl, empty, insert_empty_eq]
      exact isGreatest_singleton
  · -- the later failure is shown
    rw [if_neg (by simp [he])] at hm
    have latest := latest_append summary.latest (he.trans hr.symm)
    by_cases later : row.ledger.createdAt < entry.createdAt
    · rw [if_pos ⟨hr, he, later⟩] at hm
      cases hm
      rw [if_pos later, hr, ← he] at latest
      refine summary.extend ha same same (by simp [he, hr]) (fun total ht => ?_) latest
      rw [ha.unmetered he total ht, summary.unmetered hr total ht]
      simp [he]
    · rw [if_neg (by simp [later]), if_neg (by simp [he])] at hm
      cases hm
      rw [if_neg later] at latest
      exact summary.extend ha same rfl (by simp [he]) (by simp [he]) latest

end

section

variable {entries : List QuotaLedgerEntry} {entry : QuotaLedgerEntry} {logical next : LogicalMap}
  {key : String × String × String}

theorem groupOf_append
    : groupOf key (entries ++ [entry])
      = groupOf key entries ++ if logicalKey entry = key then [entry] else [] := by
  unfold groupOf
  split_ifs with same <;> simp [filter_append, same]

/-- A step writes the row of the entry's group. -/
theorem Grouped.row (grouped : Grouped entries logical) (ha : AdmittedUsage entry)
    (hm : logicalStep logical entry = .ok next)
    : ∃ row,
        next = upsert (logicalKey entry) row logical
        ∧ Summary (groupOf (logicalKey entry) (entries ++ [entry])) row := by
  rw [groupOf_append, if_pos rfl]
  unfold logicalStep at hm
  split at hm
  · rename_i absent
    cases hm
    rw [grouped.covers _ absent]
    exact ⟨_, rfl, .first ha⟩
  · rename_i existing hf
    obtain ⟨row, absorbed, hm⟩ := bind_ok hm
    cases hm
    have summary := grouped.rows _ _ hf
    obtain ⟨other, ho, _⟩ := summary.latest.1
    have same := summary.key other ho
    rw [of_decide_eq_true (mem_filter.mp ho).2] at same
    exact ⟨row, rfl, summary.absorb ha same absorbed⟩

/-- A measure of rows that is additive over the entries of a group. -/
theorem Grouped.sum_step (grouped : Grouped entries logical) {row : LogicalUsageEntry}
    (summary : Summary (groupOf (logicalKey entry) (entries ++ [entry])) row)
    {Sum : Type} [AddCancelCommMonoid Sum] {measure : LogicalUsageEntry → Sum}
    {size : List QuotaLedgerEntry → Sum}
    (measured : ∀ group row, Summary group row → measure row = size group)
    (ha : ∀ group, size (group ++ [entry]) = size group + size [entry]) (empty : size [] = 0)
    (sums : (logical.map fun row => measure row.2).sum = size entries)
    : ((upsert (logicalKey entry) row logical).map fun row => measure row.2).sum
      = size (entries ++ [entry]) := by
  have he := sum_upsert (fun row => measure row.2) (logicalKey entry) row logical
  rw [groupOf_append, if_pos rfl] at summary
  rw [measured _ _ summary, ha, sums] at he
  rw [ha]
  cases hf : lookup (logicalKey entry) logical with
  | none =>
    rw [hf, grouped.covers _ hf, empty] at he
    simpa using he
  | some old =>
    rw [hf, Option.map_some, Option.getD_some, measured _ _ (grouped.rows _ _ hf)] at he
    exact add_right_cancel (he.trans (by abel))

theorem Grouped.step (grouped : Grouped entries logical) (had : AdmittedUsage entry)
    (hm : logicalStep logical entry = .ok next)
    : Grouped (entries ++ [entry]) next := by
  obtain ⟨row, rfl, summary⟩ := grouped.row had hm
  refine ⟨nodup_upsert grouped.distinct, fun key absent => ?_, fun key hfo hf => ?_, ?_, ?_⟩
  · have ha : key ≠ logicalKey entry := by
      rintro rfl
      rw [lookup_upsert] at absent
      cases absent
    rw [lookup_upsert_ne ha] at absent
    rw [groupOf_append, grouped.covers key absent, if_neg ha.symm, nil_append]
  · by_cases ha : key = logicalKey entry
    · rw [ha, lookup_upsert] at hf
      cases hf
      rwa [ha]
    · rw [lookup_upsert_ne ha] at hf
      rw [groupOf_append, if_neg (Ne.symm ha), append_nil]
      exact grouped.rows key hfo hf
  · exact grouped.sum_step summary (fun _ _ summary => summary.attempts)
      (fun _ => length_append) rfl grouped.attempts
  · intro total ht
    exact grouped.sum_step summary (fun _ _ summary => summary.totals total ht)
      (fun _ => by simp [usageSum]) rfl (grouped.totals total ht)

theorem grouped_of_logicalUsageEntries (hm : logicalUsageEntries entries = .ok logical)
    (ha : ∀ entry ∈ entries, AdmittedUsage entry)
    : Grouped entries logical := by
  induction entries using reverseRecOn generalizing logical with
  | nil =>
    cases hm
    exact ⟨nodup_nil, fun _ _ => rfl, nofun, rfl, fun _ _ => rfl⟩
  | append_singleton entries entry ih =>
    rw [logicalUsageEntries, foldlM_append] at hm
    obtain ⟨middle, hm, last⟩ := bind_ok hm
    rw [foldlM_cons] at last
    obtain ⟨next, step, last⟩ := bind_ok last
    cases last
    refine (ih hm fun other ho => ?_).step ?_ step
    · exact ha other (mem_append_left _ ho)
    · exact ha entry (mem_append_right _ mem_cons_self)

end

def LogicalUsageEntry.shown (row : LogicalUsageEntry) :=
  (logicalKey row.ledger, row.attemptCount, row.ledger.kind, usageTotals.map (· row.ledger),
    row.ledger.createdAt)

theorem Summary.shown_eq (left : Summary group row) (right : Summary others other)
    (perm : group.Perm others)
    : row.shown = other.shown := by
  have kind : row.ledger.kind = other.ledger.kind := by
    rw [left.kind, right.kind]
    simp only [perm.mem_iff]
  have dates : datesOf row.ledger.kind group = datesOf other.ledger.kind others := by
    simp only [datesOf, kind, perm.mem_iff]
  obtain ⟨entry, he, _⟩ := left.latest.1
  have key := (left.key entry he).symm.trans (right.key entry (perm.mem_iff.mp he))
  have totals : usageTotals.map (· row.ledger) = usageTotals.map (· other.ledger) := by
    refine map_congr_left fun total ht => Int64.toInt_inj.mp ?_
    rw [left.totals total ht, right.totals total ht]
    exact ((perm.filter _).map _).sum_eq
  have latest := left.latest
  rw [dates] at latest
  rw [LogicalUsageEntry.shown, LogicalUsageEntry.shown, key, kind, totals, left.attempts,
    right.attempts, perm.length_eq, latest.unique right.latest]

/-- A colon does not occur in a client request id. -/
theorem not_validGatewayRequestId (reference : String)
    : validGatewayRequestId ("aster:" ++ reference) = false := by
  have hf : (58 : UInt8) ∈ utf8Bytes ("aster:" ++ reference) := by
    rw [utf8Bytes, String.toUTF8_eq_toByteArray, String.toByteArray_append, ByteArray.data_append,
      Array.toList_append]
    exact mem_append_left _ (by decide)
  rw [validGatewayRequestId, Bool.and_eq_false_iff]
  exact .inr (all_eq_false.mpr ⟨58, hf, by decide⟩)

theorem AdmittedUsage.client_ne (ha : AdmittedUsage entry) {id : String}
    (hf : entry.clientRequestId = some id) (reference : String)
    : id ≠ "aster:" ++ reference := by
  rintro rfl
  have valid := ha.client
  rw [hf, Option.all_some, not_validGatewayRequestId] at valid
  cases valid

/-- Entries with one key have one identity, API key and client request id, or reference. -/
theorem AdmittedUsage.key_inj (left : AdmittedUsage entry) (right : AdmittedUsage other)
    (same : logicalKey entry = logicalKey other)
    : entry.identityId = other.identityId ∧ entry.apiKeyId = other.apiKeyId
      ∧ entry.clientRequestId = other.clientRequestId
      ∧ (entry.clientRequestId = none → entry.referenceId = other.referenceId) := by
  simp only [logicalKey, Prod.mk.injEq] at same
  obtain ⟨identity, keys, ids⟩ := same
  obtain ⟨key, hk⟩ := Option.isSome_iff_exists.mp left.apiKey
  obtain ⟨otherKey, ho⟩ := Option.isSome_iff_exists.mp right.apiKey
  rw [hk, ho] at keys
  refine ⟨identity, by rw [hk, ho]; exact congrArg some keys, ?_⟩
  cases hl : entry.clientRequestId <;> cases hr : other.clientRequestId <;> rw [hl, hr] at ids
  · exact ⟨rfl, fun _ => by simpa using ids⟩
  · exact absurd ids.symm (right.client_ne hr _)
  · exact absurd ids (left.client_ne hl _)
  · exact ⟨congrArg some ids, nofun⟩

/-- The rows group the entries, do not depend on their order, and keep requests apart. -/
structure LogicalRows (entries : List QuotaLedgerEntry) (logical : LogicalMap) : Prop
    extends Grouped entries logical where
  separate
    : ∀ entry ∈ entries, ∀ other ∈ entries, logicalKey entry = logicalKey other
      → entry.identityId = other.identityId ∧ entry.apiKeyId = other.apiKeyId
        ∧ entry.clientRequestId = other.clientRequestId
        ∧ (entry.clientRequestId = none → entry.referenceId = other.referenceId)
  permuted
    : ∀ {others result}, entries.Perm others → logicalUsageEntries others = .ok result
      → ∀ key,
        (lookup key logical).map LogicalUsageEntry.shown
          = (lookup key result).map LogicalUsageEntry.shown

theorem logicalUsageEntries_rows {entries : List QuotaLedgerEntry} {logical : LogicalMap}
    (hm : logicalUsageEntries entries = .ok logical)
    (shapes : ∀ entry ∈ entries, validSignedLedgerShape entry = true ∧ entry.kind ≠ "grant")
    : LogicalRows entries logical := by
  have ha (entry : QuotaLedgerEntry) (he : entry ∈ entries) : AdmittedUsage entry :=
    admittedUsage_of_shape (shapes entry he).1 (shapes entry he).2
  have grouped := grouped_of_logicalUsageEntries hm ha
  refine ⟨grouped, fun entry he other ho => (ha entry he).key_inj (ha other ho), ?_⟩
  intro others result perm again key
  have regrouped := grouped_of_logicalUsageEntries again fun entry he =>
    ha entry (perm.mem_iff.mpr he)
  have groups : (groupOf key entries).Perm (groupOf key others) := perm.filter _
  cases hf : lookup key logical with
  | none =>
    cases found' : lookup key result with
    | none => rfl
    | some row =>
      obtain ⟨entry, he, _⟩ := (regrouped.rows key row found').latest.1
      rw [← groups.mem_iff, grouped.covers key hf] at he
      cases he
  | some row =>
    have summary := grouped.rows key row hf
    cases found' : lookup key result with
    | none =>
      obtain ⟨entry, he, _⟩ := summary.latest.1
      rw [groups.mem_iff, regrouped.covers key found'] at he
      cases he
    | some other =>
      exact congrArg some (summary.shown_eq (regrouped.rows key other found') groups)

def usageAttempt (id kind : String) (tokens : Int64) : QuotaLedgerEntry :=
  { grantEntry "member" with
    id, kind, amountTokens := -tokens, uncachedInput := tokens, rawTokens := tokens
    billedTokens := tokens, referenceId := id, clientRequestId := some "request-1"
    protocol := "responses", model := "model", apiKeyId := some "key"
    runnerId := some "runner", createdAt := id }

def usageAttempts : List QuotaLedgerEntry :=
  [usageAttempt "1" "usage" 3, usageAttempt "3" "usage_failed" 0, usageAttempt "2" "usage" 4]

theorem logicalUsageEntries_rows_sample
    : ∃ logical,
        logicalUsageEntries usageAttempts = .ok logical ∧ LogicalRows usageAttempts logical := by
  obtain ⟨logical, hm⟩ : ∃ logical, logicalUsageEntries usageAttempts = .ok logical :=
    ⟨_, rfl⟩
  exact ⟨logical, hm, logicalUsageEntries_rows hm (by decide)⟩

end AsterTeam
