import AsterTeam.Library.Transition
import AsterTeam.TokenQuota.ConservedRuns
import AsterTeam.TokenQuota.VerifiedCalls

/-! Any number of Control processes try to end one reservation. Each attempt reads a
snapshot, prepares its rows and submits them later in one transaction, after whatever the
others have done in between.
-/

namespace AsterTeam

open List Relational Transition

-- Terminal entries

def QuotaLedgerEntry.isTerminal (entry : QuotaLedgerEntry) : Bool :=
  entry.kind = "usage" || entry.kind = "usage_failed"

def Database.terminalEntries (db : Database) (requestId : String) : List QuotaLedgerEntry :=
  db.ledger.rows.filter (fun entry => entry.isTerminal && entry.referenceId = requestId)

/-- Every terminal entry belongs to a finished reservation, and no request has two. -/
structure Terminates (db : Database) : Prop where
  finished
    : ∀ entry ∈ db.ledger.rows,
        entry.isTerminal = true
        → ∃ row ∈ db.reservations.rows, row.requestId = entry.referenceId ∧ row.status ≠ .active
  once : ∀ requestId, (db.terminalEntries requestId).length ≤ 1

theorem terminates_empty : Terminates .empty :=
  ⟨fun _ absent => absurd absent not_mem_nil, fun _ => Nat.zero_le 1⟩

variable {row : QuotaReservationRecord}

/-- Finishing an active row keeps every finished row. -/
theorem mem_of_replaces_active {table next : Table reservationKeys}
    (hr : table.Replaces next row replacement) (ha : row.status = .active) (hm : other ∈ table.rows)
    (finished : other.status ≠ .active)
    : other ∈ next.rows :=
  hr.mem_iff.mpr (.inr ⟨hm, fun same => finished (same ▸ ha)⟩)

/-- A transaction that ends a reservation keeps the invariant. Its entry is the first
terminal one of the request: an earlier one would belong to a finished row with the same
request, and the only such row is active.
-/
theorem Terminates.finish {db after : Database} {expected next : UserBalanceRecord}
    (terminates : Terminates db) (hap : FinishApplied expected next row nextRow entry db after)
    (hfi : Finishes row nextRow status) (he : status ≠ .active)
    (reference : ∀ added ∈ entry, added.referenceId = row.requestId)
    : Terminates after := by
  have hn : nextRow ∈ after.reservations.rows :=
    hap.reservations.mem_iff.mpr (.inl rfl)
  have hs : nextRow.requestId = row.requestId := by
    rw [hfi.kept]
  have hne := hfi.not_active he
  refine ⟨?_, ?_⟩
  · intro other hm terminal
    rw [hap.ledger] at hm
    rcases mem_append.mp hm with old | new
    · obtain ⟨hfo, hst, same, done⟩ := terminates.finished other old terminal
      exact ⟨hfo, mem_of_replaces_active hap.reservations hfi.active hst done, same, done⟩
    · have hre := reference other (Option.mem_toList.mp new)
      exact ⟨nextRow, hn, hs.trans hre.symm, hne⟩
  · intro requestId
    rw [Database.terminalEntries, hap.ledger, filter_append, length_append,
      ← Database.terminalEntries]
    cases entry with
    | none => exact terminates.once requestId
    | some added =>
      by_cases ha : added.isTerminal = true ∧ added.referenceId = requestId
      · have none : db.terminalEntries requestId = [] := by
          rw [eq_nil_iff_forall_not_mem]
          intro other hm
          obtain ⟨hst, same⟩ := mem_filter.mp hm
          simp only [Bool.and_eq_true, decide_eq_true_eq] at same
          obtain ⟨hfo, foundStored, request, done⟩ := terminates.finished other hst same.1
          have requests : hfo.requestId = row.requestId :=
            request.trans (same.2.trans (ha.2.symm.trans (reference added rfl)))
          have hr : hfo = row :=
            Table.eq_of_conflicts foundStored hap.storedReservation (.inr requests)
          exact done (hr ▸ hfi.active)
        rw [none]
        exact (Nat.zero_add _).le.trans (length_filter_le _ _)
      · have hf
            : (some added).toList.filter (fun other =>
                other.isTerminal && other.referenceId = requestId) = [] := by
          simpa using ha
        rw [hf]
        exact terminates.once requestId

variable {db : Database}

/-- Every operation of storage keeps the invariant, with any arguments. -/
theorem Terminates.execute (terminates : Terminates db) (operation : QuotaOperation)
    : Terminates (operation.execute db).2 := by
  by_cases hap : (operation.execute db).1 = .applied
  · have effect := QuotaOperation.execute_applied hap
    generalize (operation.execute db).2 = after at effect
    cases operation with
    | openAccount identity balance =>
      rw [effect.others]
      exact ⟨terminates.finished, terminates.once⟩
    | reserve subject expected next reservation =>
      rw [effect.others]
      refine ⟨?_, terminates.once⟩
      intro entry hm terminal
      obtain ⟨hf, hs, same, done⟩ := terminates.finished entry hm terminal
      refine ⟨hf, ?_, same, done⟩
      show hf ∈ after.reservations.rows
      rw [effect.reservations]
      exact mem_append_left _ hs
    | grant expected next entry audit =>
      have reservations : after.reservations = db.reservations := by
        rw [effect.others]
      have hp : entry.isTerminal = false := by
        simp [QuotaLedgerEntry.isTerminal, effect.grants.kind]
      refine ⟨?_, ?_⟩
      · intro other hm terminal
        rw [effect.ledger] at hm
        rw [reservations]
        rcases mem_append.mp hm with old | new
        · exact terminates.finished other old terminal
        · rw [mem_singleton.mp new, hp] at terminal
          cases terminal
      · intro requestId
        rw [Database.terminalEntries, effect.ledger, filter_append]
        simp only [hp, Bool.false_and, filter_cons_of_neg, Bool.false_eq_true,
          not_false_eq_true, filter_nil, append_nil]
        exact terminates.once requestId
    | release expected next row nextRow =>
      exact terminates.finish effect.2 effect.1.finishes nofun
        fun _ absent => absurd absent (Option.not_mem_none _)
    | fail expected next row nextRow entry =>
      exact terminates.finish effect.2 effect.1.finishes nofun
        fun _ ha => Option.some.inj ha ▸ effect.1.referenceId
    | settle expected next row nextRow entry =>
      exact terminates.finish effect.2 effect.1.finishes nofun
        fun _ ha => Option.some.inj ha ▸ effect.1.referenceId
    | administration identities apiKeys moneyBalances moneyLedger audit =>
      rw [show after = _ from effect]
      exact ⟨terminates.finished, terminates.once⟩
  · rw [operation.execute_refused hap]
    exact terminates

theorem terminates_run (operations : List QuotaOperation)
    : Terminates (runOperations .empty operations) := by
  have general (db : Database) (terminates : Terminates db)
      : Terminates (runOperations db operations) := by
    induction operations generalizing db with
    | nil => exact terminates
    | cons operation rest ih => exact ih _ (terminates.execute operation)
  exact general _ terminates_empty

-- Attempts of several processes

def expiredFailure : FailedModelRequest where
  protocol := "gateway_reservation_expired"
  model := "unknown"
  requestedModel := none
  processingTier := none
  reasoningEffort := none
  runnerId := none
  description := "预占到期回收，未计费且上游执行结果不确定"

/-- Reclaiming an expired reservation is a failure with a fixed description. -/
def reclaimExpired (row : QuotaReservationRecord) : ReservationCall :=
  .fail ⟨row.id, row.identityId, row.requestId, none, row.reservedTokens, none⟩ expiredFailure

def ReservationCall.prepare (call : ReservationCall) (auth : AuthCore)
    (snapshot : QuotaStateSnapshot) (draw : Draw)
    : Except ControlError FinishTransition :=
  match call with
  | .release reservation => prepareRelease auth reservation snapshot draw
  | .fail reservation failure =>
    if !validFailure failure then .error .gatewayRequestInvalid
    else prepareFailure auth reservation failure snapshot draw
  | .settle reservation usage => do
      let rawTokens ← checkedRawTokens usage
      let billed ← billedTokens rawTokens usage.multiplierMicros
      let (_, transition) ←
        prepareSettlement auth reservation usage rawTokens billed snapshot draw
      return transition

/-- The first half of an attempt: read the verified account and prepare the rows. -/
def ReservationCall.begin (call : ReservationCall) (auth : AuthCore) (draw : Draw)
    (db : Database)
    : Except ControlError FinishTransition := do
  let snapshot ← verifiedQuotaSnapshot auth db call.reservation.identityId
  call.prepare auth snapshot draw

/-- The database, the attempts that have prepared their rows but not yet submitted them,
and the attempts that storage has applied.
-/
structure Attempts where
  db : Database
  (inFlight applied : List FinishTransition)

inductive AttemptEvent
  | begin (call : ReservationCall) (draw : Draw)
  | reclaim (row : QuotaReservationRecord) (draw : Draw)
  | submit (transition : FinishTransition)
  | other (operation : QuotaOperation)
  | crash

def QuotaOperation.SparesReservation (operation : QuotaOperation) (id : String) : Prop :=
  match operation with
  | .release _ _ row _ => row.id ≠ id
  | .fail _ _ row _ _ => row.id ≠ id
  | .settle _ _ row _ _ => row.id ≠ id
  | _ => True

/-- One step of the processes that try to end the reservation with the given id, and of
all others.
-/
inductive AttemptStep (auth : AuthCore) (id : String)
    : Attempts → AttemptEvent → Attempts → Prop
  | begin {state call draw transition} (same : call.reservation.id = id)
    (made : call.begin auth draw state.db = .ok transition)
    : AttemptStep auth id state (.begin call draw)
        { state with inFlight := transition :: state.inFlight }
  | reclaim {state row draw transition} (same : row.id = id)
    (made : (reclaimExpired row).begin auth draw state.db = .ok transition)
    : AttemptStep auth id state (.reclaim row draw)
        { state with inFlight := transition :: state.inFlight }
  | submit {state front transition back}
    (inFlight : state.inFlight = front ++ transition :: back)
    : AttemptStep auth id state (.submit transition)
        { db := (transition.execute state.db).2
          inFlight := front ++ back
          applied :=
            if (transition.execute state.db).1.toOption = some .applied then
              state.applied ++ [transition]
            else state.applied }
  | other {state operation} (apart : operation.SparesReservation id)
    : AttemptStep auth id state (.other operation)
        { state with db := (operation.execute state.db).2 }
  | crash {state survivors} (lost : survivors ⊆ state.inFlight)
    : AttemptStep auth id state .crash { state with inFlight := survivors }

-- What every step keeps

variable {auth : AuthCore} {transition : FinishTransition}

theorem ReservationCall.begin_row {call : ReservationCall}
    (hm : call.begin auth draw db = .ok transition)
    : transition.rows.expectedReservation.id = call.reservation.id := by
  obtain ⟨snapshot, _, hm⟩ := bind_ok hm
  cases call with
  | release reservation =>
    obtain ⟨row, hf, hm⟩ := bind_ok hm
    obtain ⟨_, _, hm⟩ := bind_ok hm
    obtain ⟨_, _, hm⟩ := bind_ok hm
    cases hm
    exact (findReservation_member hf).2
  | fail reservation failure =>
    obtain ⟨_, hm⟩ := guard_of_ok hm
    obtain ⟨row, hf, hm⟩ := bind_ok hm
    obtain ⟨_, _, hm⟩ := bind_ok hm
    obtain ⟨_, _, hm⟩ := bind_ok hm
    obtain ⟨_, _, hm⟩ := bind_ok hm
    cases hm
    exact (findReservation_member hf).2
  | settle reservation usage =>
    obtain ⟨rawTokens, _, hm⟩ := bind_ok hm
    obtain ⟨hb, _, hm⟩ := bind_ok hm
    obtain ⟨pair, hm, he⟩ := bind_ok hm
    obtain ⟨row, hf, hm⟩ := bind_ok hm
    obtain ⟨_, _, hm⟩ := bind_ok hm
    obtain ⟨_, _, hm⟩ := bind_ok hm
    obtain ⟨_, _, hm⟩ := bind_ok hm
    obtain ⟨_, _, hm⟩ := bind_ok hm
    obtain ⟨_, _, hm⟩ := bind_ok hm
    obtain ⟨_, _, hm⟩ := bind_ok hm
    cases hm
    cases he
    exact (findReservation_member hf).2

variable {id : String}

theorem QuotaOperation.SparesReservation.keeps {operation : QuotaOperation}
    (ha : operation.SparesReservation id) (hr : row.id = id) (hs : row ∈ db.reservations.rows)
    : row ∈ (operation.execute db).2.reservations.rows := by
  by_cases hap : (operation.execute db).1 = .applied
  · have effect := QuotaOperation.execute_applied hap
    generalize (operation.execute db).2 = after at effect
    have hre {target next : QuotaReservationRecord}
        (hrep : db.reservations.Replaces after.reservations target next) (other : target.id ≠ id)
        : row ∈ after.reservations.rows :=
      hrep.mem_iff.mpr (.inr ⟨hs, fun same => other (same ▸ hr)⟩)
    cases operation with
    | openAccount identity balance =>
      rw [effect.others]
      exact hs
    | reserve subject expected next reservation =>
      rw [effect.reservations]
      exact mem_append_left _ hs
    | grant expected next entry audit =>
      rw [effect.others]
      exact hs
    | release expected next target nextTarget =>
      exact hre effect.2.reservations ha
    | fail expected next target nextTarget entry =>
      exact hre effect.2.reservations ha
    | settle expected next target nextTarget entry =>
      exact hre effect.2.reservations ha
    | administration identities apiKeys moneyBalances moneyLedger audit =>
      rw [show after = _ from effect]
      exact hs
  · rw [operation.execute_refused hap]
    exact hs

theorem toOption_eq_some {Error Value : Type} {answer : Except Error Value} {value : Value}
    : answer.toOption = some value ↔ answer = .ok value := by
  cases answer <;> simp [Except.toOption]

structure EndOf (row next : QuotaReservationRecord) : Prop where
  id : next.id = row.id
  ended : next.status = .settled ∨ next.status = .released

variable {next : QuotaReservationRecord}

theorem Finishes.endOf (hf : Finishes row next status) (he : status = .settled ∨ status = .released)
    : EndOf row next :=
  ⟨by rw [hf.kept], hf.finished ▸ he⟩

theorem FinishTransition.Valid.endOf (valid : transition.Valid)
    : EndOf transition.rows.expectedReservation transition.rows.nextReservation := by
  cases transition with
  | release rows => exact valid.finishes.endOf (.inr rfl)
  | fail rows ledger => exact valid.finishes.endOf (.inr rfl)
  | settle rows ledger => exact valid.finishes.endOf (.inl rfl)

/-- Either nothing has been applied and the row is untouched, or exactly one attempt has
been applied and its finished row is stored.
-/
structure FinishedOnce (row : QuotaReservationRecord) (state : Attempts) : Prop where
  targets : ∀ transition ∈ state.inFlight, transition.rows.expectedReservation.id = row.id
  terminates : Terminates state.db
  current
    : (state.applied = [] ∧ row ∈ state.db.reservations.rows)
      ∨ ∃ transition,
          state.applied = [transition]
          ∧ row.status = .active
          ∧ transition.rows.nextReservation ∈ state.db.reservations.rows
          ∧ EndOf row transition.rows.nextReservation

theorem EndOf.not_active (endOf : EndOf row next) : next.status ≠ .active := by
  rcases endOf.ended with hs | hr
  · rw [hs]
    exact nofun
  · rw [hr]
    exact nofun

/-- A submitted attempt is applied only while the row is active. -/
theorem FinishedOnce.submit (finishedOnce : FinishedOnce row state)
    (hi : state.inFlight = front ++ transition :: back)
    : FinishedOnce row
        { db := (transition.execute state.db).2
          inFlight := front ++ back
          applied :=
            if (transition.execute state.db).1.toOption = some .applied then
              state.applied ++ [transition]
            else state.applied } := by
  have remaining (other) (hm : other ∈ front ++ back)
      : other.rows.expectedReservation.id = row.id := by
    refine finishedOnce.targets other ?_
    rw [hi]
    rcases mem_append.mp hm with before | after
    · exact mem_append_left _ before
    · exact mem_append_right _ (mem_cons_of_mem _ after)
  have target : transition.rows.expectedReservation.id = row.id :=
    finishedOnce.targets transition (by rw [hi]; simp)
  have terminates : Terminates (transition.execute state.db).2 := by
    have kept := finishedOnce.terminates.execute transition.operation
    rw [transition.execute_operation] at kept
    exact kept
  refine ⟨remaining, terminates, ?_⟩
  by_cases ha : (transition.execute state.db).1 = .ok .applied
  · obtain ⟨valid, effect⟩ := FinishTransition.execute_applied ha
    have hs : transition.rows.nextReservation
        ∈ (transition.execute state.db).2.reservations.rows :=
      effect.reservations.mem_iff.mpr (.inl rfl)
    have ends := valid.endOf
    rw [if_pos (toOption_eq_some.mpr ha)]
    rcases finishedOnce.current with ⟨none, hu⟩ | ⟨first, _, _, kept, he⟩
    · have same : transition.rows.expectedReservation = row :=
        Table.eq_of_conflicts effect.storedReservation hu (.inl target)
      refine .inr ⟨transition, by rw [none, nil_append], ?_, hs, ?_⟩
      · exact same ▸ valid.change.active
      · exact ⟨ends.id.trans target, ends.ended⟩
    · have same : transition.rows.expectedReservation = first.rows.nextReservation :=
        Table.eq_of_conflicts effect.storedReservation kept (.inl (target.trans he.id.symm))
      exact absurd (same ▸ valid.change.active) he.not_active
  · rw [if_neg (mt toOption_eq_some.mp ha), FinishTransition.execute_refused ha]
    exact finishedOnce.current

variable {state : Attempts}

theorem FinishedOnce.step {next : Attempts} (step : AttemptStep auth row.id state event next)
    (finishedOnce : FinishedOnce row state)
    : FinishedOnce row next := by
  cases step with
  | begin same hm =>
    refine ⟨?_, finishedOnce.terminates, finishedOnce.current⟩
    exact forall_mem_cons.mpr ⟨(ReservationCall.begin_row hm).trans same, finishedOnce.targets⟩
  | reclaim same hm =>
    refine ⟨?_, finishedOnce.terminates, finishedOnce.current⟩
    exact forall_mem_cons.mpr ⟨(ReservationCall.begin_row hm).trans same, finishedOnce.targets⟩
  | submit hi => exact finishedOnce.submit hi
  | other ha =>
    refine ⟨finishedOnce.targets, finishedOnce.terminates.execute _, ?_⟩
    rcases finishedOnce.current with ⟨none, hs⟩ | ⟨first, one, hac, kept, he⟩
    · exact .inl ⟨none, ha.keeps rfl hs⟩
    · exact .inr ⟨first, one, hac, ha.keeps he.id kept, he⟩
  | crash lost =>
    exact ⟨fun transition hme => finishedOnce.targets transition (lost hme),
      finishedOnce.terminates, finishedOnce.current⟩

theorem AttemptStep.applied_prefix (run : Run (AttemptStep auth id) first events last)
    : first.applied <+: last.applied := by
  induction run with
  | nil => exact prefix_rfl
  | cons head _ ih =>
    refine IsPrefix.trans ?_ ih
    cases head with
    | submit hi =>
      show _ <+: ite _ _ _
      split
      · exact prefix_append _ _
      · exact prefix_rfl
    | begin same hm => exact prefix_rfl
    | reclaim same hm => exact prefix_rfl
    | other ha => exact prefix_rfl
    | crash lost => exact prefix_rfl

/-- The row of a reservation in every state: as it was, or as the one applied attempt has
left it.
-/
def currentRow (row : QuotaReservationRecord) (state : Attempts) : QuotaReservationRecord :=
  (state.applied.head?.map fun transition => transition.rows.nextReservation).getD row

theorem FinishedOnce.stored (finishedOnce : FinishedOnce row state)
    : state.db.reservation? row.id = some (currentRow row state) := by
  apply reservation?_eq_some.mpr
  rcases finishedOnce.current with ⟨none, hs⟩ | ⟨first, one, _, kept, he⟩
  · rw [currentRow, none]
    exact ⟨hs, rfl⟩
  · rw [currentRow, one]
    exact ⟨kept, he.id⟩

/-- In every interleaving of attempts to end one active reservation with each other and
with anything else that storage is asked to do: at most one attempt is applied; the row is
untouched before and settled or released afterwards, and then never changes again; the
request never has two terminal entries; and an attempt that is refused changes nothing.
-/
theorem reservation_finishes_once {auth : AuthCore} {history : List QuotaOperation}
    {row : QuotaReservationRecord} (stored : row ∈ (runOperations .empty history).reservations.rows)
    {events : List AttemptEvent} {state : Attempts}
    (run : Run (AttemptStep auth row.id) ⟨runOperations .empty history, [], []⟩ events state)
    : state.applied.length ≤ 1
      ∧ state.db.reservation? row.id = some (currentRow row state)
      ∧ (state.applied = [] → currentRow row state = row)
      ∧ (state.applied ≠ []
        → row.status = .active
          ∧ ((currentRow row state).status = .settled ∨ (currentRow row state).status = .released)
          ∧ ∀ later last, Run (AttemptStep auth row.id) state later last
            → last.applied = state.applied
              ∧ last.db.reservation? row.id = some (currentRow row state))
      ∧ (state.db.terminalEntries row.requestId).length ≤ 1
      ∧ ∀ transition : FinishTransition,
          (transition.execute state.db).1 ≠ .ok .applied
          → (transition.execute state.db).2 = state.db := by
  have start : FinishedOnce row ⟨runOperations .empty history, [], []⟩ :=
    ⟨fun _ absent => absurd absent not_mem_nil, terminates_run history, .inl ⟨rfl, stored⟩⟩
  have hre : FinishedOnce row state :=
    run.invariant (fun step hh => hh.step step) start
  refine ⟨?_, hre.stored, ?_, ?_, hre.terminates.once _, ?_⟩
  · rcases hre.current with ⟨none, _⟩ | ⟨first, one, _⟩
    · rw [none]
      exact Nat.zero_le 1
    · rw [one]
      exact le_refl 1
  · intro none
    rw [currentRow, none]
    rfl
  · intro some
    rcases hre.current with ⟨none, _⟩ | ⟨first, one, ha, _, he⟩
    · exact absurd none some
    refine ⟨ha, ?_, ?_⟩
    · rw [currentRow, one]
      exact he.ended
    · intro later last more
      have final : FinishedOnce row last :=
        more.invariant (fun step hh => hh.step step) hre
      have grown := AttemptStep.applied_prefix more
      have same : last.applied = state.applied := by
        rcases final.current with ⟨none, _⟩ | ⟨other, hsi, _⟩
        · rw [none, one] at grown
          exact absurd grown.length_le (by simp)
        · rw [hsi, one] at grown ⊢
          exact (grown.eq_of_length rfl).symm
      have hs := final.stored
      rw [currentRow, same] at hs
      exact ⟨same, hs⟩
  · intro transition hr
    exact FinishTransition.execute_refused hr

theorem expiredFailure_room {snapshot : QuotaStateSnapshot}
    (balance : snapshot.balance = openBalance)
    : FailureRoom .transparent openAccount sampleReservation expiredFailure snapshot
        openReservation (sampleDraws 0) := by
  have size
      : (failureEntry sampleReservation expiredFailure ⟨openBalance, [], []⟩
          openReservation (sampleDraws 0)).columnSize
        ≤ 300 := by
    decide +kernel
  have same
      : (failureEntry sampleReservation expiredFailure snapshot openReservation
          (sampleDraws 0)).columnSize
        ≤ 300 := by
    simp only [QuotaLedgerEntry.columnSize, failureEntry, balance] at size ⊢
    exact size
  refine ⟨⟨by decide, by decide +kernel⟩, ?_, ?_, ?_, ?_⟩
  · rw [balance]
    decide
  · simp only [columnLimit]
    omega
  · exact fun ledger signed => sampleLedger_tagSize same signed
  · exact fun _ absent => absurd absent not_mem_nil

/-- The core whose tags are the names of their keys. -/
def AuthCore.named : AuthCore := ⟨fun input => input.key, fun input => input.id⟩

def namedBalance (balance : UserBalanceRecord) (lastLedgerHmac : String) : UserBalanceRecord :=
  { balance with lastLedgerHmac, integrityHmac := quotaBalanceIntegrityKey }

def namedReservation : QuotaReservationRecord :=
  { activeReservation "member-a" with integrityHmac := quotaReservationIntegrityKey }

/-- The account of a member is opened, granted tokens and charged with a reservation, in rows
that carry their tags.
-/
def namedHistory : List QuotaOperation :=
  let opened := namedBalance (zeroBalance "member-a") ""
  let granted := namedBalance (grantedBalance "member-a") quotaLedgerIntegrityKey
  let reserved := namedBalance (reservedBalance "member-a") quotaLedgerIntegrityKey
  let entry := { grantEntry "member-a" with integrityHmac := quotaLedgerIntegrityKey }
  [sampleTables, .openAccount (sampleIdentity "member-a") opened, .grant opened granted entry none,
    .reserve ⟨sampleKey "member-a", sampleIdentity "member-a"⟩ granted reserved namedReservation]

def namedCall : QuotaReservation :=
  ⟨namedReservation.id, "member-a", namedReservation.requestId, none, 5, none⟩

/-- Two attempts on the state of the account as both have read it. -/
def competingAttempts : Except ControlError (FinishTransition × FinishTransition) := do
  let snapshot ← verifiedQuotaSnapshot .named (runOperations .empty namedHistory) "member-a"
  let settled ←
    (ReservationCall.settle namedCall (sampleUsage none)).prepare .named snapshot (sampleDraws 0)
  let released ← (ReservationCall.release namedCall).prepare .named snapshot (sampleDraws 0)
  return (settled, released)

theorem competingAttempts_applied
    : (competingAttempts.toOption.any fun attempts =>
        (attempts.1.execute (runOperations .empty namedHistory)).1.toOption = some .applied)
      = true := by
  decide +kernel

/-- A settlement and a release of one reservation are both prepared before either is submitted;
only the first is applied.
-/
theorem sample_reservation_finishes_once
    : ∃ settled released state,
        Run (AttemptStep .named namedReservation.id)
          ⟨runOperations .empty namedHistory, [], []⟩
          [.begin (.settle namedCall (sampleUsage none)) (sampleDraws 0),
            .begin (.release namedCall) (sampleDraws 0), .submit settled, .submit released]
          state
        ∧ state.applied = [settled] := by
  have stored : namedReservation ∈ (runOperations .empty namedHistory).reservations.rows := by
    decide +kernel
  obtain ⟨⟨settled, released⟩, made, applied⟩ :=
    (Option.any_eq_true _ _).mp competingAttempts_applied
  obtain ⟨snapshot, read, made⟩ := bind_ok (toOption_eq_some.mp made)
  obtain ⟨_, first, made⟩ := bind_ok made
  obtain ⟨_, second, made⟩ := bind_ok made
  cases made
  have once (events state) (run : Run (AttemptStep .named namedReservation.id) _ events state) :=
    (reservation_finishes_once stored run).1
  -- From here on the database is only known by what has been read from it.
  generalize runOperations .empty namedHistory = db at read applied once ⊢
  have begins {call : ReservationCall} {transition : FinishTransition}
      (own : call.reservation = namedCall)
      (prepared : call.prepare .named snapshot (sampleDraws 0) = .ok transition)
      : call.begin .named (sampleDraws 0) db = .ok transition := by
    rw [ReservationCall.begin, own]
    exact bind_eq_ok.mpr ⟨snapshot, read, prepared⟩
  have run : Run (AttemptStep .named namedReservation.id) ⟨db, [], []⟩ _ _ :=
    .cons (.begin rfl (begins rfl first)) (.cons (.begin rfl (begins rfl second))
      (.cons (@AttemptStep.submit _ _ _ [released] settled [] rfl)
        (.cons (@AttemptStep.submit _ _ _ [] released [] rfl) (.nil _))))
  refine ⟨settled, released, _, run, ?_⟩
  have single := once _ _ run
  rw [decide_eq_true_eq] at applied
  simp only [applied, if_true, nil_append] at single ⊢
  split_ifs at single ⊢
  · exact absurd single (by simp)
  · rfl

end AsterTeam
