import AsterTeam.Settlement.Confirmation

/-! A published intent is tried again until its record is removed: by the process that
published it, and after a crash by whoever recovers the outbox. An attempt may be applied
and its answer lost, and anything may happen to the account in between.
-/

namespace AsterTeam

open List SettlementIntent Relational Transition

def SettlementIntent.call (intent : SettlementIntent) : Option ReservationCall :=
  match intent.outcome with
  | .usage usage => some (.settle intent.reservation usage)
  | .imageUsage _ _ _ => none
  | .failure failure | .failureWithUnknown failure =>
    some (.fail intent.reservation failure)

/-- The database, the record of the outbox, the attempts that have prepared their rows, the
attempts that storage has applied, and the completions that attempts have returned.
-/
structure Settling where
  db : Database
  record : Option SettlementIntent
  (inFlight committed : List FinishTransition)
  completions : List Completion

inductive SettlingEvent
  | publish
  | confirm (completion : Completion)
  | begin (draw : Draw)
  | submit (transition : FinishTransition) (acknowledged : Bool)
  | finish
  | other (operation : QuotaOperation)
  | crash

def acknowledgement (applied acknowledged : Bool) : List Completion :=
  if applied && acknowledged then [.recorded] else []

def FinishTransition.isApplied (transition : FinishTransition) (db : Database) : Bool :=
  (transition.execute db).1.toOption = some .applied

/-- One step on a durable intent. Attempts confirm, or prepare and submit; the record is
removed after a completion; a crash loses any attempts; storage may be asked for anything
else in between.
-/
inductive SettlingStep (auth : AuthCore) (intent : SettlementIntent)
    : Settling → SettlingEvent → Settling → Prop
  | publish {state} (valid : intent.valid = true)
    (free : state.record = none ∨ state.record = some intent)
    : SettlingStep auth intent state .publish { state with record := some intent }
  | confirm {state snapshot completion} (published : state.record = some intent)
    (read : verifiedQuotaSnapshot auth state.db intent.reservation.identityId = .ok snapshot)
    (found : confirmed snapshot intent.reservation intent.outcome = .ok (some completion))
    : SettlingStep auth intent state (.confirm completion)
        { state with completions := state.completions ++ [completion] }
  | begin {state call draw transition} (published : state.record = some intent)
    (isCall : intent.call = some call) (made : call.begin auth draw state.db = .ok transition)
    : SettlingStep auth intent state (.begin draw)
        { state with inFlight := transition :: state.inFlight }
  | submit {state front transition back acknowledged}
    (inFlight : state.inFlight = front ++ transition :: back)
    : SettlingStep auth intent state (.submit transition acknowledged)
        { state with
          db := (transition.execute state.db).2
          inFlight := front ++ back
          committed :=
            if transition.isApplied state.db then state.committed ++ [transition]
            else state.committed
          completions :=
            state.completions ++ acknowledgement (transition.isApplied state.db) acknowledged }
  | finish {state} (published : state.record = some intent)
    (completed : state.completions ≠ [])
    : SettlingStep auth intent state .finish { state with record := none }
  | other {state operation}
    : SettlingStep auth intent state (.other operation)
        { state with db := (operation.execute state.db).2 }
  | crash {state survivors} (lost : survivors ⊆ state.inFlight)
    : SettlingStep auth intent state .crash { state with inFlight := survivors }

/-- What storage never undoes: a finished row and a ledger entry stay as they are. -/
theorem QuotaOperation.execute_keeps (operation : QuotaOperation) (db : Database)
    : (∀ row ∈ db.reservations.rows,
        row.status ≠ .active → row ∈ (operation.execute db).2.reservations.rows)
      ∧ ∀ entry ∈ db.ledger.rows, entry ∈ (operation.execute db).2.ledger.rows := by
  by_cases ha : (operation.execute db).1 = .applied
  · have effect := QuotaOperation.execute_applied ha
    generalize (operation.execute db).2 = after at effect
    have finished {expected next : UserBalanceRecord} {row nextRow : QuotaReservationRecord}
        {status : ReservationStatus} {entry : Option QuotaLedgerEntry}
        (hf : Finishes row nextRow status)
        (effect : FinishApplied expected next row nextRow entry db after)
        : (∀ row ∈ db.reservations.rows,
            row.status ≠ .active → row ∈ after.reservations.rows)
          ∧ ∀ entry ∈ db.ledger.rows, entry ∈ after.ledger.rows := by
      refine ⟨?_, ?_⟩
      · intro other member done
        exact mem_of_replaces_active effect.reservations hf.active member done
      · intro other member
        rw [effect.ledger]
        exact mem_append_left _ member
    cases operation with
    | openAccount identity balance =>
      rw [effect.others]
      exact ⟨fun _ member _ => member, fun _ => id⟩
    | reserve subject expected next reservation =>
      refine ⟨?_, ?_⟩
      · intro row member _
        rw [effect.reservations]
        exact mem_append_left _ member
      · rw [effect.others]
        exact fun _ => id
    | grant expected next entry audit =>
      refine ⟨?_, ?_⟩
      · rw [effect.others]
        exact fun _ member _ => member
      · intro other member
        rw [effect.ledger]
        exact mem_append_left _ member
    | release expected next row nextRow => exact finished effect.1.finishes effect.2
    | fail expected next row nextRow entry => exact finished effect.1.finishes effect.2
    | settle expected next row nextRow entry => exact finished effect.1.finishes effect.2
    | administration identities apiKeys moneyBalances moneyLedger audit =>
      rw [show after = _ from effect]
      exact ⟨fun _ member _ => member, fun _ => id⟩
  · rw [operation.execute_refused ha]
    exact ⟨fun _ member _ => member, fun _ => id⟩

variable {intent : SettlementIntent} {call : ReservationCall} {auth : AuthCore} {db : Database}
  {transition : FinishTransition}

/-- What an attempt prepares records the intent on its own reservation. -/
theorem SettlementIntent.begin_recorded (hc : intent.call = some call)
    (hm : call.begin auth draw db = .ok transition)
    : transition.rows.expectedReservation.id = intent.reservation.id
      ∧ ∃ entry ∈ transition.entry, Recorded intent.reservation intent.outcome entry := by
  have row := ReservationCall.begin_row hm
  obtain ⟨snapshot, _, hm⟩ := bind_ok hm
  obtain ⟨reservation, outcome, _, _⟩ := intent
  have hf {failure : FailedModelRequest}
      (hm : (ReservationCall.fail reservation failure).prepare auth snapshot draw = .ok transition)
      : ∃ entry ∈ transition.entry, Recorded reservation (.failure failure) entry := by
    obtain ⟨_, hm⟩ := guard_of_ok hm
    obtain ⟨_, _, hm⟩ := bind_ok hm
    obtain ⟨_, _, hm⟩ := bind_ok hm
    obtain ⟨ledger, signed, hm⟩ := bind_ok hm
    obtain ⟨_, _, hm⟩ := bind_ok hm
    cases hm
    obtain ⟨_, hco⟩ := signedLedger_eq_ok signed
    refine ⟨ledger, rfl, ?_⟩
    rw [hco]
    exact ⟨rfl, rfl, rfl, rfl, rfl, rfl, rfl, rfl, rfl, rfl, rfl⟩
  cases outcome with
  | usage usage =>
    cases hc
    refine ⟨row, ?_⟩
    obtain ⟨rawTokens, metered, hm⟩ := bind_ok hm
    obtain ⟨billed, hb, hm⟩ := bind_ok hm
    obtain ⟨pair, hm, hen⟩ := bind_ok hm
    obtain ⟨_, _, hm⟩ := bind_ok hm
    obtain ⟨settlement, settled, hm⟩ := bind_ok hm
    obtain ⟨_, _, hm⟩ := bind_ok hm
    obtain ⟨_, _, hm⟩ := bind_ok hm
    obtain ⟨ledger, signed, hm⟩ := bind_ok hm
    obtain ⟨_, _, hm⟩ := bind_ok hm
    obtain ⟨_, _, hm⟩ := bind_ok hm
    cases hm
    cases hen
    have hs : settlement.billedTokens = billed := by
      obtain ⟨_, _, settled⟩ := bind_ok settled
      obtain ⟨_, _, settled⟩ := bind_ok settled
      obtain ⟨_, _, settled⟩ := bind_ok settled
      cases settled
      rfl
    obtain ⟨_, hco⟩ := signedLedger_eq_ok signed
    refine ⟨ledger, rfl, ?_⟩
    rw [hco]
    exact ⟨rfl, rfl, rfl, rfl, rfl, rfl, rfl, rfl, rfl, rfl, rfl, rfl, rfl, rfl, rfl,
      checkedRawTokens_eq_ok.mp metered,
      hb.trans (congrArg Except.ok hs.symm)⟩
  | imageUsage usage count spec => cases hc
  | failure failure =>
    cases hc
    exact ⟨row, hf hm⟩
  | failureWithUnknown failure =>
    cases hc
    obtain ⟨entry, he, recorded⟩ := hf hm
    exact ⟨row, entry, he,
      recorded.identityId, recorded.requestId, recorded.clientRequestId,
      recorded.columns⟩

structure SettlementIntent.Prepared (intent : SettlementIntent)
    (transition : FinishTransition) : Prop where
  row : transition.rows.expectedReservation.id = intent.reservation.id
  entry : ∃ entry ∈ transition.entry, Recorded intent.reservation intent.outcome entry

/-- The reservation of the intent has ended and the ledger has an entry of the intent. -/
structure SettlementIntent.Committed (intent : SettlementIntent) (db : Database)
    : Prop where
  row : ∃ row ∈ db.reservations.rows, row.id = intent.reservation.id ∧ row.status ≠ .active
  entry : ∃ entry ∈ db.ledger.rows, Recorded intent.reservation intent.outcome entry

theorem SettlementIntent.Committed.execute (committed : intent.Committed db)
    (operation : QuotaOperation)
    : intent.Committed (operation.execute db).2 := by
  obtain ⟨⟨row, hs, id, finished⟩, entry, hw, hr⟩ := committed
  obtain ⟨rows, entries⟩ := operation.execute_keeps db
  exact ⟨⟨row, rows row hs finished, id, finished⟩, entry, entries entry hw, hr⟩

theorem SettlementIntent.Prepared.applied (prepared : intent.Prepared transition)
    (ha : (transition.execute db).1 = .ok .applied)
    : intent.Committed (transition.execute db).2 := by
  obtain ⟨valid, effect⟩ := FinishTransition.execute_applied ha
  obtain ⟨entry, he, hr⟩ := prepared.entry
  refine ⟨⟨transition.rows.nextReservation, ?_, ?_, ?_⟩, entry, ?_, hr⟩
  · exact effect.reservations.mem_iff.mpr (.inl rfl)
  · exact valid.endOf.id.trans prepared.row
  · exact valid.endOf.not_active
  · rw [effect.ledger]
    exact mem_append_right _ (Option.mem_toList.mpr he)

structure Settling.Sound (intent : SettlementIntent) (state : Settling) : Prop where
  terminates : Terminates state.db
  prepared : ∀ transition ∈ state.inFlight, intent.Prepared transition
  committed : state.committed ≠ [] → intent.Committed state.db

variable {state : Settling}

theorem Settling.Sound.step {next : Settling} (step : SettlingStep auth intent state event next)
    (sound : state.Sound intent)
    : next.Sound intent := by
  cases step with
  | publish valid free => exact ⟨sound.terminates, sound.prepared, sound.committed⟩
  | confirm hp read hf =>
    exact ⟨sound.terminates, sound.prepared, sound.committed⟩
  | begin hp hc hm =>
    obtain ⟨row, entry⟩ := begin_recorded hc hm
    exact ⟨sound.terminates, forall_mem_cons.mpr ⟨⟨row, entry⟩, sound.prepared⟩, sound.committed⟩
  | @submit front transition back acknowledged hi =>
    have kept := sound.terminates.execute transition.operation
    rw [transition.execute_operation] at kept
    refine ⟨kept, ?_, ?_⟩
    · intro other hme
      refine sound.prepared other ?_
      rw [hi]
      rcases mem_append.mp hme with before | after
      · exact mem_append_left _ before
      · exact mem_append_right _ (mem_cons_of_mem _ after)
    · intro some
      have prepared := sound.prepared transition (by rw [hi]; simp)
      by_cases ha : (transition.execute state.db).1 = .ok .applied
      · exact prepared.applied ha
      · have hr : transition.isApplied state.db = false :=
          decide_eq_false (mt toOption_eq_some.mp ha)
        simp only [hr, Bool.false_eq_true, if_false] at some
        show intent.Committed (transition.execute state.db).2
        rw [FinishTransition.execute_refused ha]
        exact sound.committed some
  | finish hp hco => exact ⟨sound.terminates, sound.prepared, sound.committed⟩
  | other =>
    exact ⟨sound.terminates.execute _, sound.prepared, fun some => (sound.committed some).execute _⟩
  | crash lost =>
    exact ⟨sound.terminates, fun transition hme => sound.prepared _ (lost hme), sound.committed⟩

theorem SettlingStep.committed_prefix (run : Run (SettlingStep auth intent) first events last)
    : first.committed <+: last.committed := by
  induction run with
  | nil => exact prefix_rfl
  | cons head _ ih =>
    refine IsPrefix.trans ?_ ih
    cases head with
    | submit hi =>
      show _ <+: ite _ _ _
      split
      · exact prefix_append _ _
      · exact prefix_rfl
    | publish valid free => exact prefix_rfl
    | confirm hp read hf => exact prefix_rfl
    | begin hp hc hm => exact prefix_rfl
    | finish hp hco => exact prefix_rfl
    | other => exact prefix_rfl
    | crash lost => exact prefix_rfl

/-- What the attempts after the first applied one return. An intent without a client
request id whose failure is the reaper's own cannot be told from a reclaimed reservation.
-/
def SettlementIntent.completion (intent : SettlementIntent) : Completion :=
  match intent.outcome with
  | .failure failure | .failureWithUnknown failure =>
    if failure = expiredFailure ∧ intent.reservation.clientRequestId = none then .expired
    else .recorded
  | _ => .recorded

variable {reservation : QuotaReservation} {outcome : Outcome} {entry : QuotaLedgerEntry}

theorem Recorded.isTerminal (hr : Recorded reservation outcome entry) : entry.isTerminal := by
  have hc := hr.columns
  unfold QuotaLedgerEntry.isTerminal
  cases outcome with
  | usage usage => simp [UsageColumns.kind hc]
  | imageUsage usage count spec => exact hc.elim
  | failure failure => simp [FailureColumns.kind hc]
  | failureWithUnknown failure => simp [FailureColumns.kind hc]

theorem FailureColumns.isExpired_iff {failure : FailedModelRequest}
    (hc : FailureColumns entry failure)
    : isExpiredEntry entry ↔ failure = expiredFailure ∧ entry.clientRequestId = none := by
  obtain ⟨protocol, model, requestedModel, processingTier, reasoningEffort, runnerId,
    description⟩ := failure
  simp only [isExpiredEntry, decide_eq_true_eq, hc.kind, hc.protocol,
    hc.model, hc.requestedModel, hc.processingTier, hc.reasoningEffort,
    hc.runnerId, hc.description, expiredFailure, FailedModelRequest.mk.injEq]
  tauto

theorem Recorded.completionOf_eq (hr : Recorded intent.reservation intent.outcome entry)
    : completionOf entry = intent.completion := by
  obtain ⟨reservation, outcome, _, _⟩ := intent
  have hc := hr.columns
  have client := hr.clientRequestId
  unfold completionOf completion
  cases outcome with
  | usage usage =>
    have other : isExpiredEntry entry = false := by
      simp [isExpiredEntry, UsageColumns.kind hc]
    rw [other]
    rfl
  | imageUsage usage count spec => exact hc.elim
  | failure failure =>
    simp only [FailureColumns.isExpired_iff hc, client]
  | failureWithUnknown failure =>
    simp only [FailureColumns.isExpired_iff hc, client]

variable {snapshot : QuotaStateSnapshot}

/-- Once the intent is committed, a confirmation finds its entry. -/
theorem SettlementIntent.Committed.confirmed (committed : intent.Committed db)
    (terminates : Terminates db)
    (read : verifiedQuotaSnapshot auth db intent.reservation.identityId = .ok snapshot)
    : confirmed snapshot intent.reservation intent.outcome = .ok (some intent.completion) := by
  obtain ⟨⟨row, stored, id, finished⟩, entry, written, recorded⟩ := committed
  obtain ⟨_, actives, entries⟩ := quotaStateSnapshot_rows (verifiedQuotaSnapshot_eq_ok.mp read).1
  have terminal := recorded.isTerminal
  have closed : RequestClosed snapshot intent.reservation := by
    intro active hm
    obtain ⟨activeStored, isActive⟩ := mem_filter.mp (actives.mem_iff.mp hm)
    simp only [Bool.and_eq_true, decide_eq_true_eq] at isActive
    refine ⟨?_, ?_⟩
    · intro sameId
      have same : active = row :=
        Table.eq_of_conflicts activeStored stored (.inl (sameId.trans id.symm))
      exact finished (same ▸ isActive.2)
    · intro hs
      obtain ⟨ended, endedStored, endedRequest, done⟩ :=
        terminates.finished entry written terminal
      have same : active = ended :=
        Table.eq_of_conflicts activeStored endedStored
          (.inr (hs.trans (endedRequest.trans recorded.requestId).symm))
      exact done (same ▸ isActive.2)
  have he : entry ∈ terminalOf snapshot intent.reservation.requestId := by
    refine mem_filter.mpr ⟨entries.mem_iff.mpr ?_, ?_⟩
    · exact mem_filter.mpr ⟨written, by simp [recorded.identityId]⟩
    · simp [recorded.requestId, terminal]
  have short
      : (terminalOf snapshot intent.reservation.requestId).length
        ≤ (db.terminalEntries intent.reservation.requestId).length := by
    rw [terminalOf, (entries.filter _).length_eq, Database.terminalEntries]
    simp only [Bool.and_comm]
    exact (Sublist.filter _ filter_sublist).length_le
  have found : terminalOf snapshot intent.reservation.requestId = [entry] := by
    have once := terminates.once intent.reservation.requestId
    obtain ⟨only, single⟩ :=
      length_eq_one_iff.mp (le_antisymm (short.trans once) (length_pos_of_mem he))
    rw [single, mem_singleton] at he
    rw [single, he]
  rw [confirmed_of_closed closed found recorded, recorded.completionOf_eq]

theorem recorded_of_confirmed
    (read : verifiedQuotaSnapshot auth db reservation.identityId = .ok snapshot)
    (hf : confirmed snapshot reservation outcome = .ok (some .recorded))
    : ∃ entry ∈ db.ledger.rows, Recorded reservation outcome entry := by
  obtain ⟨entry, hs, hr⟩ := confirmed_eq_recorded hf
  obtain ⟨_, _, entries⟩ := quotaStateSnapshot_rows (verifiedQuotaSnapshot_eq_ok.mp read).1
  have hm : entry ∈ terminalOf snapshot reservation.requestId := by
    rw [hs]
    exact mem_singleton.mpr rfl
  have hst := entries.mem_iff.mp (mem_of_mem_filter hm)
  exact ⟨entry, mem_of_mem_filter hst, hr⟩

/-- A result that steps on the intent can produce; when it is a recording, the entry is in
the ledger.
-/
def Settling.Reaches (auth : AuthCore) (intent : SettlementIntent) (state : Settling)
    (result : Except ControlError Completion × Database) : Prop :=
  ∃ events next,
    Run (SettlingStep auth intent) state events next
    ∧ next.db = result.2
    ∧ (result.1 = .ok .recorded
        → ∃ entry ∈ next.db.ledger.rows, Recorded intent.reservation intent.outcome entry)

variable {Value : Type} {duplicate : ControlError} {draws : List Draw}

variable {prepare : QuotaStateSnapshot → Draw → Except ControlError (Value × FinishTransition)}

/-- A call of Control on the reservation of the intent is one prepared and submitted
transaction, or it changes nothing.
-/
theorem Settling.reaches_call (hp : state.record = some intent)
    (hc : intent.call = some call) (reservation : call.reservation = intent.reservation)
    (prepared : ∀ snapshot draw value transition, prepare snapshot draw = .ok (value, transition)
      → call.prepare auth snapshot draw = .ok transition)
    : state.Reaches auth intent
        ((finishReservation auth intent.reservation.identityId prepare duplicate draws
            state.db).1.map fun _ => .recorded,
          (finishReservation auth intent.reservation.identityId prepare duplicate draws
            state.db).2) := by
  cases answer
      : (finishReservation auth intent.reservation.identityId prepare duplicate draws
          state.db).1 with
  | error error =>
    exact ⟨[], state, .nil _, (finishReservation_eq_error answer).symm, nofun⟩
  | ok value =>
    obtain ⟨draw, snapshot, transition, read, hm, ha, after⟩ :=
      finishReservation_eq_ok answer
    have begun : call.begin auth draw state.db = .ok transition :=
      bind_eq_ok.mpr ⟨snapshot, reservation ▸ read, prepared _ _ _ _ hm⟩
    obtain ⟨row, entry⟩ := begin_recorded hc begun
    have committed := Prepared.applied ⟨row, entry⟩ ha
    have hs :=
      @SettlingStep.submit auth intent
        { state with inFlight := transition :: state.inFlight } [] transition
        state.inFlight true rfl
    exact ⟨_, _, .cons (.begin hp hc begun) (.cons hs (.nil _)),
      after.symm, fun _ => committed.entry⟩

theorem recordOutcome_reaches (hp : state.record = some intent) (draws : Nat → Draw)
    : state.Reaches auth intent
        (recordOutcome auth intent.reservation intent.outcome draws state.db) := by
  obtain ⟨reservation, outcome, unknown, invalid⟩ := intent
  have hu (error : ControlError)
      : state.Reaches auth ⟨reservation, outcome, unknown, invalid⟩ (.error error, state.db) :=
    ⟨[], state, .nil _, rfl, nofun⟩
  have hf (failure : FailedModelRequest)
      (hc : (⟨reservation, outcome, unknown, invalid⟩ : SettlementIntent).call
          = some (.fail reservation failure))
      : state.Reaches auth ⟨reservation, outcome, unknown, invalid⟩
          ((failModelRequest auth reservation failure draws state.db).1.map
              fun _ => .recorded,
            (failModelRequest auth reservation failure draws state.db).2) := by
    unfold failModelRequest
    split
    · exact hu _
    · rename_i ha
      refine Settling.reaches_call hp hc rfl ?_
      intro snapshot draw value transition hm
      exact (if_neg ha).trans (map_unit_eq_ok hm)
  cases outcome with
  | usage usage =>
    show state.Reaches auth _
      ((settleModelQuota auth reservation usage draws state.db).1.map fun _ => .recorded,
        (settleModelQuota auth reservation usage draws state.db).2)
    unfold settleModelQuota
    cases counting : checkedRawTokens usage with
    | error error => exact hu error
    | ok rawTokens =>
      cases billing : billedTokens rawTokens usage.multiplierMicros with
      | error error =>
        simp only [billing]
        exact hu error
      | ok hb =>
        simp only [billing]
        refine Settling.reaches_call hp rfl rfl ?_
        intro snapshot draw value transition hm
        exact bind_eq_ok.mpr ⟨rawTokens, counting,
          bind_eq_ok.mpr ⟨hb, billing, bind_eq_ok.mpr ⟨_, hm, rfl⟩⟩⟩
  | imageUsage usage count spec => exact hu _
  | failure failure => exact hf failure rfl
  | failureWithUnknown failure => exact hf failure rfl

/-- A whole attempt is one confirmation, or one prepared and submitted transaction, or it
changes nothing.
-/
theorem tokenAttempt_reaches {auth : AuthCore} {intent : SettlementIntent}
    {state : Settling} (hp : state.record = some intent) (draws : Nat → Draw)
    : state.Reaches auth intent
        (tokenAttempt auth intent.reservation intent.outcome draws state.db) := by
  have hu (error : ControlError)
      : state.Reaches auth intent (.error error, state.db) :=
    ⟨[], state, .nil _, rfl, nofun⟩
  unfold tokenAttempt
  cases read : verifiedQuotaSnapshot auth state.db intent.reservation.identityId with
  | error error => exact hu error
  | ok snapshot =>
    cases hf : confirmed snapshot intent.reservation intent.outcome with
    | error error =>
      simp only [hf]
      exact hu error
    | ok completion =>
      simp only [hf]
      cases completion with
      | some completion =>
        refine ⟨_, _, .cons (.confirm hp read hf) (.nil _), rfl, ?_⟩
        intro hr
        cases hr
        exact recorded_of_confirmed read hf
      | none => exact recordOutcome_reaches hp draws

/-- An attempt after the first applied one confirms it and writes nothing. -/
theorem Settling.Sound.retried (sound : state.Sound intent) (committed : state.committed ≠ [])
    (read : verifiedQuotaSnapshot auth state.db intent.reservation.identityId = .ok snapshot)
    (draws : Nat → Draw)
    : tokenAttempt auth intent.reservation intent.outcome draws state.db
      = (.ok intent.completion, state.db) := by
  have hf := (sound.committed committed).confirmed sound.terminates read
  simp only [tokenAttempt, read, hf]

/-- In every sequence of attempts, recoveries, crashes and lost answers on one durable
intent, with anything else that storage is asked to do in between: the request has at most
one terminal entry; once an attempt of the intent is applied, every later attempt that
reads a verified account confirms it and writes nothing; and whatever an attempt reports as
recorded is in the ledger with the content of the intent.
-/
theorem durable_intent_recorded_once {auth : AuthCore} {intent : SettlementIntent}
    {db : Database} (start : Terminates db) {events : List SettlingEvent} {state : Settling}
    (run : Run (SettlingStep auth intent) ⟨db, none, [], [], []⟩ events state)
    : (state.db.terminalEntries intent.reservation.requestId).length ≤ 1
      ∧ (state.committed ≠ []
        → ∀ later last, Run (SettlingStep auth intent) state later last
          → ∀ snapshot,
              verifiedQuotaSnapshot auth last.db intent.reservation.identityId = .ok snapshot
              → ∀ draws,
                  tokenAttempt auth intent.reservation intent.outcome draws last.db
                  = (.ok intent.completion, last.db))
      ∧ (state.record = some intent
        → ∀ draws after,
            tokenAttempt auth intent.reservation intent.outcome draws state.db
              = (.ok .recorded, after)
            → ∃ entry,
                after.terminalEntries intent.reservation.requestId = [entry]
                ∧ Recorded intent.reservation intent.outcome entry) := by
  have hi : Settling.Sound intent ⟨db, none, [], [], []⟩ :=
    ⟨start, fun _ absent => absurd absent not_mem_nil, fun some => absurd rfl some⟩
  have hre : state.Sound intent :=
    run.invariant (fun step hh => hh.step step) hi
  refine ⟨hre.terminates.once _, ?_, ?_⟩
  · intro committed later last more snapshot read draws
    have final : last.Sound intent := more.invariant (fun step hh => hh.step step) hre
    refine final.retried ?_ read draws
    intro none
    have grown := SettlingStep.committed_prefix more
    rw [none] at grown
    exact committed (prefix_nil.mp grown)
  · intro hp draws after attempted
    obtain ⟨steps, next, moved, ha, hr⟩ :=
      @tokenAttempt_reaches auth intent state hp draws
    rw [attempted] at ha hr
    have final : next.Sound intent := moved.invariant (fun step hh => hh.step step) hre
    obtain ⟨entry, hm, hrec⟩ := hr rfl
    rw [ha] at hm
    have terminates : Terminates after := by
      have kept := final.terminates
      rw [ha] at kept
      exact kept
    have he : entry ∈ after.terminalEntries intent.reservation.requestId := by
      refine mem_filter.mpr ⟨hm, ?_⟩
      simp [hrec.isTerminal, hrec.requestId]
    obtain ⟨only, hs⟩ :=
      length_eq_one_iff.mp (le_antisymm (terminates.once _) (length_pos_of_mem he))
    rw [hs, mem_singleton] at he
    exact ⟨entry, by rw [hs, he], hrec⟩

/-- A settled or failed call on an open account, as steps on its published intent whose
last answer is lost.
-/
theorem Settling.commits (intent : SettlementIntent) (valid : intent.valid)
    (hc : intent.call = some call) (reservation : call.reservation = intent.reservation)
    (prepared : ∀ snapshot draw value transition, prepare snapshot draw = .ok (value, transition)
      → call.prepare auth snapshot draw = .ok transition)
    (hs : (finishReservation auth intent.reservation.identityId prepare duplicate draws db).1
      = .ok value)
    : ∃ events state,
        Run (SettlingStep auth intent) ⟨db, none, [], [], []⟩ events state
        ∧ state.committed ≠ []
        ∧ state.db
          = (finishReservation auth intent.reservation.identityId prepare duplicate draws
              db).2 := by
  obtain ⟨draw, snapshot, transition, read, hm, ha, after⟩ :=
    finishReservation_eq_ok hs
  have begun : call.begin auth draw db = .ok transition :=
    bind_eq_ok.mpr ⟨snapshot, reservation ▸ read, prepared _ _ _ _ hm⟩
  have hsu :=
    @SettlingStep.submit auth intent ⟨db, some intent, [transition], [], []⟩ [] transition
      [] false rfl
  have isApplied : transition.isApplied db = true :=
    decide_eq_true (toOption_eq_some.mpr ha)
  refine ⟨_, _,
    .cons (.publish valid (.inl rfl))
      (.cons (.begin rfl hc begun) (.cons hsu (.nil _))), ?_, after.symm⟩
  show (if transition.isApplied db then [] ++ [transition] else []) ≠ []
  rw [isApplied]
  exact cons_ne_nil _ _

theorem openAccount_terminates : Terminates openAccount :=
  ⟨fun _ absent => absurd absent not_mem_nil, fun _ => Nat.zero_le 1⟩

theorem sampleReservation_admissible
    : ∀ row ∈ openAccount.activeReservations "member",
        row.id = "reservation" → AdmissibleReservation sampleReservation row.apiKeyId := by
  intro row hm _
  have hr := mem_singleton.mp (activeReservations_openAccount ▸ hm)
  rw [hr]
  exact ⟨by decide, by decide, rfl, by decide⟩

/-- A settled request whose answer is lost, and its confirmation. -/
theorem sample_intent_recorded_once
    : ∃ events state,
        Run (SettlingStep .transparent
            ⟨sampleReservation, .usage (sampleUsage none), false, false⟩)
          ⟨openAccount, none, [], [], []⟩ events state
        ∧ state.committed ≠ []
        ∧ tokenAttempt .transparent sampleReservation (.usage (sampleUsage none))
            sampleDraws state.db
          = (.ok .recorded, state.db) := by
  have hs := sampleSettlement_succeeds (by decide : optionalSize none ≤ 100)
  have hv :=
    (settleModelQuota_verified_iff AuthCore.transparent_collisionFree hs).mpr
      ⟨sampleReservation_admissible, rfl, rfl, rfl⟩
  obtain ⟨rawTokens, hb, hme, billing, runs⟩ := settleModelQuota_eq_ok hs
  rw [runs] at hs hv
  obtain ⟨_, han⟩ := isOk_iff.mp hs
  obtain ⟨events, state, run, committed, ha⟩ :=
    Settling.commits ⟨sampleReservation, .usage (sampleUsage none), false, false⟩
      (by decide +kernel) rfl rfl
      (fun snapshot draw value transition hm =>
        bind_eq_ok.mpr ⟨rawTokens, checkedRawTokens_eq_ok.mpr hme,
          bind_eq_ok.mpr ⟨hb, billing, bind_eq_ok.mpr ⟨_, hm, rfl⟩⟩⟩)
      han
  rw [← ha] at hv
  obtain ⟨snapshot, read⟩ := verified_iff.mpr (accountVerified_iff.mp hv)
  exact ⟨events, state, run, committed,
    (durable_intent_recorded_once openAccount_terminates run).2.1 committed [] state
      (.nil _) snapshot read sampleDraws⟩

theorem sampleFailure_succeeds
    : (failModelRequest .transparent sampleReservation expiredFailure sampleDraws
        openAccount).1
      = .ok () := by
  obtain ⟨snapshot, hv, balance, hf⟩ := openAccount_snapshot
  exact failModelRequest_of_room AuthCore.transparent_collisionFree hv hf (by decide +kernel)
    (expiredFailure_room balance)

/-- A failure in the words of the reaper, without a client request id: its own entry is
committed, and the next attempt takes it for a reclaimed reservation.
-/
theorem reaper_words_confirmed_as_expired
    : ∃ events state,
        Run (SettlingStep .transparent
            ⟨sampleReservation, .failure expiredFailure, false, false⟩)
          ⟨openAccount, none, [], [], []⟩ events state
        ∧ state.committed ≠ []
        ∧ tokenAttempt .transparent sampleReservation (.failure expiredFailure)
            sampleDraws state.db
          = (.ok .expired, state.db) := by
  have hs := sampleFailure_succeeds
  have hv :=
    (failModelRequest_verified_iff AuthCore.transparent_collisionFree
      (isOk_iff.mpr ⟨(), hs⟩)).mpr ⟨sampleReservation_admissible, by decide⟩
  have hac : ¬ (!validFailure expiredFailure) := by decide +kernel
  rw [failModelRequest, if_neg hac] at hs hv
  have prepared (snapshot draw value transition)
      (hm : (prepareFailure .transparent sampleReservation expiredFailure snapshot
            draw).map (((), ·))
          = .ok (value, transition))
      : (ReservationCall.fail sampleReservation expiredFailure).prepare .transparent
          snapshot draw
        = .ok transition := by
    rw [ReservationCall.prepare, if_neg hac]
    exact map_unit_eq_ok hm
  obtain ⟨events, state, run, committed, ha⟩ :=
    Settling.commits ⟨sampleReservation, .failure expiredFailure, false, false⟩
      (by decide +kernel) rfl rfl prepared hs
  rw [← ha] at hv
  obtain ⟨snapshot, read⟩ := verified_iff.mpr (accountVerified_iff.mp hv)
  have sound
      : state.Sound ⟨sampleReservation, .failure expiredFailure, false, false⟩ :=
    run.invariant (fun step hh => hh.step step)
      ⟨openAccount_terminates, fun _ absent => absurd absent not_mem_nil,
        fun some => absurd rfl some⟩
  exact ⟨events, state, run, committed, sound.retried committed read sampleDraws⟩

end AsterTeam
