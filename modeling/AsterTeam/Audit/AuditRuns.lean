import AsterTeam.Audit.AuditLog
import AsterTeam.Library.HashChain
import AsterTeam.Library.Transition

/-! The audit log in every run of the writers of several Controls: events stay numbered from
one, linked by their tags and counted by the gate, and the verification accepts them.
-/

namespace AsterTeam

open List

open MachineInteger Relational
open Transition (Run)

-- Prepared events

def AuditEventRecord.Signed (auth : AuthCore) (event : AuditEventRecord) : Prop :=
  auth.auditEventIntegrityHmac (auditEventIntegrityInput event) = .ok event.integrityHmac

variable {auth : AuthCore} {event : AuditEventRecord}

theorem signAuditEvent_signed (hm : signAuditEvent auth event = .ok signed)
    : signed.Signed auth := by
  unfold signAuditEvent at hm
  split at hm
  · cases hm
  · rename_i tag ht
    cases hm
    exact ht

variable {sequence : UInt64} {previous : String} {events : List AuditEventRecord}

theorem prepareAuditEvents_signed
    (hm : prepareAuditEvents auth sequence previous drafts = .ok events)
    : ∀ event ∈ events, event.Signed auth := by
  induction drafts generalizing sequence previous events with
  | nil =>
    cases hm
    exact fun _ he => absurd he not_mem_nil
  | cons draft rest ih =>
    unfold prepareAuditEvents at hm
    split at hm
    · cases hm
    · obtain ⟨first, hf, hm⟩ := bind_ok hm
      obtain ⟨others, ho, hm⟩ := bind_ok hm
      cases hm
      intro event he
      rcases mem_cons.mp he with same | later
      · rw [same]
        exact signAuditEvent_signed hf
      · exact ih ho event later

variable {tag : String}

theorem prepareAuditEventAt_signed {tail : Option AuditEventRecord} {draft : AuditDraft}
    (hm : prepareAuditEventAt auth tail draft = .ok (sequence, tag, event))
    : event.Signed auth := by
  unfold prepareAuditEventAt at hm
  dsimp only at hm
  split at hm
  · cases hm
  · obtain ⟨signed, hs, hm⟩ := bind_ok hm
    cases hm
    exact signAuditEvent_signed hs

/-- Whatever Control hands to storage is signed. -/
theorem PreparedBatch.signed (prepared : PreparedBatch auth sequence tag events)
    : ∀ event ∈ events, event.Signed auth := by
  cases prepared with
  | event prepared =>
    intro event he
    rw [mem_singleton.mp he]
    exact prepareAuditEventAt_signed prepared
  | signedAgain _ id actorIdentityId actorRole again =>
    intro event he
    rw [mem_singleton.mp he]
    exact signAuditEvent_signed again
  | targets prepared =>
    obtain ⟨_, prepared⟩ := guard_of_ok prepared
    obtain ⟨events, hm, prepared⟩ := bind_ok prepared
    cases prepared
    exact prepareAuditEvents_signed hm

-- Chains

/-- Signed events numbered after a position and linked from its tag on. -/
def AuditChain (auth : AuthCore) : Nat → String → List AuditEventRecord → Prop
  | _, _, [] => True
  | position, previous, event :: rest =>
    event.sequence.toNat = position + 1 ∧ event.previousEventHmac = previous
    ∧ event.Signed auth ∧ AuditChain auth (position + 1) event.integrityHmac rest

def lastTag (previous : String) (events : List AuditEventRecord) : String :=
  events.getLast?.elim previous AuditEventRecord.integrityHmac

theorem lastTag_cons (previous : String) (event : AuditEventRecord) (events : List AuditEventRecord)
    : lastTag previous (event :: events) = lastTag event.integrityHmac events := by
  unfold lastTag
  rw [getLast?_cons]
  cases events.getLast? <;> rfl

theorem auditChain_append
    : AuditChain auth position previous (front ++ back)
      ↔ AuditChain auth position previous front
        ∧ AuditChain auth (position + front.length) (lastTag previous front) back := by
  induction front generalizing position previous with
  | nil => simp [AuditChain, lastTag]
  | cons event rest ih =>
    rw [cons_append, AuditChain, AuditChain, ih, lastTag_cons, length_cons,
      Nat.add_right_comm position 1 rest.length]
    simp only [and_assoc, Nat.add_assoc]

theorem auditChain_of_continues (hc : continuesAudit sequence tag events)
    (signed : ∀ event ∈ events, event.Signed auth)
    : AuditChain auth sequence.toNat tag events := by
  induction events generalizing sequence tag with
  | nil => trivial
  | cons event rest ih =>
    unfold continuesAudit at hc
    split at hc
    · cases hc
    · rename_i next hn
      simp only [Bool.and_eq_true, beq_iff_eq] at hc
      obtain ⟨⟨⟨hs, hp⟩, _⟩, hc⟩ := hc
      have hnu : event.sequence.toNat = sequence.toNat + 1 := by
        rw [hs]
        exact checkedSucc_eq_some.mp hn
      have later := ih hc fun other ho =>
        signed other (mem_cons_of_mem _ ho)
      rw [hnu] at later
      exact ⟨hnu, hp, signed event mem_cons_self, later⟩

namespace AuditChain

variable {position : Nat}

theorem last_sequence (chain : AuditChain auth position previous (events ++ [event]))
    : event.sequence.toNat = position + events.length + 1 :=
  (auditChain_append.mp chain).2.1

variable (chain : AuditChain auth position previous events)

include chain

theorem sequences : events.map (·.sequence.toNat) = range' (position + 1) events.length := by
  induction events generalizing position previous with
  | nil => rfl
  | cons event rest ih =>
    rw [map_cons, ih chain.2.2.2, chain.1, length_cons, range'_succ]

theorem signed : ∀ event ∈ events, event.Signed auth := by
  induction events generalizing position previous with
  | nil => exact fun _ he => absurd he not_mem_nil
  | cons first rest ih =>
    intro event he
    rcases mem_cons.mp he with same | later
    · rw [same]
      exact chain.2.2.1
    · exact ih chain.2.2.2 event later

theorem linked
    : HashChain.Chain AuditEventRecord.previousEventHmac AuditEventRecord.integrityHmac
        previous events (lastTag previous events) := by
  induction events generalizing position previous with
  | nil => rfl
  | cons event rest ih =>
    rw [lastTag_cons]
    exact ⟨chain.2.1, ih chain.2.2.2⟩

theorem argmax_eq_getLast?
    : events.argmax (fun event => event.sequence.toNat) = events.getLast? := by
  induction events using reverseRecOn with
  | nil => rfl
  | append_singleton front event ih =>
    have before := (auditChain_append.mp chain).1
    rw [argmax_concat, ih before, getLast?_concat]
    cases front using reverseRecOn with
    | nil => rfl
    | append_singleton rest earlier =>
      rw [getLast?_concat]
      refine if_pos ?_
      rw [before.last_sequence, chain.last_sequence, length_append]
      exact Nat.lt_succ_self _

theorem sorted
    : events.mergeSort (fun first second => first.sequence ≤ second.sequence) = events := by
  apply mergeSort_of_pairwise
  have hi : (range' (position + 1) events.length).Pairwise (· ≤ ·) :=
    pairwise_le_range'
  rw [← chain.sequences, pairwise_map] at hi
  exact hi.imp fun le => decide_eq_true (UInt64.le_iff_toNat_le.mpr le)

/-- The verification accepts a chain of events with decodable tags. -/
theorem verifies {expected : UInt64} (he : expected.toNat = position + 1)
    (hf : ∀ event ∈ events, fitsSigned event.sequence)
    (decodes : ∀ event ∈ events, decodable event.integrityHmac)
    : verifyAuditEvents auth decodable expected previous events = .ok () := by
  induction events generalizing position previous expected with
  | nil => rfl
  | cons event rest ih =>
    obtain ⟨hs, hp, hsi, later⟩ := chain
    have hsa : event.sequence = expected :=
      UInt64.toNat_inj.mp (hs.trans he.symm)
    obtain ⟨next, hn⟩ := checkedSucc_of_fitsSigned (hf event mem_cons_self)
    rw [hsa] at hn
    have valid
        : auth.verifyAuditEventIntegrityHmac decodable (auditEventIntegrityInput event)
            event.integrityHmac
          = .ok true := by
      unfold AuthCore.verifyAuditEventIntegrityHmac
      rw [decodes event mem_cons_self, hsi]
      simp
    unfold verifyAuditEvents
    rw [if_neg (by simp [hsa, hp]), valid, hn]
    refine ih later ?_ (fun other ho => hf other (mem_cons_of_mem _ ho))
      fun other ho => decodes other (mem_cons_of_mem _ ho)
    rw [checkedSucc_eq_some.mp hn, he]

end AuditChain

-- The log

structure AuditLog.Chained (auth : AuthCore) (log : AuditLog) : Prop where
  counted : log.revision = log.events.rows.length
  chain : AuditChain auth 0 "" log.events.rows
  fits : ∀ event ∈ log.events.rows, fitsSigned event.sequence = true

theorem insertAuditEvents_fits {table next : Table auditEventKeys}
    (hi : insertAuditEvents events table = .ok (some next))
    : ∀ event ∈ events, fitsSigned event.sequence := by
  induction events generalizing table with
  | nil => exact fun _ he => absurd he not_mem_nil
  | cons first rest ih =>
    obtain ⟨hf, hi⟩ := guard_of_ok hi
    intro event he
    rcases mem_cons.mp he with same | later
    · rw [same]
      simpa using hf
    · split at hi
      · cases hi
      · split at hi
        · cases hi
        · exact ih hi event later

namespace AuditLog.Chained

variable {log : AuditLog}

theorem empty : AuditLog.empty.Chained auth where
  counted := rfl
  chain := trivial
  fits _ isEvent := absurd isEvent not_mem_nil

variable (hc : log.Chained auth)

include hc in
theorem readEvents_eq : log.readEvents = log.events.rows :=
  hc.chain.sorted

include hc in
/-- The position of the tail is the number of events and the last tag. -/
theorem position (ht : auditPosition log.tail = (sequence, tag))
    : sequence.toNat = log.events.rows.length ∧ tag = lastTag "" log.events.rows
      ∧ fitsSigned sequence := by
  have chain := hc.chain
  have hf := hc.fits
  rw [AuditLog.tail, chain.argmax_eq_getLast?] at ht
  cases hr : log.events.rows using reverseRecOn with
  | nil =>
    rw [hr] at ht
    cases ht
    exact ⟨rfl, rfl, rfl⟩
  | append_singleton front event =>
    rw [hr] at ht chain hf
    rw [getLast?_concat] at ht
    cases ht
    refine ⟨?_, ?_, hf event (by simp)⟩
    · rw [length_append, length_singleton]
      exact chain.last_sequence.trans (by rw [Nat.zero_add])
    · simp [lastTag]

include hc in
/-- Inserting a chain of events after the tail keeps the invariant. -/
theorem extend (ht : auditPosition log.tail = (sequence, tag))
    (chain : AuditChain auth sequence.toNat tag events)
    (hi : insertAuditEvents events log.events = .ok (some table))
    : AuditLog.Chained auth ⟨log.revision + events.length, table⟩ := by
  have rows := insertAuditEvents_rows hi
  obtain ⟨hs, hta, _⟩ := hc.position ht
  refine ⟨?_, ?_, fun event he => ?_⟩
  · rw [rows, length_append, hc.counted]
  · rw [rows, auditChain_append, Nat.zero_add, ← hs, ← hta]
    exact ⟨hc.chain, chain⟩
  · rw [rows] at he
    rcases mem_append.mp he with earlier | new
    · exact hc.fits event earlier
    · exact insertAuditEvents_fits hi event new

include hc in
theorem append {next : AuditLog} (signed : ∀ event ∈ events, event.Signed auth)
    (ha : appendAuditEventsSqlite log sequence tag events = .ok (some next))
    : next.Chained auth := by
  unfold appendAuditEventsSqlite at ha
  split at ha
  · cases ha
  rename_i valid
  split at ha
  · cases ha
  rename_i ht
  rw [ne_eq, not_not] at ht
  rw [Bool.not_eq_true, Bool.not_eq_false', validAuditEventBatch, Bool.and_eq_true] at valid
  obtain ⟨hin, hi, hr⟩ := bind_ok ha
  cases hin with
  | none => cases hr
  | some table =>
    cases hr
    exact hc.extend ht (auditChain_of_continues valid.2 signed) hi

include hc in
/-- The two calls with their own check append one event in the same way. -/
theorem insert {next : AuditLog} (signed : event.Signed auth)
    (valid : validAuditEvent sequence tag event)
    (ha : insertAuditEvent log sequence tag event = .ok (some next))
    : next.Chained auth := by
  unfold insertAuditEvent at ha
  dsimp only at ha
  split at ha
  · cases ha
  rename_i ht
  rw [ne_eq, not_not] at ht
  obtain ⟨hin, hi, hr⟩ := bind_ok ha
  cases hin with
  | none => cases hr
  | some table =>
    cases hr
    simp only [validAuditEvent, Bool.and_eq_true, beq_iff_eq] at valid
    obtain ⟨⟨hs, hp⟩, _⟩ := valid
    obtain ⟨following, hf⟩ := checkedSucc_of_fitsSigned (hc.position ht).2.2
    rw [saturatingSucc_of_checkedSucc hf] at hs
    have hn : event.sequence.toNat = sequence.toNat + 1 := by
      rw [hs]
      exact checkedSucc_eq_some.mp hf
    have chain : AuditChain auth sequence.toNat tag [event] :=
      ⟨hn, hp, signed, trivial⟩
    exact hc.extend ht chain hi

end AuditLog.Chained

-- Runs

section

variable {Others : Type}

/-- What the Controls ask of storage. A write without an audit event changes the other tables
in any way.
-/
inductive AuditOperation (Others : Type)
  | append (expectedSequence : UInt64) (expectedHmac : String) (event : AuditEventRecord)
  | mutate
      (mutation : AuditedRecords Others → Except StorageError (Option (AuditedRecords Others)))
      (expectedSequence : UInt64) (expectedHmac : String) (events : List AuditEventRecord)
  | writeSetting (expected : Option RuntimeSettingRecord) (next : RuntimeSettingRecord)
      (expectedSequence : UInt64) (expectedHmac : String) (event : AuditEventRecord)
  | writeUnaudited (change : AuditedRecords Others → AuditedRecords Others)

def AuditOperation.body (store : AuditedStore Others)
    : AuditOperation Others
      → Except StorageError (AuditedMutationOutcome × Option (AuditedStore Others))
  | append expectedSequence expectedHmac event =>
    appendAuditEvent expectedSequence expectedHmac event store
  | mutate mutation expectedSequence expectedHmac events =>
    mutateWithAudit mutation expectedSequence expectedHmac events store
  | writeSetting expected next expectedSequence expectedHmac event =>
    writeRuntimeSettingWithAudit expected next expectedSequence expectedHmac event store
  | writeUnaudited change => commit .applied { store with records := change store.records }

def AuditOperation.execute (operation : AuditOperation Others) (store : AuditedStore Others)
    : Except StorageError AuditedMutationOutcome × AuditedStore Others :=
  transaction (operation.body ·) store

/-- The events of the operation come from one of the ways in which Control prepares them. -/
def AuditOperation.Prepared (auth : AuthCore) : AuditOperation Others → Prop
  | append expectedSequence expectedHmac event =>
    PreparedBatch auth expectedSequence expectedHmac [event]
  | mutate _ expectedSequence expectedHmac events =>
    PreparedBatch auth expectedSequence expectedHmac events
  | writeSetting _ _ expectedSequence expectedHmac event =>
    PreparedBatch auth expectedSequence expectedHmac [event]
  | writeUnaudited _ => True

/-- An operation runs as one transaction, or is interrupted before it commits. -/
inductive AuditStep (auth : AuthCore)
    : AuditedStore Others → AuditOperation Others → AuditedStore Others → Prop
  | executes {operation : AuditOperation Others} (store : AuditedStore Others)
    (prepared : operation.Prepared auth)
    : AuditStep auth store operation (operation.execute store).2
  | interrupted (store : AuditedStore Others) (operation : AuditOperation Others)
    : AuditStep auth store operation store

abbrev AuditRun (auth : AuthCore)
    : AuditedStore Others → List (AuditOperation Others) → AuditedStore Others → Prop :=
  Run (AuditStep auth)

variable {records : AuditedRecords Others} {appended : Except StorageError (Option AuditLog)}

theorem commitsExactly_commitWithAudit
    : CommitsExactly .applied (commitWithAudit records appended) := by
  refine commitsExactly_bind fun log => ?_
  cases log with
  | none => exact commitsExactly_rollback (by decide)
  | some log => exact commitsExactly_commit

/-- An operation commits exactly when it answers that it is applied. -/
theorem AuditOperation.commitsExactly (operation : AuditOperation Others)
    (store : AuditedStore Others)
    : CommitsExactly .applied (operation.body store) := by
  cases operation with
  | append =>
    exact commitsExactly_guard (by decide) commitsExactly_commitWithAudit
  | mutate =>
    refine commitsExactly_bind fun records => ?_
    cases records with
    | none => exact commitsExactly_rollback (by decide)
    | some records => exact commitsExactly_commitWithAudit
  | writeSetting =>
    refine commitsExactly_guard (by decide) (commitsExactly_guard (by decide) ?_)
    refine commitsExactly_bind fun settings => ?_
    cases settings with
    | none => exact commitsExactly_rollback (by decide)
    | some settings => exact commitsExactly_commitWithAudit
  | writeUnaudited => exact commitsExactly_commit

variable {outcome : AuditedMutationOutcome} {next : AuditedStore Others}

theorem commitWithAudit_eq_ok (he : commitWithAudit records appended = .ok (outcome, some next))
    : appended = .ok (some next.log) := by
  obtain ⟨log, ha, he⟩ := bind_ok he
  cases log with
  | none => cases he
  | some log =>
    cases he
    exact ha

variable {operation : AuditOperation Others} {store : AuditedStore Others}

theorem AuditOperation.chained (prepared : operation.Prepared auth)
    (he : operation.body store = .ok (outcome, some next)) (hc : store.log.Chained auth)
    : next.log.Chained auth := by
  cases operation with
  | append expectedSequence expectedHmac event =>
    obtain ⟨valid, he⟩ := guard_of_commit he
    exact hc.insert (prepared.signed event (by simp)) (by simpa using valid)
      (commitWithAudit_eq_ok he)
  | mutate mutation expectedSequence expectedHmac events =>
    obtain ⟨records, _, he⟩ := bind_ok he
    cases records with
    | none => cases he
    | some records => exact hc.append prepared.signed (commitWithAudit_eq_ok he)
  | writeSetting expected setting expectedSequence expectedHmac event =>
    obtain ⟨_, he⟩ := guard_of_commit he
    obtain ⟨valid, he⟩ := guard_of_commit he
    obtain ⟨settings, _, he⟩ := bind_ok he
    cases settings with
    | none => cases he
    | some settings =>
      exact hc.insert (prepared.signed event (by simp)) (by simpa using valid)
        (commitWithAudit_eq_ok he)
  | writeUnaudited change =>
    cases he
    exact hc

theorem AuditStep.chained (step : AuditStep auth store operation next) (hc : store.log.Chained auth)
    : next.log.Chained auth := by
  cases step with
  | interrupted => exact hc
  | executes _ prepared =>
    rcases transaction_cases (operation.body ·) store with ⟨_, he, _⟩ | hu
    · exact AuditOperation.chained prepared he hc
    · rw [AuditOperation.execute, hu]
      exact hc

/-- What holds of the stored events: the gate counts them and is the last number, they are
numbered from one, each names the tag of the one before it, every tag is that of its event,
and the verification accepts them.
-/
structure AuditLog.Intact (auth : AuthCore) (decodesTag : String → Bool) (log : AuditLog)
    : Prop where
  counted : log.revision = log.readEvents.length
  last : (log.readEvents.getLast?.elim 0 fun event => event.sequence.toNat) = log.revision
  sequences
    : log.readEvents.map (·.sequence.toNat) = range' 1 log.readEvents.length
  linked
    : log.readEvents.map (·.previousEventHmac)
      = ("" :: log.readEvents.map (·.integrityHmac)).dropLast
  signed : ∀ event ∈ log.readEvents, event.Signed auth
  verified : verifyAuditChain auth decodesTag log.revision log.readEvents = .ok ()

theorem AuditEventRecord.Signed.eq_tag (signed : event.Signed auth)
    : event.integrityHmac = auth.auditEventTag (auditEventIntegrityInput event) := by
  obtain ⟨_, ht⟩ := guard_of_ok signed
  exact (Except.ok.inj ht).symm

variable {log : AuditLog}

theorem AuditLog.Chained.last (hc : log.Chained auth)
    : (log.events.rows.getLast?.elim 0 fun event => event.sequence.toNat) = log.revision := by
  have chain := hc.chain
  rw [hc.counted]
  cases hr : log.events.rows using reverseRecOn with
  | nil => rfl
  | append_singleton front event =>
    rw [hr] at chain
    rw [getLast?_concat, length_append, length_singleton]
    exact chain.last_sequence.trans (by rw [Nat.zero_add])

theorem AuditLog.Chained.intact (hc : log.Chained auth)
    (decodes : ∀ input, decodesTag (auth.auditEventTag input))
    : log.Intact auth decodesTag := by
  have hr := hc.readEvents_eq
  have signed := hc.chain.signed
  refine ⟨?_, ?_, ?_, ?_, ?_, ?_⟩ <;> rw [hr]
  · exact hc.counted
  · exact hc.last
  · exact hc.chain.sequences
  · rw [← hc.chain.linked.previous_cons_last, dropLast_concat]
  · exact signed
  · unfold verifyAuditChain
    rw [if_neg (not_not.mpr hc.last)]
    refine hc.chain.verifies rfl hc.fits fun event he => ?_
    rw [(signed event he).eq_tag]
    exact decodes _

/-- In every run of the writers, the log stays intact after each of them, and an operation
that answers with anything but success has changed no table.
-/
theorem audit_log_stays_intact {auth : AuthCore} {decodesTag : String → Bool}
    (decodes : ∀ input, decodesTag (auth.auditEventTag input) = true)
    {records : AuditedRecords Others} {operations : List (AuditOperation Others)}
    {store : AuditedStore Others} (run : AuditRun auth ⟨records, .empty⟩ operations store)
    : store.log.Intact auth decodesTag
      ∧ ∀ operation : AuditOperation Others,
          (operation.execute store).1 ≠ .ok .applied
          → (operation.execute store).2 = store := by
  have hc : store.log.Chained auth :=
    @Run.invariant _ _ _ (fun store => store.log.Chained auth)
      (fun step hc => step.chained hc) _ _ _ run AuditLog.Chained.empty
  refine ⟨hc.intact decodes, fun operation hr => ?_⟩
  exact (transaction_commitsExactly (operation.commitsExactly store)).2 hr

end

/-- Tags of the right size that tell the numbers of the events apart. -/
def sampleAuditCore : AuthCore where
  securityStateTag _ := ""
  auditEventTag input :=
    if input.sequence = 1 then "first__________________________________tag_"
    else "later__________________________________tag_"

def sampleDraft (id action : String) : AuditDraft :=
  ⟨id, none, action, "setting", none, .succeeded, "2026-01-01T00:00:00.000Z"⟩

def sampleAuditEvent (id action tag : String) : AuditEventRecord :=
  { (sampleDraft id action).event 1 "" with integrityHmac := tag }

def sampleFirstEvent : AuditEventRecord :=
  sampleAuditEvent "audit_1" "login" "first__________________________________tag_"

def sampleSecondEvent : AuditEventRecord :=
  sampleAuditEvent "audit_2" "update" "first__________________________________tag_"

def sampleMutation : AuditOperation Nat :=
  .mutate (fun records => .ok (some { records with others := records.others + 1 })) 0 ""
    [sampleSecondEvent]

def sampleRecords : AuditedRecords Nat := ⟨.empty, 0⟩

def sampleLogged : AuditedStore Nat :=
  ((AuditOperation.append 0 "" sampleFirstEvent).execute ⟨sampleRecords, .empty⟩).2

/-- Two Controls have read the empty log: the first appends its event, the mutation of the
second is refused with its event and counts nothing.
-/
theorem sample_second_writer_conflicts
    : AuditRun sampleAuditCore ⟨sampleRecords, .empty⟩ [.append 0 "" sampleFirstEvent]
        sampleLogged
      ∧ sampleMutation.Prepared sampleAuditCore
      ∧ sampleLogged.log.readEvents = [sampleFirstEvent]
      ∧ (sampleMutation.execute sampleLogged).1 = .ok .auditConflict
      ∧ (sampleMutation.execute sampleLogged).2 = sampleLogged
      ∧ verifyAuditChain sampleAuditCore (fun _ => true) sampleLogged.log.revision
          sampleLogged.log.readEvents
        = .ok () := by
  have first : PreparedBatch sampleAuditCore 0 "" [sampleFirstEvent] :=
    @PreparedBatch.event _ none (sampleDraft "audit_1" "login") _ _ _ (by decide +kernel)
  have second : PreparedBatch sampleAuditCore 0 "" [sampleSecondEvent] :=
    @PreparedBatch.event _ none (sampleDraft "audit_2" "update") _ _ _ (by decide +kernel)
  have run
      : AuditRun sampleAuditCore ⟨sampleRecords, .empty⟩ [.append 0 "" sampleFirstEvent]
          sampleLogged :=
    .cons (.executes _ first) (.nil _)
  have hc : (sampleMutation.execute sampleLogged).1 = .ok .auditConflict := by
    decide +kernel
  obtain ⟨intact, hr⟩ :=
    @audit_log_stays_intact _ sampleAuditCore (fun _ => true) (fun _ => rfl) _ _ _ run
  refine ⟨run, second, ?_, hc, hr _ ?_, intact.verified⟩
  · have rows : sampleLogged.log.events.rows = [sampleFirstEvent] := by decide +kernel
    rw [AuditLog.readEvents, rows, mergeSort_singleton]
  · rw [hc]
    decide

end AsterTeam
