import AsterTeam.Control.Signing
import AsterTeam.Storage.Audit

/-! The audit log with its gate: Control signs events after a tail that it has read earlier,
storage appends them in the transaction of the mutation that they are for, and the whole log
can be verified from its first event.
-/

namespace AsterTeam

open MachineInteger Relational

-- Signing

def ActorRole.text : ActorRole → String
  | owner => "owner"
  | admin => "admin"
  | member => "member"
  | system => "system"
  | runner => "runner"

def AuditOutcome.text : AuditOutcome → String
  | succeeded => "succeeded"
  | failed => "failed"

def IdentityRole.actorRole : IdentityRole → ActorRole
  | owner => .owner
  | admin => .admin
  | member => .member

def auditEventIntegrityInput (event : AuditEventRecord) : AuditEventIntegrityInput where
  id := event.id
  sequence := event.sequence
  actorIdentityId := event.actorIdentityId
  actorRole := event.actorRole.text
  action := event.action
  targetType := event.targetType
  targetId := event.targetId
  outcome := event.outcome.text
  previousEventHmac := event.previousEventHmac
  createdAt := event.createdAt

def signAuditEvent (auth : AuthCore) (event : AuditEventRecord)
    : Except ControlError AuditEventRecord :=
  match auth.auditEventIntegrityHmac (auditEventIntegrityInput event) with
  | .error error => .error (.auth error)
  | .ok integrityHmac => .ok { event with integrityHmac }

structure AuditDraft where
  id : String
  actor : Option IdentityRecord
  (action targetType : String)
  targetId : Option String
  outcome : AuditOutcome
  createdAt : String

def AuditDraft.event (draft : AuditDraft) (sequence : UInt64) (previousEventHmac : String)
    : AuditEventRecord where
  id := draft.id
  sequence
  actorIdentityId := draft.actor.map (·.id)
  actorRole := draft.actor.elim .system (·.role.actorRole)
  action := draft.action
  targetType := draft.targetType
  targetId := draft.targetId
  outcome := draft.outcome
  previousEventHmac
  integrityHmac := ""
  createdAt := draft.createdAt

def prepareAuditEventAt (auth : AuthCore) (tail : Option AuditEventRecord) (draft : AuditDraft)
    : Except ControlError (UInt64 × String × AuditEventRecord) :=
  let (expectedSequence, expectedHmac) := auditPosition tail
  match checkedSucc expectedSequence with
  | none => .error .dataIntegrityInvalid
  | some sequence => do
      let event ← signAuditEvent auth (draft.event sequence expectedHmac)
      return (expectedSequence, expectedHmac, event)

def prepareAuditEvents (auth : AuthCore)
    : UInt64 → String → List AuditDraft → Except ControlError (List AuditEventRecord)
  | _, _, [] => .ok []
  | sequence, previousHmac, draft :: rest =>
    match checkedSucc sequence with
    | none => .error .dataIntegrityInvalid
    | some sequence => do
        let event ← signAuditEvent auth (draft.event sequence previousHmac)
        let events ← prepareAuditEvents auth sequence event.integrityHmac rest
        return event :: events

def prepareAuditEventsForTargets (auth : AuthCore) (tail : Option AuditEventRecord)
    (drafts : List AuditDraft)
    : Except ControlError (UInt64 × String × List AuditEventRecord) :=
  if drafts.isEmpty then .error .dataIntegrityInvalid
  else do
    let (expectedSequence, expectedHmac) := auditPosition tail
    let events ← prepareAuditEvents auth expectedSequence expectedHmac drafts
    return (expectedSequence, expectedHmac, events)

/-- What Control hands to storage: events after a tail that was read at any earlier time. An
event whose id or actor is set afterwards is signed again.
-/
inductive PreparedBatch (auth : AuthCore) : UInt64 → String → List AuditEventRecord → Prop
  | event {tail : Option AuditEventRecord} {draft : AuditDraft} {expectedSequence : UInt64}
    {expectedHmac : String} {event : AuditEventRecord}
    (prepared : prepareAuditEventAt auth tail draft = .ok (expectedSequence, expectedHmac, event))
    : PreparedBatch auth expectedSequence expectedHmac [event]
  | signedAgain {tail : Option AuditEventRecord} {draft : AuditDraft}
    {expectedSequence : UInt64} {expectedHmac : String} {event signed : AuditEventRecord}
    (prepared : prepareAuditEventAt auth tail draft = .ok (expectedSequence, expectedHmac, event))
    (id : String) (actorIdentityId : Option String) (actorRole : ActorRole)
    (again : signAuditEvent auth { event with id, actorIdentityId, actorRole } = .ok signed)
    : PreparedBatch auth expectedSequence expectedHmac [signed]
  | targets {tail : Option AuditEventRecord} {drafts : List AuditDraft}
    {expectedSequence : UInt64} {expectedHmac : String} {events : List AuditEventRecord}
    (prepared : prepareAuditEventsForTargets auth tail drafts
        = .ok (expectedSequence, expectedHmac, events))
    : PreparedBatch auth expectedSequence expectedHmac events

-- Storage

/-- The events with the revision of the gate, which counts them. -/
structure AuditLog where
  revision : Nat
  events : Table auditEventKeys

def AuditLog.empty : AuditLog := ⟨0, .empty⟩

def AuditLog.tail (log : AuditLog) : Option AuditEventRecord :=
  log.events.rows.argmax (fun event => event.sequence.toNat)

/-- Appends a batch inside a transaction: moves the gate, compares the tail and inserts. -/
def appendAuditEventsSqlite (log : AuditLog) (expectedSequence : UInt64)
    (expectedHmac : String) (events : List AuditEventRecord)
    : Except StorageError (Option AuditLog) :=
  if !validAuditEventBatch expectedSequence expectedHmac events then .ok none
  else
    let revision := log.revision + events.length
    if auditPosition log.tail ≠ (expectedSequence, expectedHmac) then .ok none
    else do
      let inserted ← insertAuditEvents events log.events
      return inserted.map fun events => ⟨revision, events⟩

/-- The single event of the two calls that do not use the batch: their own check. -/
def validAuditEvent (expectedSequence : UInt64) (expectedHmac : String)
    (event : AuditEventRecord)
    : Bool :=
  event.sequence == saturatingSucc expectedSequence
    && event.previousEventHmac == expectedHmac
    && event.integrityHmac.utf8ByteSize == 43

/-- Their statements: the gate, the tail and one insertion. -/
def insertAuditEvent (log : AuditLog) (expectedSequence : UInt64) (expectedHmac : String)
    (event : AuditEventRecord)
    : Except StorageError (Option AuditLog) :=
  let revision := log.revision + 1
  if auditPosition log.tail ≠ (expectedSequence, expectedHmac) then .ok none
  else do
    let inserted ← insertAuditEvents [event] log.events
    return inserted.map fun events => ⟨revision, events⟩

structure RuntimeSettingRecord where
  (key value : String)
  revision : UInt64
  (integrityHmac updatedAt : String)
  deriving DecidableEq

def runtimeSettingKeys : Keys RuntimeSettingRecord := Keys.on RuntimeSettingRecord.key

/-- Every table beside the audit log. -/
structure AuditedRecords (Others : Type) where
  settings : Table runtimeSettingKeys
  others : Others

structure AuditedStore (Others : Type) where
  records : AuditedRecords Others
  log : AuditLog

inductive AuditedMutationOutcome
  | applied
  | mutationConflict
  | auditConflict
  deriving DecidableEq

theorem keeps_runtimeSetting (next : RuntimeSettingRecord)
    : Table.Keeps runtimeSettingKeys fun row =>
        { row with
          value := next.value
          revision := next.revision
          integrityHmac := next.integrityHmac
          updatedAt := next.updatedAt } :=
  ⟨Iff.rfl, Iff.rfl⟩

/-- Replaces the expected setting or inserts a new one; `none` if neither is possible. -/
def writeRuntimeSetting (settings : Table runtimeSettingKeys)
    (expected : Option RuntimeSettingRecord) (next : RuntimeSettingRecord)
    : Except StorageError (Option (Table runtimeSettingKeys)) :=
  if !fitsSigned next.revision then .error .databaseNotEmpty
  else
    match expected with
    | some expected =>
      if !fitsSigned expected.revision then .error .databaseNotEmpty
      else
        let selected (row : RuntimeSettingRecord) : Bool :=
          row.key = expected.key && row.revision = expected.revision
            && row.integrityHmac = expected.integrityHmac
        if settings.rows.countP selected = 1 then
          .ok (some (settings.updateWhere selected _ (keeps_runtimeSetting next)))
        else .ok none
    | none => .ok (settings.insert? next)

section

variable {Others : Type}

/-- Ends a transaction with what the append of its events has answered. -/
def commitWithAudit (records : AuditedRecords Others)
    (appended : Except StorageError (Option AuditLog))
    : Except StorageError (AuditedMutationOutcome × Option (AuditedStore Others)) := do
  match ← appended with
  | none => rollback .auditConflict
  | some log => commit .applied ⟨records, log⟩

/-- A mutation of any of the other tables with the append of its events in one transaction.
A mutation that finds its rows changed ends with `none`.
-/
def mutateWithAudit
    (mutation : AuditedRecords Others → Except StorageError (Option (AuditedRecords Others)))
    (expectedSequence : UInt64) (expectedHmac : String) (events : List AuditEventRecord)
    (store : AuditedStore Others)
    : Except StorageError (AuditedMutationOutcome × Option (AuditedStore Others)) := do
  match ← mutation store.records with
  | none => rollback .mutationConflict
  | some records =>
    commitWithAudit records (appendAuditEventsSqlite store.log expectedSequence expectedHmac events)

def writeRuntimeSettingWithAudit (expected : Option RuntimeSettingRecord)
    (next : RuntimeSettingRecord) (expectedSequence : UInt64) (expectedHmac : String)
    (event : AuditEventRecord) (store : AuditedStore Others)
    : Except StorageError (AuditedMutationOutcome × Option (AuditedStore Others)) :=
  let validTransition :=
    (match expected with
      | some expected =>
        next.key == expected.key && next.revision == saturatingSucc expected.revision
      | none => next.revision == 0)
      && !next.key.isEmpty && !next.integrityHmac.isEmpty
  if !validTransition then rollback .mutationConflict
  else if !validAuditEvent expectedSequence expectedHmac event then rollback .auditConflict
  else do
    match ← writeRuntimeSetting store.records.settings expected next with
    | none => rollback .mutationConflict
    | some settings =>
      commitWithAudit { store.records with settings }
        (insertAuditEvent store.log expectedSequence expectedHmac event)

def appendAuditEvent (expectedSequence : UInt64) (expectedHmac : String)
    (event : AuditEventRecord) (store : AuditedStore Others)
    : Except StorageError (AuditedMutationOutcome × Option (AuditedStore Others)) :=
  if !validAuditEvent expectedSequence expectedHmac event then rollback .auditConflict
  else
    commitWithAudit store.records (insertAuditEvent store.log expectedSequence expectedHmac event)

end

-- Verification

/-- Compares a tag with the one of the event; a text that is no tag is an error. -/
def AuthCore.verifyAuditEventIntegrityHmac (auth : AuthCore) (decodesTag : String → Bool)
    (input : AuditEventIntegrityInput) (expected : String)
    : Except AuthError Bool :=
  if !decodesTag expected then .error .invalidContext
  else
    match auth.auditEventIntegrityHmac input with
    | .error error => .error error
    | .ok tag => .ok (tag == expected)

def verifyAuditEvents (auth : AuthCore) (decodesTag : String → Bool)
    : UInt64 → String → List AuditEventRecord → Except ControlError Unit
  | _, _, [] => .ok ()
  | expectedSequence, previousHmac, event :: rest =>
    if event.sequence ≠ expectedSequence ∨ event.previousEventHmac ≠ previousHmac then
      .error .dataIntegrityInvalid
    else
      match auth.verifyAuditEventIntegrityHmac decodesTag (auditEventIntegrityInput event)
        event.integrityHmac with
      | .error error => .error (.auth error)
      | .ok false => .error .dataIntegrityInvalid
      | .ok true =>
        match checkedSucc expectedSequence with
        | none => .error .dataIntegrityInvalid
        | some next => verifyAuditEvents auth decodesTag next event.integrityHmac rest

def verifyAuditChain (auth : AuthCore) (decodesTag : String → Bool) (revision : Nat)
    (events : List AuditEventRecord)
    : Except ControlError Unit :=
  if (events.getLast?.elim 0 fun event => event.sequence.toNat) ≠ revision then
    .error .dataIntegrityInvalid
  else verifyAuditEvents auth decodesTag 1 "" events

def AuditLog.readEvents (log : AuditLog) : List AuditEventRecord :=
  log.events.rows.mergeSort fun first second => first.sequence ≤ second.sequence

end AsterTeam
