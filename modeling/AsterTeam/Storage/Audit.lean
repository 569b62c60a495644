import AsterTeam.AuthCore
import AsterTeam.Storage.Records

/-! The audit log: a batch of events is appended after the tail the writer has read.
Every event continues the sequence and names the tag of the one before it.
-/

namespace AsterTeam

open MachineInteger Relational

def Database.auditTail (db : Database) : Option AuditEventRecord :=
  db.audit.rows.argmax (fun event => event.sequence.toNat)

/-- The sequence number and tag a writer has to continue from. -/
def auditPosition (tail : Option AuditEventRecord) : UInt64 × String :=
  (tail.elim 0 AuditEventRecord.sequence, tail.elim "" AuditEventRecord.integrityHmac)

/-- The loop over a batch: the last sequence number and tag, and the events to come. -/
def continuesAudit : UInt64 → String → List AuditEventRecord → Bool
  | _, _, [] => true
  | sequence, previousHmac, event :: rest =>
    match checkedSucc sequence with
    | none => false
    | some nextSequence =>
      event.sequence == nextSequence
        && event.previousEventHmac == previousHmac
        && event.integrityHmac.utf8ByteSize == 43
        && continuesAudit event.sequence event.integrityHmac rest

def validAuditEventBatch (expectedSequence : UInt64) (expectedHmac : String)
    (events : List AuditEventRecord)
    : Bool :=
  !events.isEmpty && continuesAudit expectedSequence expectedHmac events

/-- The column checks of the audit table that are not enumerations. -/
def auditEventChecks (event : AuditEventRecord) : Bool :=
  event.sequence.toNat > 0
    && (event.previousEventHmac == "" || event.previousEventHmac.length == 43)
    && event.integrityHmac.length == 43

/-- Inserts the events in order; a violated constraint stops with `none`. -/
def insertAuditEvents
    : List AuditEventRecord → Table auditEventKeys
      → Except StorageError (Option (Table auditEventKeys))
  | [], log => .ok (some log)
  | event :: rest, log =>
    if !fitsSigned event.sequence then .error .databaseNotEmpty
    else if !auditEventChecks event then .ok none
    else
      match log.insert? event with
      | none => .ok none
      | some next => insertAuditEvents rest next

/-- Appends a batch inside a transaction; `none` tells the caller to roll back. -/
def appendAuditEvents (db : Database) (expectedSequence : UInt64) (expectedHmac : String)
    (events : List AuditEventRecord)
    : Except StorageError (Option Database) :=
  if !validAuditEventBatch expectedSequence expectedHmac events then .ok none
  else if auditPosition db.auditTail ≠ (expectedSequence, expectedHmac) then .ok none
  else do
    let log ← insertAuditEvents events db.audit
    return log.map fun audit => { db with audit }

theorem insertAuditEvents_rows {log next : Table auditEventKeys}
    (hi : insertAuditEvents events log = .ok (some next))
    : next.rows = log.rows ++ events := by
  induction events generalizing log with
  | nil =>
    cases hi
    rw [List.append_nil]
  | cons event rest ih =>
    obtain ⟨_, hi⟩ := guard_of_ok hi
    split at hi
    · cases hi
    · split at hi
      · cases hi
      · rename_i middle added
        rw [ih hi, (Table.insert?_eq_some.mp added).2, List.append_assoc, List.singleton_append]

/-- An accepted batch is appended to the log as it is, and nothing else changes. -/
theorem appendAuditEvents_rows {db next : Database}
    (ha : appendAuditEvents db expectedSequence expectedHmac events = .ok (some next))
    : next = { db with audit := next.audit } ∧ next.audit.rows = db.audit.rows ++ events := by
  unfold appendAuditEvents at ha
  split at ha
  · cases ha
  split at ha
  · cases ha
  obtain ⟨log, hi, hr⟩ := bind_ok ha
  cases log with
  | none => cases hr
  | some log =>
    cases hr
    exact ⟨rfl, insertAuditEvents_rows hi⟩

end AsterTeam
