import AsterTeam.Library.Transition
import AsterTeam.Seats.Storage

/-! The seat registry along every interleaving of the operations of several Controls. -/

namespace AsterTeam.Seats

open List Relational
open Transition (Run)

-- Occupied seats

theorem mem_occupiedIdentityIds {id : String}
    : id ∈ occupiedIdentityIds db
      ↔ ∃ identity ∈ db.identities.rows, occupiesSeat identity ∧ identity.id = id := by
  unfold occupiedIdentityIds
  rw [mem_insertionSort, mem_map]
  simp only [mem_filter, and_assoc]

theorem length_occupiedIdentityIds (db : Database)
    : (occupiedIdentityIds db).length = db.identities.rows.countP occupiesSeat := by
  rw [occupiedIdentityIds, length_insertionSort, length_map, countP_eq_length_filter]

theorem nodup_identityIds (db : Database) : (db.identities.rows.map IdentityRecord.id).Nodup :=
  pairwise_map.mpr (db.identities.distinct.imp fun free same => free (.inl same))

theorem occupiedIdentityIds_sorted (db : Database) : (occupiedIdentityIds db).Pairwise (· < ·) := by
  have hd : (occupiedIdentityIds db).Nodup := by
    rw [occupiedIdentityIds, (perm_insertionSort _ _).nodup_iff]
    exact (nodup_identityIds db).sublist (filter_sublist.map _)
  have sorted : (occupiedIdentityIds db).Pairwise (· ≤ ·) := pairwise_insertionSort _ _
  exact (sorted.and hd).imp fun both => lt_of_le_of_ne both.1 both.2

def PlainId (id : String) : Prop := '\n' ∉ id.toList

theorem count_intercalate_of_cons (id : String) (ids : List String)
    : (encodeSeatRegistry (id :: ids)).toList.count '\n'
      = ((id :: ids).map fun id => id.toList.count '\n').sum + ids.length := by
  rw [encodeSeatRegistry, String.toList_intercalate]
  induction ids generalizing id with
  | nil => simp [intercalate]
  | cons next rest ih =>
    have step
        : "\n".toList.intercalate ((id :: next :: rest).map String.toList)
          = id.toList ++ ("\n".toList
            ++ "\n".toList.intercalate ((next :: rest).map String.toList)) := by
      simp [intercalate]
    rw [step, count_append, count_append, ih next]
    simp only [map_cons, sum_cons, length_cons]
    have newline : "\n".toList.count '\n' = 1 := by decide
    omega

/-- A registry of plain identifiers has one line for each, and another list with the same
registry is not longer.
-/
theorem length_le_of_encode_eq (hn : ids ≠ []) (hp : ∀ id ∈ ids, PlainId id)
    (same : encodeSeatRegistry others = encodeSeatRegistry ids)
    : others.length ≤ ids.length := by
  obtain ⟨id, ids, rfl⟩ := exists_cons_of_ne_nil hn
  cases others with
  | nil => exact Nat.zero_le _
  | cons other rest =>
    have lines := congrArg (fun value => value.toList.count '\n') same
    simp only [count_intercalate_of_cons] at lines
    have none : ((id :: ids).map fun id => id.toList.count '\n').sum = 0 := by
      rw [sum_eq_zero_iff]
      intro count hc
      obtain ⟨plainId, hi, rfl⟩ := mem_map.mp hc
      exact count_eq_zero.mpr (hp plainId hi)
    rw [none] at lines
    rw [length_cons, length_cons]
    omega

-- What a committed operation has written

inductive SeatOperation
  | createIdentity (identity : IdentityRecord) (memberSeatLimit : UInt32)
    (expectedState nextState : SecurityStateRecord String) (initialBalance : UserBalanceRecord)
  | createIdentities (identities : List IdentityRecord) (memberSeatLimit : UInt32)
    (expectedState nextState : SecurityStateRecord String)
    (initialBalances : List UserBalanceRecord) (audit : Option AuditAppend)
    (modelPolicies : List ModelAccessPolicyRecord)
  | updateStatus (memberSeatLimit : UInt32) (update : StatusUpdate) (audit : Option AuditAppend)

namespace SeatOperation

def memberSeatLimit : SeatOperation → UInt32
  | .createIdentity _ limit _ _ _ => limit
  | .createIdentities _ limit _ _ _ _ _ => limit
  | .updateStatus limit _ _ => limit

def expectedState : SeatOperation → SecurityStateRecord String
  | .createIdentity _ _ expected _ _ => expected
  | .createIdentities _ _ expected _ _ _ _ => expected
  | .updateStatus _ update _ => update.expectedState

def nextState : SeatOperation → SecurityStateRecord String
  | .createIdentity _ _ _ next _ => next
  | .createIdentities _ _ _ next _ _ _ => next
  | .updateStatus _ update _ => update.nextState

def audit : SeatOperation → Option AuditAppend
  | .createIdentity _ _ _ _ _ => none
  | .createIdentities _ _ _ _ _ audit _ => audit
  | .updateStatus _ _ audit => audit

def execute : SeatOperation → SeatDatabase → SeatDatabase
  | .createIdentity identity limit expected next balance, db =>
    (createIdentityWithSeatLimit identity limit expected next balance db).2
  | .createIdentities identities limit expected next balances audit policies, db =>
    (createIdentitiesWithSeatLimitInner identities limit expected next balances audit policies db).2
  | .updateStatus _ update audit, db =>
    (updateMemberIdentityStatusInner update.expected update.next update.expectedState
      update.nextState audit db).2

def Writes (operation : SeatOperation) (rows next : List IdentityRecord) : Prop :=
  match operation with
  | .createIdentity identity _ _ _ _ => next = rows ++ [identity]
  | .createIdentities identities _ _ _ _ _ _ => next = rows ++ identities
  | .updateStatus _ update _ =>
    validIdentityStatusTransition update.expected update.next = true
    ∧ next = rows.map fun row =>
        if readsIdentity update.expected row then setIdentityStatus update.next row else row

def WithinLimit (operation : SeatOperation) (rows : List IdentityRecord) : Prop :=
  match operation with
  | .createIdentity identity limit _ _ _ =>
    occupiesSeat identity = true → rows.countP occupiesSeat < limit.toNat
  | .createIdentities identities limit _ _ _ _ _ =>
    rows.countP occupiesSeat + identities.countP occupiesSeat ≤ limit.toNat
  | .updateStatus _ _ _ => True

end SeatOperation

structure Committed (operation : SeatOperation) (db next : SeatDatabase) : Prop where
  isRead : db.securityState? operation.expectedState.key = some operation.expectedState
  registry : next.securityState? operation.expectedState.key = some operation.nextState
  value
    : operation.nextState.value = encodeSeatRegistry (occupiedIdentityIds next.base)
  audited
    : ∀ append, operation.audit = some append
      → auditPosition db.base.auditTail = (append.expectedSequence, append.expectedHmac)
  identities : operation.Writes db.base.identities.rows next.base.identities.rows
  limited : operation.WithinLimit db.base.identities.rows

section

variable {db next : SeatDatabase} {expected nextState : SecurityStateRecord String}

theorem registryAgrees_iff
    : registryAgrees db expected
      ↔ db.securityState? expected.key = some expected
        ∧ expected.value = encodeSeatRegistry (occupiedIdentityIds db.base) := by
  rw [registryAgrees, Bool.and_eq_true, beq_iff_eq, beq_iff_eq]

theorem updateSecurityState_eq_ok (hu : updateSecurityState db expected nextState = .ok (some next))
    (hr : db.securityState? expected.key = some expected) (sameKey : nextState.key = expected.key)
    : next.base = db.base ∧ next.securityState? expected.key = some nextState := by
  obtain ⟨_, hu⟩ := guard_of_ok hu
  dsimp only at hu
  split at hu
  · cases hu
  cases hu
  refine ⟨rfl, ?_⟩
  obtain ⟨hm, _⟩ := (Table.select?_eq_some_iff fun same => same).mp hr
  have hre := @Table.updateWhere_replaces _ _ db.securityState expected
    (fun row => row.key = expected.key && row.value = expected.value
      && row.revision = expected.revision && row.mac = expected.mac
      && row.updatedAt = expected.updatedAt)
    (setSecurityState nextState) (setSecurityState_keeps nextState) hm (by simp)
    (fun other ho hs => by
      simp only [Bool.and_eq_true, decide_eq_true_eq, and_assoc] at hs
      exact Table.eq_of_conflicts ho hm (hs.1 : other.key = expected.key))
  have hn : setSecurityState nextState expected = nextState := by
    rw [setSecurityState, ← sameKey]
  unfold SeatDatabase.securityState?
  rw [hre.select?_eq (fun same => same) rfl, if_pos rfl, hn]

theorem appendAudit_eq_ok {Outcome : Type} {outcome : Outcome} {audit : Option AuditAppend}
    {result : MutationWithAuditOutcome Outcome}
    (he : appendAudit db audit outcome = .ok (result, some next))
    : next.securityState? = db.securityState?
      ∧ next.base.identities = db.base.identities
      ∧ occupiedIdentityIds next.base = occupiedIdentityIds db.base
      ∧ ∀ append, audit = some append
        → auditPosition db.base.auditTail = (append.expectedSequence, append.expectedHmac) := by
  unfold appendAudit at he
  cases audit with
  | none =>
    cases he
    exact ⟨rfl, rfl, rfl, nofun⟩
  | some append =>
    obtain ⟨hap, ha, he⟩ := bind_ok he
    cases hap with
    | none => cases he
    | some base =>
      cases he
      have hb := (appendAuditEvents_rows ha).1
      refine ⟨rfl, by rw [hb], by rw [hb]; rfl, fun other ho => ?_⟩
      cases ho
      unfold appendAuditEvents at ha
      split at ha
      · cases ha
      split at ha
      · cases ha
      · rename_i samePosition
        exact not_not.mp samePosition

end

section

variable {db next : Database}

theorem insertIdentity_eq_ok (hi : insertIdentity identity balance db = .ok next)
    : next.identities.rows = db.identities.rows ++ [identity] ∧ next.audit = db.audit := by
  unfold insertIdentity at hi
  split at hi
  · cases hi
  · rename_i identities ha
    obtain ⟨⟨_, result⟩, hr, hi⟩ := bind_ok hi
    obtain ⟨_, hr⟩ := guard_of_ok hr
    split at hr
    · cases hr
    · cases hr
      cases hi
      exact ⟨(Table.insert?_eq_some.mp ha).2, rfl⟩

theorem insertIdentities_eq_ok (hi : insertIdentities pairs db = .ok next)
    : next.identities.rows = db.identities.rows ++ pairs.map Prod.fst ∧ next.audit = db.audit := by
  induction pairs generalizing db with
  | nil =>
    cases hi
    exact ⟨(append_nil _).symm, rfl⟩
  | cons pair rest ih =>
    obtain ⟨middle, hm, hi⟩ := bind_ok hi
    obtain ⟨rows, audit⟩ := ih hi
    obtain ⟨middleRows, middleAudit⟩ := insertIdentity_eq_ok hm
    refine ⟨?_, audit.trans middleAudit⟩
    rw [rows, middleRows, append_assoc]
    rfl

end

section

variable {db next : SeatDatabase} {limit : UInt32} {expected nextState : SecurityStateRecord String}

theorem createIdentityBody_committed
    (he : createIdentityWithSeatLimitBody identity limit expected nextState balance db
        = .ok (result, some next))
    : Committed (.createIdentity identity limit expected nextState balance) db next := by
  obtain ⟨ha, he⟩ := guard_of_commit he
  obtain ⟨_, he⟩ := guard_of_ok he
  obtain ⟨hl, he⟩ := guard_of_commit he
  obtain ⟨base, hi, he⟩ := bind_ok he
  obtain ⟨hc, he⟩ := guard_of_commit he
  obtain ⟨hw, hu, he⟩ := bind_ok he
  simp only [Bool.not_eq_true', Bool.not_eq_false] at ha
  simp only [not_or, not_not] at hc
  obtain ⟨sameKey, _, hv⟩ := hc
  obtain ⟨hr, _⟩ := registryAgrees_iff.mp ha
  cases hw with
  | none => cases he
  | some hw =>
    cases he
    obtain ⟨hb, hre⟩ := updateSecurityState_eq_ok hu hr sameKey
    obtain ⟨rows, _⟩ := insertIdentity_eq_ok hi
    refine ⟨hr, hre, by rw [hb]; exact hv, nofun, ?_, ?_⟩
    · rw [hb]
      exact rows
    · intro ho
      rw [ho, Bool.true_and, decide_eq_true_eq, length_occupiedIdentityIds] at hl
      exact not_le.mp hl

variable {audit : Option AuditAppend}

theorem createIdentitiesBody_committed {identities : List IdentityRecord}
    {balances : List UserBalanceRecord} (hs : identities.length = balances.length)
    (he : createIdentitiesBody identities limit expected nextState balances audit policies db
        = .ok (result, some next))
    : Committed (.createIdentities identities limit expected nextState balances audit policies)
        db next := by
  obtain ⟨hag, he⟩ := guard_of_commit he
  obtain ⟨hl, he⟩ := guard_of_commit he
  obtain ⟨base, hi, he⟩ := bind_ok he
  obtain ⟨nextPolicies, _, he⟩ := bind_ok he
  obtain ⟨hc, he⟩ := guard_of_commit he
  obtain ⟨hw, hu, he⟩ := bind_ok he
  simp only [Bool.not_eq_true', Bool.not_eq_false] at hag
  simp only [not_or, not_not] at hc
  obtain ⟨sameKey, _, hv⟩ := hc
  obtain ⟨hr, _⟩ := registryAgrees_iff.mp hag
  cases hw with
  | none => cases he
  | some hw =>
    obtain ⟨hb, hre⟩ := updateSecurityState_eq_ok hu hr sameKey
    obtain ⟨sameState, sameIdentities, hoc, audited⟩ := appendAudit_eq_ok he
    obtain ⟨rows, sameAudit⟩ := insertIdentities_eq_ok hi
    rw [map_fst_zip (le_of_eq hs)] at rows
    refine ⟨hr, ?_, ?_, ?_, ?_, ?_⟩
    · rw [sameState]
      exact hre
    · rw [hoc, hb]
      exact hv
    · intro append ha
      have position := audited append ha
      rw [hb] at position
      unfold Database.auditTail at position ⊢
      rw [← sameAudit]
      exact position
    · rw [sameIdentities, hb]
      exact rows
    · rw [length_occupiedIdentityIds] at hl
      exact not_lt.mp hl

theorem updateStatusBody_committed {update : StatusUpdate}
    (he : updateMemberIdentityStatusBody update.expected update.next update.expectedState
          update.nextState audit db
        = .ok (result, some next))
    : Committed (.updateStatus limit update audit) db next := by
  obtain ⟨valid, he⟩ := guard_of_commit he
  obtain ⟨hag, he⟩ := guard_of_commit he
  split at he
  · cases he
  rename_i identities hw
  obtain ⟨_, he⟩ := guard_of_commit he
  dsimp only at he
  obtain ⟨hc, he⟩ := guard_of_commit he
  obtain ⟨hst, hu, he⟩ := bind_ok he
  simp only [Bool.not_eq_true', Bool.not_eq_false] at hag valid
  simp only [not_or, not_not] at hc
  obtain ⟨sameKey, _, hv⟩ := hc
  obtain ⟨hr, _⟩ := registryAgrees_iff.mp hag
  cases hst with
  | none => cases he
  | some hst =>
    obtain ⟨hb, hre⟩ := updateSecurityState_eq_ok hu hr sameKey
    obtain ⟨sameState, sameIdentities, hoc, audited⟩ := appendAudit_eq_ok he
    refine ⟨hr, ?_, ?_, ?_, ⟨valid, ?_⟩, trivial⟩
    · rw [sameState]
      exact hre
    · rw [hoc, hb]
      exact hv
    · intro append ha
      have position := audited append ha
      rw [hb] at position
      exact position
    · rw [sameIdentities, hb]
      exact Table.tryUpdateWhere_eq_some hw

end

theorem SeatOperation.execute_cases (operation : SeatOperation) (db : SeatDatabase)
    : operation.execute db = db ∨ Committed operation db (operation.execute db) := by
  cases operation with
  | createIdentity identity limit expected next balance =>
    rcases transaction_cases
      (createIdentityWithSeatLimitBody identity limit expected next balance) db with
      ⟨_, he, _⟩ | same
    · exact .inr (createIdentityBody_committed he)
    · exact .inl same
  | createIdentities identities limit expected next balances audit policies =>
    rcases transaction_cases
      (createIdentitiesWithSeatLimitBody identities limit expected next balances audit
        policies) db with ⟨_, he, _⟩ | same
    · obtain ⟨shaped, he⟩ := guard_of_commit he
      obtain ⟨_, he⟩ := guard_of_ok he
      simp only [Bool.or_eq_true, decide_eq_true_eq, not_or, not_not] at shaped
      exact .inr (createIdentitiesBody_committed shaped.2 he)
    · exact .inl same
  | updateStatus limit update audit =>
    rcases transaction_cases
      (updateMemberIdentityStatusBody update.expected update.next update.expectedState
        update.nextState audit) db with ⟨_, he, _⟩ | same
    · exact .inr (updateStatusBody_committed he)
    · exact .inl same

-- Histories

/-- The registry lists exactly the identities that occupy a seat, in order. -/
structure RegistryLists (db : SeatDatabase) : Prop where
  listed
    : ∃ record, db.securityState? memberSeatRegistryKey = some record
      ∧ record.value = encodeSeatRegistry (occupiedIdentityIds db.base)
  sorted : (occupiedIdentityIds db.base).Pairwise (· < ·)
  exact
    : ∀ id, id ∈ occupiedIdentityIds db.base
      ↔ ∃ identity ∈ db.base.identities.rows, occupiesSeat identity = true ∧ identity.id = id

theorem registryLists_of_value {db : SeatDatabase} {record : SecurityStateRecord String}
    (hr : db.securityState? memberSeatRegistryKey = some record)
    (hv : record.value = encodeSeatRegistry (occupiedIdentityIds db.base))
    : RegistryLists db :=
  ⟨⟨record, hr, hv⟩, occupiedIdentityIds_sorted db.base, fun _ => mem_occupiedIdentityIds⟩

structure SeatHistory where
  current : SeatDatabase
  past : List SeatDatabase

def SeatHistory.advance (history : SeatHistory) (next : SeatDatabase) : SeatHistory :=
  ⟨next, history.current :: history.past⟩

/-- A moment at which a Control may have read. -/
def SeatHistory.Moment (history : SeatHistory) (db : SeatDatabase) : Prop :=
  db ∈ history.current :: history.past

def seatColumns (identity : IdentityRecord) : String × IdentityStatus × Bool :=
  (identity.id, identity.status, identity.canConsumeModel)

inductive SeatEvent
  | operation (operation : SeatOperation)
  | others

/-- A creation is for new random identifiers and from a registry record that was read. A change
of the status is prepared from reads at any three moments so far. Other transactions keep the
registry and the columns of the seats.
-/
inductive SeatStep (signer : SeatSigner) : SeatHistory → SeatEvent → SeatHistory → Prop
  | createIdentity {history : SeatHistory} {identity : IdentityRecord} {limit : UInt32}
    {expected next : SecurityStateRecord String} {balance : UserBalanceRecord}
    (plain : PlainId identity.id) (isRegistry : expected.key = memberSeatRegistryKey)
    : SeatStep signer history
        (.operation (.createIdentity identity limit expected next balance))
        (history.advance
          ((SeatOperation.createIdentity identity limit expected next balance).execute
            history.current))
  | createIdentities {history : SeatHistory} {identities : List IdentityRecord}
    {limit : UInt32} {expected next : SecurityStateRecord String}
    {balances : List UserBalanceRecord} {audit : Option AuditAppend}
    {policies : List ModelAccessPolicyRecord} (plain : ∀ identity ∈ identities, PlainId identity.id)
    (isRegistry : expected.key = memberSeatRegistryKey)
    : SeatStep signer history
        (.operation (.createIdentities identities limit expected next balances audit policies))
        (history.advance
          ((SeatOperation.createIdentities identities limit expected next balances audit
            policies).execute history.current))
  | updateStatus {history : SeatHistory} {limit : UInt32} {target : IdentityStatus}
    {updatedAt identityId : String} {audit : Option AuditAppend} {update : StatusUpdate}
    {identityRead stateRead seatsRead : SeatDatabase} (firstMoment : history.Moment identityRead)
    (secondMoment : history.Moment stateRead) (thirdMoment : history.Moment seatsRead)
    (prepared : updateMemberStatus signer limit target updatedAt
          (identityRead.base.identities.select? IdentityRecord.id identityId)
          (stateRead.securityState? memberSeatRegistryKey) (occupiedIdentityIds seatsRead.base)
        = .ok (some update))
    : SeatStep signer history (.operation (.updateStatus limit update audit))
        (history.advance ((SeatOperation.updateStatus limit update audit).execute history.current))
  | others {history : SeatHistory} {next : SeatDatabase}
    (sameSeats : next.base.identities.rows.map seatColumns
        = history.current.base.identities.rows.map seatColumns)
    (sameRegistry : next.securityState? memberSeatRegistryKey
        = history.current.securityState? memberSeatRegistryKey)
    : SeatStep signer history .others (history.advance next)

abbrev SeatRun (signer : SeatSigner) : SeatHistory → List SeatEvent → SeatHistory → Prop :=
  Run (SeatStep signer)

/-- The identities of an earlier moment are still there, and may consume as before. -/
def IdentitiesStay (db next : SeatDatabase) : Prop :=
  ∀ identity ∈ db.base.identities.rows, ∃ later ∈ next.base.identities.rows,
    later.id = identity.id ∧ later.canConsumeModel = identity.canConsumeModel

structure HistoryHolds (history : SeatHistory) : Prop where
  lists : RegistryLists history.current
  plain
    : ∀ db, history.Moment db → ∀ identity ∈ db.base.identities.rows, PlainId identity.id
  stay : ∀ db, history.Moment db → IdentitiesStay db history.current

variable {db next : SeatDatabase}

theorem IdentitiesStay.trans (first : IdentitiesStay db middle)
    (second : IdentitiesStay middle next)
    : IdentitiesStay db next := by
  intro identity hi
  obtain ⟨later, hl, hs, sameRight⟩ := first identity hi
  obtain ⟨last, isLast, lastId, lastRight⟩ := second later hl
  exact ⟨last, isLast, lastId.trans hs, lastRight.trans sameRight⟩

theorem HistoryHolds.advance (hh : HistoryHolds history) (lists : RegistryLists next)
    (hpl : ∀ identity ∈ next.base.identities.rows, PlainId identity.id)
    (stay : IdentitiesStay history.current next)
    : HistoryHolds (history.advance next) := by
  refine ⟨lists, fun db hm => ?_, fun db hm => ?_⟩
  · rcases mem_cons.mp hm with rfl | hp
    · exact hpl
    · exact hh.plain db hp
  · rcases mem_cons.mp hm with rfl | hp
    · exact fun identity hi => ⟨identity, hi, rfl, rfl⟩
    · exact (hh.stay db hp).trans stay

-- A prepared change of the status

structure StatusPrepared (limit : UInt32) (identity : Option IdentityRecord)
    (occupied : List String) (update : StatusUpdate)
    : Prop where
  isRead : identity = some update.expected
  isRegistry : update.expectedState.key = memberSeatRegistryKey
  nextValue
    : ∃ seats, nextOccupied limit update.expected update.next.status occupied = .ok seats
      ∧ update.nextState.value = encodeSeatRegistry seats

variable {limit : UInt32}

theorem statusPrepared_of_ok
    (prepared : updateMemberStatus signer limit target updatedAt identity state occupied
        = .ok (some update))
    : StatusPrepared limit identity occupied update := by
  unfold updateMemberStatus at prepared
  split at prepared
  · cases prepared
  rename_i expected he
  obtain ⟨_, prepared⟩ := guard_of_ok prepared
  split at prepared
  · cases prepared
  obtain ⟨⟨record, seats⟩, hv, prepared⟩ := bind_ok prepared
  obtain ⟨nextSeats, hn, prepared⟩ := bind_ok prepared
  obtain ⟨_, prepared⟩ := guard_of_ok prepared
  split at prepared
  · cases prepared
  cases prepared
  unfold verifiedSeatRegistry at hv
  split at hv
  · cases hv
  obtain ⟨ha, hv⟩ := guard_of_ok hv
  obtain ⟨_, hv⟩ := guard_of_ok hv
  cases hv
  simp only [not_or, not_not] at ha
  exact ⟨(Option.filter_eq_some_iff.mp he).1, ha.1, nextSeats, hn, rfl⟩

/-- The seats after a change that takes one are within the limit. -/
theorem length_nextOccupied {expected : IdentityRecord} (hc : expected.canConsumeModel)
    (hn : nextOccupied limit expected .active occupied = .ok seats)
    : seats.length ≤ limit.toNat ∧ seats ≠ [] ∧ ∀ id ∈ seats, id ∈ occupied ∨ id = expected.id := by
  unfold nextOccupied at hn
  rw [if_pos ⟨rfl, hc⟩] at hn
  obtain ⟨free, hn⟩ := guard_of_ok hn
  cases hn
  have length
      : ((occupied.filter (fun value => decide (value ≠ expected.id))
          ++ [expected.id]).insertionSort (· ≤ ·)).length
        = (occupied.filter fun value => decide (value ≠ expected.id)).length + 1 := by
    rw [length_insertionSort, length_append, length_singleton]
  refine ⟨by omega, fun he => ?_, fun id hi => ?_⟩
  · rw [he] at length
    cases length
  · rw [mem_insertionSort, mem_append, mem_filter, mem_singleton] at hi
    exact hi.imp And.left fun same => same

-- One operation

structure SeatOutcome (operation : SeatOperation) (db next : SeatDatabase) : Prop where
  lists : RegistryLists next
  limited
    : (∃ id ∈ occupiedIdentityIds next.base, id ∉ occupiedIdentityIds db.base)
      → (occupiedIdentityIds next.base).length ≤ operation.memberSeatLimit.toNat
  lostRegistry
    : db.securityState? operation.expectedState.key ≠ some operation.expectedState → next = db
  lostAudit
    : ∀ append, operation.audit = some append
      → auditPosition db.base.auditTail ≠ (append.expectedSequence, append.expectedHmac)
      → next = db

theorem Committed.lists (committed : Committed operation db next)
    (hr : operation.expectedState.key = memberSeatRegistryKey)
    : RegistryLists next :=
  registryLists_of_value (hr ▸ committed.registry) committed.value

/-- An operation that keeps the limit if it commits. -/
theorem seatOutcome_of_cases (he : next = db ∨ Committed operation db next)
    (hr : operation.expectedState.key = memberSeatRegistryKey) (lists : RegistryLists db)
    (hl : Committed operation db next
        → (∃ id ∈ occupiedIdentityIds next.base, id ∉ occupiedIdentityIds db.base)
        → (occupiedIdentityIds next.base).length ≤ operation.memberSeatLimit.toNat)
    : SeatOutcome operation db next := by
  rcases he with same | committed
  · refine ⟨same ▸ lists, ?_, fun _ => same, fun _ _ _ => same⟩
    intro had
    obtain ⟨id, ha, notBefore⟩ := had
    rw [same] at ha
    exact absurd ha notBefore
  · exact ⟨committed.lists hr, hl committed,
      fun lost => absurd committed.isRead lost,
      fun append hap lost => absurd (committed.audited append hap) lost⟩

theorem limited_createIdentity
    (committed : Committed (.createIdentity identity limit expected nextState balance) db next)
    (had : ∃ id ∈ occupiedIdentityIds next.base, id ∉ occupiedIdentityIds db.base)
    : (occupiedIdentityIds next.base).length ≤ limit.toNat := by
  have rows : next.base.identities.rows = db.base.identities.rows ++ [identity] :=
    committed.identities
  obtain ⟨id, ha, notBefore⟩ := had
  obtain ⟨later, hl, ho, hi⟩ := mem_occupiedIdentityIds.mp ha
  rw [rows, mem_append, mem_singleton] at hl
  rcases hl with hb | hn
  · exact absurd (mem_occupiedIdentityIds.mpr ⟨later, hb, ho, hi⟩) notBefore
  · rw [hn] at ho
    have free : db.base.identities.rows.countP occupiesSeat < limit.toNat :=
      committed.limited ho
    rw [length_occupiedIdentityIds, rows, countP_append, countP_singleton, ho]
    exact free

theorem limited_createIdentities
    (committed : Committed
          (.createIdentities identities limit expected nextState balances audit policies)
          db next)
    : (occupiedIdentityIds next.base).length ≤ limit.toNat := by
  have rows : next.base.identities.rows = db.base.identities.rows ++ identities :=
    committed.identities
  rw [length_occupiedIdentityIds, rows, countP_append]
  exact committed.limited

/-- A status change that takes a seat is one to an active member that may consume. -/
theorem takes_seat (committed : Committed (.updateStatus limit update audit) db next)
    (had : ∃ id ∈ occupiedIdentityIds next.base, id ∉ occupiedIdentityIds db.base)
    : update.next.status = .active
      ∧ ∃ row ∈ db.base.identities.rows, row.id = update.expected.id ∧ row.canConsumeModel := by
  have rows := committed.identities.2
  obtain ⟨id, ha, notBefore⟩ := had
  obtain ⟨later, hl, ho, hi⟩ := mem_occupiedIdentityIds.mp ha
  rw [rows] at hl
  obtain ⟨row, hr, hc⟩ := mem_map.mp hl
  split_ifs at hc with reads
  · rw [← hc] at ho
    simp only [occupiesSeat, setIdentityStatus, Bool.and_eq_true, beq_iff_eq] at ho
    simp only [readsIdentity, Bool.and_eq_true, beq_iff_eq, and_assoc] at reads
    exact ⟨ho.1, row, hr, reads.1, ho.2⟩
  · rw [← hc] at ho hi
    exact absurd (mem_occupiedIdentityIds.mpr ⟨row, hr, ho, hi⟩) notBefore

theorem limited_updateStatus (hh : HistoryHolds history) (firstMoment : history.Moment identityRead)
    (thirdMoment : history.Moment seatsRead)
    (prepared : StatusPrepared limit
          (identityRead.base.identities.select? IdentityRecord.id identityId)
          (occupiedIdentityIds seatsRead.base) update)
    (committed : Committed (.updateStatus limit update audit) history.current next)
    (ha : ∃ id ∈ occupiedIdentityIds next.base, id ∉ occupiedIdentityIds history.current.base)
    : (occupiedIdentityIds next.base).length ≤ limit.toNat := by
  obtain ⟨isActive, row, hr, hi, hc⟩ := takes_seat committed ha
  have he := Table.mem_of_select? prepared.isRead
  obtain ⟨later, hl, hsam, sameRight⟩ :=
    hh.stay identityRead firstMoment update.expected he
  have hs : later = row :=
    Table.eq_of_conflicts hl hr (.inl (hsam.trans hi.symm))
  rw [hs, hc] at sameRight
  obtain ⟨seats, hn, hv⟩ := prepared.nextValue
  rw [isActive] at hn
  obtain ⟨hsm, hno, hk⟩ := length_nextOccupied sameRight.symm hn
  have hp : ∀ id ∈ seats, PlainId id := by
    intro id hse
    rcases hk id hse with ho | rfl
    · obtain ⟨identity, hid, _, rfl⟩ := mem_occupiedIdentityIds.mp ho
      exact hh.plain seatsRead thirdMoment identity hid
    · exact hh.plain identityRead firstMoment update.expected he
  have hsa
      : encodeSeatRegistry (occupiedIdentityIds next.base) = encodeSeatRegistry seats :=
    committed.value.symm.trans hv
  exact (length_le_of_encode_eq hno hp hsa).trans hsm

-- Runs

variable {operation : SeatOperation}

theorem HistoryHolds.outcome {next : SeatHistory} (hh : HistoryHolds history)
    (hs : SeatStep signer history (.operation operation) next)
    : SeatOutcome operation history.current next.current := by
  cases hs with
  | @createIdentity identity limit expected nextState balance hp hr =>
    exact seatOutcome_of_cases
      (SeatOperation.execute_cases (.createIdentity identity limit expected nextState balance)
        history.current)
      hr hh.lists limited_createIdentity
  | @createIdentities identities limit expected nextState balances audit policies hp
      hr =>
      exact seatOutcome_of_cases
        (SeatOperation.execute_cases
          (.createIdentities identities limit expected nextState balances audit policies)
          history.current)
        hr hh.lists fun committed _ => limited_createIdentities committed
  | @updateStatus limit target updatedAt identityId audit update identityRead stateRead
      seatsRead firstMoment secondMoment thirdMoment prepared =>
      have prepared := statusPrepared_of_ok prepared
      exact seatOutcome_of_cases
        (SeatOperation.execute_cases (.updateStatus limit update audit) history.current)
        prepared.isRegistry hh.lists
        (limited_updateStatus hh firstMoment thirdMoment prepared)

/-- The identities after an operation are those before it, and perhaps new ones. -/
theorem SeatOperation.identities_stay (he : next = db ∨ Committed operation db next)
    (hf : ∀ rows, operation.Writes db.base.identities.rows rows
        → ∀ identity ∈ rows, PlainId identity.id
          ∨ ∃ row ∈ db.base.identities.rows, row.id = identity.id)
    (hpl : ∀ identity ∈ db.base.identities.rows, PlainId identity.id)
    (kept : ∀ rows, operation.Writes db.base.identities.rows rows
        → ∀ identity ∈ db.base.identities.rows, ∃ later ∈ rows, later.id = identity.id
          ∧ later.canConsumeModel = identity.canConsumeModel)
    : (∀ identity ∈ next.base.identities.rows, PlainId identity.id) ∧ IdentitiesStay db next := by
  rcases he with rfl | committed
  · exact ⟨hpl, fun identity hi => ⟨identity, hi, rfl, rfl⟩⟩
  · refine ⟨fun identity hi => ?_, kept _ committed.identities⟩
    rcases hf _ committed.identities identity hi with hp | ⟨row, hr, hs⟩
    · exact hp
    · exact hs ▸ hpl row hr

theorem HistoryHolds.step {next : SeatHistory} (hs : SeatStep signer history event next)
    (hh : HistoryHolds history)
    : HistoryHolds next := by
  have hpl := hh.plain history.current mem_cons_self
  have lists (operation : SeatOperation) (ho : event = .operation operation)
      : RegistryLists next.current :=
    (hh.outcome (ho ▸ hs)).lists
  cases hs with
  | @createIdentity identity limit expected nextState balance hp hre =>
    obtain ⟨stillPlain, stay⟩ := SeatOperation.identities_stay
      (SeatOperation.execute_cases (.createIdentity identity limit expected nextState balance)
        history.current)
      (fun rows hw later hl => by
        rw [show rows = _ from hw, mem_append, mem_singleton] at hl
        rcases hl with hb | rfl
        · exact .inr ⟨later, hb, rfl⟩
        · exact .inl hp)
      hpl
      (fun rows hw row hr =>
        ⟨row, hw ▸ mem_append_left _ hr, rfl, rfl⟩)
    exact hh.advance (lists _ rfl) stillPlain stay
  | @createIdentities identities limit expected nextState balances audit policies hp
      hre =>
      obtain ⟨stillPlain, stay⟩ := SeatOperation.identities_stay
        (SeatOperation.execute_cases
          (.createIdentities identities limit expected nextState balances audit policies)
          history.current)
        (fun rows hw later hl => by
          rw [show rows = _ from hw, mem_append] at hl
          rcases hl with hb | hn
          · exact .inr ⟨later, hb, rfl⟩
          · exact .inl (hp later hn))
        hpl
        (fun rows hw row hr =>
          ⟨row, hw ▸ mem_append_left _ hr, rfl, rfl⟩)
      exact hh.advance (lists _ rfl) stillPlain stay
  | @updateStatus limit target updatedAt identityId audit update identityRead stateRead
      seatsRead firstMoment secondMoment thirdMoment prepared =>
      obtain ⟨stillPlain, stay⟩ := SeatOperation.identities_stay
        (SeatOperation.execute_cases (.updateStatus limit update audit) history.current)
        (fun rows hw later hl => by
          rw [hw.2] at hl
          obtain ⟨row, hr, rfl⟩ := mem_map.mp hl
          exact .inr ⟨row, hr, by split_ifs <;> rfl⟩)
        hpl
        (fun rows hw row hr => by
          rw [hw.2]
          exact ⟨_, mem_map_of_mem hr, by split_ifs <;> rfl, by split_ifs <;> rfl⟩)
      exact hh.advance (lists _ rfl) stillPlain stay
  | @others next hsa hsame =>
    have hsam {rows others : List IdentityRecord}
        (same : rows.map seatColumns = others.map seatColumns)
        (identity : IdentityRecord) (hi : identity ∈ rows)
        : ∃ later ∈ others, seatColumns later = seatColumns identity := by
      have hc := mem_map_of_mem hi (f := seatColumns)
      rw [same] at hc
      exact mem_map.mp hc
    have hsameo
        : occupiedIdentityIds next.base = occupiedIdentityIds history.current.base := by
      have ids (rows : List IdentityRecord)
          : (rows.filter occupiesSeat).map IdentityRecord.id
            = ((rows.map seatColumns).filter fun hco =>
                hco.2.1 == .active && hco.2.2).map Prod.fst := by
        rw [filter_map, map_map]
        rfl
      rw [occupiedIdentityIds, occupiedIdentityIds, ids, ids, hsa]
    obtain ⟨record, hrec, hv⟩ := hh.lists.listed
    refine hh.advance
      (registryLists_of_value (hsame.trans hrec) (by rw [hsameo]; exact hv))
      (fun identity hi => ?_) (fun identity hi => ?_)
    · obtain ⟨row, hr, same⟩ := hsam hsa identity hi
      have sameId : row.id = identity.id := congrArg Prod.fst same
      exact sameId ▸ hpl row hr
    · obtain ⟨later, hl, same⟩ := hsam hsa.symm identity hi
      exact ⟨later, hl, congrArg Prod.fst same, congrArg (fun hco => hco.2.2) same⟩

/-- A database whose registry lists its seats, as the first owner leaves it. -/
structure Opened (db : SeatDatabase) : Prop where
  lists : RegistryLists db
  plain : ∀ identity ∈ db.base.identities.rows, PlainId identity.id

theorem HistoryHolds.opened (ho : Opened db) : HistoryHolds ⟨db, []⟩ := by
  refine ⟨ho.lists, fun other hm => ?_, fun other hm => ?_⟩ <;>
    obtain rfl := mem_singleton.mp hm
  · exact ho.plain
  · exact fun identity hi => ⟨identity, hi, rfl, rfl⟩

/-- In every interleaving the registry lists the occupied seats, an operation that takes a seat
stays within the limit it was authorized with, and one that loses a race changes nothing.
-/
theorem seats_within_limit {signer : SeatSigner} {db : SeatDatabase} (opened : Opened db)
    {events : List SeatEvent} {history : SeatHistory}
    (isRun : SeatRun signer ⟨db, []⟩ events history)
    : RegistryLists history.current
      ∧ ∀ {operation next}, SeatStep signer history (.operation operation) next
        → SeatOutcome operation history.current next.current := by
  have hh : HistoryHolds history :=
    isRun.invariant (fun head before => before.step head) (HistoryHolds.opened opened)
  exact ⟨hh.lists, fun hs => hh.outcome hs⟩

def sampleSigner : SeatSigner := ⟨fun _ => "tag", fun _ _ _ => "mac"⟩

def sampleIdentity (id : String) (role : IdentityRole) (status : IdentityStatus)
    (revision : UInt32)
    : IdentityRecord :=
  { id, email := id ++ "@example", displayName := id, passwordHash := "hash", role, status
    canConsumeModel := role == .member, passwordChangeRequired := false, revision
    integrityHmac := "tag", createdAt := "t0", updatedAt := "t0" }

def sampleBalance (id : String) : UserBalanceRecord :=
  { identityId := id, balanceTokens := 0, reservedTokens := 0, grantedTokens := 0
    consumedTokens := 0, requestCount := 0, rawTokens := 0, billedTokens := 0
    uncachedInput := 0, cachedInput := 0, cacheWrite := 0, outputTokens := 0, revision := 0
    lastLedgerHmac := "", integrityHmac := "tag", updatedAt := "t0" }

def sampleState (value : String) (revision : UInt64) : SecurityStateRecord String :=
  ⟨memberSeatRegistryKey, value, revision, "mac", "t0"⟩

def sampleOpened : SeatDatabase :=
  { base := { Database.empty with
      identities := ⟨[sampleIdentity "identity_owner" .owner .active 0], pairwise_singleton _ _⟩ }
    securityState := ⟨[sampleState "" 0], pairwise_singleton _ _⟩
    policies := .empty
    sessions := [] }

def sampleCreation : SeatOperation :=
  .createIdentities [sampleIdentity "identity_member" .member .active 0] 1 (sampleState "" 0)
    (sampleState "identity_member" 1) [sampleBalance "identity_member"] none []

def sampleUpdate : StatusUpdate :=
  ⟨sampleIdentity "identity_member" .member .active 0,
    sampleIdentity "identity_member" .member .disabled 1,
    sampleState "identity_member" 1, sampleState "" 2⟩

def sampleCreated : SeatDatabase := sampleCreation.execute sampleOpened

def sampleDisabled : SeatDatabase :=
  (SeatOperation.updateStatus 1 sampleUpdate none).execute sampleCreated

theorem sampleOpened_opened : Opened sampleOpened := by
  refine ⟨@registryLists_of_value _ (sampleState "" 0) (by decide +kernel) (by decide +kernel),
    fun identity hi => ?_⟩
  obtain rfl := mem_singleton.mp hi
  unfold PlainId
  decide +kernel

/-- The only seat is taken by a new member and is free again after the member is disabled. -/
theorem sample_seat_taken_and_freed
    : SeatRun sampleSigner ⟨sampleOpened, []⟩
        [.operation sampleCreation, .operation (.updateStatus 1 sampleUpdate none)]
        ⟨sampleDisabled, [sampleCreated, sampleOpened]⟩
      ∧ occupiedIdentityIds sampleCreated.base = ["identity_member"]
      ∧ occupiedIdentityIds sampleDisabled.base = []
      ∧ RegistryLists sampleDisabled
      ∧ SeatOutcome sampleCreation sampleOpened sampleCreated := by
  have creates
      : SeatStep sampleSigner ⟨sampleOpened, []⟩ (.operation sampleCreation)
          ⟨sampleCreated, [sampleOpened]⟩ := by
    refine .createIdentities (fun identity hi => ?_) rfl
    obtain rfl := mem_singleton.mp hi
    unfold PlainId
    decide +kernel
  have hd
      : SeatStep sampleSigner ⟨sampleCreated, [sampleOpened]⟩
          (.operation (.updateStatus 1 sampleUpdate none))
          ⟨sampleDisabled, [sampleCreated, sampleOpened]⟩ :=
    @SeatStep.updateStatus _ _ _ .disabled "t0" "identity_member" _ _ _ _ _ mem_cons_self
      mem_cons_self mem_cons_self (by decide +kernel)
  have hr
      : SeatRun sampleSigner ⟨sampleOpened, []⟩
          [.operation sampleCreation, .operation (.updateStatus 1 sampleUpdate none)]
          ⟨sampleDisabled, [sampleCreated, sampleOpened]⟩ :=
    .cons creates (.cons hd (.nil _))
  have hn : SeatRun sampleSigner ⟨sampleOpened, []⟩ [] ⟨sampleOpened, []⟩ := .nil _
  exact ⟨hr, by decide +kernel, by decide +kernel,
    (seats_within_limit sampleOpened_opened hr).1,
    (seats_within_limit sampleOpened_opened hn).2 creates⟩

end AsterTeam.Seats
