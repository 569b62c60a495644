import AsterTeam.Library.Transition
import AsterTeam.Seats.SeatRuns
import AsterTeam.Sessions.Login

/-! Which sessions a password change or a deactivation leaves. Both delete the sessions that
exist when they commit, and both raise the revision of the identity. A login that finds the
revision it has read when it inserts its session has therefore not been overtaken by either;
the code does not compare the two.
-/

namespace AsterTeam.Sessions

open List

open MachineInteger Relational Seats Transition

-- What a committed change does

/-- One identity has a greater revision than before, and the others are as they were. -/
structure Revises (id : String) (db next : SeatDatabase) : Prop where
  others : ∀ other, other ≠ id → identityById other next = identityById other db
  revised
    : ∃ row changed, identityById id db = some row ∧ identityById id next = some changed
      ∧ row.revision < changed.revision

variable {db : SeatDatabase}

theorem identityById_of_mem (hr : row ∈ db.base.identities.rows)
    : identityById row.id db = some row :=
  (Table.select?_eq_some_iff fun same => Or.inl same).mpr ⟨hr, rfl⟩

theorem lt_succ_of_fits {revision : UInt32} (hf : ¬ 2 ^ 32 ≤ revision.toNat + 1)
    : revision < revision + 1 := by
  rw [UInt32.lt_iff_toNat_lt, UInt32.toNat_add]
  have one : (1 : UInt32).toNat = 1 := rfl
  rw [one, Nat.mod_eq_of_lt (not_le.mp hf)]
  exact Nat.lt_succ_self _

/-- An update that selects a row of the identity and raises its revision. -/
theorem revises_of_update {db next : SeatDatabase} {id : String}
    {selected : IdentityRecord → Bool} {change : IdentityRecord → IdentityRecord}
    (rows : next.base.identities.rows
        = db.base.identities.rows.map fun row => if selected row then change row else row)
    (some : db.base.identities.rows.countP selected ≠ 0)
    (hi : ∀ row, selected row = true → row.id = id) (keepsId : ∀ row, (change row).id = row.id)
    (raises : ∀ row, selected row = true → row.revision < (change row).revision)
    : Revises id db next := by
  have hsel (sought : String)
      : identityById sought next
        = (identityById sought db).map fun row => if selected row then change row else row := by
    refine Table.select?_of_rows_map rows (fun row => ?_) sought
    split
    · exact keepsId row
    · rfl
  obtain ⟨row, hro, hs⟩ := countP_pos_iff.mp (Nat.pos_of_ne_zero some)
  have hr := identityById_of_mem hro
  rw [hi row hs] at hr
  refine ⟨fun other ho => ?_, row, change row, hr, ?_, raises row hs⟩
  · rw [hsel]
    cases hf : identityById other db with
    | none => rfl
    | some row =>
      have keyed : row.id = other := Table.key_of_select? hf
      have hu : ¬ selected row := fun hsel =>
        ho (keyed ▸ hi row hsel)
      rw [Option.map_some, if_neg hu]
  · rw [hsel, hr, Option.map_some, if_pos hs]

section

variable {update : PasswordUpdate} {audit : AuditAppend} {db next : SeatDatabase}

theorem passwordBody_commitsExactly
    : CommitsExactly .applied (updateIdentityPasswordAndAuditBody update audit db) := by
  refine commitsExactly_guard (by decide) (commitsExactly_bind fun ha => ?_)
  cases ha with
  | none => exact commitsExactly_rollback (by decide)
  | some base => exact commitsExactly_commit

theorem passwordBody_committed
    (he : updateIdentityPasswordAndAuditBody update audit db = .ok (outcome, some next))
    (hf : ¬ 2 ^ 32 ≤ update.expectedRevision.toNat + 1)
    : Revises update.identityId db next
      ∧ next.sessions = db.sessions.filter fun session =>
        session.identityId ≠ update.identityId := by
  obtain ⟨one, he⟩ := guard_of_commit he
  obtain ⟨hap, ha, he⟩ := bind_ok he
  cases hap with
  | none => cases he
  | some base =>
    cases he
    refine ⟨?_, rfl⟩
    have hb := (appendAuditEvents_rows ha).1
    have selects_id (row : IdentityRecord) (hs : update.selects row = true)
        : row.id = update.identityId ∧ row.revision = update.expectedRevision := by
      simp only [PasswordUpdate.selects, Bool.and_eq_true, beq_iff_eq] at hs
      exact hs.1
    refine @revises_of_update _ _ _ update.selects (setIdentityPassword update) ?_ ?_
      (fun row hs => (selects_id row hs).1) (fun _ => rfl) (fun row hs => ?_)
    · rw [hb]
      rfl
    · rw [not_not.mp one]
      exact Nat.one_ne_zero
    · have hf := hf
      rw [← (selects_id row hs).2] at hf
      exact lt_succ_of_fits hf

theorem fits_of_applyIdentityPassword
    (prepared
      : applyIdentityPassword core kind authority identity password required updatedAt = .ok update)
    : ¬ 2 ^ 32 ≤ update.expectedRevision.toNat + 1 := by
  obtain ⟨_, prepared⟩ := check_eq_ok.mp prepared
  obtain ⟨_, prepared⟩ := guard_of_ok prepared
  split at prepared
  · cases prepared
  · obtain ⟨hf, prepared⟩ := guard_of_ok prepared
    cases prepared
    exact hf

end

section

variable {expected changed : IdentityRecord}
  {expectedState nextState : SecurityStateRecord String} {audit : Option AuditAppend}
  {db next : SeatDatabase} {Outcome : Type}

theorem appendAudit_commitsExactly
    : CommitsExactly (.mutation outcome) (appendAudit db audit outcome) := by
  unfold appendAudit
  cases audit with
  | none => exact commitsExactly_commit
  | some append =>
    refine commitsExactly_bind fun ha => ?_
    cases ha with
    | none => exact commitsExactly_rollback (by simp)
    | some base => exact commitsExactly_commit

theorem statusBody_commitsExactly
    : CommitsExactly (.mutation .updated)
        (updateMemberIdentityStatusBody expected changed expectedState nextState audit db) := by
  refine commitsExactly_guard (by simp) (commitsExactly_guard (by simp) ?_)
  split
  · exact commitsExactly_error
  refine commitsExactly_guard (by simp) (commitsExactly_guard (by simp)
    (commitsExactly_bind fun hu => ?_))
  cases hu with
  | none => exact commitsExactly_rollback (by simp)
  | some next => exact appendAudit_commitsExactly

theorem updateSecurityState_sessions
    (hu : updateSecurityState db expectedState nextState = .ok (some next))
    : next.sessions = db.sessions := by
  obtain ⟨_, hu⟩ := guard_of_ok hu
  dsimp only at hu
  split at hu
  · cases hu
  cases hu
  rfl

theorem appendAudit_sessions (he : appendAudit db audit outcome = .ok (result, some next))
    : next.sessions = db.sessions := by
  unfold appendAudit at he
  cases audit with
  | none =>
    cases he
    rfl
  | some append =>
    obtain ⟨ha, _, he⟩ := bind_ok he
    cases ha with
    | none => cases he
    | some base =>
      cases he
      rfl

variable {result : MutationWithAuditOutcome IdentityStatusUpdateOutcome}

theorem statusBody_selects
    (he : updateMemberIdentityStatusBody expected changed expectedState nextState audit db
        = .ok (result, some next))
    : db.base.identities.rows.countP (readsIdentity expected) = 1
      ∧ ∀ session ∈ next.sessions, session ∈ db.sessions
        ∧ (changed.status ≠ .active → session.identityId ≠ changed.id) := by
  obtain ⟨_, he⟩ := guard_of_commit he
  obtain ⟨_, he⟩ := guard_of_commit he
  split at he
  · cases he
  obtain ⟨one, he⟩ := guard_of_commit he
  dsimp only at he
  obtain ⟨_, he⟩ := guard_of_commit he
  obtain ⟨hst, hu, he⟩ := bind_ok he
  cases hst with
  | none => cases he
  | some hst =>
    refine ⟨not_not.mp one, fun session hs => ?_⟩
    rw [appendAudit_sessions he, updateSecurityState_sessions hu] at hs
    dsimp only at hs
    split at hs
    · obtain ⟨ho, other⟩ := mem_filter.mp hs
      exact ⟨ho, fun _ => of_decide_eq_true other⟩
    · rename_i ha
      exact ⟨hs, fun hi => absurd hi ha⟩

variable {update : StatusUpdate}

theorem statusBody_committed
    (he : updateMemberIdentityStatusBody update.expected update.next update.expectedState
          update.nextState audit db
        = .ok (result, some next)) (hsa : update.next.id = update.expected.id)
    (raises : update.expected.revision < update.next.revision)
    : Revises update.next.id db next := by
  have committed : Committed (.updateStatus 0 update audit) db next :=
    updateStatusBody_committed he
  have selects_id (row : IdentityRecord)
      (hs : readsIdentity update.expected row = true)
      : row.id = update.expected.id ∧ row.revision = update.expected.revision := by
    simp only [readsIdentity, Bool.and_eq_true, beq_iff_eq, and_assoc] at hs
    obtain ⟨id, _, _, revision, _⟩ := hs
    exact ⟨id, revision⟩
  refine revises_of_update committed.identities.2 ?_
    (fun row hs => (selects_id row hs).1.trans hsa.symm) (fun _ => rfl) (fun row hs => ?_)
  · rw [(statusBody_selects he).1]
    exact Nat.one_ne_zero
  · rw [(selects_id row hs).2]
    exact raises

theorem raises_of_updateMemberStatus
    (prepared : updateMemberStatus signer limit target updatedAt identity state occupied
        = .ok (some update))
    : update.next.id = update.expected.id ∧ update.expected.revision < update.next.revision := by
  unfold updateMemberStatus at prepared
  split at prepared
  · cases prepared
  obtain ⟨_, prepared⟩ := guard_of_ok prepared
  split at prepared
  · cases prepared
  obtain ⟨_, _, prepared⟩ := bind_ok prepared
  obtain ⟨_, _, prepared⟩ := bind_ok prepared
  obtain ⟨hf, prepared⟩ := guard_of_ok prepared
  split at prepared
  · cases prepared
  cases prepared
  exact ⟨rfl, lt_succ_of_fits hf⟩

end

-- What a step does

section

variable {core : SessionCore} {system next : SessionSystem} {label : SessionLabel}

/-- What a step can do to identities and sessions. A change of an identity deletes its
sessions if it revokes.
-/
inductive StepEffect (system next : SessionSystem) (label : SessionLabel) : Prop
  | kept (identities : next.db.base = system.db.base)
    (sessions : ∀ session ∈ next.db.sessions, session ∈ system.db.sessions
      ∨ ∃ number, label = .insert number session)
    (quiet : ∀ id, ¬ label.Revokes id)
  | revised (id : String) (revises : Revises id system.db next.db)
    (sessions : ∀ session ∈ next.db.sessions, session ∈ system.db.sessions
      ∧ (label.Revokes session.identityId → session.identityId ≠ id))
    (logins : next.logins = system.logins) (revokes : ∀ other, label.Revokes other → other = id)

theorem StepEffect.unchanged (same : next = system) (quiet : ∀ id, ¬ label.Revokes id)
    : StepEffect system next label :=
  .kept (by rw [same]) (fun session hs => .inl (by rwa [same] at hs)) quiet

theorem SessionStep.effect (hst : SessionStep core system label next)
    : StepEffect system next label := by
  cases hst with
  | read => exact .kept rfl (fun _ => .inl) (fun _ hr => hr)
  | check => exact .kept rfl (fun _ => .inl) (fun _ hr => hr)
  | @insert number login db id tokenHash createdAt expiresAt _ _ hi =>
    obtain ⟨_, hi⟩ := guard_of_ok hi
    obtain ⟨_, hi⟩ := guard_of_ok hi
    cases hi
    refine .kept rfl (fun session hs => ?_) (fun _ hr => hr)
    rcases mem_append.mp hs with ho | hn
    · exact .inl ho
    · rw [mem_singleton.mp hn]
      exact .inr ⟨number, rfl⟩
  | logout tokenHash =>
    exact .kept rfl (fun _ hs => .inl (mem_of_mem_filter hs)) (fun _ hr => hr)
  | @password identity update kind authority newPassword required updatedAt audit prepared =>
    obtain ⟨commits, refuses⟩ := @transaction_commitsExactly _ _ _ _ _ system.db
      (@passwordBody_commitsExactly update audit system.db)
    by_cases ha : (updateIdentityPasswordAndAudit update audit system.db).1 = .ok .applied
    · obtain ⟨revises, sessions⟩ := passwordBody_committed (commits ha)
        (fits_of_applyIdentityPassword prepared)
      refine .revised update.identityId revises (fun session hs => ?_) rfl (fun _ hr => hr.2.symm)
      have hk : session ∈ system.db.sessions.filter fun session =>
          session.identityId ≠ update.identityId := sessions ▸ hs
      obtain ⟨ho, other⟩ := mem_filter.mp hk
      exact ⟨ho, fun _ => of_decide_eq_true other⟩
    · refine .unchanged ?_ (fun _ hr => ha hr.1)
      rw [show (updateIdentityPasswordAndAudit update audit system.db).2 = system.db from
        refuses ha]
  | @status identity state occupied update limit target updatedAt audit prepared =>
    obtain ⟨commits, refuses⟩ := @transaction_commitsExactly _ _ _ _ _ system.db
      (@statusBody_commitsExactly update.expected update.next update.expectedState
        update.nextState audit system.db)
    obtain ⟨hsa, raises⟩ := raises_of_updateMemberStatus prepared
    by_cases hu
        : (updateMemberIdentityStatusInner update.expected update.next update.expectedState
            update.nextState audit system.db).1
          = .ok (.mutation .updated)
    · have he := commits hu
      refine .revised update.next.id (statusBody_committed he hsa raises)
        (fun session hs => ?_) rfl (fun _ hr => hr.2.1.symm)
      obtain ⟨ho, other⟩ := (statusBody_selects he).2 session hs
      exact ⟨ho, fun hr => other hr.2.2⟩
    · refine .unchanged ?_ (fun _ hr => hu hr.1)
      rw [show (updateMemberIdentityStatusInner update.expected update.next
        update.expectedState update.nextState audit system.db).2 = system.db from
        refuses hu]

variable {number : Nat}

/-- A login in a next state began with this step or was there before, for the same identity
as read.
-/
theorem SessionStep.login_cases (hs : SessionStep core system label next)
    (hl : next.logins number = some login)
    : (label = .read number login.identity.id
        ∧ identityById login.identity.id next.db = some login.identity)
      ∨ ∃ before, system.logins number = some before ∧ before.identity = login.identity := by
  have other {changed : Nat} {value : Login} {db : SeatDatabase}
      (hl : (SessionSystem.setLogin ⟨db, system.logins⟩ changed value).logins number = some login)
      : (number = changed ∧ value = login) ∨ system.logins number = some login := by
    unfold SessionSystem.setLogin at hl
    dsimp only at hl
    rw [Function.update_apply] at hl
    split at hl
    · exact .inl ⟨‹_›, Option.some.inj hl⟩
    · exact .inr hl
  cases hs with
  | @read changed value kind email password free hr =>
    rcases other hl with ⟨rfl, rfl⟩ | same
    · refine .inl ⟨rfl, ?_⟩
      obtain ⟨_, hr⟩ := guard_of_ok hr
      split at hr
      · cases hr
      rename_i identity hf
      obtain ⟨_, hr⟩ := guard_of_ok hr
      obtain ⟨_, hr⟩ := check_eq_ok.mp hr
      cases hr
      exact identityById_of_mem (mem_of_find?_eq_some hf)
    · exact .inr ⟨login, same, rfl⟩
  | @check changed value checked licensed hv _ ha =>
    rcases other hl with ⟨rfl, rfl⟩ | same
    · refine .inr ⟨value, hv, ?_⟩
      unfold checkLogin at ha
      split at ha
      · cases ha
      · cases ha
      · obtain ⟨_, ha⟩ := guard_of_ok ha
        obtain ⟨_, ha⟩ := guard_of_ok ha
        cases ha
        rfl
    · exact .inr ⟨login, same, rfl⟩
  | @insert changed value db id tokenHash createdAt expiresAt hv _ _ =>
    rcases other hl with ⟨rfl, rfl⟩ | same
    · exact .inr ⟨value, hv, rfl⟩
    · exact .inr ⟨login, same, rfl⟩
  | logout => exact .inr ⟨login, hl, rfl⟩
  | password => exact .inr ⟨login, hl, rfl⟩
  | status => exact .inr ⟨login, hl, rfl⟩

theorem SessionStep.insert_login (hs : SessionStep core system (.insert number session) next)
    : ∃ login, system.logins number = some login ∧ session.identityId = login.identity.id := by
  cases hs with
  | @insert _ login _ _ _ _ _ hl _ _ => exact ⟨login, hl, rfl⟩

end

-- Runs

/-- The session was inserted by a login after whose read nothing has revoked the sessions of
the identity.
-/
def SessionCurrent (past : List SessionLabel) (session : SessionRecord) : Prop :=
  ∃ number before after, past = before ++ .read number session.identityId :: after
    ∧ .insert number session ∈ after
    ∧ ∀ label ∈ after, ¬ label.Revokes session.identityId

/-- The identity has been revised since a login read it, or nothing has revoked its sessions. -/
def LoginFollowed (past : List SessionLabel) (db : SeatDatabase) (number : Nat)
    (identity : IdentityRecord)
    : Prop :=
  ∃ before after row, past = before ++ .read number identity.id :: after
    ∧ identityById identity.id db = some row ∧ identity.revision ≤ row.revision
    ∧ (row.revision = identity.revision → ∀ label ∈ after, ¬ label.Revokes identity.id)

structure SessionsFollowed (past : List SessionLabel) (system : SessionSystem) : Prop where
  logins
    : ∀ number login, system.logins number = some login
      → LoginFollowed past system.db number login.identity
  sessions : ∀ session ∈ system.db.sessions, SessionCurrent past session

/-- A session is inserted while the identity has the revision that the login has read. -/
def InsertsCurrent (system : SessionSystem) : SessionLabel → Prop
  | .insert number _ =>
    ∀ login, system.logins number = some login
      → (identityById login.identity.id system.db).map (·.revision) = some login.identity.revision
  | _ => True

/-- A step of a system whose insertions compare the revisions. -/
def GuardedStep (core : SessionCore) (system : SessionSystem) (label : SessionLabel)
    (next : SessionSystem)
    : Prop :=
  SessionStep core system label next ∧ InsertsCurrent system label

section

variable {core : SessionCore} {system next : SessionSystem} {label : SessionLabel}
  {past : List SessionLabel} {number : Nat}

theorem LoginFollowed.step (hf : LoginFollowed past system.db number identity)
    (effect : StepEffect system next label)
    : LoginFollowed (past ++ [label]) next.db number identity := by
  obtain ⟨before, after, row, hpa, hr, notLess, quiet⟩ := hf
  have hp : past ++ [label] = before ++ .read number identity.id :: (after ++ [label]) := by
    rw [hpa, append_assoc, cons_append]
  have hq (hu : ¬ label.Revokes identity.id)
      (same : row.revision = identity.revision)
      : ∀ other ∈ after ++ [label], ¬ other.Revokes identity.id := by
    intro other hot
    rcases mem_append.mp hot with ho | hn
    · exact quiet same other ho
    · rw [mem_singleton.mp hn]
      exact hu
  cases effect with
  | kept identities _ hu =>
    refine ⟨before, after ++ [label], row, hp, ?_, notLess, hq (hu identity.id)⟩
    unfold identityById at hr ⊢
    rw [identities]
    exact hr
  | revised id revises _ _ hre =>
    by_cases hi : identity.id = id
    · -- the revision has passed the one that was read
      obtain ⟨old, changed, ho, hc, greater⟩ := revises.revised
      rw [← hi] at ho hc
      rw [hr] at ho
      cases ho
      have hpas : identity.revision < changed.revision := UInt32.lt_of_le_of_lt notLess greater
      exact ⟨before, after ++ [label], changed, hp, hc,
        UInt32.le_of_lt hpas, fun same => absurd hpas (same ▸ UInt32.lt_irrefl _)⟩
    · refine ⟨before, after ++ [label], row, hp, ?_, notLess,
        hq fun revoked => hi (hre identity.id revoked)⟩
      rw [revises.others identity.id hi]
      exact hr

variable {session : SessionRecord}

theorem SessionCurrent.step (current : SessionCurrent past session)
    (hu : ¬ label.Revokes session.identityId)
    : SessionCurrent (past ++ [label]) session := by
  obtain ⟨number, before, after, hp, hi, quiet⟩ := current
  refine ⟨number, before, after ++ [label], ?_, mem_append_left _ hi, ?_⟩
  · rw [hp, append_assoc, cons_append]
  · intro other ho
    rcases mem_append.mp ho with hol | hn
    · exact quiet other hol
    · rw [mem_singleton.mp hn]
      exact hu

/-- A session that a guarded step inserts is current. -/
theorem sessionCurrent_of_insert (hs : GuardedStep core system (.insert number session) next)
    (hf : SessionsFollowed past system)
    : SessionCurrent (past ++ [.insert number session]) session := by
  obtain ⟨login, hl, hsa⟩ := hs.1.insert_login
  obtain ⟨before, after, row, hp, hr, _, quiet⟩ := hf.logins number login hl
  have same := hs.2 login hl
  rw [hr, Option.map_some, Option.some.injEq] at same
  refine ⟨number, before, after ++ [.insert number session], ?_,
    mem_append_right _ mem_cons_self, ?_⟩
  · rw [hp, append_assoc, cons_append, hsa]
  · intro other ho
    rcases mem_append.mp ho with hol | hn
    · rw [hsa]
      exact quiet same other hol
    · rw [mem_singleton.mp hn]
      exact fun hre => hre

theorem SessionsFollowed.step (hs : GuardedStep core system label next)
    (hf : SessionsFollowed past system)
    : SessionsFollowed (past ++ [label]) next := by
  have effect := hs.1.effect
  refine ⟨?_, ?_⟩
  · intro number login hl
    rcases hs.1.login_cases hl with ⟨rfl, hr⟩ | ⟨before, hb, hsa⟩
    · exact ⟨past, [], login.identity, rfl, hr, UInt32.le_refl _,
        fun _ label hla => absurd hla not_mem_nil⟩
    · rw [← hsa]
      exact (hf.logins number before hb).step effect
  · intro session hse
    cases effect with
    | kept _ sessions hu =>
      rcases sessions session hse with ho | ⟨number, rfl⟩
      · exact (hf.sessions session ho).step (hu _)
      · exact sessionCurrent_of_insert hs hf
    | revised id _ sessions _ hre =>
      obtain ⟨ho, other⟩ := sessions session hse
      exact (hf.sessions session ho).step fun revoked => other revoked (hre _ revoked)

end

/-- A request is accepted for a stored session with the digest of its token. -/
theorem session_of_authenticate (ha : authenticate core kind token now db = .ok identity)
    : ∃ session ∈ db.sessions, core.sessionTokenDigest token = some session.tokenHash
      ∧ session.identityId = identity.id := by
  unfold authenticate at ha
  split at ha
  · cases ha
  rename_i tokenHash hd
  split at ha
  · cases ha
  rename_i authenticated hf
  obtain ⟨_, ha⟩ := check_eq_ok.mp ha
  obtain ⟨_, ha⟩ := guard_of_ok ha
  cases ha
  obtain ⟨session, hs, hse⟩ := exists_of_findSome?_eq_some hf
  split at hse
  · rename_i hm
    obtain ⟨identity, hi, rfl⟩ := Option.map_eq_some_iff.mp hse
    have hr := (Option.filter_eq_some_iff.mp hi).1
    exact ⟨session, hs, by rw [hd, hm.1], (Table.key_of_select? hr).symm⟩
  · cases hse

/-- If every session is inserted while the identity has the revision that its login has read,
an accepted session comes from a login whose read no password change and no deactivation of
the identity has followed.
-/
theorem accepted_session_follows_no_revocation {core : SessionCore}
    {first last : SessionSystem} {labels : List SessionLabel}
    (noLogins : ∀ number, first.logins number = none) (noSessions : first.db.sessions = [])
    (run : Run (GuardedStep core) first labels last)
    {kind : PrincipalKind} {token now : String} {identity : IdentityRecord}
    (accepted : authenticate core kind token now last.db = .ok identity)
    : ∃ session ∈ last.db.sessions, core.sessionTokenDigest token = some session.tokenHash
      ∧ session.identityId = identity.id ∧ SessionCurrent labels session := by
  have hi : SessionsFollowed [] first := by
    refine ⟨?_, ?_⟩
    · intro number login hl
      rw [noLogins number] at hl
      cases hl
    · rw [noSessions]
      exact nofun
  have hf := run.history_invariant (fun hst before => before.step hst) hi
  obtain ⟨session, hs, hd, hsa⟩ := session_of_authenticate accepted
  exact ⟨session, hs, hd, hsa, hf.sessions session hs⟩

def sampleCore : SessionCore where
  toSeatSigner := sampleSigner
  sessionIntegrityHmac _ := "session tag"
  sessionTokenDigest := some
  hashPassword := some
  verifyPassword encoded password := some (encoded == password)

def sampleMember : IdentityRecord :=
  { sampleIdentity "identity_member" .member .active 0 with passwordHash := "first password" }

def sampleSystem : SessionSystem where
  db :=
    { base := { Database.empty with identities := ⟨[sampleMember], pairwise_singleton _ _⟩ }
      securityState := .empty
      policies := .empty
      sessions := [] }
  logins _ := none

def sampleLogin (phase : LoginPhase) : Login := ⟨.member, "first password", sampleMember, phase⟩

def SessionSystem.withChecked (system : SessionSystem) (number : Nat) : SessionSystem :=
  (system.setLogin number (sampleLogin .read)).setLogin number (sampleLogin .checked)

def sampleSession (token : String) : SessionRecord :=
  loginSession sampleCore (sampleLogin .checked) token token "t1" "t9"

def SessionSystem.withSample (system : SessionSystem) (number : Nat) (token : String)
    : SessionSystem :=
  SessionSystem.setLogin { system with db := { system.db with sessions := [sampleSession token] } }
    number (sampleLogin .inserted)

section

variable {system : SessionSystem} {number : Nat} {token : String}

theorem sample_reads (free : system.logins number = none)
    (found : readLogin sampleCore .member "identity_member@example" "first password" system.db
      = .ok (sampleLogin .read))
    : SessionStep sampleCore system (.read number "identity_member")
        (system.setLogin number (sampleLogin .read)) :=
  .read .member "identity_member@example" "first password" free found

theorem sample_checks
    : SessionStep sampleCore (system.setLogin number (sampleLogin .read)) (.check number)
        (system.withChecked number) :=
  .check true (Function.update_self ..) rfl rfl

theorem sample_inserts (hl : system.logins number = some (sampleLogin .checked))
    (hf : system.db.sessions = []) (hi : (identityById "identity_member" system.db).isSome)
    : SessionStep sampleCore system (.insert number (sampleSession token))
        (system.withSample number token) := by
  refine .insert token token "t1" "t9" hl rfl ?_
  have hk : (identityById (sampleLogin .checked).identity.id system.db).isNone = false := by
    rw [← Option.not_isSome, show (sampleLogin .checked).identity.id = "identity_member" from rfl,
      hi]
    rfl
  unfold insertSession
  rw [hf, show (loginSession sampleCore (sampleLogin .checked) token token "t1"
    "t9").identityId = (sampleLogin .checked).identity.id from rfl, hk]
  rfl

end

def sampleAccepted : SessionSystem := (sampleSystem.withChecked 0).withSample 0 "token"

theorem sample_session_accepted
    : Run (GuardedStep sampleCore) sampleSystem
        [.read 0 "identity_member", .check 0, .insert 0 (sampleSession "token")] sampleAccepted
      ∧ authenticate sampleCore .member "token" "t2" sampleAccepted.db = .ok sampleMember
      ∧ ∃ session ∈ sampleAccepted.db.sessions,
        sampleCore.sessionTokenDigest "token" = some session.tokenHash
        ∧ session.identityId = "identity_member"
        ∧ SessionCurrent [.read 0 "identity_member", .check 0, .insert 0 (sampleSession "token")]
          session := by
  have hr
      : Run (GuardedStep sampleCore) sampleSystem
          [.read 0 "identity_member", .check 0, .insert 0 (sampleSession "token")]
          sampleAccepted := by
    refine .cons ⟨sample_reads rfl (by decide +kernel), trivial⟩ (.cons ⟨sample_checks, trivial⟩
      (.cons ⟨sample_inserts rfl rfl rfl, fun login hl => ?_⟩ (.nil _)))
    cases hl
    rfl
  have ha
      : authenticate sampleCore .member "token" "t2" sampleAccepted.db
        = .ok sampleMember := by
    decide +kernel
  exact ⟨hr, ha, accepted_session_follows_no_revocation (fun _ => rfl) rfl hr ha⟩

def sampleChange : PasswordUpdate :=
  ⟨"identity_member", 0, "second password", false, "tag", "t1"⟩

def sampleAudit : AuditAppend where
  expectedSequence := 0
  expectedHmac := ""
  events := [{
    id := "audit_first"
    sequence := 1
    actorIdentityId := some "identity_member"
    actorRole := .member
    action := "identity.password.update"
    targetType := "identity"
    targetId := some "identity_member"
    outcome := .succeeded
    previousEventHmac := ""
    integrityHmac := "0123456789012345678901234567890123456789012"
    createdAt := "t1" }]

/-- An earlier login has a session, and another one has checked the same password. -/
def sampleChecked : SessionSystem :=
  ((sampleSystem.withChecked 1).withSample 1 "earlier").withChecked 0

def sampleOvertaken : SessionSystem :=
  { sampleChecked with
    db := (updateIdentityPasswordAndAudit sampleChange sampleAudit sampleChecked.db).2 }

def sampleOvertakenLabels : List SessionLabel :=
  [.read 1 "identity_member", .check 1, .insert 1 (sampleSession "earlier"),
    .read 0 "identity_member", .check 0, .password sampleChange (.ok .applied),
    .insert 0 (sampleSession "token")]

theorem sample_changes
    : SessionStep sampleCore sampleChecked (.password sampleChange (.ok .applied))
        sampleOvertaken := by
  have ha
      : (updateIdentityPasswordAndAudit sampleChange sampleAudit sampleChecked.db).1
        = .ok .applied := by
    decide +kernel
  have prepared
      : applyIdentityPassword sampleCore .member (.selfService sampleMember "first password")
          sampleMember "second password" false "t1"
        = .ok sampleChange := by
    decide +kernel
  rw [← ha]
  exact .password .member (.selfService sampleMember "first password") "second password" false
    "t1" sampleAudit prepared

/-- A login has checked the old password when the password is changed in another session, and
inserts its own afterwards: it is accepted.
-/
theorem session_survives_password_change
    : Run (SessionStep sampleCore) sampleSystem sampleOvertakenLabels
        (sampleOvertaken.withSample 0 "token")
      ∧ authenticate sampleCore .member "earlier" "t2" sampleChecked.db = .ok sampleMember
      ∧ authenticate sampleCore .member "token" "t2" (sampleOvertaken.withSample 0 "token").db
        = .ok (setIdentityPassword sampleChange sampleMember)
      ∧ ∀ session ∈ (sampleOvertaken.withSample 0 "token").db.sessions,
        ¬ SessionCurrent sampleOvertakenLabels session := by
  refine ⟨?_, by decide +kernel, by decide +kernel, ?_⟩
  · have free : sampleOvertaken.db.sessions = [] := by decide +kernel
    have hk : (identityById "identity_member" sampleOvertaken.db).isSome := by
      decide +kernel
    exact .cons (sample_reads rfl (by decide +kernel)) (.cons sample_checks
      (.cons (sample_inserts rfl rfl rfl) (.cons (sample_reads rfl (by decide +kernel))
        (.cons sample_checks (.cons sample_changes
          (.cons (sample_inserts rfl free hk) (.nil _)))))))
  · rintro session hs ⟨number, before, after, hp, _, quiet⟩
    obtain rfl := mem_singleton.mp hs
    have hre
        : (SessionLabel.password sampleChange (.ok .applied)).Revokes
            (sampleSession "token").identityId :=
      ⟨rfl, rfl⟩
    -- the change comes after both reads
    have later : SessionLabel.password sampleChange (.ok .applied) ∈ after := by
      rcases before with _ | ⟨_, _ | ⟨_, _ | ⟨_, _ | ⟨_, _ | ⟨_, _ | ⟨_, _ | ⟨_, _⟩⟩⟩⟩⟩⟩⟩
      all_goals simp [sampleOvertakenLabels] at hp
      · simp [← hp.2]
      · simp [← hp.2.2.2]
    exact quiet _ later hre

end AsterTeam.Sessions
