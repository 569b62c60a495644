import AsterTeam.Audit.AuditLog
import AsterTeam.Seats.Storage

/-! Logging in and out, changing a password and recognising a session. A login reads the
identity, checks the password against what it has read and inserts a session; these are
separate steps, and other processes may write between them.
-/

namespace AsterTeam.Sessions

open MachineInteger Relational Seats

-- Storage

def identityById (id : String) (db : SeatDatabase) : Option IdentityRecord :=
  db.base.identities.select? IdentityRecord.id id

def identityByEmail (email : String) (db : SeatDatabase) : Option IdentityRecord :=
  db.base.identities.rows.find? fun row => row.email == email && row.status ≠ .deleted

/-- The id and the token digest of a session are unique, and its identity exists. -/
def insertSession (session : SessionRecord) (db : SeatDatabase)
    : Except StorageError SeatDatabase :=
  if db.sessions.any fun row => row.id == session.id || row.tokenHash == session.tokenHash then
    .error .database
  else if (identityById session.identityId db).isNone then .error .database
  else .ok { db with sessions := db.sessions ++ [session] }

structure AuthenticatedSession where
  session : SessionRecord
  identity : IdentityRecord
  deriving DecidableEq

def authenticatedSessionByTokenHash (tokenHash now : String) (db : SeatDatabase)
    : Option AuthenticatedSession :=
  db.sessions.findSome? fun session =>
    if session.tokenHash = tokenHash ∧ now < session.expiresAt then
      ((identityById session.identityId db).filter (·.status == .active)).map
        fun identity => ⟨session, identity⟩
    else none

def deleteSessionByTokenHash (tokenHash : String) (db : SeatDatabase) : SeatDatabase :=
  { db with sessions := db.sessions.filter fun session => session.tokenHash ≠ tokenHash }

structure PasswordUpdate where
  identityId : String
  expectedRevision : UInt32
  passwordHash : String
  passwordChangeRequired : Bool
  (integrityHmac updatedAt : String)
  deriving DecidableEq

def PasswordUpdate.selects (update : PasswordUpdate) (row : IdentityRecord) : Bool :=
  row.id == update.identityId && row.revision == update.expectedRevision && row.status == .active

def setIdentityPassword (update : PasswordUpdate) (row : IdentityRecord) : IdentityRecord :=
  { row with
    passwordHash := update.passwordHash
    passwordChangeRequired := update.passwordChangeRequired
    revision := row.revision + 1
    integrityHmac := update.integrityHmac
    updatedAt := update.updatedAt }

theorem setIdentityPassword_keeps (update : PasswordUpdate)
    : Table.Keeps identityKeys (setIdentityPassword update) := by
  have conflicts_iff (left right : IdentityRecord)
      : identityKeys.conflicts left right
        ↔ left.id = right.id
          ∨ (left.status ≠ .deleted ∧ right.status ≠ .deleted ∧ left.email = right.email) := by
    refine ⟨?_, ?_⟩
    · intro conflict
      rcases conflict with same | rfl | email
      · exact .inl same
      · exact .inl rfl
      · exact .inr email
    · exact Or.imp_right .inr
  refine ⟨?_, ?_⟩
  · intro left right
    rw [conflicts_iff, conflicts_iff]
    rfl
  · intro left right
    rw [conflicts_iff, conflicts_iff]
    rfl

def updateIdentityPasswordAndAuditBody (update : PasswordUpdate) (audit : AuditAppend)
    (db : SeatDatabase)
    : Except StorageError (AuditedMutationOutcome × Option SeatDatabase) :=
  if db.base.identities.rows.countP update.selects ≠ 1 then rollback .mutationConflict
  else
    let identities := db.base.identities.updateWhere update.selects
      (setIdentityPassword update) (setIdentityPassword_keeps update)
    let sessions := db.sessions.filter fun session => session.identityId ≠ update.identityId
    do
      match ← appendAuditEvents { db.base with identities } audit.expectedSequence
        audit.expectedHmac audit.events with
      | none => rollback .auditConflict
      | some base => commit .applied { db with base, sessions }

def updateIdentityPasswordAndAudit (update : PasswordUpdate) (audit : AuditAppend)
    : SeatDatabase → Except StorageError AuditedMutationOutcome × SeatDatabase :=
  transaction (updateIdentityPasswordAndAuditBody update audit)

-- Control

inductive PrincipalKind
  | admin
  | member
  deriving DecidableEq

def roleMatches : PrincipalKind → IdentityRole → Bool
  | .admin, role => role == .owner || role == .admin
  | .member, role => role == .member

inductive SessionError
  | invalidCredentials (kind : PrincipalKind)
  | unauthenticated (kind : PrincipalKind)
  | currentPasswordInvalid (kind : PrincipalKind)
  | newPasswordInvalid (kind : PrincipalKind)
  | featureUnavailable
  | dataIntegrityInvalid
  deriving DecidableEq

structure SessionCore extends SeatSigner where
  sessionIntegrityHmac : SessionRecord → String
  (sessionTokenDigest hashPassword : String → Option String)
  verifyPassword : String → String → Option Bool

section

variable (core : SessionCore)

def verifyIdentityIntegrity (identity : IdentityRecord) : Except SessionError Unit :=
  if identityTag core.toSeatSigner identity ≠ identity.integrityHmac then
    .error .dataIntegrityInvalid
  else .ok ()

def sessionTag (session : SessionRecord) : String :=
  core.sessionIntegrityHmac { session with integrityHmac := "" }

def validPasswordLength (password : String) : Bool :=
  12 ≤ password.utf8ByteSize && password.utf8ByteSize ≤ 1024

inductive LoginPhase
  | read
  | checked
  | inserted
  deriving DecidableEq

/-- A login in progress, with the identity as it was when the login read it. -/
structure Login where
  kind : PrincipalKind
  password : String
  identity : IdentityRecord
  phase : LoginPhase
  deriving DecidableEq

/-- The first step of a login, for an email in its normal form. -/
def readLogin (kind : PrincipalKind) (email password : String) (db : SeatDatabase)
    : Except SessionError Login :=
  if !validPasswordLength password then .error (.invalidCredentials kind)
  else
    match identityByEmail email db with
    | none => .error (.invalidCredentials kind)
    | some identity =>
      if identity.status ≠ .active ∨ !roleMatches kind identity.role then
        .error (.invalidCredentials kind)
      else do
        verifyIdentityIntegrity core identity
        return ⟨kind, password, identity, .read⟩

/-- The second step of a login. Members need a licence for the feature. -/
def checkLogin (licensed : Bool) (login : Login) : Except SessionError Login :=
  match core.verifyPassword login.identity.passwordHash login.password with
  | none => .error .dataIntegrityInvalid
  | some false => .error (.invalidCredentials login.kind)
  | some true =>
    if login.kind = .member ∧ !login.identity.canConsumeModel then
      .error (.invalidCredentials login.kind)
    else if login.kind = .member ∧ !licensed then .error .featureUnavailable
    else .ok { login with phase := .checked }

/-- What the third step inserts, for a fresh id and token. -/
def loginSession (login : Login) (id tokenHash createdAt expiresAt : String) : SessionRecord :=
  let session : SessionRecord :=
    { id, identityId := login.identity.id, tokenHash, expiresAt, integrityHmac := "", createdAt }
  { session with integrityHmac := sessionTag core session }

def verifyAuthenticatedSession (authenticated : AuthenticatedSession)
    : Except SessionError Unit :=
  if sessionTag core authenticated.session ≠ authenticated.session.integrityHmac then
    .error .dataIntegrityInvalid
  else verifyIdentityIntegrity core authenticated.identity

def authenticate (kind : PrincipalKind) (token now : String) (db : SeatDatabase)
    : Except SessionError IdentityRecord :=
  match core.sessionTokenDigest token with
  | none => .error (.unauthenticated kind)
  | some tokenHash =>
    match authenticatedSessionByTokenHash tokenHash now db with
    | none => .error (.unauthenticated kind)
    | some authenticated => do
        verifyAuthenticatedSession core authenticated
        if !roleMatches kind authenticated.identity.role then
          .error (.unauthenticated kind)
        else .ok authenticated.identity

inductive PasswordMutationActor
  | administrator
  | selfService (actor : IdentityRecord) (currentPassword : String)
  | localRecovery

/-- What a member or an administrator has to show to change the own password. -/
def verifyPasswordMutationActor (kind : PrincipalKind) (identity : IdentityRecord)
    (password : String)
    : PasswordMutationActor → Except SessionError Unit
  | .administrator => .ok ()
  | .localRecovery => .ok ()
  | .selfService actor currentPassword => do
      verifyIdentityIntegrity core identity
      if actor ≠ identity then .error (.unauthenticated kind)
      else if !validPasswordLength currentPassword then .error (.currentPasswordInvalid kind)
      else if password = currentPassword ∨ !validPasswordLength password then
        .error (.newPasswordInvalid kind)
      else
        match core.verifyPassword actor.passwordHash currentPassword with
        | none => .error .dataIntegrityInvalid
        | some false => .error (.currentPasswordInvalid kind)
        | some true => .ok ()

/-- The change of a password, from an identity that was read earlier. -/
def applyIdentityPassword (kind : PrincipalKind) (authority : PasswordMutationActor)
    (identity : IdentityRecord) (password : String) (passwordChangeRequired : Bool)
    (updatedAt : String)
    : Except SessionError PasswordUpdate := do
  verifyPasswordMutationActor core kind identity password authority
  if !validPasswordLength password then .error (.newPasswordInvalid kind)
  else
    match core.hashPassword password with
    | none => .error (.newPasswordInvalid kind)
    | some passwordHash =>
      if 2 ^ 32 ≤ identity.revision.toNat + 1 then .error .dataIntegrityInvalid
      else
        let updated : IdentityRecord :=
          { identity with
            passwordHash, passwordChangeRequired, revision := identity.revision + 1
            updatedAt }
        .ok {
          identityId := identity.id
          expectedRevision := identity.revision
          passwordHash
          passwordChangeRequired
          integrityHmac := identityTag core.toSeatSigner updated
          updatedAt }

end

-- Any number of processes on one database

structure SessionSystem where
  db : SeatDatabase
  logins : Nat → Option Login

def SessionSystem.setLogin (system : SessionSystem) (number : Nat) (login : Login)
    : SessionSystem :=
  { system with logins := Function.update system.logins number (some login) }

inductive SessionLabel
  | read (number : Nat) (identityId : String)
  | check (number : Nat)
  | insert (number : Nat) (session : SessionRecord)
  | logout (tokenHash : String)
  | password (update : PasswordUpdate) (answer : Except StorageError AuditedMutationOutcome)
  | status (update : StatusUpdate)
    (answer : Except StorageError (MutationWithAuditOutcome IdentityStatusUpdateOutcome))

/-- A password change or a deactivation of the identity that has committed. -/
def SessionLabel.Revokes (identityId : String) : SessionLabel → Prop
  | password update answer => answer = .ok .applied ∧ update.identityId = identityId
  | status update answer =>
    answer = .ok (.mutation .updated) ∧ update.next.id = identityId
    ∧ update.next.status ≠ .active
  | _ => False

/-- A step of one process. Changes of passwords and of states start from an identity that was
read at any time before, so nothing is said of it here.
-/
inductive SessionStep (core : SessionCore) : SessionSystem → SessionLabel → SessionSystem → Prop
  | read {system : SessionSystem} {number : Nat} {login : Login} (kind : PrincipalKind)
    (email password : String) (free : system.logins number = none)
    (isRead : readLogin core kind email password system.db = .ok login)
    : SessionStep core system (.read number login.identity.id) (system.setLogin number login)
  | check {system : SessionSystem} {number : Nat} {login checked : Login} (licensed : Bool)
    (isLogin : system.logins number = some login) (isRead : login.phase = .read)
    (accepted : checkLogin core licensed login = .ok checked)
    : SessionStep core system (.check number) (system.setLogin number checked)
  | insert {system : SessionSystem} {number : Nat} {login : Login} {db : SeatDatabase}
    (id tokenHash createdAt expiresAt : String)
    (isLogin : system.logins number = some login) (isChecked : login.phase = .checked)
    (inserted
      : insertSession (loginSession core login id tokenHash createdAt expiresAt) system.db = .ok db)
    : SessionStep core system
        (.insert number (loginSession core login id tokenHash createdAt expiresAt))
        (SessionSystem.setLogin { system with db } number { login with phase := .inserted })
  | logout {system : SessionSystem} (tokenHash : String)
    : SessionStep core system (.logout tokenHash)
        { system with db := deleteSessionByTokenHash tokenHash system.db }
  | password {system : SessionSystem} {identity : IdentityRecord} {update : PasswordUpdate}
    (kind : PrincipalKind) (authority : PasswordMutationActor) (newPassword : String)
    (required : Bool) (updatedAt : String) (audit : AuditAppend)
    (prepared : applyIdentityPassword core kind authority identity newPassword required updatedAt
        = .ok update)
    : SessionStep core system
        (.password update (updateIdentityPasswordAndAudit update audit system.db).1)
        { system with db := (updateIdentityPasswordAndAudit update audit system.db).2 }
  | status {system : SessionSystem} {identity : Option IdentityRecord}
    {state : Option (SecurityStateRecord String)} {occupied : List String}
    {update : StatusUpdate} (limit : UInt32) (target : IdentityStatus) (updatedAt : String)
    (audit : Option AuditAppend)
    (prepared : updateMemberStatus core.toSeatSigner limit target updatedAt identity state occupied
        = .ok (some update))
    : SessionStep core system
        (.status update
          (updateMemberIdentityStatusInner update.expected update.next update.expectedState
            update.nextState audit system.db).1)
        { system with
          db := (updateMemberIdentityStatusInner update.expected update.next
            update.expectedState update.nextState audit system.db).2 }

end AsterTeam.Sessions
