import AsterTeam.AuthCore

/-! The recorded history of an installation: which licence document may follow which, and
what an observation records.
-/

namespace AsterTeam

inductive LicenseStateError
  | missing
  | io
  | invalidJson
  | integrity
  | clockRollback
  | licenseRollback
  | alreadyInitialized
  | busy
  | recoveryRequired
  | mutationConflict
  deriving DecidableEq

/-- Where a document comes from; `legacy` stands for the first protocol version. -/
inductive LicenseOrigin
  | legacy
  | freeDistribution
  | commercialOrder
  | approvedTrial
  deriving DecidableEq

inductive LicenseBinding
  | unbound
  | installation (installationId machineFingerprintSha256 : String) (transferSequence : Nat)
  deriving DecidableEq

def LicenseBinding.transferSequence : LicenseBinding → Nat
  | .unbound => 0
  | .installation _ _ transferSequence => transferSequence

/-- The claims of a document after its validation. Times are in nanoseconds. -/
structure LicenseClaims where
  licenseId : String
  (issuedAt notBefore : Int)
  expiresAt : Option Int
  origin : LicenseOrigin
  binding : LicenseBinding
  identified : 1 ≤ licenseId.utf8ByteSize ∧ licenseId.utf8ByteSize ≤ 128
  bounded : binding.transferSequence ≤ 10000

/-- A document together with the claims that its verification has accepted. -/
structure VerifiedProductLicense (verify : List UInt8 → Option LicenseClaims) where
  source : List UInt8
  claims : LicenseClaims
  verified : verify source = some claims

def licenseStateSchema : String := "aster.license-state.v2"
def maxLicenseDocumentBytes : Nat := 65536
def clockRollbackTolerance : Int := 300000000000
def observationPersistInterval : Int := 60000000000

structure StateClaims where
  schema : String
  (lastLicenseSha256 lastLicenseId : Option String)
  lastIssuedAt : Int
  lastTransferSequence : Nat
  lastSeenAt : Int
  seatOverLimitFirstObservedAt : Option Int
  deriving DecidableEq

/-- A time as it is stored, without the digits below a millisecond. -/
def formatTime (now : Int) : Int := now - now % 1000000

section

variable {verify : List UInt8 → Option LicenseClaims} (digest : List UInt8 → String)
variable (current : StateClaims) (license : VerifiedProductLicense verify) (now : Int)

def VerifiedProductLicense.isFreeDistribution : Bool :=
  license.claims.origin = .freeDistribution

def isPublicFree : Bool :=
  license.isFreeDistribution && license.claims.binding = .unbound && license.claims.expiresAt.isNone

def isRecordedFree : Bool :=
  isPublicFree license
    && current.lastLicenseId = some license.claims.licenseId
    && current.lastLicenseSha256 = some (digest license.source)

def stateFromLicense : StateClaims where
  schema := licenseStateSchema
  lastLicenseSha256 := some (digest license.source)
  lastLicenseId := some license.claims.licenseId
  lastIssuedAt := license.claims.issuedAt
  lastTransferSequence := license.claims.binding.transferSequence
  lastSeenAt := formatTime now
  seatOverLimitFirstObservedAt := none

def validateSameIdentity : Except LicenseStateError Unit :=
  if license.claims.issuedAt < current.lastIssuedAt
      ∨ license.claims.binding.transferSequence < current.lastTransferSequence then
    .error .licenseRollback
  else if license.claims.binding.transferSequence = current.lastTransferSequence
      ∧ license.claims.issuedAt = current.lastIssuedAt
      ∧ current.lastLicenseSha256.any (· ≠ digest license.source) then
    .error .licenseRollback
  else .ok ()

def validateLicenseProgress : Except LicenseStateError Unit :=
  if license.isFreeDistribution
      ∧ current.lastLicenseSha256 ≠ some (digest license.source) then
    .error .licenseRollback
  else if isRecordedFree digest current license then .ok ()
  else
    match current.lastLicenseId with
    | some currentId =>
      if currentId ≠ license.claims.licenseId then
        if license.claims.issuedAt ≤ current.lastIssuedAt then .error .licenseRollback
        else .ok ()
      else validateSameIdentity digest current license
    | none => validateSameIdentity digest current license

def validateObservation : Except LicenseStateError Unit :=
  match validateLicenseProgress digest current license with
  | .error error => .error error
  | .ok () =>
    if now + clockRollbackTolerance < current.lastSeenAt then .error .clockRollback
    else .ok ()

def observed : StateClaims :=
  let advances :=
    !isRecordedFree digest current license
      && (license.claims.binding.transferSequence > current.lastTransferSequence
        || license.claims.issuedAt > current.lastIssuedAt)
  { current with
    schema := licenseStateSchema
    lastSeenAt := if now > current.lastSeenAt then formatTime now else current.lastSeenAt
    lastTransferSequence :=
      if advances then license.claims.binding.transferSequence
      else current.lastTransferSequence
    lastIssuedAt := if advances then license.claims.issuedAt else current.lastIssuedAt
    lastLicenseSha256 := some (digest license.source)
    lastLicenseId := some license.claims.licenseId }

def observe : Except LicenseStateError StateClaims :=
  match validateObservation digest current license now with
  | .error error => .error error
  | .ok () => .ok (observed digest current license now)

def shouldPersistObservation (updated : StateClaims) (now : Int) : Bool :=
  updated.lastIssuedAt ≠ current.lastIssuedAt
    || updated.lastTransferSequence ≠ current.lastTransferSequence
    || updated.lastLicenseSha256 ≠ current.lastLicenseSha256
    || updated.lastLicenseId ≠ current.lastLicenseId
    || updated.schema ≠ current.schema
    || updated.seatOverLimitFirstObservedAt ≠ current.seatOverLimitFirstObservedAt
    || now ≥ current.lastSeenAt + observationPersistInterval

/-- The history after the explicit switch: the identity of the free document with the
position of the document before it.
-/
def switchedHistory (history : StateClaims) (free : VerifiedProductLicense verify)
    : StateClaims :=
  { history with
    lastLicenseId := some free.claims.licenseId
    lastLicenseSha256 := some (digest free.source)
    seatOverLimitFirstObservedAt := none }

/-- The identity of a history is that of the document. -/
structure StateClaims.Names (current : StateClaims) (license : VerifiedProductLicense verify)
    : Prop where
  sha256 : current.lastLicenseSha256 = some (digest license.source)
  licenseId : current.lastLicenseId = some license.claims.licenseId

structure StateClaims.At (current : StateClaims) (license : VerifiedProductLicense verify)
    : Prop where
  issuedAt : current.lastIssuedAt = license.claims.issuedAt
  sequence : current.lastTransferSequence = license.claims.binding.transferSequence

/-- The document lies behind the position of the history for good: the issue time has moved
on, or it stands and the document has lost its identity, its sequence or its digest.
-/
def StateClaims.Supersedes : Prop :=
  license.claims.issuedAt < current.lastIssuedAt
  ∨ license.claims.issuedAt = current.lastIssuedAt
    ∧ license.claims.binding.transferSequence ≤ current.lastTransferSequence
    ∧ (current.lastLicenseId ≠ some license.claims.licenseId
      ∨ license.claims.binding.transferSequence < current.lastTransferSequence
      ∨ current.lastLicenseSha256 ≠ some (digest license.source))

def StateClaims.Identified : Prop :=
  current.lastLicenseSha256.isSome ∧ current.lastLicenseId.isSome

inductive StateClaims.Advances (current : StateClaims)
    (license : VerifiedProductLicense verify)
    : Prop
  | recordedFree (free : isRecordedFree digest current license = true)
  | newIdentity
      (paid : license.isFreeDistribution = true
        → current.lastLicenseSha256 = some (digest license.source))
      (changed : current.lastLicenseId ≠ some license.claims.licenseId)
      (later : current.lastIssuedAt < license.claims.issuedAt)
  | sameIdentity
      (paid : license.isFreeDistribution = true
        → current.lastLicenseSha256 = some (digest license.source))
      (same : current.lastLicenseId = some license.claims.licenseId)
      (issuedAt : current.lastIssuedAt ≤ license.claims.issuedAt)
      (sequence : current.lastTransferSequence ≤ license.claims.binding.transferSequence)
      (moved : license.claims.binding.transferSequence = current.lastTransferSequence
          → license.claims.issuedAt = current.lastIssuedAt
          → current.lastLicenseSha256 = some (digest license.source))

variable {digest current license}

theorem validateSameIdentity_eq_ok
    (ha : validateSameIdentity digest current license = .ok ()) (identified : current.Identified)
    : current.lastIssuedAt ≤ license.claims.issuedAt
      ∧ current.lastTransferSequence ≤ license.claims.binding.transferSequence
      ∧ (license.claims.binding.transferSequence = current.lastTransferSequence
        → license.claims.issuedAt = current.lastIssuedAt
        → current.lastLicenseSha256 = some (digest license.source)) := by
  unfold validateSameIdentity at ha
  split_ifs at ha with behind equal
  refine ⟨by omega, by omega, ?_⟩
  intro hs sameTime
  obtain ⟨hre, hr⟩ := Option.isSome_iff_exists.mp identified.1
  by_contra hd
  refine equal ⟨hs, sameTime, ?_⟩
  rw [hr] at hd ⊢
  simpa using fun same => hd (congrArg some same)

theorem paid_of
    (kept
      : ¬ (license.isFreeDistribution ∧ current.lastLicenseSha256 ≠ some (digest license.source)))
    : license.isFreeDistribution → current.lastLicenseSha256 = some (digest license.source) := by
  intro hf
  by_contra hd
  exact kept ⟨hf, hd⟩

theorem validateLicenseProgress_eq_ok
    (ha : validateLicenseProgress digest current license = .ok ()) (identified : current.Identified)
    : current.Advances digest license := by
  obtain ⟨currentId, hc⟩ := Option.isSome_iff_exists.mp identified.2
  unfold validateLicenseProgress at ha
  rw [hc] at ha
  dsimp only at ha
  split_ifs at ha with downgrade free hch behind
  · exact .recordedFree free
  · refine .newIdentity (paid_of downgrade) ?_ (by omega)
    rw [hc]
    exact fun same => hch (Option.some.inj same)
  · obtain ⟨issuedAt, sequence, moved⟩ := validateSameIdentity_eq_ok ha identified
    refine .sameIdentity (paid_of downgrade) ?_ issuedAt sequence moved
    rw [hc, not_not.mp hch]

theorem observe_eq_ok {now : Int} (ha : observe digest current license now = .ok updated)
    (identified : current.Identified)
    : current.Advances digest license ∧ updated = observed digest current license now := by
  unfold observe validateObservation at ha
  split at ha
  · cases ha
  next valid =>
    split at valid
    · cases valid
    next progress =>
      exact ⟨validateLicenseProgress_eq_ok progress identified, (Except.ok.inj ha).symm⟩

theorem observed_names (current : StateClaims) (license : VerifiedProductLicense verify) (now : Int)
    : (observed digest current license now).Names digest license :=
  ⟨rfl, rfl⟩

theorem observed_recordedFree (now : Int) (free : isRecordedFree digest current license)
    : (observed digest current license now).lastIssuedAt = current.lastIssuedAt
      ∧ (observed digest current license now).lastTransferSequence
        = current.lastTransferSequence := by
  simp [observed, free]

/-- Outside of a recorded free document, an observation moves to the position of the
document.
-/
theorem observed_at (now : Int) (ha : current.Advances digest license)
    (paid : isRecordedFree digest current license = false)
    : (observed digest current license now).At license := by
  have position
      : ¬ (license.claims.binding.transferSequence > current.lastTransferSequence
            ∨ license.claims.issuedAt > current.lastIssuedAt)
        → current.lastTransferSequence = license.claims.binding.transferSequence
          ∧ current.lastIssuedAt = license.claims.issuedAt := by
    intro hs
    cases ha with
    | recordedFree free =>
      rw [paid] at free
      cases free
    | newIdentity _ _ later => exact absurd (.inr later) hs
    | sameIdentity _ _ issuedAt sequence _ => omega
  by_cases hm
      : license.claims.binding.transferSequence > current.lastTransferSequence
        ∨ license.claims.issuedAt > current.lastIssuedAt
  · refine ⟨?_, ?_⟩ <;> simp [observed, paid, hm]
  · obtain ⟨sequence, issuedAt⟩ := position hm
    refine ⟨?_, ?_⟩ <;> simp [observed, paid, sequence, issuedAt]

theorem observed_issuedAt_le (now : Int) (ha : current.Advances digest license)
    : current.lastIssuedAt ≤ (observed digest current license now).lastIssuedAt := by
  cases hf : isRecordedFree digest current license with
  | true => exact (observed_recordedFree now hf).1.ge
  | false =>
    rw [(observed_at now ha hf).issuedAt]
    cases ha with
    | recordedFree free =>
      rw [hf] at free
      cases free
    | newIdentity _ _ later => exact later.le
    | sameIdentity _ _ issuedAt _ _ => exact issuedAt

theorem StateClaims.Supersedes.not_advances (superseded : current.Supersedes digest license)
    (paid : isPublicFree license = false)
    : ¬ current.Advances digest license := by
  intro ha
  unfold StateClaims.Supersedes at superseded
  cases ha with
  | recordedFree free => simp [isRecordedFree, paid] at free
  | newIdentity _ hc later => omega
  | sameIdentity _ same issuedAt sequence moved =>
    rcases superseded with behind | ⟨hs, hre, hc | passed | hr⟩
    · omega
    · exact hc same
    · omega
    · exact hr (moved (by omega) hs)

variable {last next : VerifiedProductLicense verify}

/-- Moving on to another document supersedes the document at the position. -/
theorem Supersedes.of_at (names : current.Names digest last) (position : current.At last)
    (now : Int) (hd : digest next.source ≠ digest last.source) (ha : current.Advances digest next)
    : (observed digest current next now).Supersedes digest last := by
  have paid : isRecordedFree digest current next = false := by
    by_contra free
    simp only [isRecordedFree, Bool.not_eq_false, Bool.and_eq_true, decide_eq_true_eq] at free
    rw [names.sha256] at free
    exact hd (Option.some.inj free.2).symm
  have moved := observed_at now ha paid
  have sha256 := (@observed_names verify digest current next now).sha256
  unfold StateClaims.Supersedes
  rw [moved.issuedAt, moved.sequence, sha256]
  cases ha with
  | recordedFree free =>
    rw [paid] at free
    cases free
  | newIdentity _ _ later =>
    rw [position.issuedAt] at later
    exact .inl later
  | sameIdentity _ _ issuedAt sequence _ =>
    rw [position.issuedAt] at issuedAt
    rw [position.sequence] at sequence
    rcases issuedAt.lt_or_eq with later | hs
    · exact .inl later
    · refine .inr ⟨hs, sequence, .inr (.inr ?_)⟩
      exact fun same => hd (Option.some.inj same)

/-- A superseded document stays superseded when the history moves on. -/
theorem StateClaims.Supersedes.observed (superseded : current.Supersedes digest license)
    (now : Int) (ha : current.Advances digest next)
    : (AsterTeam.observed digest current next now).Supersedes digest license := by
  have names := @observed_names verify digest current next now
  cases hf : isRecordedFree digest current next with
  | true =>
    obtain ⟨issuedAt, sequence⟩ := observed_recordedFree now hf
    simp only [isRecordedFree, Bool.and_eq_true, decide_eq_true_eq] at hf
    unfold StateClaims.Supersedes
    rw [issuedAt, sequence, names.sha256, names.licenseId, ← hf.1.2, ← hf.2]
    exact superseded
  | false =>
    have moved := observed_at now ha hf
    unfold StateClaims.Supersedes at superseded ⊢
    rw [moved.issuedAt, moved.sequence, names.sha256, names.licenseId]
    cases ha with
    | recordedFree free =>
      rw [hf] at free
      cases free
    | newIdentity _ _ later => exact .inl (by omega)
    | sameIdentity _ same issuedAt sequence unmoved =>
      rcases issuedAt.lt_or_eq with later | hs
      · exact .inl (by omega)
      · rcases superseded with behind | ⟨stood, hre, lost⟩
        · exact .inl (by omega)
        · refine .inr ⟨by omega, by omega, ?_⟩
          rcases lost with hc | passed | hr
          · exact .inl (same ▸ hc)
          · exact .inr (.inl (by omega))
          · rcases sequence.lt_or_eq with further | still
            · exact .inr (.inl (by omega))
            · rw [unmoved still.symm hs.symm] at hr
              exact .inr (.inr hr)

/-- The switch to a free document keeps every other document superseded. -/
theorem StateClaims.Supersedes.switched {history : StateClaims}
    {license free : VerifiedProductLicense verify} (superseded : history.Supersedes digest license)
    (hd : digest free.source ≠ digest license.source)
    : (switchedHistory digest history free).Supersedes digest license := by
  rcases superseded with behind | ⟨stood, hr, _⟩
  · exact .inl behind
  · refine .inr ⟨stood, hr, .inr (.inr ?_)⟩
    exact fun same => hd (Option.some.inj same)

theorem Supersedes.of_switch {history : StateClaims} {free : VerifiedProductLicense verify}
    (position : history.At last) (hd : digest free.source ≠ digest last.source)
    : (switchedHistory digest history free).Supersedes digest last := by
  refine .inr ⟨position.issuedAt.symm, position.sequence.ge, .inr (.inr ?_)⟩
  exact fun same => hd (Option.some.inj same)

end

end AsterTeam
