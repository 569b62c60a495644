import AsterTeam.Upgrade.Preparation

/-! The evidence for resuming a migration. What is still pending is not compared with the plan
at a position, but as an end of the planned list with the right length.
-/

namespace AsterTeam.Upgrade

namespace MigrationPreflight

def acceptsProgress (preflight : MigrationPreflight) (observed : MigrationInspection) : Bool :=
  preflight.valid
    && observed.valid
    && observed.candidateSchemaVersion == preflight.candidate.candidateSchemaVersion
    && observed.candidateHistorySha256 == preflight.candidate.candidateHistorySha256
    && preflight.candidate.appliedSchemaVersion ≤ observed.appliedSchemaVersion
    && observed.appliedSchemaVersion ≤ preflight.candidate.candidateSchemaVersion
    && (observed.appliedSchemaVersion ≠ preflight.candidate.appliedSchemaVersion
      || observed.appliedHistorySha256 == preflight.candidate.appliedHistorySha256)
    && observed.pending.isSuffixOf preflight.candidate.pending

structure Progress (preflight : MigrationPreflight) (observed : MigrationInspection) : Prop where
  planned : preflight.valid = true
  valid : observed.valid = true
  version : observed.candidateSchemaVersion = preflight.candidate.candidateSchemaVersion
  history : observed.candidateHistorySha256 = preflight.candidate.candidateHistorySha256
  started : preflight.candidate.appliedSchemaVersion ≤ observed.appliedSchemaVersion
  bounded : observed.appliedSchemaVersion ≤ preflight.candidate.candidateSchemaVersion
  origin : observed.appliedSchemaVersion = preflight.candidate.appliedSchemaVersion
    → observed.appliedHistorySha256 = preflight.candidate.appliedHistorySha256
  suffix : observed.pending <:+ preflight.candidate.pending

variable {preflight : MigrationPreflight} {observed : MigrationInspection}

theorem acceptsProgress_iff : preflight.acceptsProgress observed ↔ preflight.Progress observed := by
  simp only [acceptsProgress, Bool.and_eq_true, Bool.or_eq_true, beq_iff_eq, decide_eq_true_eq,
    List.isSuffixOf_iff_suffix, ne_eq, ← imp_iff_not_or]
  constructor
  · rintro ⟨⟨⟨⟨⟨⟨⟨planned, valid⟩, version⟩, history⟩, started⟩, bounded⟩, origin⟩, suffix⟩
    exact ⟨planned, valid, version, history, started, bounded, origin, suffix⟩
  · rintro ⟨planned, valid, version, history, started, bounded, origin, suffix⟩
    exact ⟨⟨⟨⟨⟨⟨⟨planned, valid⟩, version⟩, history⟩, started⟩, bounded⟩, origin⟩, suffix⟩

end MigrationPreflight

/-- As many migrations are pending as versions are missing, and the complete history is the
planned one.
-/
theorem MigrationInspection.complete_of_valid {inspection : MigrationInspection}
    (valid : inspection.valid)
    : inspection.pending.length
        = inspection.candidateSchemaVersion.toNat - inspection.appliedSchemaVersion.toNat
      ∧ (inspection.appliedSchemaVersion = inspection.candidateSchemaVersion
        → inspection.appliedHistorySha256 = inspection.candidateHistorySha256) := by
  simp only [MigrationInspection.valid, Bool.and_eq_true, Bool.or_eq_true, beq_iff_eq,
    decide_eq_true_eq, ← imp_iff_not_or, ne_eq] at valid
  exact ⟨valid.1.1.2.symm, valid.2⟩

open MigrationPreflight

/-- Accepted progress has the planned list without what has been applied since. It stays accepted
up to the planned version, unless the original history is reported with another digest.
-/
theorem accepted_progress_resumes {preflight : MigrationPreflight}
    {observed : MigrationInspection} (accepted : preflight.acceptsProgress observed = true)
    : observed.pending
        = preflight.candidate.pending.drop
            (observed.appliedSchemaVersion.toNat - preflight.current.appliedSchemaVersion.toNat)
      ∧ observed.candidateSchemaVersion = preflight.candidate.candidateSchemaVersion
      ∧ observed.candidateHistorySha256 = preflight.candidate.candidateHistorySha256
      ∧ (observed.pending = []
        → observed.appliedHistorySha256 = preflight.candidate.candidateHistorySha256)
      ∧ ∀ later : MigrationInspection,
        later.valid = true
        → later.candidateSchemaVersion = observed.candidateSchemaVersion
        → later.candidateHistorySha256 = observed.candidateHistorySha256
        → observed.appliedSchemaVersion ≤ later.appliedSchemaVersion
        → later.appliedSchemaVersion ≤ later.candidateSchemaVersion
        → later.pending <:+ observed.pending
        → (preflight.acceptsProgress later = true
          ↔ ¬ (later.appliedSchemaVersion = preflight.current.appliedSchemaVersion
            ∧ later.appliedHistorySha256 ≠ preflight.current.appliedHistorySha256)) := by
  have progress := acceptsProgress_iff.mp accepted
  have planned := progress.planned
  simp only [MigrationPreflight.valid, Bool.and_eq_true, beq_iff_eq, decide_eq_true_eq]
    at planned
  obtain ⟨⟨⟨⟨⟨_, candidateValid⟩, _⟩, _⟩, sameVersion⟩, sameHistory⟩ := planned
  obtain ⟨length, complete⟩ := MigrationInspection.complete_of_valid progress.valid
  obtain ⟨plannedLength, _⟩ := MigrationInspection.complete_of_valid candidateValid
  have started := UInt32.le_iff_toNat_le.mp progress.started
  have bounded := UInt32.le_iff_toNat_le.mp progress.bounded
  have version := progress.version
  rw [version] at length complete
  rw [sameVersion, sameHistory]
  refine ⟨?_, version, progress.history, fun none => ?_, ?_⟩
  · rw [List.suffix_iff_eq_drop.mp progress.suffix, length, plannedLength]
    congr 1
    omega
  · rw [none, List.length_nil] at length
    exact (complete (UInt32.toNat_inj.mp (by omega))).trans progress.history
  · intro later valid laterVersion laterHistory onward target suffix
    rw [acceptsProgress_iff, not_and_not_right]
    refine ⟨fun accepted => accepted.origin, fun origin => ?_⟩
    exact ⟨progress.planned, valid, laterVersion.trans version,
      laterHistory.trans progress.history, UInt32.le_trans progress.started onward,
      (laterVersion.trans version) ▸ target, origin, suffix.trans progress.suffix⟩

def sampleApplied (version : UInt32) (pending : List PendingMigration)
    : MigrationInspection where
  schema := "aster.migration-inspection.v2"
  appliedSchemaVersion := version
  candidateSchemaVersion := 2
  appliedHistorySha256 := if version = 1 then "".pushn 'a' 64 else "".pushn 'b' 64
  candidateHistorySha256 := "".pushn 'b' 64
  pending

def samplePending : PendingMigration :=
  ⟨2, "add-column", "".pushn 'c' 64, "rolling_upgrade_safe"⟩

def samplePreflight : MigrationPreflight :=
  ⟨{ sampleApplied 1 [] with
      candidateSchemaVersion := 1
      candidateHistorySha256 := "".pushn 'a' 64 },
    sampleApplied 1 [samplePending]⟩

theorem sample_migration_resumed
    : samplePreflight.acceptsProgress (sampleApplied 1 [samplePending]) = true
      ∧ samplePreflight.acceptsProgress (sampleApplied 2 []) = true := by
  have accepted
      : samplePreflight.acceptsProgress (sampleApplied 1 [samplePending]) = true := by
    decide +kernel
  exact ⟨accepted, ((accepted_progress_resumes accepted).2.2.2.2 (sampleApplied 2 [])
    (by decide +kernel) rfl rfl (by decide) (by decide) List.nil_suffix).mpr (by decide)⟩

/-- An inspection of the same target, in a database that is already beyond it. -/
theorem progress_beyond_target_refused
    : samplePreflight.acceptsProgress (sampleApplied 1 [samplePending]) = true
      ∧ (sampleApplied 3 []).valid = true
      ∧ (sampleApplied 3 []).pending <:+ [samplePending]
      ∧ (sampleApplied 3 []).appliedSchemaVersion ≠ samplePreflight.current.appliedSchemaVersion
      ∧ samplePreflight.acceptsProgress (sampleApplied 3 []) = false := by
  refine ⟨?_, ?_, List.nil_suffix, by decide, ?_⟩ <;> decide +kernel

end AsterTeam.Upgrade
