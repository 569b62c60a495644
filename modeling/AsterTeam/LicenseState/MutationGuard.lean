import AsterTeam.LicenseState.AntiReplay

/-! What a guard is good for: while it is alive nobody has the exclusive lease, and without
this lease no write touches the licence.
-/

namespace AsterTeam

section

variable {verify : List UInt8 → Option LicenseClaims} {encoding : LicenseEncoding} {target : String}

open Durable (Permits Silent silent_lift silent_require silent_pure silent_bind bind_eq_ok
  require_eq_ok)
open Transition (Run)

def LicenseFiles.recordedSha256 (files : LicenseFiles) : Option (Option String) :=
  files.history.map (·.lastLicenseSha256)

/-- Writes that neither start nor finish an update and name the recorded document. -/
def LicenseFiles.KeepsLicense (files : LicenseFiles) : FileWrite → Prop
  | .history history => files.recordedSha256 = some history.lastLicenseSha256
  | .license _ | .pending _ => False
  | .staged _ | .activation _ => True

variable {mode : StoreMode} {files : LicenseFiles} {change : FileWrite}

theorem FileStep.keepsLicense (hp : FileStep verify encoding target mode files change)
    (hu : mode.lease = false)
    : files.KeepsLicense change := by
  have never : mode.lease ≠ true := by simp [hu]
  cases hp with
  | observe ho idle hm hl =>
    obtain ⟨current, hc, same⟩ := hl.resolve_left never
    rw [LicenseFiles.KeepsLicense, LicenseFiles.recordedSha256, hc, ← same]
    rfl
  | intend hl => exact absurd hl never
  | history hl => exact absurd hl never
  | license hl => exact absurd hl never
  | activation hl => exact absurd hl never
  | finish hl => exact absurd hl never
  | intendStaged hl => exact absurd hl never
  | stagedFile hl => exact absurd hl never
  | stagedActivation hl => exact absurd hl never
  | finishStaged hl => exact absurd hl never
  | stage => trivial
  | acknowledge => trivial

theorem LicenseFiles.KeepsLicense.apply (keeps : files.KeepsLicense change)
    : (Durable.Disk.apply files change).recordedSha256 = files.recordedSha256
      ∧ (Durable.Disk.apply files change).pending = files.pending := by
  cases change with
  | history history => exact ⟨Eq.symm keeps, rfl⟩
  | license => exact keeps.elim
  | pending => exact keeps.elim
  | staged => exact ⟨rfl, rfl⟩
  | activation => exact ⟨rfl, rfl⟩

variable {writes : List FileWrite}

/-- Without the lease an operation keeps the licence, wherever it stops. -/
theorem permits_keepsLicense (permits : Permits (FileStep verify encoding target mode) files writes)
    (hu : mode.lease = false)
    : (∀ change ∈ writes, files.KeepsLicense change)
      ∧ (Durable.after files writes).recordedSha256 = files.recordedSha256
      ∧ (Durable.after files writes).pending = files.pending := by
  induction permits with
  | nil => exact ⟨fun _ hc => absurd hc List.not_mem_nil, rfl, rfl⟩
  | @cons files change rest hp _ ih =>
    have keeps := hp.keepsLicense hu
    obtain ⟨recorded, pending⟩ := keeps.apply
    obtain ⟨restKeeps, restRecorded, restPending⟩ := ih
    refine ⟨?_, restRecorded.trans recorded, restPending.trans pending⟩
    intro later hl
    rcases List.mem_cons.mp hl with hh | ht
    · rw [hh]
      exact keeps
    · have kept := restKeeps later ht
      cases later with
      | history history => exact recorded.symm.trans kept
      | license => exact kept.elim
      | pending => exact kept.elim
      | staged => trivial
      | activation => trivial

variable {now : Int}

theorem guardMutation_eq_ok {available checkTarget : Bool}
    {license : Option (VerifiedProductLicense verify)} {value : Unit}
    (hg : (guardMutation encoding available license checkTarget now files).2 = .ok value)
    : available ∧ files.pending = none
      ∧ files.recordedSha256 = license.map fun document =>
          some (encoding.digest document.source) := by
  obtain ⟨_, ha, hg⟩ := bind_eq_ok (silent_require _ _) hg
  obtain ⟨_, hi, hg⟩ := bind_eq_ok silent_requireNoPendingUpdate hg
  refine ⟨require_eq_ok ha, requireNoPendingUpdate_eq_ok hi, ?_⟩
  dsimp only at hg
  cases license with
  | some license =>
    obtain ⟨current, hc, hg⟩ := bind_eq_ok silent_load hg
    obtain ⟨_, hr, _⟩ := bind_eq_ok (silent_require _ _) hg
    have hre := require_eq_ok hr
    rw [decide_eq_true_eq] at hre
    rw [LicenseFiles.recordedSha256, (load_eq_ok hc).1, Option.map_some, hre]
    rfl
  | none =>
    obtain ⟨hre, hr, hg⟩ := bind_eq_ok silent_readHistory hg
    obtain ⟨_, hab, _⟩ := bind_eq_ok (silent_require _ _) hg
    have absent := require_eq_ok hab
    rw [(readHistory_eq_ok hr).1, Option.isNone_iff_eq_none] at absent
    rw [LicenseFiles.recordedSha256, absent]
    rfl

/-- Every guard names the recorded document, no update is pending under a guard, and a free
switch is alone.
-/
structure StoreSystem.Guarded (system : StoreSystem verify) : Prop where
  recorded : ∀ guard ∈ system.guards, system.files.recordedSha256 = guard.map some
  idle : system.guards ≠ [] → system.files.pending = none
  alone : system.switching.isSome = true → system.guards = []

variable {system : StoreSystem verify}

theorem StoreSystem.exclusive_eq_false (guarded : system.guards ≠ [])
    : system.exclusive = false := by
  simp [StoreSystem.exclusive, guarded]

variable {next : StoreSystem verify}

theorem StoreStep.keepsLicense (step : StoreStep encoding target system (event, writes) next)
    (alone : system.switching.isSome → system.guards = []) (guarded : system.guards ≠ [])
    : (∀ change ∈ writes, system.files.KeepsLicense change)
      ∧ next.files.recordedSha256 = system.files.recordedSha256
      ∧ next.files.pending = system.files.pending := by
  obtain ⟨permits, hn⟩ := step.permits
  rw [hn]
  refine permits_keepsLicense permits ?_
  have hu := StoreSystem.exclusive_eq_false guarded
  cases step with
  | operation => exact hu
  | guard => rfl
  | release => rfl
  | beginSwitch => exact hu
  | commitSwitch free now audit switching =>
    exact absurd (alone (by rw [switching]; rfl)) guarded
  | abandonSwitch => rfl

/-- A switch begins only where there is no guard. -/
theorem beginFreeSwitch_exclusive {lease : Bool} {current : VerifiedProductLicense verify}
    (hg : beginFreeSwitch encoding target lease current now files = (writes, .ok ()))
    : lease := by
  have follows
      : Durable.Follows
          (FileStep verify encoding target ((StoreEvent.beginSwitch current).mode lease))
          (fun _ => True) (beginFreeSwitch encoding target lease current now)
          (fun _ files => files.Idle ∧ lease = true) :=
    follows_beginFreeSwitch current now
  exact (follows.succeeds files trivial () (by rw [hg])).2

theorem StoreSystem.Guarded.step (move : StoreStep encoding target system label next)
    (guarded : system.Guarded)
    : next.Guarded := by
  obtain ⟨event, writes⟩ := label
  have kept := move.keepsLicense guarded.alone
  cases move with
  | operation operation stopped =>
    refine ⟨?_, fun alive => ?_, guarded.alone⟩
    · intro guard hg
      rw [(kept (List.ne_nil_of_mem hg)).2.1]
      exact guarded.recorded guard hg
    · rw [(kept alive).2.2]
      exact guarded.idle alive
  | guard license checkTarget now hgr =>
    obtain ⟨shareable, idle, hr⟩ := guardMutation_eq_ok hgr
    refine ⟨?_, fun _ => idle, fun switching => ?_⟩
    · intro guard hg
      rcases List.mem_cons.mp hg with hn | ho
      · rw [hn, Option.map_map]
        exact hr
      · exact guarded.recorded guard ho
    · rw [StoreSystem.shareable, Option.isNone_iff_eq_none] at shareable
      rw [show system.switching = none from shareable] at switching
      cases switching
  | release guard =>
    refine ⟨fun other hot => guarded.recorded other (List.mem_of_mem_erase hot),
      fun alive => guarded.idle ?_, fun switching => ?_⟩
    · intro none
      exact alive (by rw [none]; rfl)
    · rw [guarded.alone switching]
      rfl
  | beginSwitch current now hgr =>
    have he := beginFreeSwitch_exclusive hgr
    rw [StoreSystem.exclusive, Bool.and_eq_true, List.isEmpty_iff] at he
    refine ⟨fun guard hg => ?_, fun alive => absurd he.1 alive, fun _ => he.1⟩
    rw [show system.guards = [] from he.1] at hg
    cases hg
  | commitSwitch free now audit switching stopped =>
    have none := guarded.alone (by rw [switching]; rfl)
    refine ⟨fun guard hg => ?_, fun alive => absurd none alive, nofun⟩
    rw [show system.guards = [] from none] at hg
    cases hg
  | abandonSwitch => exact ⟨guarded.recorded, guarded.idle, nofun⟩

theorem StoreSystem.initial_guarded : (StoreSystem.initial : StoreSystem verify).Guarded :=
  ⟨nofun, fun alive => absurd rfl alive, nofun⟩

/-- While a guard for a licence is alive, this licence is the recorded one and no update is
pending; every other guard is for the same licence; and no step of any process starts or
finishes an update or records another document.
-/
theorem guarded_license_stays_recorded (distinct : DistinctDigests verify encoding.digest)
    {labels : List (StoreEvent verify × List FileWrite)} {system : StoreSystem verify}
    (run : Run (StoreStep encoding target) .initial labels system)
    {license : VerifiedProductLicense verify}
    (alive : some (encoding.digest license.source) ∈ system.guards)
    : system.files.recordedSha256 = some (some (encoding.digest license.source))
      ∧ system.files.pending = none
      ∧ (∀ other : VerifiedProductLicense verify,
          some (encoding.digest other.source) ∈ system.guards → other = license)
      ∧ none ∉ system.guards
      ∧ (∀ event writes next,
          StoreStep encoding target system (event, writes) next
          → (∀ change ∈ writes, system.files.KeepsLicense change)
            ∧ next.files.recordedSha256 = some (some (encoding.digest license.source))
            ∧ next.files.pending = none) := by
  have guarded := run.invariant (fun move => StoreSystem.Guarded.step move)
    StoreSystem.initial_guarded
  have hr := guarded.recorded _ alive
  have idle := guarded.idle (List.ne_nil_of_mem alive)
  refine ⟨hr, idle, ?_, ?_, ?_⟩
  · intro other ho
    have same := (guarded.recorded _ ho).symm.trans hr
    exact distinct.eq (Option.some.inj (Option.some.inj same))
  · intro absent
    have same := (guarded.recorded _ absent).symm.trans hr
    cases same
  · intro event writes next step
    obtain ⟨keeps, same, hp⟩ := step.keepsLicense guarded.alone (List.ne_nil_of_mem alive)
    exact ⟨keeps, same.trans hr, hp.trans idle⟩

theorem sample_guard_keeps_license
    : ∃ (labels : List (StoreEvent sampleVerify × List FileWrite))
        (system : StoreSystem sampleVerify),
        Run (StoreStep sampleEncoding "target") .initial labels system
        ∧ some "first" ∈ system.guards
        ∧ system.files.recordedSha256 = some (some "first") := by
  have run
      : ∃ (labels : List (StoreEvent sampleVerify × List FileWrite))
          (system : StoreSystem sampleVerify),
          Run (StoreStep sampleEncoding "target") .initial labels system
          ∧ some "first" ∈ system.guards :=
    ⟨_, _,
      .cons (.operation (.installDocument sampleFirst 0) List.prefix_rfl)
        (.cons (.guard (some sampleFirst) true 0 (by decide +kernel)) (.nil _)),
      List.mem_cons_self⟩
  obtain ⟨labels, system, run, alive⟩ := run
  have alive : some (sampleEncoding.digest sampleFirst.source) ∈ system.guards := alive
  exact ⟨labels, system, run, alive,
    (guarded_license_stays_recorded sampleDigest_distinct run alive).1⟩

end

end AsterTeam
