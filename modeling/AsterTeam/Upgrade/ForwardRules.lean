import AsterTeam.Upgrade.ExecutorRules

/-! Every step of a forward cutover keeps to the rule, phase by phase. -/

namespace AsterTeam.Upgrade

open OnlineJournal
open Interaction (Program Safe safe_bind safe_require safe_guard safe_lift safe_mapError)
open Lifecycle (Instant)
open MachineInteger (checkedSucc)

variable {adapter : Adapter} {storage : UpgradeStorage} {seen : List (UpgradeEvent adapter)}
  {journal : OnlineJournal}

/-- Nothing is promised at the end. -/
abbrev KeepsRule {Error α : Type} (program : Program (upgradeInterface adapter) Error α)
    (storage : UpgradeStorage) (seen : List (UpgradeEvent adapter))
    : Prop :=
  Keeps (fun _ _ _ => True) program storage seen

/-- The storage is as before, and everything seen is still seen. -/
abbrev Undisturbed {α : Type} (storage : UpgradeStorage) (seen : List (UpgradeEvent adapter))
    : α → UpgradeStorage → List (UpgradeEvent adapter) → Prop :=
  fun _ stored after => stored = storage ∧ seen ⊆ after

theorem OnlinePlan.valid_accepting {plan : OnlinePlan} (valid : plan.valid)
    : plan.previousProcess.lifecycle.accepting := by
  simp only [OnlinePlan.valid, Bool.and_eq_true, and_assoc] at valid
  obtain ⟨_, _, _, _, _, _, _, accepting, _⟩ := valid
  exact accepting

variable {drained : RuntimeSnapshot}

theorem OnlineJournal.drainEvidence (valid : journal.valid)
    (hp : journal.phase = .retiringPrevious) (hd : journal.drained = some drained)
    : DrainEvidence journal.closed journal.drained drained := by
  simp only [OnlineJournal.valid, hp, Bool.and_eq_true] at valid
  have evidence := valid.2.2
  simp only [drainedValid, hd, Option.any_some, Bool.and_eq_true, beq_iff_eq,
    Option.any_eq_true] at evidence
  obtain ⟨⟨hcl, hc, drains⟩, empty⟩ := evidence
  obtain ⟨same, revision, ha, hs⟩ := RuntimeSnapshot.observesDrain_facts drains
  exact ⟨hd, empty, ⟨hcl, hc, same, revision⟩, ha, hs⟩

theorem keeps_checkpoint {phase : OnlinePhase} {update : OnlineJournal → OnlineJournal}
    (current : storage.Forward journal) (hs : ∀ next, (update next).phase = next.phase)
    (exits : phase = .committing → ForwardExits journal.plan seen)
    : KeepsRule (journal.checkpoint phase update : Online adapter _) storage seen := by
  unfold checkpoint
  cases checkedSucc journal.revision with
  | none => trivial
  | some revision =>
    dsimp only
    split_ifs with refused
    · trivial
    · rw [Bool.not_eq_true, Bool.not_eq_false'] at refused
      refine safe_bind ⟨⟨refused, ?_, ?_⟩, fun reply next _ => ?_⟩
      · intro other ho
        cases ho
        exact current
      · intro hc
        rw [hs] at hc
        rw [(succeeds_of_follows refused).plan]
        exact exits hc
      · exact safe_bind (safe_lift fun _ _ => trivial)

variable {nowMs : UInt64} {deadline : Instant}

theorem keeps_cutoverDeadline
    : Keeps (Undisturbed storage seen)
        (journal.cutoverDeadline nowMs started deadline : Online adapter Instant) storage
        seen := by
  unfold cutoverDeadline
  split
  · trivial
  · split
    · trivial
    · split_ifs
      · trivial
      · split
        · trivial
        · refine safe_bind (keeps_readClock fun current after hg => ?_)
          exact safe_guard fun _ => ⟨rfl, hg⟩

variable {candidateStatus : RuntimeSnapshot}

section

variable (current : storage.Forward journal)

include current

theorem keeps_openCandidate (hp : journal.phase = .openingCandidate)
    : Keeps (Undisturbed storage seen)
        (journal.openCandidate candidateStatus : Online adapter RuntimeSnapshot) storage
        seen := by
  unfold openCandidate
  split_ifs
  · exact ⟨rfl, fun _ => id⟩
  · refine safe_guard fun _ => ?_
    refine safe_bind (keeps_readiness fun permit ready hg _ => ?_)
    refine safe_bind (keeps_openAdmission ⟨journal, current, hp⟩ fun result ho further => ?_)
    exact safe_guard fun _ =>
      ⟨rfl, fun _ he => further (hg he)⟩

variable {onPrevious : Bool}

theorem keeps_openingStep (hp : journal.phase = .openingCandidate)
    : KeepsRule (journal.openingStep nowMs onPrevious candidateStatus : Online adapter _) storage
        seen := by
  refine safe_guard fun _ => ?_
  refine safe_bind (keeps_status fun old after _ _ => ?_)
  refine safe_guard fun _ => ?_
  refine safe_bind ((keeps_openCandidate current hp).weaken fun ho hs later hu => ?_)
  obtain ⟨same, _⟩ := hu
  rw [same]
  exact keeps_checkpoint current (fun _ => rfl) nofun

/-- The switch is made on the evidence of the same step. -/
theorem keeps_switchTraffic (valid : journal.valid)
    (hr : ⟨.status .candidate, Except.ok candidateStatus⟩ ∈ seen)
    (hre : ∃ permit,
          ⟨.readiness .candidate candidateStatus journal.plan.readiness, Except.ok permit⟩
          ∈ seen) (ho : changedAdmission candidateStatus journal.plan.candidateProcess true)
    : Keeps (Undisturbed storage seen)
        (journal.switchTraffic onPrevious candidateStatus : Online adapter Unit) storage
        seen := by
  unfold switchTraffic
  split_ifs
  · refine safe_bind (keeps_status fun old after hg hol => ?_)
    refine safe_guard fun hu => ?_
    obtain ⟨process, _, ha, revision⟩ := changedAdmission_facts ho
    obtain ⟨sameOld, _, oldAccepting, oldRevision⟩ := unchangedAdmission_facts hu
    rw [OnlinePlan.valid_accepting (valid_facts valid).1] at oldAccepting
    obtain ⟨permit, hp⟩ := hre
    have evidence : SwitchEvidence after journal.plan candidateStatus :=
      ⟨hg hr, process, ha, revision, ⟨permit, hg hp⟩,
        ⟨old, hol, sameOld, oldAccepting, oldRevision⟩⟩
    refine safe_bind (keeps_ask (fun _ _ => id) ⟨journal, current, evidence⟩
      fun reply second further _ => ?_)
    refine safe_bind (safe_lift fun _ _ => ?_)
    refine safe_bind (keeps_traffic fun switched third last _ => ?_)
    exact safe_require fun _ => ⟨rfl, fun _ he => last (further (hg he))⟩
  · exact ⟨rfl, fun _ => id⟩

theorem keeps_switchingStep (valid : journal.valid)
    (hr : ⟨.status .candidate, Except.ok candidateStatus⟩ ∈ seen)
    (ho : changedAdmission candidateStatus journal.plan.candidateProcess true)
    : KeepsRule (journal.switchingStep nowMs onPrevious candidateStatus : Online adapter _) storage
        seen := by
  refine safe_bind (keeps_readiness fun permit after hg hre => ?_)
  refine safe_bind ((keeps_switchTraffic current valid (hg hr) ⟨permit, hre⟩
    ho).weaken fun _ hs later hu => ?_)
  obtain ⟨same, _⟩ := hu
  rw [same]
  exact safe_guard fun _ => keeps_checkpoint current (fun _ => rfl) nofun

theorem keeps_closingStep
    (ho : ∃ traffic : RuntimeSnapshot,
          ⟨.traffic, Except.ok traffic⟩ ∈ seen
          ∧ traffic.sameProcess journal.plan.candidateProcess)
    : KeepsRule (journal.closingStep nowMs started deadline : Online adapter _) storage seen := by
  obtain ⟨traffic, ht, hc⟩ := ho
  refine safe_bind (keeps_status fun old after hg _ => ?_)
  have closes
      : Keeps (Undisturbed storage after)
          (journal.closePrevious nowMs started deadline old : Online adapter RuntimeSnapshot)
          storage after := by
    unfold closePrevious
    split_ifs
    · exact ⟨rfl, fun _ => id⟩
    · refine safe_guard fun _ => ?_
      refine safe_bind (keeps_cutoverDeadline.weaken fun limit hs second hu => ?_)
      obtain ⟨same, further⟩ := hu
      rw [same]
      refine safe_bind (keeps_closeAdmission
        ⟨journal, current, traffic, further (hg ht), hc⟩
        fun result third last => ?_)
      exact safe_guard fun _ =>
        ⟨rfl, fun _ he => last (further he)⟩
  refine safe_bind (closes.weaken fun hcl hs later hu => ?_)
  obtain ⟨same, _⟩ := hu
  rw [same]
  exact keeps_checkpoint current (fun _ => rfl) nofun

theorem keeps_drainOutcome {old : RuntimeSnapshot} {exhausted : Bool}
    : KeepsRule (journal.drainOutcome old exhausted : Online adapter _) storage seen := by
  unfold drainOutcome
  split_ifs
  · exact keeps_checkpoint current (fun _ => rfl) nofun
  · trivial
  · exact keeps_checkpoint current (fun _ => rfl) nofun

theorem keeps_drainingStep
    : KeepsRule (journal.drainingStep nowMs started : Online adapter _) storage seen := by
  unfold drainingStep
  split
  · trivial
  · refine safe_bind (keeps_status fun old after _ _ => ?_)
    refine safe_guard fun _ => ?_
    refine safe_bind (keeps_readClock fun time later _ => ?_)
    split
    · trivial
    · split
      · trivial
      · split
        · trivial
        · split
          · trivial
          · exact keeps_drainOutcome current

theorem keeps_retireRunner (hp : journal.phase = .retiringPrevious)
    (evidence : DrainEvidence journal.closed journal.drained drained)
    (exited : ⟨.observeControl drained, Except.ok ProcessProgress.exited⟩ ∈ seen)
    : KeepsRule (journal.retireRunner : Online adapter _) storage seen := by
  refine safe_bind (keeps_ask (fun _ _ => id)
    ⟨current, hp, drained, evidence, exited⟩ fun reply after hg hs => ?_)
  refine safe_bind (safe_lift fun progress ho => ?_)
  split_ifs with he
  · rw [ho, he] at hs
    exact keeps_checkpoint current (fun _ => rfl) fun _ =>
      ⟨journal, drained, rfl, evidence, hg exited, hs⟩
  · trivial

theorem keeps_retiringStep (valid : journal.valid) (hp : journal.phase = .retiringPrevious)
    : KeepsRule (journal.retiringStep candidateStatus deadline : Online adapter _) storage
        seen := by
  refine safe_bind (keeps_readiness fun _ after _ _ => ?_)
  split
  · trivial
  · rename_i hdr hd
    have evidence := drainEvidence valid hp hd
    have hpe (seen : List (UpgradeEvent adapter))
        : UpgradeRule storage seen (.retireDrained .previous hdr) :=
      ⟨journal, current, hp, evidence⟩
    refine safe_bind (safe_mapError ((keeps_retireControl hpe).weaken
      fun progress hs later post => ?_))
    obtain ⟨same, _, exits⟩ := post
    rw [same]
    cases progress with
    | waiting => trivial
    | exited => exact keeps_retireRunner current hp evidence (exits rfl)

theorem keeps_committingStep (hp : journal.phase = .committing)
    : KeepsRule (journal.committingStep : Online adapter _) storage seen := by
  refine safe_bind (keeps_ask (fun _ _ => id) ⟨current, hp⟩ fun reply after _ _ => ?_)
  exact safe_bind (safe_lift fun _ _ => keeps_checkpoint current (fun _ => rfl) nofun)

theorem keeps_observeStep (valid : journal.valid)
    : KeepsRule (journal.observeStep nowMs started deadline : Online adapter _) storage seen := by
  refine safe_bind (keeps_traffic fun observed first _ ht => ?_)
  dsimp only
  refine safe_guard fun _ => ?_
  refine safe_guard fun hc => ?_
  refine safe_bind (keeps_status fun candidateStatus second hg hr => ?_)
  refine safe_guard fun _ => ?_
  refine safe_guard fun ho => ?_
  unfold phaseStep
  cases hp : journal.phase with
  | openingCandidate => exact keeps_openingStep current hp
  | switchingTraffic =>
    rw [hp] at ho
    exact keeps_switchingStep current valid hr (by simpa using ho)
  | closingPrevious =>
    rw [hp] at hc
    exact keeps_closingStep current ⟨observed, hg ht, by simpa using hc⟩
  | drainingPrevious => exact keeps_drainingStep current
  | retiringPrevious => exact keeps_retiringStep current valid hp
  | committing => exact keeps_committingStep current hp
  | complete => trivial
  | drainBudgetExhausted => trivial

theorem keeps_clockStep (valid : journal.valid)
    : KeepsRule (journal.clockStep clock started deadline : Online adapter _) storage seen := by
  refine safe_guard fun _ => ?_
  refine safe_guard fun _ => ?_
  refine safe_guard fun _ => ?_
  dsimp only
  split_ifs
  · refine safe_bind (keeps_cutoverDeadline.weaken fun limit hs after hu => ?_)
    rw [hu.1]
    exact keeps_observeStep current valid
  · exact keeps_observeStep current valid

end

/-- One step of a cutover keeps to the rule, from any storage and with any journal. -/
theorem keeps_advance (journal : OnlineJournal) (clock : UpgradeClock) (deadline : Instant)
    (storage : UpgradeStorage)
    : KeepsRule (journal.advance clock deadline : Online adapter _) storage [] := by
  refine safe_bind (keeps_readClock fun started first _ => ?_)
  refine safe_guard fun valid => ?_
  refine safe_bind (keeps_before fun second _ => ?_)
  refine safe_bind ⟨trivial, fun reply hst ha => ?_⟩
  obtain ⟨same, hc⟩ := ha
  rw [same]
  refine safe_bind (safe_lift fun value ho => ?_)
  obtain ⟨hs, hu⟩ := hc ho
  split_ifs
  · trivial
  · trivial
  · exact keeps_clockStep ⟨hs, hu⟩ valid

theorem keeps_create (plan : OnlinePlan) (storage : UpgradeStorage)
    : KeepsRule (create plan : Online adapter _) storage [] := by
  refine safe_guard fun valid => ?_
  have hf : (start plan).phase = .openingCandidate := rfl
  refine safe_bind ⟨⟨?_, fun _ hs => ?_, fun hc => ?_⟩, fun reply next _ => ?_⟩
  · simp [follows, valid, hf]
  · cases hs
  · rw [hf] at hc
    cases hc
  · exact safe_bind (safe_lift fun _ _ => trivial)

end AsterTeam.Upgrade
