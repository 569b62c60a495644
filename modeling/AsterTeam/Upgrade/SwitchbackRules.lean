import AsterTeam.Upgrade.ForwardRules

/-! Every step of a switchback keeps to the rule, phase by phase. -/

namespace AsterTeam.Upgrade

open Interaction (Program Safe safe_bind safe_guard safe_lift safe_mapError)
open Lifecycle (Instant)

variable {adapter : Adapter} {storage : UpgradeStorage} {seen : List (UpgradeEvent adapter)}
  {journal : SwitchbackJournal}

namespace SwitchbackJournal

theorem reopened_accepting {plan : SwitchbackPlan} {current : RuntimeSnapshot}
    (ho : reopened plan current)
    : current.lifecycle.accepting := by
  unfold reopened at ho
  split_ifs at ho with ha
  · exact (unchangedAdmission_facts ho).2.2.1.trans ha
  · exact (changedAdmission_facts ho).2.2.1

variable {opened : RuntimeSnapshot}

/-- After the preparation the previous slot has been recorded as open. -/
theorem opened_accepting (valid : journal.valid) (ho : journal.opened = some opened)
    : opened.lifecycle.accepting := by
  simp only [SwitchbackJournal.valid, Bool.and_eq_true] at valid
  have evidence := valid.2
  cases hp : journal.phase <;>
    simp only [hp, openedValid, ho, Bool.and_eq_true, Option.any_some,
      Option.isNone_some, Bool.false_and, Bool.false_eq_true, and_assoc] at evidence
  all_goals exact reopened_accepting evidence.1

variable {drained : RuntimeSnapshot}

theorem drainEvidence (valid : journal.valid)
    (hp : journal.phase = .retiringCandidate) (hd : journal.drained = some drained)
    : DrainEvidence journal.closed journal.drained drained := by
  simp only [SwitchbackJournal.valid, hp, Bool.and_eq_true] at valid
  have evidence := valid.2.2
  simp only [drainedValid, hd, Option.any_some, Bool.and_eq_true, beq_iff_eq,
    Option.any_eq_true] at evidence
  obtain ⟨empty, hcl, hc, drains⟩ := evidence
  obtain ⟨same, revision, ha, hs⟩ := RuntimeSnapshot.observesDrain_facts drains
  exact ⟨hd, empty, ⟨hcl, hc, same, revision⟩, ha, hs⟩

theorem keeps_trafficSlot
    (hh : ∀ slot after, seen ⊆ after → ⟨.trafficSlot journal, Except.ok slot⟩ ∈ after
        → post slot storage after)
    : Keeps post journal.trafficSlot storage seen := by
  refine safe_bind (keeps_ask (fun _ _ => id) trivial fun reply after hg hs => ?_)
  refine safe_lift fun slot ho => ?_
  rw [ho] at hs
  exact hh slot after hg hs

variable {deadline : Instant}

theorem keeps_checkpoint {phase : SwitchbackPhase}
    {update : SwitchbackJournal → SwitchbackJournal} (current : storage.switchback = some journal)
    (hs : ∀ next, (update next).phase = next.phase)
    (exits : ∀ after, seen ⊆ after → phase = .committingPrevious
      → SwitchbackExits journal.plan after)
    : KeepsRule (journal.checkpoint deadline phase update : Online adapter _) storage seen := by
  refine safe_bind (keeps_before fun after hg => ?_)
  dsimp only
  refine safe_guard fun hn => ?_
  refine safe_bind ⟨⟨hn, ?_, ?_⟩, fun reply next _ => ?_⟩
  · intro other ho
    cases ho
    exact current
  · intro hc
    rw [hs] at hc
    rw [(succeeds_of_follows hn).plan]
    exact exits after hg hc
  · exact safe_bind (safe_lift fun _ _ => trivial)

variable {started : Instant}

theorem keeps_switchDeadline
    : Keeps (Undisturbed storage seen)
        (journal.switchDeadline now started deadline : Online adapter Instant) storage
        seen := by
  unfold switchDeadline
  split
  · trivial
  · split_ifs
    · trivial
    · split
      · trivial
      · exact safe_bind (keeps_before fun after hg => ⟨rfl, hg⟩)

variable {old : RuntimeSnapshot}

section

variable (current : storage.switchback = some journal)

include current

theorem keeps_openPrevious (hp : journal.phase = .preparingPrevious)
    : Keeps (Undisturbed storage seen)
        (journal.openPrevious deadline old permit : Online adapter RuntimeSnapshot) storage
        seen := by
  unfold openPrevious
  split_ifs
  · exact ⟨rfl, fun _ => id⟩
  · refine safe_bind (keeps_before fun after hg => ?_)
    exact keeps_openAdmission ⟨journal, current, hp⟩ fun _ _ further =>
      ⟨rfl, fun _ he => further (hg he)⟩

variable {clock : UpgradeClock} {onPrevious : Bool}

theorem keeps_preparingStep (hp : journal.phase = .preparingPrevious)
    : KeepsRule (journal.preparingStep clock deadline onPrevious old : Online adapter _) storage
        seen := by
  refine safe_guard fun _ => ?_
  refine safe_guard fun _ => ?_
  refine safe_bind (keeps_readiness fun permit after _ _ => ?_)
  refine safe_bind ((keeps_openPrevious current hp).weaken fun ho hs later hu => ?_)
  rw [hu.1]
  exact keeps_checkpoint current (fun _ => rfl) nofun

/-- The switch back is made on the evidence of the same step. -/
theorem keeps_switchBack (evidence : SwitchBackEvidence seen journal)
    : Keeps (Undisturbed storage seen)
        (journal.switchBack deadline onPrevious : Online adapter Unit) storage seen := by
  unfold switchBack
  split_ifs
  · exact ⟨rfl, fun _ => id⟩
  · refine safe_bind (keeps_before fun after hg => ?_)
    obtain ⟨old, hop, ho, hol, same, ha, revision, permit, hp⟩ :=
      evidence.previous
    have kept : SwitchBackEvidence after journal :=
      ⟨⟨old, hop, ho, hg hol, same, ha, revision, permit, hg hp⟩⟩
    refine safe_bind (keeps_ask (fun _ _ => id) ⟨current, kept⟩ fun reply later further _ => ?_)
    exact safe_lift fun _ _ => ⟨rfl, fun _ he => further (hg he)⟩

theorem keeps_switchingStep (valid : journal.valid)
    (ho : journal.opened = some opened) (hol : ⟨.status .previous, Except.ok old⟩ ∈ seen)
    (hu : unchangedAdmission old opened)
    : KeepsRule (journal.switchingStep clock started deadline onPrevious old : Online adapter _)
        storage seen := by
  refine safe_bind (keeps_readiness fun permit after hg hr => ?_)
  obtain ⟨same, _, ha, revision⟩ := unchangedAdmission_facts hu
  rw [opened_accepting valid ho] at ha
  have evidence : SwitchBackEvidence after journal :=
    ⟨⟨old, opened, ho, hg hol, same, ha, revision, permit, hr⟩⟩
  refine safe_bind ((keeps_switchBack current evidence).weaken fun _ hs second hun => ?_)
  rw [hun.1]
  refine safe_bind (keeps_before fun third _ => ?_)
  refine safe_bind (keeps_trafficSlot fun switched fourth _ _ => ?_)
  refine safe_guard fun _ => ?_
  refine safe_bind (keeps_readClock fun time fifth _ => ?_)
  split
  · trivial
  · exact keeps_checkpoint current (fun _ => rfl) nofun

theorem keeps_closeCandidate {observed : RuntimeSnapshot}
    (ho : ⟨.trafficSlot journal, Except.ok journal.plan.original.plan.previous.slot⟩ ∈ seen)
    : Keeps (Undisturbed storage seen)
        (journal.closeCandidate clock started deadline observed : Online adapter _) storage
        seen := by
  unfold closeCandidate
  split_ifs
  · exact ⟨rfl, fun _ => id⟩
  · refine safe_guard fun _ => ?_
    refine safe_bind (keeps_switchDeadline.weaken fun limit hs second hu => ?_)
    obtain ⟨same, hg⟩ := hu
    rw [same]
    refine safe_bind (keeps_before fun third further => ?_)
    exact keeps_closeAdmission ⟨journal, current, further (hg ho)⟩ fun _ _ last =>
      ⟨rfl, fun _ he => last (further (hg he))⟩

theorem keeps_closingStep
    (ho : ⟨.trafficSlot journal, Except.ok journal.plan.original.plan.previous.slot⟩ ∈ seen)
    : KeepsRule (journal.closingStep clock started deadline : Online adapter _) storage seen := by
  refine safe_bind (keeps_status fun observed after hg _ => ?_)
  refine safe_bind ((keeps_closeCandidate current (hg ho)).weaken fun hc hs later hu => ?_)
  rw [hu.1]
  exact keeps_checkpoint current (fun _ => rfl) nofun

theorem keeps_drainingStep
    : KeepsRule (journal.drainingStep clock started deadline : Online adapter _) storage seen := by
  refine safe_bind (keeps_status fun observed after _ _ => ?_)
  refine safe_guard fun _ => ?_
  refine safe_bind (keeps_readClock fun time later _ => ?_)
  split
  · trivial
  · split
    · trivial
    · unfold drainOutcome
      split_ifs
      · exact keeps_checkpoint current (fun _ => rfl) nofun
      · exact keeps_checkpoint current (fun _ => rfl) nofun
      · trivial

theorem keeps_retireRunner (hp : journal.phase = .retiringCandidate)
    (evidence : DrainEvidence journal.closed journal.drained drained)
    (exited : ⟨.observeControl drained, Except.ok ProcessProgress.exited⟩ ∈ seen)
    : KeepsRule (journal.retireRunner deadline : Online adapter _) storage seen := by
  refine safe_bind (keeps_ask (fun _ _ => id)
    ⟨current, hp, drained, evidence, exited⟩ fun reply after hg hs => ?_)
  refine safe_bind (safe_lift fun progress ho => ?_)
  split_ifs with he
  · rw [ho, he] at hs
    exact keeps_checkpoint current (fun _ => rfl) fun _ further _ =>
      ⟨journal, drained, rfl, evidence, further (hg exited), further hs⟩
  · trivial

theorem keeps_retiringStep (valid : journal.valid) (hp : journal.phase = .retiringCandidate)
    : KeepsRule (journal.retiringStep deadline old : Online adapter _) storage seen := by
  refine safe_bind (keeps_readiness fun _ after _ _ => ?_)
  split
  · trivial
  · rename_i hdr hd
    have evidence := drainEvidence valid hp hd
    have hpe (seen : List (UpgradeEvent adapter))
        : UpgradeRule storage seen (.retireDrained .candidate hdr) :=
      ⟨journal, current, hp, evidence⟩
    refine safe_bind (safe_mapError ((keeps_retireControl hpe).weaken
      fun progress hs later post => ?_))
    obtain ⟨same, _, exits⟩ := post
    rw [same]
    cases progress with
    | waiting => trivial
    | exited => exact keeps_retireRunner current hp evidence (exits rfl)

theorem keeps_committingStep (hp : journal.phase = .committingPrevious)
    : KeepsRule (journal.committingStep deadline : Online adapter _) storage seen := by
  refine safe_bind (keeps_before fun first _ => ?_)
  refine safe_bind (keeps_ask (fun _ _ => id) ⟨current, hp⟩ fun reply after _ _ => ?_)
  exact safe_bind (safe_lift fun _ _ => keeps_checkpoint current (fun _ => rfl) nofun)

theorem keeps_observeStep (valid : journal.valid)
    : KeepsRule (journal.observeStep clock started deadline : Online adapter _) storage seen := by
  refine safe_bind (keeps_trafficSlot fun observed first _ ht => ?_)
  dsimp only
  refine safe_guard fun _ => ?_
  refine safe_guard fun hon => ?_
  refine safe_bind (keeps_status fun old second hg hol => ?_)
  refine safe_guard fun ho => ?_
  unfold phaseStep
  cases hp : journal.phase with
  | preparingPrevious => exact keeps_preparingStep current hp
  | switchingBack =>
    rw [hp] at ho
    simp only [reduceCtorEq, decide_false, Bool.false_or, Option.any_eq_true] at ho
    obtain ⟨hope, hop, hu⟩ := ho
    exact keeps_switchingStep current valid hop hol hu
  | closingCandidate =>
    rw [hp] at hon
    have hpr : observed = journal.plan.original.plan.previous.slot := by
      simpa using hon
    rw [hpr] at ht
    exact keeps_closingStep current (hg ht)
  | drainingCandidate => exact keeps_drainingStep current
  | retiringCandidate => exact keeps_retiringStep current valid hp
  | committingPrevious => exact keeps_committingStep current hp
  | complete => trivial
  | drainBudgetExhausted => trivial

theorem keeps_clockStep (valid : journal.valid)
    : KeepsRule (journal.clockStep clock started deadline : Online adapter _) storage seen := by
  refine safe_guard fun _ => ?_
  refine safe_guard fun _ => ?_
  dsimp only
  split_ifs
  · refine safe_bind (keeps_switchDeadline.weaken fun limit hs after hu => ?_)
    rw [hu.1]
    exact keeps_observeStep current valid
  · exact keeps_observeStep current valid

end

/-- One step of a switchback keeps to the rule, from any storage and with any journal. -/
theorem keeps_advance (journal : SwitchbackJournal) (clock : UpgradeClock)
    (deadline : Instant) (storage : UpgradeStorage)
    : KeepsRule (journal.advance clock deadline : Online adapter _) storage [] := by
  refine safe_bind (keeps_readClock fun started first _ => ?_)
  refine safe_guard fun valid => ?_
  refine safe_guard fun _ => ?_
  refine safe_bind ⟨trivial, fun reply hs ha => ?_⟩
  obtain ⟨same, hc⟩ := ha
  rw [same]
  refine safe_bind (safe_lift fun value ho => ?_)
  have current := hc ho
  split_ifs
  · trivial
  · trivial
  · exact keeps_clockStep current valid

theorem keeps_create (plan : SwitchbackPlan) (storage : UpgradeStorage)
    : KeepsRule (create plan : Online adapter _) storage [] := by
  refine safe_guard fun valid => ?_
  have hf : (start plan).phase = .preparingPrevious := rfl
  have hz : (start plan).revision = 0 := rfl
  refine safe_bind ⟨⟨?_, fun _ hs => ?_, fun hc => ?_⟩, fun reply next _ => ?_⟩
  · simp [follows, valid, hz]
  · cases hs
  · rw [hf] at hc
    cases hc
  · exact safe_bind (safe_lift fun _ _ => trivial)

end SwitchbackJournal

end AsterTeam.Upgrade
