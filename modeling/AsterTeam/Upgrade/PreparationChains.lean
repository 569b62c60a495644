import AsterTeam.Upgrade.JournalChains
import AsterTeam.Upgrade.Preparation

/-! The transitions of a preparation journal are exactly the changes that its storage accepts,
and what that means for the sequence of its records.
-/

namespace AsterTeam.Upgrade

open Bool (or_eq_true not_eq_true' not_eq_false and_eq_true)
open Option List
open MachineInteger (checkedSucc checkedSucc_eq_some)
open RecordChain (History)

namespace PreparationJournal

-- The shapes of a valid record

def unstartedRevision (candidate : Option ActiveReleaseSlot) (phase : PreparationAbortPhase)
    : Option UInt64 :=
  (phase.revision false).bind fun revision =>
    checkedSub revision (if candidate.isNone then 1 else 0)

/-- The records that are valid, with the checks of what they hold. -/
inductive Shape : PreparationJournal → Prop
  | created (intent : PreparationIntent)
    : Shape ⟨preparationJournalSchema, 0, intent, none, none, none, none, none⟩
  | provisioned {intent : PreparationIntent} {candidate : ActiveReleaseSlot}
    (isCandidate : candidateValid intent candidate = true)
    : Shape ⟨preparationJournalSchema, 1, intent, some candidate, none, none, none, none⟩
  | starting {intent : PreparationIntent} {candidate : ActiveReleaseSlot}
    {startup : CandidateStartup} (isCandidate : candidateValid intent candidate = true)
    (isStartup : startup.validFor intent = true)
    : Shape ⟨preparationJournalSchema, 2, intent, some candidate, some startup, none, none, none⟩
  | started {intent : PreparationIntent} {candidate : ActiveReleaseSlot}
    {startup : CandidateStartup} {activation : CandidateActivation}
    (isCandidate : candidateValid intent candidate = true)
    (isStartup : startup.validFor intent = true)
    (isActivation : activation.validFor intent candidate = true)
    : Shape
        ⟨preparationJournalSchema, 3, intent, some candidate, some startup, some activation,
          none, none⟩
  | unstarted {intent : PreparationIntent} {candidate : Option ActiveReleaseSlot}
    {phase : PreparationAbortPhase} {revision : UInt64}
    (isCandidate : candidate.all (candidateValid intent) = true)
    (isRevision : unstartedRevision candidate phase = some revision)
    : Shape ⟨preparationJournalSchema, revision, intent, candidate, none, none, none, some phase⟩
  | activated {intent : PreparationIntent} {candidate : ActiveReleaseSlot}
    {startup : CandidateStartup} {activation : CandidateActivation}
    {phase : PreparationAbortPhase} {revision : UInt64}
    (isCandidate : candidateValid intent candidate = true)
    (isStartup : startup.validFor intent = true)
    (isActivation : activation.validFor intent candidate = true)
    (isRevision : phase.revision true = some revision)
    : Shape
        ⟨preparationJournalSchema, revision, intent, some candidate, some startup,
          some activation, none, some phase⟩
  | partiallyActivated {intent : PreparationIntent} {candidate : ActiveReleaseSlot}
    {startup : CandidateStartup} {observed : PartialCandidateActivation}
    {phase : PreparationAbortPhase} {revision : UInt64}
    (isCandidate : candidateValid intent candidate = true)
    (isStartup : startup.validFor intent = true)
    (isPartial : observed.validFor intent candidate = true)
    (isRevision : phase.revision true = some revision)
    : Shape
        ⟨preparationJournalSchema, revision, intent, some candidate, some startup, none,
          some observed, some phase⟩

theorem checkedSub_zero (value : UInt64) : checkedSub value 0 = some value := by
  simp [checkedSub]

section

-- The checks of a record are unfolded down to its fields.
attribute [local simp] abortValid partialValid provisionValid startValid forwardRevision
  hasCapture abortRevision checkedSub_zero

variable {journal : PreparationJournal}

theorem shape_of_valid (valid : journal.valid) : journal.intent.valid ∧ journal.Shape := by
  obtain ⟨schema, revision, intent, candidate, startup, activation, observed, abort⟩ := journal
  rcases candidate with _ | candidate <;> rcases startup with _ | startup <;>
    rcases activation with _ | activation <;> rcases observed with _ | observed <;>
    rcases abort with _ | phase <;>
    simp [PreparationJournal.valid] at valid
  · obtain ⟨⟨⟨rfl, hi⟩, rfl⟩, _⟩ := valid
    exact ⟨hi, .created intent⟩
  · obtain ⟨⟨rfl, hr⟩, hi⟩ := valid
    exact ⟨hi, .unstarted rfl hr.symm⟩
  · obtain ⟨⟨⟨rfl, hi⟩, ⟨low, _⟩, hc⟩, high⟩ := valid
    cases UInt64.le_antisymm low high
    exact ⟨hi, .provisioned hc⟩
  · obtain ⟨⟨⟨rfl, hr⟩, hi⟩, hc⟩ := valid
    refine ⟨hi, .unstarted hc ?_⟩
    simpa [unstartedRevision, checkedSub_zero] using hr.symm
  · obtain ⟨⟨⟨rfl, hi⟩, _, hc⟩, rfl, hs⟩ := valid
    exact ⟨hi, .starting hc hs⟩
  · obtain ⟨⟨⟨⟨⟨rfl, hr⟩, hi⟩, hp⟩, hc⟩, hs⟩ := valid
    exact ⟨hi, .partiallyActivated hc hs hp hr.symm⟩
  · obtain ⟨⟨⟨rfl, hi⟩, _, hc⟩, ⟨rfl, hs⟩, ha⟩ := valid
    exact ⟨hi, .started hc hs ha⟩
  · obtain ⟨⟨⟨⟨rfl, hr⟩, hi⟩, hc⟩, hs, ha⟩ := valid
    exact ⟨hi, .activated hc hs ha hr.symm⟩

theorem valid_of_shape (hi : journal.intent.valid) (shape : journal.Shape) : journal.valid := by
  cases shape with
  | created intent => simpa [PreparationJournal.valid] using hi
  | provisioned hc =>
    simpa [PreparationJournal.valid, hc] using hi
  | starting hc hs =>
    simpa [PreparationJournal.valid, hc, hs] using hi
  | started hc hs ha =>
    simpa [PreparationJournal.valid, hc, hs, ha] using hi
  | @unstarted intent candidate phase revision hc hr =>
    cases candidate <;> simp_all [PreparationJournal.valid, unstartedRevision]
  | activated hc hs ha hr =>
    simp_all [PreparationJournal.valid]
  | partiallyActivated hc hs hp hr =>
    simp_all [PreparationJournal.valid]

end

variable {journal : PreparationJournal}

-- The phases of a cancellation

def nextPhase (captured : Bool) : PreparationAbortPhase → Option PreparationAbortPhase
  | .capturedForCancellation => if captured then some .claimed else none
  | .claimed => some (if captured then .retiringCandidate else .finalizing)
  | .retiringCandidate => if captured then some .finalizing else none
  | .finalizing => some .complete
  | .complete => none

variable {phase : PreparationAbortPhase}

/-- The revisions of two phases follow one another just where the phases do. -/
theorem checkedSucc_revision_iff (ho : offset = 0 ∨ offset = 1) {old : PreparationAbortPhase}
    {revision next : UInt64}
    (hr : ((old.revision captured).bind fun value => checkedSub value offset) = some revision)
    (hn : ((phase.revision captured).bind fun value => checkedSub value offset) = some next)
    : checkedSucc revision = some next ↔ nextPhase captured old = some phase := by
  rcases ho with rfl | rfl <;> cases captured <;> cases old <;> cases phase <;>
    cases hr <;> cases hn <;> decide

theorem offset_eq (candidate : Option ActiveReleaseSlot)
    : (if candidate.isNone then (1 : UInt64) else 0) = 0
      ∨ (if candidate.isNone then (1 : UInt64) else 0) = 1 := by
  split_ifs
  · exact .inr rfl
  · exact .inl rfl

theorem abortRevision_of_valid (valid : journal.valid) (ha : journal.abort = some phase)
    : journal.abortRevision phase = some journal.revision := by
  simp only [PreparationJournal.valid, and_eq_true, and_assoc] at valid
  obtain ⟨_, hr, _⟩ := valid
  simp only [abortValid, ha, all_some, and_eq_true, beq_iff_eq] at hr
  exact hr.1.symm

-- Transitions

inductive Transitions (journal next : PreparationJournal) : Prop
  | provisioned (candidate : ActiveReleaseSlot)
    (isNext : journal.provisioned candidate = some next)
  | starting (startup : CandidateStartup) (isNext : journal.starting startup = some next)
  | started (activation : CandidateActivation) (materialSha256 : String) (clock : UpgradeClock)
    (isNext : journal.started activation materialSha256 clock = some next)
  | aborting (isNext : journal.aborting = some next)
  | cancelObservedStartup (activation : CandidateActivation) (materialSha256 : String)
    (clock : UpgradeClock)
    (isNext : journal.cancelObservedStartup activation materialSha256 clock = some next)
  | cancelPartialStartup (observed : PartialCandidateActivation) (materialSha256 : String)
    (clock : UpgradeClock)
    (isNext : journal.cancelPartialStartup observed materialSha256 clock = some next)
  | retiringCandidate (observed : RuntimeSnapshot)
    (isNext : journal.retiringCandidate observed = some next)
  | retiringPartialCandidate (observed : PartialCandidateActivation)
    (isNext : journal.retiringPartialCandidate observed = some next)
  | advanceAbort (isNext : journal.advanceAbort = some next)

variable {next : PreparationJournal}

theorem checked_eq_some : journal.checked = some next ↔ journal = next ∧ next.valid := by
  unfold checked
  split_ifs with valid
  · rw [some_inj]
    exact ⟨fun same => ⟨same, same ▸ valid⟩, fun both => both.1⟩
  · refine ⟨nofun, fun both => absurd both.2 ?_⟩
    rw [← both.1]
    exact valid

section

attribute [local simp] follows abortFollows kept checkedSucc abortRevision hasCapture
  PreparationAbortPhase.revision checkedSub

theorem kept_refl {Value : Type} [DecidableEq Value] (value : Option Value) : kept value value := by
  cases value <;> simp

theorem follows_provisioned {candidate : ActiveReleaseSlot}
    (hn : journal.provisioned candidate = some next)
    : next.follows (some journal) := by
  unfold PreparationJournal.provisioned at hn
  split_ifs at hn with refused
  obtain ⟨rfl, hne⟩ := checked_eq_some.mp hn
  simp only [or_eq_true, not_eq_true', not_or, not_eq_false] at refused
  obtain ⟨⟨⟨valid, hno⟩, notStarted⟩, same⟩ := refused
  cases (shape_of_valid valid).2 with
  | created intent => simp [hne, valid]
  | provisioned hc => simp_all
  | _ => simp_all

theorem follows_starting {startup : CandidateStartup} (hn : journal.starting startup = some next)
    : next.follows (some journal) := by
  unfold PreparationJournal.starting at hn
  split_ifs at hn with hr
  obtain ⟨rfl, hne⟩ := checked_eq_some.mp hn
  simp only [or_eq_true, not_eq_true', not_or, not_eq_false] at hr
  obtain ⟨⟨⟨⟨valid, hno⟩, notFirst⟩, notLate⟩, same⟩ := hr
  cases (shape_of_valid valid).2 with
  | provisioned hc => simp [hne, valid]
  | starting hc hs => simp_all
  | _ => simp_all

variable {activation : CandidateActivation} {materialSha256 : String} {clock : UpgradeClock}

theorem follows_started (hn : journal.started activation materialSha256 clock = some next)
    : next.follows (some journal) := by
  unfold PreparationJournal.started at hn
  split_ifs at hn with hr
  obtain ⟨rfl, hne⟩ := checked_eq_some.mp hn
  simp only [or_eq_true, not_eq_true', not_or, not_eq_false] at hr
  obtain ⟨⟨⟨⟨valid, hno⟩, notEarly⟩, observed⟩, same⟩ := hr
  cases (shape_of_valid valid).2 with
  | starting hc hs =>
    simp [hne, valid]
  | started hc hs ha => simp_all
  | _ => simp_all

theorem follows_aborting (hn : journal.aborting = some next) : next.follows (some journal) := by
  unfold PreparationJournal.aborting at hn
  split_ifs at hn with refused
  obtain ⟨revision, hr, hc⟩ := Option.bind_eq_some_iff.mp hn
  obtain ⟨rfl, hne⟩ := checked_eq_some.mp hc
  simp only [or_eq_true, not_eq_true', not_or, not_eq_false] at refused
  obtain ⟨⟨valid, started⟩, hno⟩ := refused
  cases (shape_of_valid valid).2 with
  | created intent =>
    obtain rfl : revision = 1 := by
      simpa using hr.symm
    simp [hne, valid]
  | provisioned hca =>
    obtain rfl : revision = 2 := by
      simpa using hr.symm
    simp [hne, valid]
  | started hca hs ha =>
    obtain rfl : revision = 4 := by
      simpa using hr.symm
    simp [hne, valid]
  | _ => simp_all

theorem follows_cancelObservedStartup
    (hn : journal.cancelObservedStartup activation materialSha256 clock = some next)
    : next.follows (some journal) := by
  unfold PreparationJournal.cancelObservedStartup at hn
  split_ifs at hn with hre
  obtain ⟨revision, hr, hc⟩ := Option.bind_eq_some_iff.mp hn
  cases hr
  obtain ⟨rfl, hne⟩ := checked_eq_some.mp hc
  simp only [or_eq_true, not_eq_true', not_or, not_eq_false] at hre
  obtain ⟨⟨⟨valid, hno⟩, notActivated⟩, observed⟩ := hre
  cases (shape_of_valid valid).2 with
  | starting hca hs =>
    simp [hne, valid]
  | _ => simp_all

variable {observed : PartialCandidateActivation}

theorem follows_cancelPartialStartup
    (hn : journal.cancelPartialStartup observed materialSha256 clock = some next)
    : next.follows (some journal) := by
  unfold PreparationJournal.cancelPartialStartup at hn
  split_ifs at hn with hre
  obtain ⟨revision, hr, hc⟩ := Option.bind_eq_some_iff.mp hn
  cases hr
  obtain ⟨rfl, hne⟩ := checked_eq_some.mp hc
  simp only [or_eq_true, not_eq_true', not_or, not_eq_false] at hre
  obtain ⟨⟨⟨valid, hno⟩, notCaptured⟩, ho⟩ := hre
  cases (shape_of_valid valid).2 with
  | starting hca hs =>
    simp [hne, valid]
  | _ => simp_all

theorem follows_of_nextPhase {revision : UInt64} (valid : journal.valid)
    (ho : journal.abort = some old) (hp : nextPhase journal.hasCapture old = some phase)
    (hn : PreparationJournal.valid { journal with revision, abort := some phase })
    : PreparationJournal.follows { journal with revision, abort := some phase } (some journal) := by
  have before := abortRevision_of_valid valid ho
  have after := abortRevision_of_valid hn rfl
  have hs : checkedSucc journal.revision = some revision :=
    (checkedSucc_revision_iff (offset_eq journal.candidate) before after).mpr hp
  simp only [follows, hn, valid, abortFollows, ho, before, Option.bind_some, after,
    hs, kept_refl, beq_self_eq_true, Bool.or_true, Bool.and_self]

theorem follows_retiringCandidate {observed : RuntimeSnapshot}
    (hn : journal.retiringCandidate observed = some next)
    : next.follows (some journal) := by
  unfold PreparationJournal.retiringCandidate at hn
  split_ifs at hn with hr
  simp only [or_eq_true, not_eq_true', not_or, not_eq_false, decide_eq_true_eq, not_not] at hr
  obtain ⟨⟨valid, claimed⟩, ho⟩ := hr
  obtain ⟨activation, ha, _⟩ := (Option.any_eq_true _ _).mp ho
  obtain ⟨revision, _, hc⟩ := Option.bind_eq_some_iff.mp hn
  obtain ⟨rfl, hne⟩ := checked_eq_some.mp hc
  exact follows_of_nextPhase valid claimed (by simp [ha, nextPhase]) hne

theorem follows_retiringPartialCandidate
    (hn : journal.retiringPartialCandidate observed = some next)
    : next.follows (some journal) := by
  unfold PreparationJournal.retiringPartialCandidate at hn
  split_ifs at hn with hr
  simp only [or_eq_true, not_eq_true', not_or, not_eq_false, decide_eq_true_eq, not_not] at hr
  obtain ⟨⟨valid, claimed⟩, ho⟩ := hr
  obtain ⟨revision, _, hc⟩ := Option.bind_eq_some_iff.mp hn
  obtain ⟨rfl, hne⟩ := checked_eq_some.mp hc
  exact follows_of_nextPhase valid claimed (by simp [ho, nextPhase]) hne

theorem nextPhase_of_advancedPhase (valid : journal.valid)
    (ho : journal.abort = some old) (ha : advancedPhase journal.hasCapture old = some phase)
    : nextPhase journal.hasCapture old = some phase := by
  have hr := abortRevision_of_valid valid ho
  unfold abortRevision at hr
  revert hr ha
  cases journal.hasCapture <;> cases old <;> cases phase <;>
    simp [advancedPhase, nextPhase]

theorem follows_advanceAbort (hn : journal.advanceAbort = some next)
    : next.follows (some journal) := by
  unfold PreparationJournal.advanceAbort at hn
  split_ifs at hn with hre
  have valid : journal.valid := by simpa using hre
  obtain ⟨phase, hp, hn⟩ := bind_eq_some_iff.mp hn
  obtain ⟨revision, hr, hc⟩ := bind_eq_some_iff.mp hn
  obtain ⟨old, ho, ha⟩ := bind_eq_some_iff.mp hp
  obtain ⟨rfl, hne⟩ := checked_eq_some.mp hc
  exact follows_of_nextPhase valid ho (nextPhase_of_advancedPhase valid ho ha) hne

theorem follows_of_transitions (transitions : Transitions journal next)
    : next.follows (some journal) := by
  cases transitions with
  | provisioned candidate hn => exact follows_provisioned hn
  | starting startup hn => exact follows_starting hn
  | started activation materialSha256 clock hn => exact follows_started hn
  | aborting hn => exact follows_aborting hn
  | cancelObservedStartup activation materialSha256 clock hn =>
    exact follows_cancelObservedStartup hn
  | cancelPartialStartup observed materialSha256 clock hn =>
    exact follows_cancelPartialStartup hn
  | retiringCandidate observed hn => exact follows_retiringCandidate hn
  | retiringPartialCandidate observed hn => exact follows_retiringPartialCandidate hn
  | advanceAbort hn => exact follows_advanceAbort hn

end

structure Succeeds (journal previous : PreparationJournal) : Prop where
  valid : journal.valid = true
  previousValid : previous.valid = true
  intent : journal.intent = previous.intent
  abort : journal.abortFollows previous = true
  candidate : kept previous.candidate journal.candidate = true
  startup : kept previous.startup journal.startup = true
  partialActivation : kept previous.partialActivation journal.partialActivation = true
  activation : kept previous.activation journal.activation = true
  revision : journal = previous ∨ checkedSucc previous.revision = some journal.revision

variable {previous : PreparationJournal}

theorem succeeds_of_follows (hn : journal.follows (some previous)) : journal.Succeeds previous := by
  simp only [follows, and_eq_true, or_eq_true, beq_iff_eq] at hn
  obtain ⟨valid, ⟨⟨⟨⟨⟨⟨previousValid, intent⟩, abort⟩, candidate⟩, startup⟩, observed⟩,
    activation⟩, revision⟩ := hn
  exact ⟨valid, previousValid, intent, abort, candidate, startup, observed, activation, revision⟩

section

attribute [local simp] checked abortRevision hasCapture PreparationAbortPhase.revision
  checkedSub unstartedRevision

variable {startup : CandidateStartup} {intent : PreparationIntent}

theorem CandidateStartup.acceptsObservation_self (valid : startup.validFor intent)
    : startup.acceptsObservation startup.materialSha256 startup.clock := by
  simp only [CandidateStartup.validFor, and_eq_true, isSome_iff_exists] at valid
  obtain ⟨⟨⟨checksum, _⟩, _⟩, ending, he⟩ := valid
  have later : startup.clock.uptimeMs < ending := by
    unfold checkedAdd at he
    split_ifs at he with room
    rw [← Option.some.inj he]
    rw [UInt64.lt_iff_toNat_lt, UInt64.toNat_add, Nat.mod_eq_of_lt room]
    exact Nat.lt_add_of_pos_right (by simp [CandidateStartup.budgetMs])
  simp [CandidateStartup.acceptsObservation, checksum, he, later]

/-- The first record may be provisioned or cancelled. -/
theorem transitions_of_created
    (valid : PreparationJournal.valid
          ⟨preparationJournalSchema, 0, intent, none, none, none, none, none⟩)
    (hne : next.valid) (hi : next.intent = intent) (hr : next.revision = 1)
    : Transitions ⟨preparationJournalSchema, 0, intent, none, none, none, none, none⟩ next := by
  cases (shape_of_valid hne).2 with
  | @provisioned _ candidate hc =>
    cases hi
    refine .provisioned candidate ?_
    simp [PreparationJournal.provisioned, valid, hne]
  | @unstarted intent candidate phase revision hc hn =>
    cases hi
    obtain rfl : revision = 1 := hr
    cases candidate <;> cases phase <;>
      simp at hn
    refine .aborting ?_
    simp [PreparationJournal.aborting, valid, hne]
  | @activated _ _ _ _ phase revision _ _ _ hn =>
    obtain rfl : revision = 1 := hr
    cases phase <;> simp at hn
  | @partiallyActivated _ _ _ _ phase revision _ _ _ hn =>
    obtain rfl : revision = 1 := hr
    cases phase <;> simp at hn
  | _ => simp at hr

variable {candidate : ActiveReleaseSlot}

/-- A provisioned record may be started or cancelled. -/
theorem transitions_of_provisioned
    (valid : PreparationJournal.valid
          ⟨preparationJournalSchema, 1, intent, some candidate, none, none, none, none⟩)
    (hne : next.valid) (hi : next.intent = intent)
    (hc : next.candidate = some candidate) (hr : next.revision = 2)
    : Transitions
        ⟨preparationJournalSchema, 1, intent, some candidate, none, none, none, none⟩ next := by
  cases (shape_of_valid hne).2 with
  | @starting _ _ startup _ hs =>
    cases hi
    cases hc
    refine .starting startup ?_
    simp [PreparationJournal.starting, valid, hne]
  | @unstarted _ _ phase revision _ hn =>
    cases hi
    cases hc
    obtain rfl : revision = 2 := hr
    cases phase <;>
      simp at hn
    refine .aborting ?_
    simp [PreparationJournal.aborting, valid, hne]
  | @activated _ _ _ _ phase revision _ _ _ hn =>
    obtain rfl : revision = 2 := hr
    cases phase <;> simp at hn
  | @partiallyActivated _ _ _ _ phase revision _ _ _ hn =>
    obtain rfl : revision = 2 := hr
    cases phase <;> simp at hn
  | _ => simp at hr

/-- A start may be observed in time, or captured for its cancellation. -/
theorem transitions_of_starting (hs : startup.validFor intent)
    (valid : PreparationJournal.valid
          ⟨preparationJournalSchema, 2, intent, some candidate, some startup, none, none, none⟩)
    (hne : next.valid) (hi : next.intent = intent)
    (hc : next.candidate = some candidate) (hsa : next.startup = some startup)
    (hr : next.revision = 3)
    : Transitions
        ⟨preparationJournalSchema, 2, intent, some candidate, some startup, none, none, none⟩
        next := by
  have observed := CandidateStartup.acceptsObservation_self hs
  cases (shape_of_valid hne).2 with
  | @started _ _ _ activation _ _ _ =>
    cases hi
    cases hc
    cases hsa
    refine .started activation startup.materialSha256 startup.clock ?_
    simp [PreparationJournal.started, valid, hne, observed]
  | unstarted => cases hsa
  | @activated _ _ _ activation phase revision _ _ _ hn =>
    cases hi
    cases hc
    cases hsa
    obtain rfl : revision = 3 := hr
    cases phase <;> simp at hn
    refine .cancelObservedStartup activation startup.materialSha256 startup.clock ?_
    simp [PreparationJournal.cancelObservedStartup, valid, hne, CandidateStartup.observedBy]
  | @partiallyActivated _ _ _ captured phase revision _ _ _ hn =>
    cases hi
    cases hc
    cases hsa
    obtain rfl : revision = 3 := hr
    cases phase <;> simp at hn
    refine .cancelPartialStartup captured startup.materialSha256 startup.clock ?_
    simp [PreparationJournal.cancelPartialStartup, valid, hne, CandidateStartup.observedBy]
  | _ => simp at hr

/-- An activated record can only be cancelled. -/
theorem transitions_of_started {activation : CandidateActivation}
    (valid : PreparationJournal.valid
          ⟨preparationJournalSchema, 3, intent, some candidate, some startup, some activation,
            none, none⟩) (hne : next.valid) (hi : next.intent = intent)
    (hc : next.candidate = some candidate) (hs : next.startup = some startup)
    (hsa : next.activation = some activation) (hr : next.revision = 4)
    : Transitions
        ⟨preparationJournalSchema, 3, intent, some candidate, some startup, some activation,
          none, none⟩
        next := by
  cases (shape_of_valid hne).2 with
  | @activated _ _ _ _ phase revision _ _ _ hn =>
    cases hi
    cases hc
    cases hs
    cases hsa
    obtain rfl : revision = 4 := hr
    cases phase <;> simp at hn
    refine .aborting ?_
    simp [PreparationJournal.aborting, valid, hne]
  | unstarted => cases hs
  | partiallyActivated => cases hsa
  | _ => simp at hr

/-- Only the retirement of what was captured needs another observation. -/
theorem retiring_of_not_advanced (hp : nextPhase captured old = some phase)
    (hn : advancedPhase captured old ≠ some phase)
    : captured ∧ old = .claimed ∧ phase = .retiringCandidate := by
  revert hp hn
  cases captured <;> cases old <;> cases phase <;> simp [advancedPhase, nextPhase]

theorem schema_of_valid (valid : journal.valid) : journal.schema = preparationJournalSchema := by
  simp only [PreparationJournal.valid, and_eq_true, beq_iff_eq, and_assoc] at valid
  exact valid.1

/-- After the beginning of a cancellation only the phase and the revision change. -/
theorem abort_of_succeeds (hs : next.Succeeds journal) (ha : journal.abort = some old)
    : ∃ phase revision, next = { journal with revision, abort := some phase } := by
  have abort := hs.abort
  have schema := (schema_of_valid hs.valid).trans (schema_of_valid hs.previousValid).symm
  have intent := hs.intent
  obtain ⟨_, revision, _, _, _, _, _, abortNext⟩ := next
  cases abortNext with
  | none => simp [abortFollows, ha] at abort
  | some phase =>
    simp only [abortFollows, ha, and_eq_true, beq_iff_eq] at abort
    obtain ⟨⟨⟨⟨candidate, startup⟩, activation⟩, observed⟩, _⟩ := abort
    exact ⟨phase, revision, by simp_all⟩

/-- A cancellation goes on to its next phase. -/
theorem transitions_of_aborting {revision : UInt64} (valid : journal.valid)
    (ho : journal.abort = some old) (hp : nextPhase journal.hasCapture old = some phase)
    (hn : PreparationJournal.valid { journal with revision, abort := some phase })
    : Transitions journal { journal with revision, abort := some phase } := by
  have after : journal.abortRevision phase = some revision :=
    abortRevision_of_valid hn rfl
  by_cases ha : advancedPhase journal.hasCapture old = some phase
  · refine .advanceAbort ?_
    simp [PreparationJournal.advanceAbort, valid, ho, ha, after, hn, -hasCapture, -abortRevision]
  · obtain ⟨captured, rfl, rfl⟩ := retiring_of_not_advanced hp ha
    cases (shape_of_valid valid).2 with
    | @activated _ _ _ activation _ _ _ _ _ _ =>
      cases ho
      obtain rfl : revision = 5 := by simpa using after.symm
      refine .retiringCandidate activation.control ?_
      simp [PreparationJournal.retiringCandidate, valid, retiring, hn]
    | @partiallyActivated _ _ _ observed _ _ _ _ _ _ =>
      cases ho
      obtain rfl : revision = 5 := by simpa using after.symm
      refine .retiringPartialCandidate observed ?_
      simp [PreparationJournal.retiringPartialCandidate, valid, retiring, hn]
    | started => cases ho
    | _ => simp at captured

theorem transitions_of_follows (hn : next.follows (some journal)) (hd : next ≠ journal)
    : Transitions journal next := by
  have hsu := succeeds_of_follows hn
  have valid := hsu.previousValid
  have hne := hsu.valid
  have intent := hsu.intent
  have hr := hsu.revision.resolve_left hd
  cases ha : journal.abort with
  | none =>
    cases (shape_of_valid valid).2 with
    | created =>
      exact transitions_of_created valid hne intent (Option.some.inj hr).symm
    | provisioned hc =>
      exact transitions_of_provisioned valid hne intent
        (eq_of_kept hsu.candidate rfl) (Option.some.inj hr).symm
    | starting hc hs =>
      exact transitions_of_starting hs valid hne intent
        (eq_of_kept hsu.candidate rfl) (eq_of_kept hsu.startup rfl) (Option.some.inj hr).symm
    | started hc hs hac =>
      exact transitions_of_started valid hne intent
        (eq_of_kept hsu.candidate rfl) (eq_of_kept hsu.startup rfl)
        (eq_of_kept hsu.activation rfl) (Option.some.inj hr).symm
    | unstarted => cases ha
    | activated => cases ha
    | partiallyActivated => cases ha
  | some old =>
    obtain ⟨phase, hn⟩ := abort_of_succeeds hsu ha
    obtain ⟨revision, rfl⟩ := hn
    have before := abortRevision_of_valid valid ha
    have after := abortRevision_of_valid hne rfl
    have hp :=
      (checkedSucc_revision_iff (offset_eq journal.candidate) before after).mp hr
    exact transitions_of_aborting valid ha hp hne

end

-- Sequences of records

structure Kept (record later : PreparationJournal) : Prop where
  intent : later.intent = record.intent
  candidate : ∀ value, record.candidate = some value → later.candidate = some value
  startup : ∀ value, record.startup = some value → later.startup = some value
  activation : ∀ value, record.activation = some value → later.activation = some value
  partialActivation
    : ∀ value, record.partialActivation = some value → later.partialActivation = some value
  abort : record.abort.isSome = true → later.abort.isSome = true

theorem Kept.refl (record : PreparationJournal) : record.Kept record :=
  ⟨rfl, fun _ => id, fun _ => id, fun _ => id, fun _ => id, id⟩

theorem Kept.trans {first second third : PreparationJournal} (head : first.Kept second)
    (tail : second.Kept third)
    : first.Kept third where
  intent := tail.intent.trans head.intent
  candidate value present := tail.candidate value (head.candidate value present)
  startup value present := tail.startup value (head.startup value present)
  activation value present := tail.activation value (head.activation value present)
  partialActivation value present :=
    tail.partialActivation value (head.partialActivation value present)
  abort aborted := tail.abort (head.abort aborted)

theorem Succeeds.kept (hs : journal.Succeeds previous)
    : previous.Kept journal where
  intent := hs.intent
  candidate _ := eq_of_kept hs.candidate
  startup _ := eq_of_kept hs.startup
  activation _ := eq_of_kept hs.activation
  partialActivation _ := eq_of_kept hs.partialActivation
  abort aborted := by
    obtain ⟨old, ho⟩ := isSome_iff_exists.mp aborted
    obtain ⟨phase, revision, rfl⟩ := abort_of_succeeds hs ho
    rfl

/-- The order of the phases of a cancellation. It begins with a claim, or with the capture of a
start that the record before had not captured, and goes on from phase to phase.
-/
def AbortStep (previous journal : PreparationJournal) : Prop :=
  match previous.abort, journal.abort with
  | none, none => True
  | none, some phase =>
    phase = .claimed
    ∨ phase = .capturedForCancellation ∧ previous.hasCapture = false ∧ journal.hasCapture = true
  | some old, some phase =>
    journal.hasCapture = previous.hasCapture
    ∧ (phase = old ∨ nextPhase previous.hasCapture old = some phase)
  | some _, none => False

/-- A cancellation begins with a claim or a capture. -/
theorem abort_of_unaborted (hs : journal.Succeeds previous)
    (hno : previous.abort = none) (hp : journal.abort = some phase)
    : phase = .claimed
      ∨ phase = .capturedForCancellation ∧ previous.hasCapture = false ∧ journal.hasCapture := by
  have hn : checkedSucc previous.revision = some journal.revision :=
    hs.revision.resolve_left (by rintro rfl; cases hno.symm.trans hp)
  cases (shape_of_valid hs.valid).2 with
  | @unstarted _ slot _ revision _ hr =>
    cases hp
    cases (shape_of_valid hs.previousValid).2 with
    | created =>
      obtain rfl : revision = 1 := (Option.some.inj hn).symm
      cases slot <;> cases phase <;>
        simp [unstartedRevision, PreparationAbortPhase.revision, checkedSub] at hr ⊢
    | provisioned =>
      obtain rfl : revision = 2 := (Option.some.inj hn).symm
      cases eq_of_kept hs.candidate rfl
      cases phase <;>
        simp [unstartedRevision, PreparationAbortPhase.revision, checkedSub] at hr ⊢
    | starting | started => cases eq_of_kept hs.startup rfl
    | _ => cases hno
  | @activated _ _ _ _ _ revision _ _ _ hr
  | @partiallyActivated _ _ _ _ _ revision _ _ _ hr =>
    cases hp
    cases (shape_of_valid hs.previousValid).2 with
    | created | provisioned | starting | started =>
      obtain rfl : revision = _ := (Option.some.inj hn).symm
      cases phase <;> simp [PreparationAbortPhase.revision, hasCapture] at hr ⊢
    | _ => cases hno
  | _ => cases hp

theorem abortStep_of_follows (hn : journal.follows (some previous))
    : AbortStep previous journal := by
  have hs := succeeds_of_follows hn
  unfold AbortStep
  cases ha : previous.abort with
  | none =>
    cases hp : journal.abort with
    | none => trivial
    | some phase => exact abort_of_unaborted hs ha hp
  | some old =>
    obtain ⟨phase, revision, rfl⟩ := abort_of_succeeds hs ha
    refine ⟨rfl, ?_⟩
    rcases hs.revision with same | hr
    · rw [← same] at ha
      exact .inl (Option.some.inj ha)
    · have before := abortRevision_of_valid hs.previousValid ha
      have after := abortRevision_of_valid hs.valid rfl
      exact .inr ((checkedSucc_revision_iff (offset_eq previous.candidate) before after).mp hr)

theorem revision_le (valid : journal.valid) : journal.revision.toNat ≤ 7 := by
  cases (shape_of_valid valid).2 with
  | @unstarted _ candidate phase _ _ hr =>
    cases candidate <;> cases phase <;>
      simp [unstartedRevision, PreparationAbortPhase.revision, checkedSub] at hr <;>
      subst hr <;> exact Nat.le_of_ble_eq_true rfl
  | @activated _ _ _ _ phase _ _ _ _ hr =>
    cases phase <;> cases hr <;> exact Nat.le_of_ble_eq_true rfl
  | @partiallyActivated _ _ _ _ phase _ _ _ _ hr =>
    cases phase <;> cases hr <;> exact Nat.le_of_ble_eq_true rfl
  | _ => exact Nat.le_of_ble_eq_true rfl

theorem exclusive_of_valid (valid : journal.valid)
    : journal.activation = none ∨ journal.partialActivation = none := by
  cases (shape_of_valid valid).2 with
  | partiallyActivated => exact .inl rfl
  | _ => exact .inr rfl

end PreparationJournal

open PreparationJournal

/-- A sequence of records that storage has accepted after the creation of a journal. -/
def PreparationHistory : List PreparationJournal → Prop :=
  History (fun journal => ∃ intent, create intent = some journal)
    fun previous journal => journal.follows (some previous) = true

theorem valid_of_create {intent : PreparationIntent} {journal : PreparationJournal}
    (hc : create intent = some journal)
    : journal.valid := by
  unfold create at hc
  split_ifs at hc with hi
  cases hc
  exact valid_of_shape hi (.created intent)

theorem PreparationHistory.valid (history : PreparationHistory records) (hr : record ∈ records)
    : record.valid := by
  obtain ⟨last, isLast⟩ := isSome_iff_exists.mp (getLast?_isSome.mpr (ne_nil_of_mem hr))
  refine History.induct (fun records _ => ∀ record ∈ records, record.valid = true)
    (fun record hc other ho => ?_)
    (fun records last record _ step ih other ho => ?_) history isLast record hr
  · obtain ⟨intent, hc⟩ := hc
    rw [mem_singleton.mp ho]
    exact valid_of_create hc
  · rcases mem_append.mp ho with earlier | isLast
    · exact ih other earlier
    · rw [mem_singleton.mp isLast]
      exact (succeeds_of_follows step).valid

theorem PreparationHistory.revision_inj (history : PreparationHistory records)
    (hr : record ∈ records) (ho : other ∈ records)
    (same : record.revision.toNat = other.revision.toNat)
    : record = other := by
  let keeps (first second : PreparationJournal) : Prop :=
    first = second ∨ first.revision.toNat < second.revision.toNat
  have hor {index later : Nat} (hl : index ≤ later) {first second}
      (hf : records[index]? = some first) (hs : records[later]? = some second)
      : keeps first second := by
    refine History.related history keeps (fun _ => .inl rfl) ?_ ?_ hl hf hs
    · intro first second third head tail
      rcases head with rfl | head
      · exact tail
      · rcases tail with rfl | tail
        · exact .inr head
        · exact .inr (head.trans tail)
    · intro previous journal step
      rcases (succeeds_of_follows step).revision with rfl | hn
      · exact .inl rfl
      · have := checkedSucc_eq_some.mp hn
        exact .inr (by omega)
  obtain ⟨index, hf⟩ := mem_iff_getElem?.mp hr
  obtain ⟨later, hs⟩ := mem_iff_getElem?.mp ho
  rcases Nat.le_total index later with hl | hl
  · exact (hor hl hf hs).resolve_right (by omega)
  · exact ((hor hl hs hf).resolve_right (by omega)).symm

theorem PreparationHistory.length_le (history : PreparationHistory records)
    : records.dedup.length ≤ 8 := by
  have distinct : (records.dedup.map fun record => record.revision.toNat).Nodup := by
    refine Nodup.map_on ?_ records.nodup_dedup
    intro record hr other ho same
    exact history.revision_inj (mem_dedup.mp hr) (mem_dedup.mp ho) same
  have hb
      : (records.dedup.map fun record => record.revision.toNat) ⊆ List.range 8 := by
    intro revision hre
    obtain ⟨record, hr, rfl⟩ := mem_map.mp hre
    have small := revision_le (history.valid (mem_dedup.mp hr))
    exact mem_range.mpr (by omega)
  have length := (distinct.subperm hb).length_le
  rwa [length_map, length_range] at length

/-- What holds of every sequence of accepted records. -/
structure PreparationOrder (records : List PreparationJournal) : Prop where
  kept
    : ∀ {index later : Nat} {record other : PreparationJournal}, index ≤ later
      → records[index]? = some record → records[later]? = some other → record.Kept other
  exclusive
    : ∀ record ∈ records, record.activation = none ∨ record.partialActivation = none
  phases : records.IsChain AbortStep
  noHandoff
    : ∀ {index later : Nat} {record other : PreparationJournal}, index ≤ later
      → records[index]? = some record → records[later]? = some other → record.abort.isSome = true
      → ∀ plan, other.permitsHandoff plan = false
  length : records.dedup.length ≤ 8

theorem preparationOrder_of_history (history : PreparationHistory records)
    : PreparationOrder records := by
  have kept {index later : Nat} {record other : PreparationJournal} (hl : index ≤ later)
      (hr : records[index]? = some record) (ho : records[later]? = some other)
      : record.Kept other :=
    History.related history PreparationJournal.Kept Kept.refl Kept.trans
      (fun step => (succeeds_of_follows step).kept) hl hr ho
  refine
    { kept := kept
      exclusive := fun record hr => exclusive_of_valid (history.valid hr)
      phases := history.continues.imp fun _ _ step => abortStep_of_follows step
      noHandoff := ?_
      length := history.length_le }
  intro index later record other hl hr ho aborted plan
  have stays := (kept hl hr ho).abort aborted
  obtain ⟨phase, hp⟩ := isSome_iff_exists.mp stays
  simp [permitsHandoff, hp]

/-- The nine transitions are what storage accepts after a record, apart from the same record
again, and every sequence of accepted records keeps its order.
-/
theorem preparation_transitions_accepted
    : (∀ {journal next : PreparationJournal},
        journal.valid = true → Transitions journal next → next.follows (some journal) = true)
      ∧ (∀ {journal next : PreparationJournal},
          next.follows (some journal) = true → next ≠ journal → Transitions journal next)
      ∧ ∀ records, PreparationHistory records → PreparationOrder records :=
  ⟨fun _ => follows_of_transitions, transitions_of_follows, fun _ => preparationOrder_of_history⟩

def sampleHistory : MigrationInspection where
  schema := "aster.migration-inspection.v2"
  appliedSchemaVersion := 1
  candidateSchemaVersion := 1
  appliedHistorySha256 := samplePlan.proxy.configurationSha256
  candidateHistorySha256 := samplePlan.proxy.configurationSha256
  pending := []

def sampleIntent : PreparationIntent where
  job :=
    { schema := maintenanceJobSchema
      id := "job"
      requestedBy := "admin"
      operation :=
        .upgrade ⟨true, ["archive"]⟩ samplePlan.proxy.configurationSha256
      status := .startingCandidate
      upgradeMode := some .blueGreen
      runnerWasRunning := some true
      currentVersion := "1.0.0"
      targetVersion := some "1.1.0"
      previousRelease := some ⟨true, ["releases", "1.0.0"]⟩
      candidateRelease := some ⟨true, ["releases", "1.1.0"]⟩
      message := ""
      createdAt := ""
      updatedAt := "" }
  previous := samplePlan.previous
  previousProcess := samplePrevious
  previousRunnerProcess := samplePlan.previousRunnerProcess
  candidateManifestSha256 := samplePlan.proxy.configurationSha256
  migrations := ⟨sampleHistory, sampleHistory⟩
  proxy := samplePlan.proxy
  clock := samplePlan.clock

def sampleStartup : CandidateStartup :=
  { materialSha256 := samplePlan.proxy.configurationSha256, clock := samplePlan.clock }

def sampleActivation : CandidateActivation :=
  { control := sampleCandidate, runner := samplePlan.candidateRunnerProcess }

def sampleCreated : PreparationJournal where
  schema := preparationJournalSchema
  revision := 0
  intent := sampleIntent
  candidate := none
  startup := none
  activation := none
  partialActivation := none
  abort := none

def sampleActivated : PreparationJournal :=
  { sampleCreated with
    revision := 3
    candidate := some samplePlan.candidate
    startup := some sampleStartup
    activation := some sampleActivation }

def sampleCancellation : List PreparationJournal :=
  [sampleCreated,
    { sampleCreated with revision := 1, candidate := some samplePlan.candidate },
    { sampleActivated with revision := 2, activation := none },
    { sampleActivated with abort := some .capturedForCancellation },
    { sampleActivated with revision := 4, abort := some .claimed },
    { sampleActivated with revision := 5, abort := some .retiringCandidate },
    { sampleActivated with revision := 6, abort := some .finalizing },
    { sampleActivated with revision := 7, abort := some .complete }]

theorem sampleCancellation_history : PreparationHistory sampleCancellation := by
  refine ⟨fun record hf => ?_, ?_⟩
  · cases hf
    exact ⟨sampleIntent, by decide +kernel⟩
  · change IsChain _ [_, _, _, _, _, _, _, _]
    simp only [List.isChain_cons_cons, List.isChain_singleton, and_true]
    decide +kernel

theorem sample_cancellation_in_order
    : PreparationOrder sampleCancellation
      ∧ PreparationJournal.follows sampleActivated
          (some { sampleActivated with revision := 2, activation := none })
        = true
      ∧ Transitions sampleActivated
          { sampleActivated with revision := 4, abort := some .claimed } := by
  refine ⟨preparation_transitions_accepted.2.2 _ sampleCancellation_history, ?_, ?_⟩
  · exact preparation_transitions_accepted.1 (by decide +kernel)
      (.started sampleActivation sampleStartup.materialSha256 sampleStartup.clock
        (by decide +kernel))
  · exact preparation_transitions_accepted.2.1 (by decide +kernel) (by decide +kernel)

end AsterTeam.Upgrade
