import AsterTeam.Upgrade.ForwardRules
import AsterTeam.Upgrade.SwitchbackRules
import AsterTeam.Upgrade.JournalChains

/-! Runs of an executor that creates and advances cutovers and switchbacks, is stopped and
restarted anywhere, and gets arbitrary replies. Every command is backed by the stored journals
and by what has been seen.
-/

namespace AsterTeam.Upgrade

open Except (ok)
open SwitchbackJournal
open Interaction (Program Safe safe_bind Executor ExecutorLabel ExecutorStep ExecutorRun
  Environment Reachable)
open Lifecycle (Instant)
open MachineInteger (checkedSucc)

variable {adapter : Adapter}

/-- What an executor may start: a new journal, or a step with any journal it has in hand. -/
inductive UpgradeProgram : Online adapter Unit → Prop
  | create (plan : OnlinePlan)
    : UpgradeProgram (OnlineJournal.create plan >>= fun _ => pure ())
  | advance (journal : OnlineJournal) (clock : UpgradeClock) (deadline : Instant)
    : UpgradeProgram (journal.advance clock deadline >>= fun _ => pure ())
  | createSwitchback (plan : SwitchbackPlan)
    : UpgradeProgram (SwitchbackJournal.create plan >>= fun _ => pure ())
  | advanceSwitchback (journal : SwitchbackJournal) (clock : UpgradeClock)
    (deadline : Instant)
    : UpgradeProgram (journal.advance clock deadline >>= fun _ => pure ())

abbrev UpgradeExecutor (adapter : Adapter) : Type :=
  Executor (upgradeInterface adapter) (OnlineError adapter) UpgradeStorage Unit

/-- A run from empty storage. -/
abbrev UpgradeRun (labels : List ExecutorLabel) (executor : UpgradeExecutor adapter) : Prop :=
  ExecutorRun UpgradeAnswers UpgradeProgram ⟨none, none⟩ labels executor

theorem UpgradeProgram.keeps (hp : UpgradeProgram program) (storage : UpgradeStorage)
    : Safe UpgradeAnswers UpgradeRule (fun _ _ _ => True) program storage [] := by
  cases hp with
  | create plan =>
    exact safe_bind ((keeps_create plan storage).weaken fun _ _ _ _ => trivial)
  | advance journal clock deadline =>
    exact safe_bind ((keeps_advance journal clock deadline storage).weaken fun _ _ _ _ => trivial)
  | createSwitchback plan =>
    exact safe_bind ((SwitchbackJournal.keeps_create plan storage).weaken fun _ _ _ _ => trivial)
  | advanceSwitchback journal clock deadline =>
    exact safe_bind
      ((SwitchbackJournal.keeps_advance journal clock deadline storage).weaken
        fun _ _ _ _ => trivial)

variable {executor : UpgradeExecutor adapter}

theorem UpgradeRun.obeys (run : UpgradeRun labels executor)
    : executor.Obeys UpgradeAnswers UpgradeRule :=
  Executor.Obeys.run (fun _ hp storage => hp.keeps storage) run

-- Stored journals and the history

def UpgradeCall.retiresPrevious : UpgradeCall adapter → Bool
  | .retireDrained .previous _ | .retire _ => true
  | _ => false

def UpgradeCall.retiresCandidate : UpgradeCall adapter → Bool
  | .retireDrained .candidate _ | .retireCandidateRunner _ => true
  | _ => false

def OnlinePhase.retires : OnlinePhase → Bool
  | .retiringPrevious | .committing | .complete => true
  | _ => false

/-- What the two journals say about the calls so far. -/
structure UpgradeStorage.Backed (storage : UpgradeStorage)
    (history : List (UpgradeEvent adapter))
    : Prop where
  forwardExits
    : ∀ journal, storage.forward = some journal
      → journal.phase = .committing ∨ journal.phase = .complete
      → ForwardExits journal.plan history
  claimed
    : ∀ journal, storage.switchback = some journal
      → journal.valid = true ∧ storage.forward = some journal.plan.original
  switchbackExits
    : ∀ journal, storage.switchback = some journal
      → journal.phase = .committingPrevious ∨ journal.phase = .complete
      → SwitchbackExits journal.plan history
  previousRetired
    : ∀ event ∈ history, event.1.retiresPrevious = true
      → ∃ journal, storage.Forward journal ∧ journal.phase.retires = true
  candidateRetired
    : ∀ event ∈ history, event.1.retiresCandidate = true → storage.switchback ≠ none

theorem ForwardExits.mono {plan : OnlinePlan} (exits : ForwardExits plan seen) (hg : seen ⊆ after)
    : ForwardExits plan after := by
  obtain ⟨journal, drained, same, evidence, control, runner⟩ := exits
  exact ⟨journal, drained, same, evidence, hg control, hg runner⟩

theorem SwitchbackExits.mono {plan : SwitchbackPlan} (exits : SwitchbackExits plan seen)
    (hg : seen ⊆ after)
    : SwitchbackExits plan after := by
  obtain ⟨journal, drained, same, evidence, control, runner⟩ := exits
  exact ⟨journal, drained, same, evidence, hg control, hg runner⟩

section

variable {storage : UpgradeStorage}

theorem retiring_of_rule (hpe : UpgradeRule storage seen call) (hr : call.retiresPrevious)
    : ∃ journal, storage.Forward journal ∧ journal.phase = .retiringPrevious := by
  unfold UpgradeCall.retiresPrevious at hr
  split at hr
  · obtain ⟨journal, forward, hp, _⟩ := hpe
    exact ⟨journal, forward, hp⟩
  · rename_i journal
    obtain ⟨forward, hp, _⟩ := hpe
    exact ⟨journal, forward, hp⟩
  · cases hr

theorem claimed_of_rule (hp : UpgradeRule storage seen call) (hr : call.retiresCandidate)
    : storage.switchback ≠ none := by
  unfold UpgradeCall.retiresCandidate at hr
  split at hr
  · obtain ⟨journal, hs, _⟩ := hp
    rw [hs]
    exact Option.some_ne_none journal
  · rename_i journal
    obtain ⟨hs, _⟩ := hp
    rw [hs]
    exact Option.some_ne_none journal
  · cases hr

theorem UpgradeStorage.Backed.called (backed : storage.Backed history)
    (hpe : UpgradeRule storage seen call) (reply : UpgradeReply adapter call)
    : storage.Backed (history ++ [⟨call, reply⟩]) := by
  have hg : history ⊆ history ++ [⟨call, reply⟩] := List.subset_append_left _ _
  refine ⟨fun journal hs hp => ?_, backed.claimed,
    fun journal hs hp => ?_, fun event he hr => ?_,
    fun event he hr => ?_⟩
  · exact (backed.forwardExits journal hs hp).mono hg
  · exact (backed.switchbackExits journal hs hp).mono hg
  · rcases List.mem_append.mp he with earlier | isLast
    · exact backed.previousRetired event earlier hr
    · cases List.mem_singleton.mp isLast
      obtain ⟨journal, forward, hp⟩ := retiring_of_rule hpe hr
      exact ⟨journal, forward, by rw [hp]; rfl⟩
  · rcases List.mem_append.mp he with earlier | isLast
    · exact backed.candidateRetired event earlier hr
    · cases List.mem_singleton.mp isLast
      exact claimed_of_rule hpe hr

variable {phase : OnlinePhase}

theorem committing_of_precedes_complete (hp : phase.precedes .complete) : phase = .committing := by
  revert hp
  cases phase <;> decide

theorem retires_of_precedes {previous next : OnlinePhase}
    (hp : previous.precedes next) (hr : previous.retires)
    : next.retires := by
  revert hp hr
  cases previous <;> cases next <;> decide

theorem UpgradeStorage.Backed.saved (backed : storage.Backed history)
    {value : OnlineJournal} (follows : value.follows storage.forward)
    (hu : storage.switchback = none)
    (exits : value.phase = .committing → ForwardExits value.plan history)
    : UpgradeStorage.Backed { storage with forward := some value } history := by
  refine ⟨fun journal hs hp => ?_, fun journal hs => ?_,
    fun journal hs => ?_, fun event he hre => ?_, backed.candidateRetired⟩
  · cases hs
    rcases hp with hc | complete
    · exact exits hc
    · cases hf : storage.forward with
      | none =>
        rw [hf] at follows
        have hfi := (OnlineJournal.first_of_follows follows).2
        rw [complete] at hfi
        cases hfi
      | some previous =>
        rw [hf] at follows
        have hsu := OnlineJournal.succeeds_of_follows follows
        have hpr := hsu.phase
        rw [complete] at hpr
        rw [hsu.plan]
        exact backed.forwardExits previous hf (.inl (committing_of_precedes_complete hpr))
  · rw [hu] at hs
    cases hs
  · rw [hu] at hs
    cases hs
  · obtain ⟨journal, forward, hr⟩ := backed.previousRetired event he hre
    rw [forward.stored] at follows
    exact ⟨value, ⟨rfl, hu⟩,
      retires_of_precedes (OnlineJournal.succeeds_of_follows follows).phase hr⟩

theorem committing_of_path_complete {phase : SwitchbackPhase}
    (path : SwitchbackPhase.complete.path = phase.path ++ [.complete])
    : phase = .committingPrevious := by
  revert path
  cases phase <;> decide

theorem not_retires_of_allowsPhase (allowed : SwitchbackPlan.allowsPhase phase)
    : phase.retires = false := by
  revert allowed
  cases phase <;> decide

theorem SwitchbackJournal.valid_of_follows {journal : SwitchbackJournal}
    (follows : journal.follows previous)
    : journal.valid := by
  unfold SwitchbackJournal.follows at follows
  exact (Bool.and_eq_true_iff.mp follows).1

theorem SwitchbackPlan.allowsPhase_of_valid {plan : SwitchbackPlan} (valid : plan.valid)
    : allowsPhase plan.original.phase := by
  simp only [SwitchbackPlan.valid, Bool.and_eq_true, and_assoc] at valid
  obtain ⟨_, allowed, _⟩ := valid
  exact allowed

theorem UpgradeStorage.Backed.savedSwitchback (backed : storage.Backed history)
    {value : SwitchbackJournal} (follows : value.follows storage.switchback)
    (claims : storage.switchback = none → storage.forward = some value.plan.original)
    (exits : value.phase = .committingPrevious → SwitchbackExits value.plan history)
    : UpgradeStorage.Backed { storage with switchback := some value } history := by
  have valid := valid_of_follows follows
  refine ⟨backed.forwardExits, fun journal hs => ?_, fun journal hs hp => ?_,
    fun event he hre => ?_, fun _ _ _ => Option.some_ne_none value⟩
  · cases hs
    refine ⟨valid, ?_⟩
    cases hc : storage.switchback with
    | none => exact claims hc
    | some previous =>
      rw [hc] at follows
      rw [(succeeds_of_follows follows).plan]
      exact (backed.claimed previous hc).2
  · cases hs
    rcases hp with hco | complete
    · exact exits hco
    · cases hc : storage.switchback with
      | none =>
        rw [hc] at follows
        have hz := (first_of_follows follows).2
        rw [(valid_facts valid).2, complete] at hz
        exact absurd hz (by decide)
      | some previous =>
        rw [hc] at follows
        have path := phase_of_follows follows
        rw [complete] at path
        rw [(succeeds_of_follows follows).plan]
        exact backed.switchbackExits previous hc (.inl (committing_of_path_complete path))
  · obtain ⟨journal, forward, hr⟩ := backed.previousRetired event he hre
    have ho := claims forward.unclaimed
    rw [forward.stored] at ho
    cases ho
    have hn :=
      not_retires_of_allowsPhase (SwitchbackPlan.allowsPhase_of_valid (valid_facts valid).1)
    rw [hn] at hr
    cases hr

theorem UpgradeStorage.Backed.answered (backed : storage.Backed history) {next : UpgradeStorage}
    (hp : UpgradeRule storage seen call) (happened : seen ⊆ history)
    (ha : UpgradeAnswers storage call reply next)
    : next.Backed (history ++ [⟨call, reply⟩]) := by
  have called := backed.called hp reply
  have hk : seen ⊆ history ++ [⟨call, reply⟩] :=
    fun _ hse => List.mem_append_left _ (happened hse)
  cases call with
  | save previous value =>
    obtain ⟨follows, _, exits⟩ := hp
    rcases ha with ⟨hs, hu, rfl⟩ | ⟨rfl, _⟩
    · rw [← hs] at follows
      exact called.saved follows hu fun hc => (exits hc).mono hk
    · exact called
  | saveSwitchback previous value =>
    obtain ⟨follows, _, exits⟩ := hp
    rcases ha with ⟨hs, claims, rfl⟩ | ⟨rfl, _⟩
    · rw [← hs] at follows claims
      exact called.savedSwitchback follows claims fun hc => (exits hc).mono hk
    · exact called
  | assertCurrent journal => exact ha.1 ▸ called
  | assertCurrentSwitchback journal => exact ha.1 ▸ called
  | _ => exact Eq.symm (show next = storage from ha) ▸ called

end

theorem UpgradeStorage.Backed.step {next : UpgradeExecutor adapter}
    (obeys : executor.Obeys UpgradeAnswers UpgradeRule)
    (backed : executor.state.Backed executor.history)
    (hs : ExecutorStep UpgradeAnswers UpgradeProgram executor label next)
    : next.state.Backed next.history := by
  cases hs with
  | starts _ hp => exact backed
  | stops => exact backed
  | goesOn ha =>
    exact backed.answered (obeys.permits rfl) (obeys.happened _ _ rfl) ha

theorem UpgradeStorage.backed_empty
    : UpgradeStorage.Backed ⟨none, none⟩ ([] : List (UpgradeEvent adapter)) := by
  refine ⟨fun _ hs => ?_, fun _ hs => ?_, fun _ hs => ?_,
    fun _ he => absurd he List.not_mem_nil,
    fun _ he => absurd he List.not_mem_nil⟩
  · cases hs
  · cases hs
  · cases hs

theorem UpgradeRun.backed (run : UpgradeRun labels executor)
    : executor.state.Backed executor.history := by
  exact ExecutorRun.keeps (fun _ hp storage => hp.keeps storage)
    (fun executor => executor.state.Backed executor.history)
    (fun obeys head before => UpgradeStorage.Backed.step obeys before head) run
    UpgradeStorage.backed_empty

-- The commands of a cutover

/-- What stands behind each command of a forward cutover: the stored journal, the replies of
the step that issues it, and the replies of the run.
-/
structure CutoverCommand (storage : UpgradeStorage) (history seen : List (UpgradeEvent adapter))
    (call : UpgradeCall adapter)
    : Prop where
  openCandidate
    : ∀ permit, call = .openAdmission .candidate permit
      → ∃ journal, storage.Forward journal ∧ journal.phase = .openingCandidate
  switch
    : ∀ snapshot, call = .switchTo snapshot
      → ∃ journal, storage.Forward journal ∧ SwitchEvidence seen journal.plan snapshot
  closePrevious
    : ∀ observed, call = .closeAdmission .previous observed
      → ∃ journal, storage.Forward journal
        ∧ ∃ traffic : RuntimeSnapshot,
            ⟨.traffic, ok traffic⟩ ∈ seen
            ∧ traffic.sameProcess journal.plan.candidateProcess = true
  retireControl
    : ∀ drained, call = .retireDrained .previous drained
      → ∃ journal, storage.Forward journal ∧ DrainEvidence journal.closed journal.drained drained
  retireRunner
    : ∀ journal, call = .retire journal
      → storage.Forward journal
        ∧ ∃ drained,
            DrainEvidence journal.closed journal.drained drained
            ∧ ⟨.observeControl drained, ok ProcessProgress.exited⟩ ∈ seen
  commit
    : ∀ journal, call = .commit journal
      → storage.Forward journal ∧ journal.phase = .committing
        ∧ ForwardExits journal.plan history

/-- In every run, whatever the replies and wherever the executor is stopped, each command of a
cutover is issued only with its evidence.
-/
theorem cutover_commands_backed {labels : List ExecutorLabel}
    {executor : UpgradeExecutor adapter} (run : UpgradeRun labels executor)
    {call : UpgradeCall adapter} {next : UpgradeReply adapter call → Online adapter Unit}
    {seen : List (UpgradeEvent adapter)} (issues : executor.running = some (.call call next, seen))
    : (∀ event ∈ seen, event ∈ executor.history)
      ∧ CutoverCommand executor.state executor.history seen call := by
  have hpe := run.obeys.permits issues
  refine ⟨run.obeys.happened _ seen issues, ?_, ?_, ?_, ?_, ?_, ?_⟩
  · intro permit hc
    subst hc
    exact hpe
  · intro snapshot hc
    subst hc
    exact hpe
  · intro observed hc
    subst hc
    exact hpe
  · intro hd hc
    subst hc
    obtain ⟨journal, forward, _, evidence⟩ := hpe
    exact ⟨journal, forward, evidence⟩
  · intro journal hc
    subst hc
    exact ⟨hpe.1, hpe.2.2⟩
  · intro journal hc
    subst hc
    obtain ⟨forward, hp⟩ := hpe
    exact ⟨forward, hp, run.backed.forwardExits journal forward.stored (.inl hp)⟩

def sampleAdapter : Adapter := ⟨Unit, Unit, Unit⟩

def sampleCandidateOf (storage : UpgradeStorage) : RuntimeSnapshot :=
  if storage.switchback.any fun journal => journal.closed.isSome then
    sampleAt sampleCandidate false 2
  else if storage.forward.any fun journal => journal.opened.isSome then
    sampleAt sampleCandidate true 1
  else sampleCandidate

def samplePreviousOf (storage : UpgradeStorage) : RuntimeSnapshot :=
  if storage.switchback.any fun journal => journal.opened.isSome then
    sampleAt samplePrevious true 2
  else if storage.forward.any fun journal => journal.closed.isSome then
    sampleAt samplePrevious false 1
  else samplePrevious

def sampleEnvironment : Environment (upgradeInterface sampleAdapter) UpgradeStorage :=
  fun storage call =>
    match call with
    | .now => ((0 : Nat), storage)
    | .assertCurrent journal =>
      if storage = ⟨some journal, none⟩ then (ok (), storage)
      else (Except.error (), storage)
    | .save previous value =>
      if storage = ⟨previous, none⟩ then (ok (), ⟨some value, none⟩)
      else (Except.error (), storage)
    | .assertCurrentSwitchback journal =>
      if storage.switchback = some journal then (ok (), storage)
      else (Except.error (), storage)
    | .saveSwitchback previous value =>
      if storage.switchback = previous
          ∧ (previous = none → storage.forward = some value.plan.original) then
        (ok (), { storage with switchback := some value })
      else (Except.error (), storage)
    | .status .previous => (ok (samplePreviousOf storage), storage)
    | .status .candidate => (ok (sampleCandidateOf storage), storage)
    | .traffic =>
      (ok
        (if storage.forward.any fun journal => journal.opened.isSome then sampleCandidate
        else samplePrevious), storage)
    | .trafficSlot _ =>
      (ok
        (if storage.switchback.any fun journal => journal.opened.isSome then .blue
        else .green), storage)
    | .readiness _ _ _ => (ok (), storage)
    | .openAdmission .candidate _ => (ok (sampleAt sampleCandidate true 1), storage)
    | .openAdmission .previous _ => (ok (sampleAt samplePrevious true 2), storage)
    | .closeAdmission .previous _ => (ok (sampleAt samplePrevious false 1), storage)
    | .closeAdmission .candidate _ => (ok (sampleAt sampleCandidate false 2), storage)
    | .retireDrained _ drained => (ok drained, storage)
    | .observeControl _ => (ok .exited, storage)
    | .retire _ => (ok .exited, storage)
    | .retireCandidateRunner _ => (ok .exited, storage)
    | .switchTo _ => (ok (), storage)
    | .commit _ => (ok (), storage)
    | .switchBack _ => (ok (), storage)
    | .commitPrevious _ => (ok (), storage)

theorem sampleEnvironment_faithful (storage : UpgradeStorage) (call : UpgradeCall sampleAdapter)
    : UpgradeAnswers storage call (sampleEnvironment storage call).1
        (sampleEnvironment storage call).2 := by
  cases call with
  | assertCurrent journal =>
    simp only [sampleEnvironment]
    split_ifs with hs
    · exact ⟨rfl, fun _ => by rw [hs]; exact ⟨rfl, rfl⟩⟩
    · exact ⟨rfl, nofun⟩
  | save previous value =>
    simp only [sampleEnvironment]
    split_ifs with hs
    · rw [hs]
      exact .inl ⟨rfl, rfl, rfl⟩
    · exact .inr ⟨rfl, nofun⟩
  | assertCurrentSwitchback journal =>
    simp only [sampleEnvironment]
    split_ifs with hs
    · exact ⟨rfl, fun _ => hs⟩
    · exact ⟨rfl, nofun⟩
  | saveSwitchback previous value =>
    simp only [sampleEnvironment]
    split_ifs with hs
    · exact .inl ⟨hs.1, hs.2, rfl⟩
    · exact .inr ⟨rfl, nofun⟩
  | status side => cases side <;> rfl
  | openAdmission side permit => cases side <;> rfl
  | closeAdmission side observed => cases side <;> rfl
  | _ => rfl

abbrev SampleReachable (executor : UpgradeExecutor sampleAdapter) : Prop :=
  Reachable UpgradeAnswers UpgradeProgram ⟨none, none⟩ executor

def sampleStep (journal : OnlineJournal) (uptimeMs : UInt64) (calls : Nat)
    : UpgradeExecutor sampleAdapter → UpgradeExecutor sampleAdapter :=
  Executor.perform sampleEnvironment
    (journal.advance { bootId := "boot", uptimeMs } 1000000000 >>= fun _ => pure ()) calls

theorem sampleStep_reachable {executor : UpgradeExecutor sampleAdapter}
    (reachable : SampleReachable executor) (journal : OnlineJournal) (uptimeMs : UInt64)
    (calls : Nat)
    : SampleReachable (sampleStep journal uptimeMs calls executor) :=
  reachable.perform sampleEnvironment_faithful (.advance journal _ _) calls

def sampleClosed : UpgradeExecutor sampleAdapter :=
  sampleStep sampleClosing 130 20
    (sampleStep sampleSwitching 120 20
      (sampleStep (.start samplePlan) 110 20
        (Executor.perform sampleEnvironment
          (OnlineJournal.create samplePlan >>= fun _ => pure ()) 2 ⟨⟨none, none⟩, [], none⟩)))

theorem sampleClosed_reachable : SampleReachable sampleClosed := by
  have initial : SampleReachable ⟨⟨none, none⟩, [], none⟩ := ⟨[], .nil _⟩
  have hc := initial.perform sampleEnvironment_faithful (.create samplePlan) 2
  exact sampleStep_reachable (sampleStep_reachable (sampleStep_reachable hc _ _ _) _ _ _) _ _ _

def sampleCommitting : OnlineJournal :=
  { sampleRetiring with revision := 5, phase := .committing }

def sampleAtCommit : UpgradeExecutor sampleAdapter :=
  sampleStep sampleCommitting 160 5
    (sampleStep sampleRetiring 150 30 (sampleStep sampleDraining 140 20 sampleClosed))

def issuesCommit (journal : OnlineJournal) (executor : UpgradeExecutor sampleAdapter) : Bool :=
  match executor.running with
  | some (.call (.commit pending) _, _) => pending == journal
  | _ => false

theorem running_of_issuesCommit {executor : UpgradeExecutor sampleAdapter}
    (issues : issuesCommit journal executor)
    : ∃ next seen, executor.running = some (.call (.commit journal) next, seen) := by
  unfold issuesCommit at issues
  split at issues
  · rename_i hp next seen hr
    cases beq_iff_eq.mp issues
    exact ⟨next, seen, hr⟩
  · cases issues

theorem sample_cutover_commits
    : SampleReachable sampleAtCommit
      ∧ (∃ next seen, sampleAtCommit.running = some (.call (.commit sampleCommitting) next, seen))
      ∧ ForwardExits sampleCommitting.plan sampleAtCommit.history := by
  have reachable : SampleReachable sampleAtCommit :=
    sampleStep_reachable (sampleStep_reachable
      (sampleStep_reachable sampleClosed_reachable _ _ _) _ _ _) _ _ _
  obtain ⟨labels, run⟩ := reachable
  have issues := @running_of_issuesCommit sampleCommitting sampleAtCommit (by decide +kernel)
  obtain ⟨next, seen, hr⟩ := issues
  exact ⟨⟨labels, run⟩, ⟨next, seen, hr⟩,
    ((cutover_commands_backed run hr).2.commit sampleCommitting rfl).2.2⟩

-- The commands of a switchback

structure SwitchbackCommand (storage : UpgradeStorage)
    (history seen : List (UpgradeEvent adapter)) (call : UpgradeCall adapter)
    : Prop where
  switchBack
    : ∀ journal, call = .switchBack journal
      → storage.switchback = some journal ∧ SwitchBackEvidence seen journal
  closeCandidate
    : ∀ observed, call = .closeAdmission .candidate observed
      → ∃ journal, storage.switchback = some journal
        ∧ ⟨.trafficSlot journal, ok journal.plan.original.plan.previous.slot⟩ ∈ seen
  retireControl
    : ∀ drained, call = .retireDrained .candidate drained
      → ∃ journal, storage.switchback = some journal
        ∧ DrainEvidence journal.closed journal.drained drained
  retireRunner
    : ∀ journal, call = .retireCandidateRunner journal
      → storage.switchback = some journal
        ∧ ∃ drained,
            DrainEvidence journal.closed journal.drained drained
            ∧ ⟨.observeControl drained, ok ProcessProgress.exited⟩ ∈ seen
  commitPrevious
    : ∀ journal, call = .commitPrevious journal
      → storage.switchback = some journal ∧ journal.phase = .committingPrevious
        ∧ SwitchbackExits journal.plan history
  sparesPrevious
    : storage.switchback ≠ none
      → call.retiresPrevious = false ∧ ∀ observed, call ≠ .closeAdmission .previous observed

/-- The forward journal of a claimed upgrade is the one the switchback was planned from, in a
phase that allows it.
-/
def UpgradeStorage.Frozen (storage : UpgradeStorage) : Prop :=
  ∀ journal, storage.switchback = some journal
    → storage.forward = some journal.plan.original
      ∧ SwitchbackPlan.allowsPhase journal.plan.original.phase = true

theorem UpgradeStorage.Backed.frozen {storage : UpgradeStorage} (backed : storage.Backed history)
    : storage.Frozen := by
  intro journal hs
  obtain ⟨valid, ho⟩ := backed.claimed journal hs
  exact ⟨ho, SwitchbackPlan.allowsPhase_of_valid (valid_facts valid).1⟩

/-- In every run of a cutover and its switchback each command is issued only with its evidence,
a claimed upgrade spares the previous slot, and the commands sent so far, the pending one
included, retire services of one slot only.
-/
theorem switchback_commands_backed {labels : List ExecutorLabel}
    {executor : UpgradeExecutor adapter} (run : UpgradeRun labels executor)
    {call : UpgradeCall adapter} {next : UpgradeReply adapter call → Online adapter Unit}
    {seen : List (UpgradeEvent adapter)} (issues : executor.running = some (.call call next, seen))
    : (∀ event ∈ seen, event ∈ executor.history)
      ∧ SwitchbackCommand executor.state executor.history seen call
      ∧ executor.state.Frozen
      ∧ ¬ ((call.retiresPrevious = true
              ∨ ∃ event ∈ executor.history, event.1.retiresPrevious = true)
            ∧ (call.retiresCandidate = true
              ∨ ∃ event ∈ executor.history, event.1.retiresCandidate = true)) := by
  have hpe := run.obeys.permits issues
  refine ⟨run.obeys.happened _ seen issues, ⟨?_, ?_, ?_, ?_, ?_, ?_⟩, run.backed.frozen, ?_⟩
  · intro journal hc
    subst hc
    exact hpe
  · intro observed hc
    subst hc
    exact hpe
  · intro hd hc
    subst hc
    obtain ⟨journal, hs, _, evidence⟩ := hpe
    exact ⟨journal, hs, evidence⟩
  · intro journal hc
    subst hc
    exact ⟨hpe.1, hpe.2.2⟩
  · intro journal hc
    subst hc
    obtain ⟨hs, hp⟩ := hpe
    exact ⟨hs, hp, run.backed.switchbackExits journal hs (.inl hp)⟩
  · intro hcl
    refine ⟨?_, fun observed hc => ?_⟩
    · by_contra hr
      obtain ⟨journal, forward, _⟩ :=
        retiring_of_rule hpe (Bool.eq_true_of_not_eq_false hr)
      exact hcl forward.unclaimed
    · subst hc
      obtain ⟨journal, forward, _⟩ := hpe
      exact hcl forward.unclaimed
  · intro both
    obtain ⟨previous, candidate⟩ := both
    have hu : executor.state.switchback = none := by
      rcases previous with hr | ⟨event, he, hr⟩
      · obtain ⟨journal, forward, _⟩ := retiring_of_rule hpe hr
        exact forward.unclaimed
      · obtain ⟨journal, forward, _⟩ := run.backed.previousRetired event he hr
        exact forward.unclaimed
    rcases candidate with hr | ⟨event, he, hr⟩
    · exact claimed_of_rule hpe hr hu
    · exact run.backed.candidateRetired event he hr hu

def sampleRetiringCandidate : SwitchbackJournal :=
  { sampleDrainingCandidate with
    revision := 4
    phase := .retiringCandidate
    drained := some (sampleAt sampleCandidate false 2) }

def sampleCommittingPrevious : SwitchbackJournal :=
  { sampleRetiringCandidate with revision := 5, phase := .committingPrevious }

def sampleStepBack (journal : SwitchbackJournal) (uptimeMs : UInt64) (calls : Nat)
    : UpgradeExecutor sampleAdapter → UpgradeExecutor sampleAdapter :=
  Executor.perform sampleEnvironment
    (journal.advance { bootId := "boot", uptimeMs } 1000000000 >>= fun _ => pure ()) calls

theorem sampleStepBack_reachable {executor : UpgradeExecutor sampleAdapter}
    (reachable : SampleReachable executor) (journal : SwitchbackJournal) (uptimeMs : UInt64)
    (calls : Nat)
    : SampleReachable (sampleStepBack journal uptimeMs calls executor) :=
  reachable.perform sampleEnvironment_faithful (.advanceSwitchback journal _ _) calls

def sampleDrainedCandidate : UpgradeExecutor sampleAdapter :=
  sampleStepBack sampleDrainingCandidate 240 20
    (sampleStepBack sampleClosingCandidate 230 20
      (sampleStepBack sampleSwitchingBack 220 20
        (sampleStepBack (.start sampleSwitchbackPlan) 210 20
          (Executor.perform sampleEnvironment
            (SwitchbackJournal.create sampleSwitchbackPlan >>= fun _ => pure ()) 2
            sampleClosed))))

def sampleAtCommitPrevious : UpgradeExecutor sampleAdapter :=
  sampleStepBack sampleCommittingPrevious 260 5
    (sampleStepBack sampleRetiringCandidate 250 30 sampleDrainedCandidate)

theorem sampleAtCommitPrevious_reachable : SampleReachable sampleAtCommitPrevious := by
  have hc := sampleClosed_reachable.perform sampleEnvironment_faithful
    (.createSwitchback sampleSwitchbackPlan) 2
  have ho := sampleStepBack_reachable hc (.start sampleSwitchbackPlan) 210 20
  have switched := sampleStepBack_reachable ho sampleSwitchingBack 220 20
  have hcl := sampleStepBack_reachable switched sampleClosingCandidate 230 20
  have hd := sampleStepBack_reachable hcl sampleDrainingCandidate 240 20
  exact sampleStepBack_reachable
    (sampleStepBack_reachable hd sampleRetiringCandidate 250 30)
    sampleCommittingPrevious 260 5

def issuesCommitPrevious (journal : SwitchbackJournal)
    (executor : UpgradeExecutor sampleAdapter)
    : Bool :=
  match executor.running with
  | some (.call (.commitPrevious pending) _, _) => pending == journal
  | _ => false

theorem running_of_issuesCommitPrevious {executor : UpgradeExecutor sampleAdapter}
    (issues : issuesCommitPrevious journal executor)
    : ∃ next seen, executor.running = some (.call (.commitPrevious journal) next, seen) := by
  unfold issuesCommitPrevious at issues
  split at issues
  · rename_i hp next seen hr
    cases beq_iff_eq.mp issues
    exact ⟨next, seen, hr⟩
  · cases issues

theorem sample_switchback_commits
    : SampleReachable sampleAtCommitPrevious
      ∧ (∃ next seen,
          sampleAtCommitPrevious.running
            = some (.call (.commitPrevious sampleCommittingPrevious) next, seen))
      ∧ SwitchbackExits sampleCommittingPrevious.plan sampleAtCommitPrevious.history := by
  have reachable := sampleAtCommitPrevious_reachable
  obtain ⟨labels, run⟩ := reachable
  obtain ⟨next, seen, hr⟩ :=
    @running_of_issuesCommitPrevious sampleCommittingPrevious sampleAtCommitPrevious
      (by decide +kernel)
  have backed := switchback_commands_backed run hr
  exact ⟨⟨labels, run⟩, ⟨next, seen, hr⟩,
    (backed.2.1.commitPrevious sampleCommittingPrevious rfl).2.2⟩

end AsterTeam.Upgrade
