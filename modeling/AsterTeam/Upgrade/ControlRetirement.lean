import AsterTeam.Lifecycle.RegistryRuns
import AsterTeam.Upgrade.CutoverRuns

/-! The executor together with the registry of the previous Control. Commands to that Control
may arrive late, again or never, and requests come and go meanwhile. The Control stops for an
upgrade only when it holds no request.
-/

namespace AsterTeam.Upgrade

open Interaction (Program Executor ExecutorLabel ExecutorStep Ends Environment Reachable)
open Lifecycle (Instant LeasedRegistry RegistryOperation RegistryOutcome RegistryStep
  RegistryRun Registry admittedIds)
open Transition (Run)

variable {adapter : Adapter}

inductive ControlCommand
  | close (revision : UInt64)
  | retire (revision : UInt64)
  deriving DecidableEq

def ControlCommand.operation : ControlCommand → RegistryOperation
  | .close revision => .setAdmission revision false
  | .retire revision => .retireDrained revision

def UpgradeCall.previousCommand : UpgradeCall adapter → Option ControlCommand
  | .closeAdmission .previous observed => some (.close observed.lifecycle.revision)
  | .retireDrained .previous drained => some (.retire drained.lifecycle.revision)
  | _ => none

structure RetirementSystem (adapter : Adapter) where
  executor : UpgradeExecutor adapter
  control : LeasedRegistry
  sent : List ControlCommand

namespace RetirementSystem

def initial : RetirementSystem adapter := ⟨⟨⟨none, none⟩, [], none⟩, .default, []⟩

end RetirementSystem

inductive RetirementLabel
  | executes (label : ExecutorLabel)
  | sends (command : ControlCommand)
  | serves (operation : RegistryOperation) (outcome : RegistryOutcome)
  | delivers (command : ControlCommand) (outcome : RegistryOutcome)

/-- A pending call may send its command any number of times, and a command that has been sent
may be delivered any number of times. Whatever else the Control does is not a retirement. The
replies to the executor are not tied to the Control.
-/
inductive RetirementStep
    : RetirementSystem adapter → RetirementLabel → RetirementSystem adapter → Prop
  | executes {executor next : UpgradeExecutor adapter} {label : ExecutorLabel}
    (control : LeasedRegistry) (sent : List ControlCommand)
    (step : ExecutorStep UpgradeAnswers UpgradeProgram executor label next)
    : RetirementStep ⟨executor, control, sent⟩ (.executes label) ⟨next, control, sent⟩
  | sends {executor : UpgradeExecutor adapter} {call : UpgradeCall adapter}
    {next : UpgradeReply adapter call → Online adapter Unit}
    {seen : List (UpgradeEvent adapter)} {command : ControlCommand}
    (control : LeasedRegistry) (sent : List ControlCommand)
    (issues : executor.running = some (.call call next, seen))
    (isCommand : call.previousCommand = some command)
    : RetirementStep ⟨executor, control, sent⟩ (.sends command)
        ⟨executor, control, sent ++ [command]⟩
  | serves {operation : RegistryOperation} {outcome : RegistryOutcome}
    {control next : LeasedRegistry} (executor : UpgradeExecutor adapter)
    (sent : List ControlCommand) (other : ∀ revision, operation ≠ .retireDrained revision)
    (step : RegistryStep control (operation, outcome) next)
    : RetirementStep ⟨executor, control, sent⟩ (.serves operation outcome) ⟨executor, next, sent⟩
  | delivers {command : ControlCommand} {outcome : RegistryOutcome}
    {control next : LeasedRegistry} {sent : List ControlCommand}
    (executor : UpgradeExecutor adapter) (isSent : command ∈ sent)
    (step : RegistryStep control (command.operation, outcome) next)
    : RetirementStep ⟨executor, control, sent⟩ (.delivers command outcome) ⟨executor, next, sent⟩

abbrev RetirementRun
    : RetirementSystem adapter → List RetirementLabel → RetirementSystem adapter → Prop :=
  Run RetirementStep

-- The parts of a run

def RetirementLabel.ofControl : RetirementLabel → Option (RegistryOperation × RegistryOutcome)
  | .serves operation outcome => some (operation, outcome)
  | .delivers command outcome => some (command.operation, outcome)
  | _ => none

variable {last : RetirementSystem adapter} {labels : List RetirementLabel}

theorem RetirementRun.control (run : RetirementRun first labels last)
    : RegistryRun first.control (labels.filterMap RetirementLabel.ofControl) last.control := by
  refine run.project (·.control) _ fun hs => ?_
  cases hs with
  | executes control sent step => rfl
  | sends control sent issues hc => rfl
  | serves executor sent other step => exact step
  | delivers executor hse step => exact step

-- Stored evidence behind the commands

/-- A snapshot of the drained previous Control is stored with this revision. -/
def UpgradeStorage.Drained (storage : UpgradeStorage) (revision : UInt64) : Prop :=
  ∃ journal drained,
    storage.forward = some journal
    ∧ DrainEvidence journal.closed journal.drained drained
    ∧ drained.lifecycle.revision = revision

variable {storage : UpgradeStorage} {revision : UInt64} {call : UpgradeCall adapter}

theorem UpgradeStorage.Drained.answered {next : UpgradeStorage} (hd : storage.Drained revision)
    (hpe : UpgradeRule storage seen call) (ha : UpgradeAnswers storage call reply next)
    : next.Drained revision := by
  obtain ⟨journal, snapshot, hs, evidence, hr⟩ := hd
  cases call with
  | save previous value =>
    obtain ⟨follows, _⟩ := hpe
    rcases ha with ⟨hp, _, rfl⟩ | ⟨rfl, _⟩
    · rw [← hp, hs] at follows
      have hsu := OnlineJournal.succeeds_of_follows follows
      obtain ⟨closing, hc, same⟩ := evidence.closed
      refine ⟨value, snapshot, rfl, ?_, hr⟩
      exact
        { evidence with
          stored := eq_of_kept hsu.drained evidence.stored
          closed := ⟨closing, eq_of_kept hsu.closed hc, same⟩ }
    · exact ⟨journal, snapshot, hs, evidence, hr⟩
  | saveSwitchback previous value =>
    rcases ha with ⟨_, _, rfl⟩ | ⟨rfl, _⟩
    · exact ⟨journal, snapshot, hs, evidence, hr⟩
    · exact ⟨journal, snapshot, hs, evidence, hr⟩
  | assertCurrent other => exact ha.1 ▸ ⟨journal, snapshot, hs, evidence, hr⟩
  | assertCurrentSwitchback other =>
    exact ha.1 ▸ ⟨journal, snapshot, hs, evidence, hr⟩
  | _ =>
    exact Eq.symm (show next = storage from ha) ▸ ⟨journal, snapshot, hs, evidence, hr⟩

/-- Retirements are sent with the revision of a stored snapshot only. -/
structure RetirementSystem.Backed (system : RetirementSystem adapter) : Prop where
  obeys : system.executor.Obeys UpgradeAnswers UpgradeRule
  sent
    : ∀ revision, ControlCommand.retire revision ∈ system.sent
      → system.executor.state.Drained revision

theorem drained_of_previousCommand (hp : UpgradeRule storage seen call)
    (hc : call.previousCommand = some (.retire revision))
    : storage.Drained revision := by
  unfold UpgradeCall.previousCommand at hc
  split at hc
  · cases hc
  · rename_i hd
    cases hc
    obtain ⟨journal, forward, _, evidence⟩ := hp
    exact ⟨journal, hd, forward.stored, evidence, rfl⟩
  · cases hc

theorem UpgradeStorage.Drained.step {executor next : UpgradeExecutor adapter}
    (obeys : executor.Obeys UpgradeAnswers UpgradeRule)
    (hs : ExecutorStep UpgradeAnswers UpgradeProgram executor label next)
    (hd : executor.state.Drained revision)
    : next.state.Drained revision := by
  cases hs with
  | starts _ hp => exact hd
  | stops => exact hd
  | goesOn ha => exact hd.answered (obeys.permits rfl) ha

variable {system next : RetirementSystem adapter}

theorem RetirementSystem.Backed.step (backed : system.Backed)
    (hst : RetirementStep system label next)
    : next.Backed := by
  cases hst with
  | executes control sent step =>
    refine ⟨backed.obeys.step (fun _ hp storage => hp.keeps storage) step, fun revision hs => ?_⟩
    exact UpgradeStorage.Drained.step backed.obeys step (backed.sent revision hs)
  | sends control sent issues hc =>
    refine ⟨backed.obeys, fun revision hs => ?_⟩
    rcases List.mem_append.mp hs with earlier | isLast
    · exact backed.sent revision earlier
    · rw [← List.mem_singleton.mp isLast] at hc
      exact drained_of_previousCommand (backed.obeys.permits issues) hc
  | serves executor sent other step => exact ⟨backed.obeys, backed.sent⟩
  | delivers executor hs step => exact ⟨backed.obeys, backed.sent⟩

theorem RetirementRun.backed (run : RetirementRun .initial labels system) : system.Backed := by
  have hi : (RetirementSystem.initial : RetirementSystem adapter).Backed :=
    ⟨.idle _ _, fun _ hs => absurd hs List.not_mem_nil⟩
  exact run.invariant (fun head before => before.step head) hi

-- The end of the previous Control

structure StopsByUpgrade (system : RetirementSystem adapter) (command : ControlCommand)
    (next : RetirementSystem adapter)
    : Prop where
  delivered : ∃ outcome, RetirementStep system (.delivers command outcome) next
  running : system.control.registry.stopping = false
  stopping : next.control.registry.stopping = true

theorem setAdmission_stopping (registry : Registry) (expected : UInt64) (accepting : Bool)
    : (registry.setAdmission expected accepting).2.stopping = registry.stopping := by
  unfold Registry.setAdmission
  split_ifs
  · rfl
  · split <;> rfl

theorem retireDrained_failure {registry : Registry}
    (failure : (registry.retireDrained expected).1 = false)
    : (registry.retireDrained expected).2 = registry := by
  unfold Registry.retireDrained at failure ⊢
  split_ifs at failure ⊢ with refused
  · rfl
  · split at failure
    · rfl
    · cases failure

variable {command : ControlCommand}

/-- Only a retirement that succeeds does so. -/
theorem StopsByUpgrade.retirement (stops : StopsByUpgrade system command next)
    : ∃ revision, command = .retire revision ∧ command ∈ system.sent
      ∧ (system.control.registry.retireDrained revision).1 := by
  obtain ⟨⟨outcome, hs⟩, running, hst⟩ := stops
  cases hs with
  | @delivers _ _ control after sent executor hse step =>
    cases command with
    | close revision =>
      cases step
      have hu := setAdmission_stopping control.registry revision false
      exact absurd (hu.symm.trans hst) (by rw [running]; decide)
    | retire revision =>
      refine ⟨revision, rfl, hse, ?_⟩
      cases step
      by_contra failure
      have hu := retireDrained_failure (Bool.eq_false_of_not_eq_true failure)
      have hsti := congrArg Registry.stopping hu
      exact absurd (hsti.symm.trans hst) (by rw [running]; decide)

/-- The previous Control at the instant at which an upgrade stops it: it holds no request,
each one that it has admitted has been released, and the stored snapshot of its drain
describes it exactly.
-/
structure DrainedInstant (labels : List RetirementLabel) (system : RetirementSystem adapter)
    : Prop where
  empty : system.control.registry.requests = []
  released
    : ∀ id ∈ admittedIds (labels.filterMap RetirementLabel.ofControl), id ∉ system.control.leases
  described
    : ∃ journal drained,
        system.executor.state.forward = some journal
        ∧ DrainEvidence journal.closed journal.drained drained
        ∧ system.control.registry.revision = drained.lifecycle.revision
        ∧ system.control.registry.accepting = drained.lifecycle.accepting
        ∧ system.control.registry.stopping = drained.lifecycle.stopping
        ∧ system.control.registry.requests.length = drained.lifecycle.inFlight

theorem drainedInstant_of_stops (run : RetirementRun .initial labels system)
    (stops : StopsByUpgrade system command next)
    : DrainedInstant labels system := by
  obtain ⟨revision, rfl, hs, success⟩ := stops.retirement
  obtain ⟨hr, _, hc, running, empty, _⟩ := Lifecycle.Registry.retireDrained_success success
  have sound := Lifecycle.sound_default.run run.control
  have leases := sound.leases_eq_nil empty
  obtain ⟨journal, hdr, hst, evidence, hd⟩ := run.backed.sent revision hs
  refine ⟨empty, fun id _ held => ?_, journal, hdr, hst, evidence, ?_, ?_, ?_, ?_⟩
  · rw [leases] at held
    exact absurd held List.not_mem_nil
  · exact hr.trans hd.symm
  · exact hc.trans evidence.accepting.symm
  · exact running.trans evidence.stopping.symm
  · rw [empty, evidence.empty]
    rfl

/-- The process manager has the last word on an exit. -/
theorem exited_of_retireControl {side : Side} {drained : RuntimeSnapshot} {deadline : Instant}
    {last : UpgradeStorage} {events : List (UpgradeEvent adapter)}
    (ends : Ends UpgradeAnswers (retireControl side drained deadline) storage events .exited last)
    : ⟨.observeControl drained, Except.ok ProcessProgress.exited⟩ ∈ events :=
  (ends.post (@retires_retireControl adapter storage [] side drained deadline)).2.2 rfl

/-- In every run of the executor with the previous Control, however commands and replies are
lost, delayed or repeated, the Control is stopped by the upgrade only when it is drained and
at most once, and its retirement ends with an exit only if the process manager has reported
the exit of that process.
-/
theorem previous_stops_drained
    : (∀ {labels} {system next : RetirementSystem adapter} {command},
        RetirementRun .initial labels system → StopsByUpgrade system command next
        → DrainedInstant labels system
          ∧ ∀ {more later command after},
              RetirementRun next more later → ¬ StopsByUpgrade later command after)
      ∧ ∀ {side drained deadline storage last} {events : List (UpgradeEvent adapter)},
          Ends UpgradeAnswers (retireControl side drained deadline) storage events .exited last
          → ⟨.observeControl drained, Except.ok ProcessProgress.exited⟩ ∈ events := by
  refine ⟨fun run stops => ⟨drainedInstant_of_stops run stops, fun rest again => ?_⟩,
    exited_of_retireControl⟩
  have hs := (Lifecycle.run_later rest.control).stopping stops.stopping
  exact absurd (again.running.symm.trans hs) (by decide)

def RetirementSystem.Reached (system : RetirementSystem sampleAdapter) : Prop :=
  ∃ labels, RetirementRun .initial labels system

theorem RetirementSystem.Reached.step {system next : RetirementSystem sampleAdapter}
    (hr : system.Reached) (hs : RetirementStep system label next)
    : next.Reached := by
  obtain ⟨labels, run⟩ := hr
  exact ⟨labels ++ [label], Transition.run_append.mpr ⟨system, run, .cons hs (.nil _)⟩⟩

variable {executor : UpgradeExecutor sampleAdapter} {control : LeasedRegistry}
  {sent : List ControlCommand}

theorem RetirementSystem.Reached.execute {next : UpgradeExecutor sampleAdapter}
    {labels : List ExecutorLabel}
    (run : Run (ExecutorStep UpgradeAnswers UpgradeProgram) executor labels next)
    (hr : RetirementSystem.Reached ⟨executor, control, sent⟩)
    : RetirementSystem.Reached ⟨next, control, sent⟩ := by
  induction run with
  | nil => exact hr
  | cons head _ ih => exact ih (hr.step (.executes control sent head))

def sampleRunning : Environment (upgradeInterface sampleAdapter) UpgradeStorage :=
  fun storage call =>
    match call with
    | .observeControl _ => (Except.ok .running, storage)
    | call => sampleEnvironment storage call

theorem sampleRunning_faithful (storage : UpgradeStorage) (call : UpgradeCall sampleAdapter)
    : UpgradeAnswers storage call (sampleRunning storage call).1
        (sampleRunning storage call).2 := by
  cases call with
  | observeControl hd => rfl
  | _ => exact sampleEnvironment_faithful storage _

def sampleRun (journal : OnlineJournal) (uptimeMs : UInt64) (calls : Nat)
    : UpgradeExecutor sampleAdapter → UpgradeExecutor sampleAdapter :=
  Executor.perform sampleRunning
    (journal.advance { bootId := "boot", uptimeMs } 1000000000 >>= fun _ => pure ()) calls

variable (hr : RetirementSystem.Reached ⟨executor, control, sent⟩)

include hr in
theorem RetirementSystem.Reached.perform (hp : UpgradeProgram program) (calls : Nat)
    : RetirementSystem.Reached ⟨executor.perform sampleRunning program calls, control, sent⟩ := by
  obtain ⟨labels, run⟩ := executor.run_perform sampleRunning_faithful hp calls
  exact hr.execute run

include hr in
theorem RetirementSystem.Reached.advance (journal : OnlineJournal) (uptimeMs : UInt64) (calls : Nat)
    : RetirementSystem.Reached ⟨sampleRun journal uptimeMs calls executor, control, sent⟩ :=
  hr.perform (.advance journal _ _) calls

def sampleAtClose : UpgradeExecutor sampleAdapter :=
  sampleRun sampleClosing 130 7
    (sampleRun sampleSwitching 120 20
      (sampleRun (.start samplePlan) 110 20
        (Executor.perform sampleRunning
          (OnlineJournal.create samplePlan >>= fun _ => pure ()) 2 ⟨⟨none, none⟩, [], none⟩)))

/-- The cutover at the command that retires the previous Control, after a restart in the
middle of its closing.
-/
def sampleAtRetire : UpgradeExecutor sampleAdapter :=
  sampleRun sampleRetiring 150 11
    (sampleRun sampleDraining 140 20 (sampleRun sampleClosing 130 20 sampleAtClose))

def pendingCommand (executor : UpgradeExecutor sampleAdapter) : Option ControlCommand :=
  match executor.running with
  | some (.call request _, _) => request.previousCommand
  | _ => none

section

variable (reached : RetirementSystem.Reached ⟨executor, control, sent⟩)

include reached

theorem RetirementSystem.Reached.send (pending : pendingCommand executor = some command)
    : RetirementSystem.Reached ⟨executor, control, sent ++ [command]⟩ := by
  unfold pendingCommand at pending
  split at pending
  · rename_i request next seen hr
    exact reached.step (.sends control sent hr pending)
  · cases pending

theorem RetirementSystem.Reached.serve (operation : RegistryOperation)
    (other : ∀ revision, operation ≠ .retireDrained revision)
    : RetirementSystem.Reached ⟨executor, (control.apply operation).2, sent⟩ :=
  reached.step (@RetirementStep.serves _ _ (control.apply operation).1 _ _ executor sent other
    rfl)

theorem RetirementSystem.Reached.deliver (hs : command ∈ sent)
    : RetirementSystem.Reached ⟨executor, (control.apply command.operation).2, sent⟩ :=
  reached.step (@RetirementStep.delivers _ _ (control.apply command.operation).1 _ _ _ executor
    hs rfl)

end

/-- The previous Control after a request that was admitted before it was closed and released
afterwards.
-/
def sampleControl : LeasedRegistry :=
  ((((LeasedRegistry.default.apply (.admitRequest 5)).2.apply (.setAdmission 0 false)).2).apply
    (.dropLease 0)).2

theorem sampleAtRetire_reached
    : RetirementSystem.Reached ⟨sampleAtRetire, sampleControl, [.close 0, .retire 1]⟩ := by
  have start : RetirementSystem.Reached .initial := ⟨[], .nil _⟩
  have created := start.perform (.create samplePlan) 2
  have atClose : RetirementSystem.Reached ⟨sampleAtClose, .default, []⟩ :=
    ((created.advance (.start samplePlan) 110 20).advance sampleSwitching 120 20).advance
      sampleClosing 130 7
  have hc : pendingCommand sampleAtClose = some (.close 0) := by decide +kernel
  have had := atClose.serve (.admitRequest 5) fun _ hr => by cases hr
  have hcl := (had.send hc).deliver (List.mem_singleton.mpr rfl)
  have hre := hcl.serve (.dropLease 0) fun _ hr => by cases hr
  have ha : RetirementSystem.Reached ⟨sampleAtRetire, sampleControl, [.close 0]⟩ :=
    ((hre.advance sampleClosing 130 20).advance sampleDraining 140 20).advance sampleRetiring 150 11
  have hr : pendingCommand sampleAtRetire = some (.retire 1) := by decide +kernel
  exact ha.send hr

theorem sample_previous_stops
    : ∃ labels, ∃ system next : RetirementSystem sampleAdapter,
        RetirementRun .initial labels system ∧ StopsByUpgrade system (.retire 1) next
        ∧ DrainedInstant labels system := by
  obtain ⟨labels, run⟩ := sampleAtRetire_reached
  let next : LeasedRegistry := (sampleControl.apply (.retireDrained 1)).2
  have stops
      : StopsByUpgrade ⟨sampleAtRetire, sampleControl, [.close 0, .retire 1]⟩ (.retire 1)
          ⟨sampleAtRetire, next, [.close 0, .retire 1]⟩ := by
    refine ⟨⟨(sampleControl.apply (.retireDrained 1)).1, ?_⟩, by decide, by decide⟩
    exact .delivers sampleAtRetire (by decide) rfl
  exact ⟨labels, _, _, run, stops, (previous_stops_drained.1 run stops).1⟩

end AsterTeam.Upgrade
