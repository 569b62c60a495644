import AsterTeam.Upgrade.OnlineJournal

/-! The durable journal of a switchback, which is bound to the forward journal that it
undoes. Its phases are ordered by their revisions only.
-/

namespace AsterTeam.Upgrade

open MachineInteger (checkedSucc)

structure SwitchbackPlan where
  original : OnlineJournal
  (previous candidate : RuntimeSnapshot)
  candidateBudget : RuntimeRequestBudget
  proxy : ProxySnapshot
  clock : UpgradeClock
  deriving DecidableEq

namespace SwitchbackPlan

def allowsPhase : OnlinePhase → Bool
  | .switchingTraffic | .closingPrevious | .drainingPrevious | .drainBudgetExhausted => true
  | .openingCandidate | .retiringPrevious | .committing | .complete => false

def valid (plan : SwitchbackPlan) : Bool :=
  plan.original.valid
    && allowsPhase plan.original.phase
    && plan.original.opened.any (fun opened => unchangedAdmission plan.candidate opened)
    && (match plan.original.closed with
      | none =>
        unchangedAdmission plan.previous plan.original.plan.previousProcess
          || changedAdmission plan.previous plan.original.plan.previousProcess false
      | some closed => unchangedAdmission plan.previous closed)
    && plan.previous.lifecycle.revision.toNat < 2 ^ 64 - 2
    && plan.candidate.lifecycle.revision.toNat < 2 ^ 64 - 2
    && plan.candidateBudget.validFor plan.candidate
    && plan.proxy.slot == plan.original.plan.candidate.slot
    && plan.proxy.configurationSha256 == plan.original.plan.proxy.configurationSha256
    && plan.proxy.streamCloseDelayMs == plan.original.plan.proxy.streamCloseDelayMs
    && plan.candidateBudget.requestBudgetMs < plan.proxy.streamCloseDelayMs
    && plan.clock.bootId == plan.original.plan.clock.bootId
    && plan.original.plan.clock.uptimeMs ≤ plan.clock.uptimeMs
    && plan.original.cutoverStartedAtMs.all (fun start => start ≤ plan.clock.uptimeMs)
    && plan.original.drainStartedAtMs.all (fun start => start ≤ plan.clock.uptimeMs)
    && (checkedAdd plan.clock.uptimeMs plan.proxy.streamCloseDelayMs).isSome

def previousReadiness (plan : SwitchbackPlan) : ReadinessExpectation :=
  let runner := plan.original.plan.previous.localRunner
  { manifestSha256 := (runner.map (·.manifestSha256)).getD ""
    runnerIds := (runner.map fun runner => [runner.runnerId]).getD []
    models := plan.original.plan.readiness.models }

end SwitchbackPlan

inductive SwitchbackPhase
  | preparingPrevious
  | switchingBack
  | closingCandidate
  | drainingCandidate
  | retiringCandidate
  | committingPrevious
  | complete
  | drainBudgetExhausted
  deriving DecidableEq

def SwitchbackPhase.revision : SwitchbackPhase → UInt64
  | preparingPrevious => 0
  | switchingBack => 1
  | closingCandidate => 2
  | drainingCandidate => 3
  | retiringCandidate | drainBudgetExhausted => 4
  | committingPrevious => 5
  | complete => 6

structure SwitchbackJournal where
  schema : String
  revision : UInt64
  plan : SwitchbackPlan
  phase : SwitchbackPhase
  (opened closed drained : Option RuntimeSnapshot)
  (switchStartedMs drainStartedMs : Option UInt64)
  deriving DecidableEq

def switchbackJournalSchema : String := "aster.online-switchback.v1"

namespace SwitchbackJournal

/-- The previous slot is open again: as it was, or by one change. -/
def reopened (plan : SwitchbackPlan) (current : RuntimeSnapshot) : Bool :=
  if plan.previous.lifecycle.accepting then unchangedAdmission current plan.previous
  else changedAdmission current plan.previous true

variable (journal : SwitchbackJournal)

def openedValid : Bool :=
  journal.opened.any fun opened => reopened journal.plan opened

def switchValid : Bool :=
  journal.switchStartedMs.any fun start =>
    journal.plan.clock.uptimeMs ≤ start
      && (checkedAdd start journal.plan.proxy.streamCloseDelayMs).isSome

def drainValid : Bool :=
  journal.drainStartedMs.any fun start =>
    journal.switchStartedMs.any fun switch =>
      switch ≤ start
        && (checkedAdd start journal.plan.candidateBudget.requestBudgetMs).any fun ending =>
          (checkedAdd switch journal.plan.proxy.streamCloseDelayMs).any fun limit => ending ≤ limit

def closedValid : Bool :=
  journal.closed.any fun closed => changedAdmission closed journal.plan.candidate false

def drainedValid : Bool :=
  journal.drained.any fun value =>
    value.lifecycle.inFlight == 0 && journal.closed.any fun closed => value.observesDrain closed

def valid (journal : SwitchbackJournal) : Bool :=
  journal.schema == switchbackJournalSchema && journal.plan.valid
    && journal.revision == journal.phase.revision
    && match journal.phase with
      | .preparingPrevious =>
        journal.opened.isNone && journal.closed.isNone && journal.drained.isNone
          && journal.switchStartedMs.isNone && journal.drainStartedMs.isNone
      | .switchingBack =>
        journal.openedValid && journal.switchValid && journal.closed.isNone
          && journal.drained.isNone && journal.drainStartedMs.isNone
      | .closingCandidate =>
        journal.openedValid && journal.switchValid && journal.drainValid
          && journal.closed.isNone && journal.drained.isNone
      | .drainingCandidate | .drainBudgetExhausted =>
        journal.openedValid && journal.switchValid && journal.drainValid
          && journal.closedValid && journal.drained.isNone
      | .retiringCandidate | .committingPrevious | .complete =>
        journal.openedValid && journal.switchValid && journal.drainValid
          && journal.closedValid && journal.drainedValid

def follows (previous : Option SwitchbackJournal) : Bool :=
  journal.valid
    && match previous with
      | none => journal.revision == 0
      | some previous =>
        previous.valid && journal.plan == previous.plan
          && checkedSucc previous.revision == some journal.revision
          && !(previous.phase == .complete || previous.phase == .drainBudgetExhausted)
          && kept previous.opened journal.opened
          && kept previous.closed journal.closed
          && kept previous.drained journal.drained
          && kept previous.switchStartedMs journal.switchStartedMs
          && kept previous.drainStartedMs journal.drainStartedMs

def start (plan : SwitchbackPlan) : SwitchbackJournal where
  schema := switchbackJournalSchema
  revision := 0
  plan := plan
  phase := .preparingPrevious
  opened := none
  closed := none
  drained := none
  switchStartedMs := none
  drainStartedMs := none

theorem valid_facts {journal : SwitchbackJournal} (valid : journal.valid)
    : journal.plan.valid ∧ journal.revision = journal.phase.revision := by
  simp only [SwitchbackJournal.valid, Bool.and_eq_true, beq_iff_eq] at valid
  exact ⟨valid.1.1.2, valid.1.2⟩

structure Succeeds (journal previous : SwitchbackJournal) : Prop where
  valid : journal.valid = true
  previousValid : previous.valid = true
  plan : journal.plan = previous.plan
  revision : checkedSucc previous.revision = some journal.revision
  notComplete : previous.phase ≠ .complete
  notExhausted : previous.phase ≠ .drainBudgetExhausted
  opened : kept previous.opened journal.opened = true
  closed : kept previous.closed journal.closed = true
  drained : kept previous.drained journal.drained = true
  switchStarted : kept previous.switchStartedMs journal.switchStartedMs = true
  drainStarted : kept previous.drainStartedMs journal.drainStartedMs = true

theorem succeeds_of_follows {journal previous : SwitchbackJournal}
    (hn : journal.follows (some previous))
    : journal.Succeeds previous := by
  simp only [follows, Bool.and_eq_true, beq_iff_eq, Bool.not_eq_true', Bool.or_eq_false_iff,
    beq_eq_false_iff_ne] at hn
  obtain ⟨valid, ⟨⟨⟨⟨⟨⟨⟨⟨previousValid, plan⟩, revision⟩, notComplete, notExhausted⟩, opened⟩,
    closed⟩, drained⟩, switchStarted⟩, drainStarted⟩⟩ := hn
  exact ⟨valid, previousValid, plan, revision, notComplete, notExhausted, opened, closed,
    drained, switchStarted, drainStarted⟩

theorem first_of_follows {journal : SwitchbackJournal} (hf : journal.follows none)
    : journal.valid ∧ journal.revision = 0 := by
  simpa [follows] using hf

end SwitchbackJournal

end AsterTeam.Upgrade
