import AsterTeam.Upgrade.Runtime

/-! The durable journal of a forward cutover: its plan, its phases with the evidence that
each of them needs, and which record may follow which.
-/

namespace AsterTeam.Upgrade

open MachineInteger (checkedSucc)

structure OnlinePlan where
  jobId : String
  (previous candidate : ActiveReleaseSlot)
  (previousProcess candidateProcess : RuntimeSnapshot)
  (previousRunnerProcess candidateRunnerProcess : ServiceInvocation)
  readiness : ReadinessExpectation
  proxy : ProxySnapshot
  clock : UpgradeClock
  drainBudgetMs : UInt64
  deriving DecidableEq

namespace OnlinePlan

def distinctServiceInvocations (plan : OnlinePlan) : Bool :=
  match plan.previousProcess.service, plan.candidateProcess.service with
  | some previous, some candidate =>
    distinctServices [previous, candidate, plan.previousRunnerProcess, plan.candidateRunnerProcess]
  | _, _ => false

def pairValid (release : ActiveReleaseSlot) (process : RuntimeSnapshot) : Bool :=
  release.valid
    && release.schema == activeSlotRuntimeSchema
    && process.sameProcess process
    && process.installationId ≠ ""
    && release.slot == process.slot
    && release.version == process.productVersion
    && !process.lifecycle.stopping
    && process.service.any ServiceInvocation.valid
    && process.lifecycle.revision.toNat < 2 ^ 64 - 1

def valid (plan : OnlinePlan) : Bool :=
  validIdentifier plan.jobId
    && pairValid plan.previous plan.previousProcess
    && pairValid plan.candidate plan.candidateProcess
    && plan.previous.slot ≠ plan.candidate.slot
    && plan.previousProcess.installationId == plan.candidateProcess.installationId
    && plan.previousProcess.instanceId ≠ plan.candidateProcess.instanceId
    && plan.distinctServiceInvocations
    && plan.previousProcess.lifecycle.accepting
    && !plan.candidateProcess.lifecycle.accepting
    && plan.candidateProcess.lifecycle.inFlight == 0
    && 0 < plan.drainBudgetMs
    && plan.proxy.slot == plan.previous.slot
    && validChecksum plan.proxy.configurationSha256
    && plan.drainBudgetMs < plan.proxy.streamCloseDelayMs
    && validIdentifier plan.clock.bootId
    && (checkedAdd plan.clock.uptimeMs plan.proxy.streamCloseDelayMs).isSome
    && plan.readiness.valid
    && plan.candidate.localRunner.any fun runner =>
      plan.readiness.manifestSha256 == runner.manifestSha256
        && plan.readiness.runnerIds.contains runner.runnerId
        && plan.previous.localRunner.any fun previous => previous.runnerId ≠ runner.runnerId

end OnlinePlan

inductive OnlinePhase
  | openingCandidate
  | switchingTraffic
  | closingPrevious
  | drainingPrevious
  | drainBudgetExhausted
  | retiringPrevious
  | committing
  | complete
  deriving DecidableEq

def OnlinePhase.revision : OnlinePhase → UInt64
  | openingCandidate => 0
  | switchingTraffic => 1
  | closingPrevious => 2
  | drainingPrevious => 3
  | drainBudgetExhausted | retiringPrevious => 4
  | committing => 5
  | complete => 6

def OnlinePhase.precedes : OnlinePhase → OnlinePhase → Bool
  | openingCandidate, switchingTraffic => true
  | switchingTraffic, closingPrevious => true
  | closingPrevious, drainingPrevious => true
  | drainingPrevious, retiringPrevious => true
  | drainingPrevious, drainBudgetExhausted => true
  | retiringPrevious, committing => true
  | committing, complete => true
  | _, _ => false

structure OnlineJournal where
  schema : String
  revision : UInt64
  plan : OnlinePlan
  phase : OnlinePhase
  (opened closed : Option RuntimeSnapshot)
  (cutoverStartedAtMs drainStartedAtMs : Option UInt64)
  (drained exhausted : Option RuntimeSnapshot)
  deriving DecidableEq

def onlineJournalSchema : String := "aster.online-transition.v2"

def kept {Value : Type} [DecidableEq Value] (previous next : Option Value) : Bool :=
  previous.all fun value => next == some value

theorem eq_of_kept {Value : Type} [DecidableEq Value] {previous next : Option Value}
    (hk : kept previous next) {value : Value} (present : previous = some value)
    : next = some value := by
  rw [present] at hk
  simpa [kept] using hk

namespace OnlineJournal

variable (journal : OnlineJournal)

def openedValid : Bool :=
  journal.opened.any fun value => changedAdmission value journal.plan.candidateProcess true

def closedValid : Bool :=
  journal.closed.any fun value => changedAdmission value journal.plan.previousProcess false

def drainedValid : Bool :=
  journal.drained.any fun value =>
    journal.closed.any (fun closed => value.observesDrain closed) && value.lifecycle.inFlight == 0

def cutoverValid : Bool :=
  journal.cutoverStartedAtMs.any fun start =>
    journal.plan.clock.uptimeMs ≤ start
      && (checkedAdd start journal.plan.proxy.streamCloseDelayMs).isSome

def clockValid : Bool :=
  journal.drainStartedAtMs.any fun start =>
    journal.cutoverStartedAtMs.any (fun cutover => cutover ≤ start)
      && (checkedAdd start journal.plan.drainBudgetMs).any fun drainEnd =>
        (journal.cutoverStartedAtMs.bind fun cutover =>
          checkedAdd cutover journal.plan.proxy.streamCloseDelayMs).any
            fun proxyEnd => drainEnd ≤ proxyEnd

def exhaustionValid : Bool :=
  if journal.phase = .drainBudgetExhausted then
    journal.exhausted.any fun value =>
      journal.closed.any fun closed => value.observesDrain closed
  else journal.exhausted.isNone

def valid (journal : OnlineJournal) : Bool :=
  journal.schema == onlineJournalSchema && journal.plan.valid
    && journal.revision == journal.phase.revision
    && journal.exhaustionValid
    && match journal.phase with
      | .openingCandidate =>
        journal.revision == 0 && journal.opened.isNone && journal.closed.isNone
          && journal.cutoverStartedAtMs.isNone && journal.drainStartedAtMs.isNone
          && journal.drained.isNone
      | .switchingTraffic =>
        journal.openedValid && journal.cutoverValid && journal.closed.isNone
          && journal.drainStartedAtMs.isNone && journal.drained.isNone
      | .closingPrevious =>
        journal.openedValid && journal.cutoverValid && journal.closed.isNone
          && journal.clockValid && journal.drained.isNone
      | .drainingPrevious | .drainBudgetExhausted =>
        journal.openedValid && journal.closedValid && journal.cutoverValid
          && journal.clockValid && journal.drained.isNone
      | .retiringPrevious | .committing | .complete =>
        journal.openedValid && journal.closedValid && journal.cutoverValid
          && journal.clockValid && journal.drainedValid

/-- Whether a record may be stored after another one, or as the first. -/
def follows (previous : Option OnlineJournal) : Bool :=
  journal.valid
    && match previous with
      | none => journal.phase == .openingCandidate
      | some previous =>
        previous.valid && journal.plan == previous.plan
          && checkedSucc previous.revision == some journal.revision
          && previous.phase.precedes journal.phase
          && kept previous.opened journal.opened
          && kept previous.closed journal.closed
          && kept previous.drained journal.drained
          && kept previous.drainStartedAtMs journal.drainStartedAtMs
          && kept previous.cutoverStartedAtMs journal.cutoverStartedAtMs

def start (plan : OnlinePlan) : OnlineJournal where
  schema := onlineJournalSchema
  revision := 0
  plan := plan
  phase := .openingCandidate
  opened := none
  closed := none
  cutoverStartedAtMs := none
  drainStartedAtMs := none
  drained := none
  exhausted := none

/-- What validity says whatever the phase. -/
theorem valid_facts {journal : OnlineJournal} (valid : journal.valid)
    : journal.plan.valid ∧ journal.revision = journal.phase.revision := by
  simp only [OnlineJournal.valid, Bool.and_eq_true, beq_iff_eq, and_assoc] at valid
  obtain ⟨_, plan, revision, _⟩ := valid
  exact ⟨plan, revision⟩

structure Succeeds (journal previous : OnlineJournal) : Prop where
  valid : journal.valid = true
  previousValid : previous.valid = true
  plan : journal.plan = previous.plan
  revision : checkedSucc previous.revision = some journal.revision
  phase : previous.phase.precedes journal.phase = true
  opened : kept previous.opened journal.opened = true
  closed : kept previous.closed journal.closed = true
  drained : kept previous.drained journal.drained = true
  drainStarted : kept previous.drainStartedAtMs journal.drainStartedAtMs = true
  cutoverStarted : kept previous.cutoverStartedAtMs journal.cutoverStartedAtMs = true

theorem succeeds_of_follows {journal previous : OnlineJournal}
    (hn : journal.follows (some previous))
    : journal.Succeeds previous := by
  simp only [follows, Bool.and_eq_true, beq_iff_eq] at hn
  obtain ⟨valid, ⟨⟨⟨⟨⟨⟨⟨⟨previousValid, plan⟩, revision⟩, phase⟩, opened⟩, closed⟩, drained⟩,
    drainStarted⟩, cutoverStarted⟩⟩ := hn
  exact ⟨valid, previousValid, plan, revision, phase, opened, closed, drained, drainStarted,
    cutoverStarted⟩

theorem first_of_follows {journal : OnlineJournal} (hf : journal.follows none)
    : journal.valid ∧ journal.phase = .openingCandidate := by
  simpa [follows] using hf

end OnlineJournal

end AsterTeam.Upgrade
