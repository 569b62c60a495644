import AsterTeam.Library.Interaction
import AsterTeam.Lifecycle.RequestRegistry
import AsterTeam.Upgrade.SwitchbackJournal

/-! One step of a forward cutover: what the executor asks the two slots, the proxy, the
process manager and the journal storage, in order, and what it does with the replies.
-/

namespace AsterTeam.Upgrade

open Interaction.Program

open Interaction (Interface Program)
open Lifecycle (Instant)
open MachineInteger (checkedSucc)

/-- What the adapters of an executor hand out: readiness permits and their errors. -/
structure Adapter where
  (Permit RuntimeError DeploymentError : Type)

/-- The slot that a runtime call is for. -/
inductive Side
  | previous
  | candidate
  deriving DecidableEq

/-- The calls of the executor. Deadlines are shared by all calls and not repeated here. -/
inductive UpgradeCall (adapter : Adapter)
  | now
  | assertCurrent (journal : OnlineJournal)
  | save (previous : Option OnlineJournal) (next : OnlineJournal)
  | traffic
  | status (side : Side)
  | readiness (side : Side) (observed : RuntimeSnapshot) (expected : ReadinessExpectation)
  | openAdmission (side : Side) (permit : adapter.Permit)
  | closeAdmission (side : Side) (observed : RuntimeSnapshot)
  | retireDrained (side : Side) (drained : RuntimeSnapshot)
  | switchTo (candidate : RuntimeSnapshot)
  | observeControl (drained : RuntimeSnapshot)
  | retire (journal : OnlineJournal)
  | commit (journal : OnlineJournal)
  | assertCurrentSwitchback (journal : SwitchbackJournal)
  | saveSwitchback (previous : Option SwitchbackJournal) (next : SwitchbackJournal)
  | trafficSlot (journal : SwitchbackJournal)
  | switchBack (journal : SwitchbackJournal)
  | retireCandidateRunner (journal : SwitchbackJournal)
  | commitPrevious (journal : SwitchbackJournal)

def UpgradeReply (adapter : Adapter) : UpgradeCall adapter → Type
  | .now => Instant
  | .status _ | .openAdmission _ _ | .closeAdmission _ _ | .retireDrained _ _ =>
    Except adapter.RuntimeError RuntimeSnapshot
  | .readiness _ _ _ => Except adapter.RuntimeError adapter.Permit
  | .traffic => Except adapter.DeploymentError RuntimeSnapshot
  | .trafficSlot _ => Except adapter.DeploymentError ReleaseSlot
  | .observeControl _ | .retire _ | .retireCandidateRunner _ =>
    Except adapter.DeploymentError ProcessProgress
  | .assertCurrent _ | .save _ _ | .switchTo _ | .commit _ | .assertCurrentSwitchback _
  | .saveSwitchback _ _ | .switchBack _ | .commitPrevious _ =>
    Except adapter.DeploymentError Unit

abbrev upgradeInterface (adapter : Adapter) : Interface :=
  ⟨UpgradeCall adapter, UpgradeReply adapter⟩

inductive RetirementError (adapter : Adapter)
  | invalidDrain
  | deadline
  | runtimeChanged
  | runtime (error : adapter.RuntimeError)
  | process (error : adapter.DeploymentError)

inductive OnlineError (adapter : Adapter)
  | invalidJournal
  | deadline
  | clock
  | bootChanged
  | proxyWindowElapsed
  | runtimeChanged
  | trafficChanged
  | runtime (error : adapter.RuntimeError)
  | deployment (error : adapter.DeploymentError)
  | retirement (error : RetirementError adapter)

inductive OnlineProgress
  | advanced (phase : OnlinePhase)
  | draining (count : Nat) (oldestRequestAgeMs : UInt64)
  | drainBudgetExhausted
  | retiringPrevious
  | complete
  deriving DecidableEq

inductive ControlRetirementProgress
  | waiting
  | exited
  deriving DecidableEq

variable {adapter : Adapter}

abbrev Online (adapter : Adapter) (α : Type) : Type :=
  Program (upgradeInterface adapter) (OnlineError adapter) α

abbrev Retirement (adapter : Adapter) (α : Type) : Type :=
  Program (upgradeInterface adapter) (RetirementError adapter) α

abbrev UpgradeEvent (adapter : Adapter) : Type :=
  Interaction.Event (upgradeInterface adapter)

-- Calls

def ask {Error : Type} (call : UpgradeCall adapter)
    : Program (upgradeInterface adapter) Error (UpgradeReply adapter call) :=
  @request (upgradeInterface adapter) Error call

def readClock {Error : Type} : Program (upgradeInterface adapter) Error Instant :=
  ask .now

def status (side : Side) : Online adapter RuntimeSnapshot := do
  let reply ← ask (.status side)
  lift .runtime reply

def readiness (side : Side) (observed : RuntimeSnapshot) (expected : ReadinessExpectation)
    : Online adapter adapter.Permit := do
  let reply ← ask (.readiness side observed expected)
  lift .runtime reply

def openAdmission (side : Side) (permit : adapter.Permit) : Online adapter RuntimeSnapshot := do
  let reply ← ask (.openAdmission side permit)
  lift .runtime reply

def closeAdmission (side : Side) (observed : RuntimeSnapshot)
    : Online adapter RuntimeSnapshot := do
  let reply ← ask (.closeAdmission side observed)
  lift .runtime reply

def traffic : Online adapter RuntimeSnapshot := do
  let reply ← ask .traffic
  lift .deployment reply

def before (deadline : Instant) : Online adapter Unit := do
  let current ← readClock
  require (current < deadline) .deadline

-- Retirement of a drained Control

def RuntimeSnapshot.drainedService (drained : RuntimeSnapshot) : Bool :=
  drained.sameProcess drained
    && drained.installationId ≠ ""
    && !drained.lifecycle.accepting
    && !drained.lifecycle.stopping
    && drained.lifecycle.inFlight == 0
    && drained.lifecycle.revision.toNat ≠ 2 ^ 64 - 1
    && drained.service.any ServiceInvocation.valid

def observe (drained : RuntimeSnapshot) (deadline : Instant)
    : Retirement adapter ProcessProgress := do
  let start ← readClock
  require (start < deadline) .deadline
  let reply ← ask (.observeControl drained)
  let state ← lift .process reply
  let finish ← readClock
  require (finish < deadline) .deadline
  return state

def reconcileFailure (observed : ProcessProgress) (error : adapter.RuntimeError)
    : Retirement adapter ControlRetirementProgress :=
  match observed with
  | .exited => .done .exited
  | .stopping => .done .waiting
  | .running => .fail (.runtime error)

/-- The last observation: only an exit is one. -/
def confirmExit (drained : RuntimeSnapshot) (deadline : Instant)
    : Retirement adapter ControlRetirementProgress := do
  let state ← observe drained deadline
  return if state = .exited then .exited else .waiting

/-- The retirement command, for a Control that is still closed and empty. -/
def commandRetirement (side : Side) (drained observed : RuntimeSnapshot) (deadline : Instant)
    : Retirement adapter ControlRetirementProgress :=
  if observed.observesRetirement drained then confirmExit drained deadline
  else if !observed.observesDrain drained || observed.lifecycle.inFlight ≠ 0 then
    .fail .runtimeChanged
  else do
    let reply ← ask (.retireDrained side drained)
    match reply with
    | .ok reply =>
      if reply.observesRetirement drained then confirmExit drained deadline
      else .fail .runtimeChanged
    | .error error => do
        let state ← observe drained deadline
        reconcileFailure state error

def retireRunning (side : Side) (drained : RuntimeSnapshot) (deadline : Instant)
    : Retirement adapter ControlRetirementProgress := do
  let reply ← ask (.status side)
  match reply with
  | .error error => do
      let state ← observe drained deadline
      reconcileFailure state error
  | .ok observed => do
      let current ← readClock
      require (current < deadline) .deadline
      commandRetirement side drained observed deadline

/-- At most one command; only the process manager can prove an exit. -/
def retireControl (side : Side) (drained : RuntimeSnapshot) (deadline : Instant)
    : Retirement adapter ControlRetirementProgress := do
  require drained.drainedService .invalidDrain
  let state ← observe drained deadline
  match state with
  | .exited => .done .exited
  | .stopping => .done .waiting
  | .running => retireRunning side drained deadline

-- The phases of a cutover

variable (journal : OnlineJournal) (nowMs : UInt64) (started deadline : Instant)

def OnlineJournal.checkpoint (phase : OnlinePhase) (update : OnlineJournal → OnlineJournal)
    : Online adapter (OnlineProgress × OnlineJournal) :=
  match checkedSucc journal.revision with
  | none => .fail .invalidJournal
  | some revision =>
    let next := update { journal with revision, phase }
    if !next.follows (some journal) then .fail .invalidJournal
    else do
      let reply ← ask (.save (some journal) next)
      let _ ← lift .deployment reply
      return (.advanced phase, next)

/-- An instant some milliseconds later, absent beyond the range of the clock. -/
def laterInstant (start : Instant) (milliseconds : UInt64) : Option Instant :=
  if start + milliseconds.toNat * 1000000 < 2 ^ 63 * 1000000000 then
    some (start + milliseconds.toNat * 1000000)
  else none

/-- The deadline that leaves the whole drain budget within the window of the proxy. -/
def OnlineJournal.cutoverDeadline : Online adapter Instant :=
  match journal.cutoverStartedAtMs with
  | none => .fail .invalidJournal
  | some cutover =>
    match checkedAdd cutover
      (journal.plan.proxy.streamCloseDelayMs - journal.plan.drainBudgetMs) with
    | none => .fail .clock
    | some latest =>
      if latest ≤ nowMs then .fail .proxyWindowElapsed
      else
        match laterInstant started (latest - nowMs) with
        | none => .fail .clock
        | some limit => do
            let current ← readClock
            require (current < limit) .proxyWindowElapsed
            return min deadline limit

/-- The open candidate, opened now unless an earlier call has done so. -/
def OnlineJournal.openCandidate (candidateStatus : RuntimeSnapshot)
    : Online adapter RuntimeSnapshot :=
  if changedAdmission candidateStatus journal.plan.candidateProcess true then
    .done candidateStatus
  else do
    require (unchangedAdmission candidateStatus journal.plan.candidateProcess) .runtimeChanged
    let permit ← readiness .candidate candidateStatus journal.plan.readiness
    let result ← openAdmission .candidate permit
    require (changedAdmission result journal.plan.candidateProcess true) .runtimeChanged
    return result

def OnlineJournal.openingStep (onPrevious : Bool) (candidateStatus : RuntimeSnapshot)
    : Online adapter (OnlineProgress × OnlineJournal) := do
  require onPrevious .trafficChanged
  let old ← status .previous
  require (unchangedAdmission old journal.plan.previousProcess) .runtimeChanged
  let opened ← journal.openCandidate candidateStatus
  journal.checkpoint .switchingTraffic fun next =>
    { next with opened := some opened, cutoverStartedAtMs := some nowMs }

/-- The switch, unless the traffic is on the candidate already. -/
def OnlineJournal.switchTraffic (onPrevious : Bool) (candidateStatus : RuntimeSnapshot)
    : Online adapter Unit :=
  if onPrevious then do
    let old ← status .previous
    require (unchangedAdmission old journal.plan.previousProcess) .runtimeChanged
    let reply ← ask (.switchTo candidateStatus)
    let _ ← lift .deployment reply
    let switched ← traffic
    require (switched.sameProcess candidateStatus) .trafficChanged
  else .done ()

def OnlineJournal.switchingStep (onPrevious : Bool) (candidateStatus : RuntimeSnapshot)
    : Online adapter (OnlineProgress × OnlineJournal) := do
  let _ ← readiness .candidate candidateStatus journal.plan.readiness
  journal.switchTraffic onPrevious candidateStatus
  require (checkedAdd nowMs journal.plan.drainBudgetMs).isSome .clock
  journal.checkpoint .closingPrevious fun next => { next with drainStartedAtMs := some nowMs }

/-- The closed previous slot, closed now unless an earlier call has done so. -/
def OnlineJournal.closePrevious (old : RuntimeSnapshot) : Online adapter RuntimeSnapshot :=
  if changedAdmission old journal.plan.previousProcess false then .done old
  else do
    require (unchangedAdmission old journal.plan.previousProcess) .runtimeChanged
    let _ ← journal.cutoverDeadline nowMs started deadline
    let result ← closeAdmission .previous old
    require (changedAdmission result journal.plan.previousProcess false) .runtimeChanged
    return result

def OnlineJournal.closingStep : Online adapter (OnlineProgress × OnlineJournal) := do
  let old ← status .previous
  let closed ← journal.closePrevious nowMs started deadline old
  journal.checkpoint .drainingPrevious fun next => { next with closed := some closed }

def elapsedMs (current : Instant) : Option UInt64 :=
  if (current - started) / 1000000 < 2 ^ 64 then
    some (UInt64.ofNat ((current - started) / 1000000))
  else none

def OnlineJournal.drainOutcome (old : RuntimeSnapshot) (exhausted : Bool)
    : Online adapter (OnlineProgress × OnlineJournal) :=
  if exhausted then
    journal.checkpoint .drainBudgetExhausted fun next => { next with exhausted := some old }
  else if 0 < old.lifecycle.inFlight then
    .done (.draining old.lifecycle.inFlight old.lifecycle.oldestRequestAgeMs, journal)
  else journal.checkpoint .retiringPrevious fun next => { next with drained := some old }

def OnlineJournal.drainingStep : Online adapter (OnlineProgress × OnlineJournal) :=
  match journal.drainStartedAtMs with
  | none => .fail .invalidJournal
  | some start => do
      let old ← status .previous
      require (journal.closed.any fun closed => old.observesDrain closed) .runtimeChanged
      let current ← readClock
      match elapsedMs started current with
      | none => .fail .clock
      | some stepMs =>
        match checkedAdd nowMs stepMs with
        | none => .fail .clock
        | some observedAtMs =>
          match if start ≤ nowMs then checkedAdd (nowMs - start) stepMs else none with
          | none => .fail .clock
          | some elapsed =>
            match journal.cutoverStartedAtMs.bind fun cutover =>
              checkedAdd cutover journal.plan.proxy.streamCloseDelayMs with
            | none => .fail .invalidJournal
            | some proxyEnd =>
              journal.drainOutcome old
                (journal.plan.drainBudgetMs ≤ elapsed || proxyEnd ≤ observedAtMs)

/-- The Runner goes after its Control. -/
def OnlineJournal.retireRunner : Online adapter (OnlineProgress × OnlineJournal) := do
  let reply ← ask (.retire journal)
  let progress ← lift .deployment reply
  if progress = .exited then journal.checkpoint .committing id
  else return (.retiringPrevious, journal)

def OnlineJournal.retiringStep (candidateStatus : RuntimeSnapshot) (deadline : Instant)
    : Online adapter (OnlineProgress × OnlineJournal) := do
  let _ ← readiness .candidate candidateStatus journal.plan.readiness
  match journal.drained with
  | none => .fail .invalidJournal
  | some drained => do
      let progress ← (retireControl .previous drained deadline).mapError .retirement
      match progress with
      | .waiting => return (.retiringPrevious, journal)
      | .exited => journal.retireRunner

def OnlineJournal.committingStep : Online adapter (OnlineProgress × OnlineJournal) := do
  let reply ← ask (.commit journal)
  let _ ← lift .deployment reply
  journal.checkpoint .complete id

def OnlineJournal.phaseStep (onPrevious : Bool) (candidateStatus : RuntimeSnapshot)
    : Online adapter (OnlineProgress × OnlineJournal) :=
  match journal.phase with
  | .openingCandidate => journal.openingStep nowMs onPrevious candidateStatus
  | .switchingTraffic => journal.switchingStep nowMs onPrevious candidateStatus
  | .closingPrevious => journal.closingStep nowMs started deadline
  | .drainingPrevious => journal.drainingStep nowMs started
  | .retiringPrevious => journal.retiringStep candidateStatus deadline
  | .committing => journal.committingStep
  | .complete => .done (.complete, journal)
  | .drainBudgetExhausted => .done (.drainBudgetExhausted, journal)

def OnlineJournal.observeStep : Online adapter (OnlineProgress × OnlineJournal) := do
  let observed ← traffic
  let onPrevious := observed.sameProcess journal.plan.previousProcess
  let onCandidate := observed.sameProcess journal.plan.candidateProcess
  require (onPrevious || onCandidate) .trafficChanged
  require
    (journal.phase = .openingCandidate || journal.phase = .switchingTraffic || onCandidate)
    .trafficChanged
  let candidateStatus ← status .candidate
  require
    (candidateStatus.sameProcess journal.plan.candidateProcess
      && !candidateStatus.lifecycle.stopping)
    .runtimeChanged
  require
    (journal.phase = .openingCandidate
      || changedAdmission candidateStatus journal.plan.candidateProcess true)
    .runtimeChanged
  journal.phaseStep nowMs started deadline onPrevious candidateStatus

def OnlineJournal.clockStep (clock : UpgradeClock) (started deadline : Instant)
    : Online adapter (OnlineProgress × OnlineJournal) := do
  require (clock.bootId = journal.plan.clock.bootId) .bootChanged
  require
    (journal.plan.clock.uptimeMs ≤ clock.uptimeMs
      && journal.cutoverStartedAtMs.all fun start => start ≤ clock.uptimeMs)
    .clock
  require (journal.drainStartedAtMs.all fun start => start ≤ clock.uptimeMs) .clock
  let deadline ←
    if journal.phase = .switchingTraffic then
      journal.cutoverDeadline clock.uptimeMs started deadline
    else done deadline
  journal.observeStep clock.uptimeMs started deadline

/-- One bounded transition of a cutover. -/
def OnlineJournal.advance (clock : UpgradeClock) (deadline : Instant)
    : Online adapter (OnlineProgress × OnlineJournal) := do
  let started ← readClock
  require journal.valid .invalidJournal
  before deadline
  let reply ← ask (.assertCurrent journal)
  let _ ← lift .deployment reply
  if journal.phase = .complete then return (.complete, journal)
  else if journal.phase = .drainBudgetExhausted then return (.drainBudgetExhausted, journal)
  else journal.clockStep clock started deadline

def OnlineJournal.create (plan : OnlinePlan) : Online adapter OnlineJournal := do
  require (OnlineJournal.start plan).valid .invalidJournal
  let reply ← ask (.save none (.start plan))
  let _ ← lift .deployment reply
  return .start plan

end AsterTeam.Upgrade
