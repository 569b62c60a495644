import AsterTeam.Upgrade.Cutover

/-! One step of a switchback, which opens the previous slot again, routes the traffic back to
it and retires the candidate.
-/

namespace AsterTeam.Upgrade

open Interaction.Program

open Interaction (Program)
open Lifecycle (Instant)

inductive SwitchbackProgress
  | advanced (phase : SwitchbackPhase)
  | draining (count : Nat) (oldestRequestAgeMs : UInt64)
  | retiring
  | drainBudgetExhausted
  | complete
  deriving DecidableEq

variable {adapter : Adapter}

namespace SwitchbackJournal

variable (journal : SwitchbackJournal) (clock : UpgradeClock) (started deadline : Instant)

def trafficSlot : Online adapter ReleaseSlot := do
  let reply ← ask (.trafficSlot journal)
  lift .deployment reply

def checkpoint (phase : SwitchbackPhase) (update : SwitchbackJournal → SwitchbackJournal)
    : Online adapter (SwitchbackProgress × SwitchbackJournal) := do
  before deadline
  let next := update { journal with revision := journal.revision + 1, phase }
  require (next.follows (some journal)) .invalidJournal
  let reply ← ask (.saveSwitchback (some journal) next)
  let _ ← lift .deployment reply
  return (.advanced phase, next)

/-- The deadline that leaves the whole request budget within the window of the proxy. -/
def switchDeadline (now : UInt64) (started deadline : Instant) : Online adapter Instant :=
  match journal.switchStartedMs.bind fun start =>
    checkedAdd start
      (journal.plan.proxy.streamCloseDelayMs - journal.plan.candidateBudget.requestBudgetMs) with
  | none => .fail .proxyWindowElapsed
  | some ending =>
    if ending ≤ now then .fail .proxyWindowElapsed
    else
      match laterInstant started (ending - now) with
      | none => .fail .clock
      | some limit => do
          before (min deadline limit)
          return min deadline limit

variable (onPrevious : Bool) (old : RuntimeSnapshot)

def openPrevious (permit : adapter.Permit) : Online adapter RuntimeSnapshot :=
  if reopened journal.plan old then .done old
  else do
    before deadline
    openAdmission .previous permit

def preparingStep : Online adapter (SwitchbackProgress × SwitchbackJournal) := do
  require (!onPrevious) .trafficChanged
  require (reopened journal.plan old || unchangedAdmission old journal.plan.previous)
    .runtimeChanged
  let permit ← readiness .previous old journal.plan.previousReadiness
  let opened ← journal.openPrevious deadline old permit
  journal.checkpoint deadline .switchingBack fun next =>
    { next with opened := some opened, switchStartedMs := some clock.uptimeMs }

def switchBack (onPrevious : Bool) : Online adapter Unit :=
  if onPrevious then .done ()
  else do
    before deadline
    let reply ← ask (.switchBack journal)
    lift .deployment reply

def observedAt (current : Instant) : Option UInt64 :=
  (elapsedMs started current).bind fun elapsed => checkedAdd clock.uptimeMs elapsed

def switchingStep : Online adapter (SwitchbackProgress × SwitchbackJournal) := do
  let _ ← readiness .previous old journal.plan.previousReadiness
  journal.switchBack deadline onPrevious
  before deadline
  let switched ← journal.trafficSlot
  require (switched = journal.plan.original.plan.previous.slot) .trafficChanged
  let current ← readClock
  match observedAt clock started current with
  | none => .fail .clock
  | some now =>
    journal.checkpoint deadline .closingCandidate fun next =>
      { next with drainStartedMs := some now }

def closeCandidate (current : RuntimeSnapshot) : Online adapter RuntimeSnapshot :=
  if changedAdmission current journal.plan.candidate false then .done current
  else do
    require (unchangedAdmission current journal.plan.candidate) .runtimeChanged
    let limit ← journal.switchDeadline clock.uptimeMs started deadline
    before limit
    closeAdmission .candidate current

def closingStep : Online adapter (SwitchbackProgress × SwitchbackJournal) := do
  let current ← status .candidate
  let closed ← journal.closeCandidate clock started deadline current
  journal.checkpoint deadline .drainingCandidate fun next =>
    { next with closed := some closed }

def drainOutcome (current : RuntimeSnapshot) (exhausted : Bool)
    : Online adapter (SwitchbackProgress × SwitchbackJournal) :=
  if exhausted then journal.checkpoint deadline .drainBudgetExhausted id
  else if current.lifecycle.inFlight = 0 then
    journal.checkpoint deadline .retiringCandidate fun next =>
      { next with drained := some current }
  else .done (.draining current.lifecycle.inFlight current.lifecycle.oldestRequestAgeMs, journal)

def drainingStep : Online adapter (SwitchbackProgress × SwitchbackJournal) := do
  let current ← status .candidate
  require (journal.closed.any fun closed => current.observesDrain closed) .runtimeChanged
  let time ← readClock
  match observedAt clock started time with
  | none => .fail .clock
  | some now =>
    match journal.drainStartedMs.bind fun start =>
      checkedAdd start journal.plan.candidateBudget.requestBudgetMs with
    | none => .fail .clock
    | some ending => journal.drainOutcome deadline current (ending ≤ now)

def retireRunner : Online adapter (SwitchbackProgress × SwitchbackJournal) := do
  let reply ← ask (.retireCandidateRunner journal)
  let progress ← lift .deployment reply
  if progress = .exited then journal.checkpoint deadline .committingPrevious id
  else return (.retiring, journal)

def retiringStep : Online adapter (SwitchbackProgress × SwitchbackJournal) := do
  let _ ← readiness .previous old journal.plan.previousReadiness
  match journal.drained with
  | none => .fail .invalidJournal
  | some drained => do
      let progress ← (retireControl .candidate drained deadline).mapError .retirement
      match progress with
      | .waiting => return (.retiring, journal)
      | .exited => journal.retireRunner deadline

def committingStep : Online adapter (SwitchbackProgress × SwitchbackJournal) := do
  before deadline
  let reply ← ask (.commitPrevious journal)
  let _ ← lift .deployment reply
  journal.checkpoint deadline .complete id

def phaseStep : Online adapter (SwitchbackProgress × SwitchbackJournal) :=
  match journal.phase with
  | .preparingPrevious => journal.preparingStep clock deadline onPrevious old
  | .switchingBack => journal.switchingStep clock started deadline onPrevious old
  | .closingCandidate => journal.closingStep clock started deadline
  | .drainingCandidate => journal.drainingStep clock started deadline
  | .retiringCandidate => journal.retiringStep deadline old
  | .committingPrevious => journal.committingStep deadline
  | .complete => .done (.complete, journal)
  | .drainBudgetExhausted => .done (.drainBudgetExhausted, journal)

def observeStep : Online adapter (SwitchbackProgress × SwitchbackJournal) := do
  let observed ← journal.trafficSlot
  let onPrevious := observed == journal.plan.original.plan.previous.slot
  require (observed = journal.plan.original.plan.candidate.slot || onPrevious) .trafficChanged
  require
    (journal.phase = .preparingPrevious || journal.phase = .switchingBack || onPrevious)
    .trafficChanged
  let old ← status .previous
  require
    (journal.phase = .preparingPrevious
      || journal.opened.any fun opened => unchangedAdmission old opened)
    .runtimeChanged
  journal.phaseStep clock started deadline onPrevious old

def clockStep : Online adapter (SwitchbackProgress × SwitchbackJournal) := do
  require (clock.bootId = journal.plan.clock.bootId) .bootChanged
  require
    (journal.plan.clock.uptimeMs ≤ clock.uptimeMs
      && journal.switchStartedMs.all (fun start => start ≤ clock.uptimeMs)
      && journal.drainStartedMs.all fun start => start ≤ clock.uptimeMs)
    .clock
  let deadline ←
    if journal.phase = .switchingBack then
      journal.switchDeadline clock.uptimeMs started deadline
    else done deadline
  journal.observeStep clock started deadline

/-- One bounded transition of a switchback. -/
def advance : Online adapter (SwitchbackProgress × SwitchbackJournal) := do
  let started ← readClock
  require journal.valid .invalidJournal
  require (started < deadline) .deadline
  let reply ← ask (.assertCurrentSwitchback journal)
  let _ ← lift .deployment reply
  if journal.phase = .complete then return (.complete, journal)
  else if journal.phase = .drainBudgetExhausted then return (.drainBudgetExhausted, journal)
  else journal.clockStep clock started deadline

def create (plan : SwitchbackPlan) : Online adapter SwitchbackJournal := do
  require (start plan).valid .invalidJournal
  let reply ← ask (.saveSwitchback none (start plan))
  let _ ← lift .deployment reply
  return start plan

end SwitchbackJournal

end AsterTeam.Upgrade
