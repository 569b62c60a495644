import AsterTeam.Library.Relational
import AsterTeam.Runner.LateTasks

/-! The permit of an execution under arbitrary readings of the wall clock and of the monotonic
clock.
-/

namespace AsterTeam

open Relational (bind_ok guard_of_ok)

/-- A verified ticket with the instant of the monotonic clock, in nanoseconds, at which its
rest is over.
-/
structure TaskExecutionPermit (Authorization : Type) where
  ticket : TaskTicketDocument Authorization
  deadline : Int

/-- How the wait for a place in the event queue ends, with the clocks of the check that
follows it.
-/
inductive ClockedSlot
  | closed
  | timedOut (free : Bool)
  | reserved (instant : Int) (now : OffsetDateTime)

structure ClockedReadings where
  (accepted started : ClockedSlot)
  response : Option UpstreamResponse

section

variable {Authorization : Type} (checks : UpstreamChecks)
  (tickets : TicketChecks Authorization) (runnerId : String) (cache : ReplayCache)
  (frame : TaskFrame) (task : TaskReadings)

/-- Instants are far inside the range of their type: adding the rest never overflows. -/
def TaskExecutionPermit.new (ticket : TaskTicketDocument Authorization)
    (receivedAt : OffsetDateTime) (receivedInstant : Int)
    : Except String (TaskExecutionPermit Authorization) :=
  let remaining := ticket.claims.expiresAt * 1000000000 - receivedAt
  if (validateTicketTime ticket.claims receivedAt).isOk
      && calendarTimestamp ticket.claims.expiresAt && 0 ≤ remaining then
    .ok ⟨ticket, receivedInstant + remaining⟩
  else .error "task_ticket_expired"

def TaskExecutionPermit.valid (permit : TaskExecutionPermit Authorization)
    (instant : Int) (now : OffsetDateTime) : Bool :=
  instant < permit.deadline && (validateTicketTime permit.ticket.claims now).isOk

def ClockedSlot.read (permit : TaskExecutionPermit Authorization) : ClockedSlot → SlotReading
  | .closed => .closed
  | .timedOut free => .timedOut free
  | .reserved instant now => .reserved (permit.valid instant now)

/-- The readings under the permit of an execution; without one nothing is executed. -/
def ClockedReadings.read (readings : ClockedReadings)
    : Option (TaskExecutionPermit Authorization) → ExecutionReadings
  | none => ⟨.closed, .closed, none⟩
  | some permit =>
    ⟨readings.accepted.read permit, readings.started.read permit, readings.response⟩

/-- All that a Runner does for one task frame, its permit made from the clocks at the
receipt.
-/
def runClockedTask (receivedInstant : Int) (readings : ClockedReadings) (ending : TaskEnd)
    : List TaskAction :=
  let permit :=
    (receiveTicket tickets runnerId frame task.received).toOption.bind fun ticket =>
      (TaskExecutionPermit.new ticket task.received receivedInstant).toOption
  runTask checks tickets runnerId cache frame task (readings.read permit) ending

variable {checks tickets runnerId cache frame task}
variable {ticket : TaskTicketDocument Authorization} {now : OffsetDateTime}

theorem validateTicketTime_isOk
    : (validateTicketTime ticket.claims now).isOk
      ↔ ¬ ticket.claims.LateAt now
        ∧ ticket.claims.issuedAt ≤ now.unixTimestamp + futureClockSkewSeconds := by
  unfold validateTicketTime TaskTicketClaims.LateAt
  split <;> simp [Except.isOk, Except.toBool] <;> omega

/-- What a verified ticket says about its times. -/
theorem verifyTaskTicket_eq_ok
    (hv : verifyTaskTicket tickets encoded runnerId payload now = .ok ticket)
    : ticket.claims.expiresAt - ticket.claims.issuedAt ≤ taskTicketLifetimeSeconds
      ∧ ticket.claims.issuedAt ≤ now.unixTimestamp + futureClockSkewSeconds := by
  obtain ⟨document, _, hv⟩ := bind_ok hv
  obtain ⟨_, claimed, hv⟩ := bind_ok hv
  obtain ⟨_, hv⟩ := guard_of_ok hv
  obtain ⟨_, hv⟩ := guard_of_ok hv
  obtain ⟨_, _, hv⟩ := bind_ok hv
  obtain ⟨notFuture, hv⟩ := guard_of_ok hv
  obtain ⟨_, hv⟩ := guard_of_ok hv
  cases hv
  unfold validateClaims at claimed
  dsimp only at claimed
  split at claimed
  · rename_i valid
    exact ⟨valid.2.1.2, not_lt.mp notFuture⟩
  · cases claimed

theorem receiveTicket_eq_ok (hr : receiveTicket tickets runnerId frame now = .ok ticket)
    : ticket.claims.expiresAt - ticket.claims.issuedAt ≤ taskTicketLifetimeSeconds
      ∧ ticket.claims.issuedAt ≤ now.unixTimestamp + futureClockSkewSeconds := by
  unfold receiveTicket at hr
  split at hr
  · cases hr
  · cases hr
  · split at hr
    · cases hr
    split at hr
    · rename_i hv
      cases hr
      exact verifyTaskTicket_eq_ok hv
    · cases hr
    · cases hr

/-- A place that was reserved under the permit of a ticket. -/
theorem permitted_of_read {readings : ClockedReadings}
    (started : (readings.read
          (TaskExecutionPermit.new ticket reading receivedInstant).toOption).started
        = .reserved true)
    : ∃ instant now,
        readings.started = .reserved instant now
        ∧ instant < receivedInstant + (ticket.claims.expiresAt * 1000000000 - reading)
        ∧ (validateTicketTime ticket.claims now).isOk := by
  unfold TaskExecutionPermit.new at started
  dsimp only at started
  split at started
  · simp only [Except.toOption, ClockedReadings.read] at started
    cases slot : readings.started with
    | closed => simp [slot, ClockedSlot.read] at started
    | timedOut free => simp [slot, ClockedSlot.read] at started
    | reserved instant now =>
      simp only [slot, ClockedSlot.read, SlotReading.reserved.injEq,
        TaskExecutionPermit.valid, Bool.and_eq_true, decide_eq_true_eq] at started
      exact ⟨instant, now, rfl, started⟩
  · cases started

/-- For all readings of both clocks: a task is reported as started upstream, and its request
sent, only after a check at an instant before the rest of the ticket at its receipt is over,
which is less than 150 seconds later, and at which the wall clock reads less than the expiry
and the execution deadline of the ticket.
-/
theorem upstream_starts_within_permit {receivedInstant : Int}
    {readings : ClockedReadings} {ending : TaskEnd}
    (reaches : ReachesUpstream
          (runClockedTask checks tickets runnerId cache frame task receivedInstant readings ending))
    : ∃ ticket instant now,
        receiveTicket tickets runnerId frame task.received = .ok ticket
        ∧ readings.started = .reserved instant now
        ∧ instant < receivedInstant + (ticket.claims.expiresAt * 1000000000 - task.received)
        ∧ instant < receivedInstant + 150000000000
        ∧ ¬ ticket.claims.LateAt now := by
  have started := (runTask_guarded _ _ _ _ _ _ _ _).holds reaches
  cases hr : receiveTicket tickets runnerId frame task.received with
  | error refusal => simp [hr, Except.toOption, ClockedReadings.read] at started
  | ok ticket =>
    obtain ⟨lifetime, issued⟩ := receiveTicket_eq_ok hr
    rw [hr] at started
    obtain ⟨instant, now, hs, before, hv⟩ := permitted_of_read started
    refine ⟨ticket, instant, now, rfl, hs, before, ?_, (validateTicketTime_isOk.mp hv).1⟩
    simp only [OffsetDateTime.unixTimestamp, futureClockSkewSeconds,
      taskTicketLifetimeSeconds] at issued lifetime
    omega

end

/-- The clock is set back by ten seconds between the two checks. -/
def sampleClocks : ClockedReadings :=
  ⟨.reserved 5000000001 10000000001, .reserved 6000000000 0, none⟩

theorem sample_starts_within_permit
    : ∃ instant now,
        sampleClocks.started = .reserved instant now
        ∧ instant < 5000000000 + 150000000000 := by
  have reaches
      : ReachesUpstream
          (runClockedTask sampleUpstream sampleChecks "runner-1" .new sampleFrame
            (sampleTaskReadings 10000000000 10000000000) 5000000000 sampleClocks .completed) :=
    ⟨.emit (.upstreamStarted "task-1"), by decide +kernel, rfl⟩
  obtain ⟨_, instant, now, _, started, _, within, _⟩ := upstream_starts_within_permit reaches
  exact ⟨instant, now, started, within⟩

end AsterTeam
