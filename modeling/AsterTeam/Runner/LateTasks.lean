import AsterTeam.Runner.TaskExecution

/-! Tasks that expire while a Runner accepts them. The clock is read three times: when the
ticket is verified, when it is consumed and when the rest of its time is computed.
-/

namespace AsterTeam

/-- The ticket has passed its expiry or the deadline of its execution. -/
def TaskTicketClaims.LateAt (claims : TaskTicketClaims Authorization) (now : OffsetDateTime)
    : Prop :=
  claims.executionDeadlineMs ≤ now.unixMilliseconds ∨ claims.expiresAt ≤ now.unixTimestamp

instance (claims : TaskTicketClaims Authorization) (now : OffsetDateTime)
    : Decidable (claims.LateAt now) :=
  inferInstanceAs (Decidable (_ ∨ _))

/-- The ticket is late at one of the three readings. -/
def TaskTicketClaims.LateDuring (claims : TaskTicketClaims Authorization) (task : TaskReadings)
    : Prop :=
  claims.LateAt task.received ∨ claims.LateAt task.consumed ∨ claims.LateAt task.remaining

/-- Readings at which no late ticket is missed: it does not seem to be issued in the future,
and unless it is late at once it is in its time when it is consumed. From then on only the
deadline is looked at, so the expiry must not pass before it.
-/
def TaskTicketClaims.Timely (claims : TaskTicketClaims Authorization) (task : TaskReadings)
    : Prop :=
  claims.issuedAt ≤ task.received.unixTimestamp + futureClockSkewSeconds
  ∧ (¬ claims.LateAt task.received
    → validateTicketTime claims task.consumed = .ok ()
      ∧ (claims.executionDeadlineMs ≤ task.remaining.unixMilliseconds
        ∨ task.remaining.unixTimestamp < claims.expiresAt
          ∧ calendarTimestamp claims.expiresAt = true))

/-- A well-formed frame with an authentic ticket for this Runner and the payload. -/
structure AuthenticTask (tickets : TicketChecks Authorization) (runnerId : String)
    (frame : TaskFrame) (ticket : TaskTicketDocument Authorization) : Prop where
  decoded
    : ∃ encoded payload,
        frame = ⟨some encoded, some payload⟩
        ∧ payload.length ≤ maxTaskPayloadBytes
        ∧ tickets.decodeExact encoded = .ok ticket
        ∧ ticket.claims.payloadSha256 = tickets.payloadDigest payload
  valid : validateClaims tickets ticket.claims = .ok ()
  runner : ticket.claims.runnerId = runnerId
  signed : tickets.verifySignature ticket = .ok ()

section

variable {Authorization : Type} {tickets : TicketChecks Authorization} {runnerId : String}
  {cache : ReplayCache} {frame : TaskFrame} {task : TaskReadings} {now : OffsetDateTime}
  {ticket : TaskTicketDocument Authorization}

/-- The first reading decides whether an authentic task goes on, is answered or ends its
session.
-/
theorem AuthenticTask.received (ha : AuthenticTask tickets runnerId frame ticket)
    : receiveTicket tickets runnerId frame now
      = if ticket.claims.issuedAt > now.unixTimestamp + futureClockSkewSeconds then
          .error (.ended "task_ticket_invalid")
        else if ticket.claims.LateAt now then
          .error (.answered ticket.claims.taskId "task_expired_before_execution" true)
        else .ok ticket := by
  obtain ⟨encoded, payload, rfl, hb, decoded, digest⟩ := ha.decoded
  have checked
      : verifyTaskTicket tickets encoded runnerId payload now
        = if ticket.claims.issuedAt > now.unixTimestamp + futureClockSkewSeconds then
            .error .invalidTime
          else if ticket.claims.LateAt now then .error (.expiredTask ticket.claims.taskId)
          else .ok ticket := by
    simp [verifyTaskTicket, bind, Except.bind, decoded, ha.valid, ha.runner, ha.signed, digest]
    rfl
  simp only [receiveTicket, if_neg (not_lt.mpr hb), checked]
  split_ifs <;> rfl

/-- A ticket that the cache does not know is refused only for its time. -/
theorem ReplayCache.consume_fresh (fresh : ∀ entry ∈ cache.consumed, entry.1 ≠ ticket.claims.taskId)
    : (cache.consume ticket now).1 = validateTicketTime ticket.claims now := by
  have unknown
      : (cache.consumed.filter fun entry => now.unixTimestamp < entry.2).any
          (fun entry => entry.1 = ticket.claims.taskId)
        = false := by
    rw [List.any_eq_false]
    exact fun entry hm => by simpa using fresh entry (List.mem_of_mem_filter hm)
  unfold consume
  split
  · rename_i refused
    exact refused.symm
  · rename_i valid
    dsimp only
    rw [unknown, valid]
    rfl

theorem validateTicketTime_late (valid : validateTicketTime ticket.claims now = .ok ())
    : ¬ ticket.claims.LateAt now := by
  unfold validateTicketTime at valid
  split_ifs at valid with refused
  exact fun late => refused (late.elim (fun passed => .inr (.inl passed)) .inl)

/-- After the deadline is found to lie ahead nothing is answered as expired. -/
theorem startConsumed_running
    (running : task.remaining.unixMilliseconds < ticket.claims.executionDeadlineMs)
    : startConsumed ticket task ≠ .answered taskId "task_expired_before_execution" retryable := by
  unfold startConsumed
  rw [if_neg (by omega)]
  split_ifs <;> simp

/-- An authentic task that is not a replay keeps its session and is answered as expired
whenever it is late, exactly at timely readings of the clock.
-/
theorem timely_task_keeps_session {checks : UpstreamChecks}
    {process : RunnerProcess Authorization} (session : process.replay = some cache)
    (authentic : AuthenticTask tickets runnerId frame ticket)
    (fresh : ∀ entry ∈ cache.consumed, entry.1 ≠ ticket.claims.taskId)
    : ((acceptTask tickets runnerId process cache frame task).replay.isSome
        ∧ (ticket.claims.LateDuring task
          → ∀ readings ending,
            runTask checks tickets runnerId cache frame task readings ending
            = sendFailure ticket.claims.taskId "task_expired_before_execution" true))
      ↔ ticket.claims.Timely task := by
  have consumed
      : (cache.consume ticket task.consumed).1 = validateTicketTime ticket.claims task.consumed :=
    ReplayCache.consume_fresh fresh
  generalize taken : cache.consume ticket task.consumed = outcome at consumed
  obtain ⟨answer, after⟩ := outcome
  dsimp only at consumed
  subst consumed
  by_cases future
      : ticket.claims.issuedAt > task.received.unixTimestamp + futureClockSkewSeconds
  · simp [acceptTask, authentic.received, future, TaskTicketClaims.Timely]
  by_cases late : ticket.claims.LateAt task.received
  · simp [acceptTask, runTask, authentic.received, future, late, session,
      TaskTicketClaims.Timely, not_lt.mp future]
  have received := authentic.received.trans ((if_neg future).trans (if_neg late))
  simp only [acceptTask, runTask, received, taken, TaskTicketClaims.Timely, late,
    not_lt.mp future, TaskTicketClaims.LateDuring, not_false_iff, true_and, forall_const, false_or]
  cases valid : validateTicketTime ticket.claims task.consumed with
  | error error => simp
  | ok _ =>
    simp only [validateTicketTime_late valid, false_or, true_and]
    by_cases running
        : task.remaining.unixMilliseconds < ticket.claims.executionDeadlineMs
    · simp only [TaskTicketClaims.LateAt, not_le.mpr running, false_or]
      constructor
      · rintro ⟨kept, answered⟩
        refine ⟨not_le.mp fun expired => ?_, ?_⟩
        · have ended := answered expired ⟨.closed, .closed, none⟩ (.aborted 0)
          split at ended
          · cases ended
          · rename_i started
            cases ended
            exact startConsumed_running running started
          · cases ended
        · by_contra calendar
          rw [startConsumed, if_neg (by omega), if_pos (by simpa using calendar)] at kept
          cases kept
      · rintro ⟨live, calendar⟩
        refine ⟨?_, fun expired => absurd live (not_lt.mpr expired)⟩
        unfold startConsumed
        rw [if_neg (by omega), if_neg (by simp [calendar])]
        split_ifs <;> rfl
    · have passed : ticket.claims.executionDeadlineMs - task.remaining.unixMilliseconds ≤ 0 := by
        omega
      simp [startConsumed, passed, not_lt.mp running]

end

def sampleUpstream : UpstreamChecks where
  decodeRequest _ := some ⟨"GET", "https://upstream/", [], ""⟩
  decodeRefresh _ := none
  decodeBase64url _ := some []
  validateUpstreamUrl _ _ := true
  buildAssetClient _ _ := true
  headerName := some

def sampleFrame : TaskFrame := ⟨some [1], some []⟩

def sampleTaskReadings (received consumed : Int) : TaskReadings :=
  ⟨received, consumed, consumed, false, true, false⟩

theorem sampleFrame_authentic
    : AuthenticTask sampleChecks "runner-1" sampleFrame (sampleTicket "task-1" 0) :=
  ⟨⟨[1], [], rfl, by decide, rfl, rfl⟩, by decide +kernel, rfl, rfl⟩

theorem sample_late_task_answered
    : runTask sampleUpstream sampleChecks "runner-1" .new sampleFrame
        (sampleTaskReadings 130000000000 130000000000) ⟨.closed, .closed, none⟩ .completed
      = sendFailure "task-1" "task_expired_before_execution" true := by
  have late : (sampleTicket "task-1" 0).claims.LateAt 130000000000 := .inr (by decide)
  have session : (⟨some .new, [], []⟩ : RunnerProcess Unit).replay = some .new := rfl
  exact ((timely_task_keeps_session session sampleFrame_authentic nofun).mpr
    ⟨by decide, fun live => absurd late live⟩).2 (.inl late) _ _

/-- A ticket that expires between its verification and the replay check ends the session,
without an answer.
-/
theorem expiring_task_ends_session
    : AuthenticTask sampleChecks "runner-1" sampleFrame (sampleTicket "task-1" 0)
      ∧ (acceptTask sampleChecks "runner-1" ⟨some .new, [], []⟩ .new sampleFrame
          (sampleTaskReadings 119999999999 120000000000)).replay
        = none
      ∧ ∀ checks readings ending,
          runTask checks sampleChecks "runner-1" .new sampleFrame
            (sampleTaskReadings 119999999999 120000000000) readings ending
          = [] := by
  have hr
      : receiveTicket sampleChecks "runner-1" sampleFrame 119999999999
        = .ok (sampleTicket "task-1" 0) := by
    decide +kernel
  have hre
      : ReplayCache.new.consume (sampleTicket "task-1" 0) 120000000000
        = (.error .invalidTime, .new) := by
    decide +kernel
  refine ⟨sampleFrame_authentic, ?_, fun _ _ _ => ?_⟩
  · simp only [acceptTask, sampleTaskReadings, hr, hre]
  · simp only [runTask, sampleTaskReadings, hr, hre]

end AsterTeam
