import AsterTeam.Library.Transition
import AsterTeam.Runner.Ticket

/-! A Runner over all its sessions. Each session of the reconnect loop starts with an empty
replay cache, and a refused ticket ends the session.
-/

namespace AsterTeam

/-- A task frame after base64 decoding. -/
structure TaskFrame where
  (ticket payload : Option (List UInt8))

structure TaskReadings where
  (received consumed remaining : OffsetDateTime)
  (draining permit active : Bool)

inductive TaskAcceptance (Authorization : Type)
  | ended (category : String)
  | answered (taskId category : String) (retryable : Bool)
  | started (document : TaskTicketDocument Authorization)
  deriving DecidableEq

def maxTaskPayloadBytes : Nat := 33554432

/-- The expiry times that are calendar dates. -/
def calendarTimestamp (seconds : Int) : Bool :=
  -377705116800 ≤ seconds && seconds ≤ 253402300799

section

variable {Authorization : Type} (checks : TicketChecks Authorization) (runnerId : String)

def startConsumed (ticket : TaskTicketDocument Authorization) (readings : TaskReadings)
    : TaskAcceptance Authorization :=
  if ticket.claims.executionDeadlineMs - readings.remaining.unixMilliseconds ≤ 0 then
    .answered ticket.claims.taskId "task_expired_before_execution" true
  else if !calendarTimestamp ticket.claims.expiresAt then .ended "task_ticket_expired"
  else if readings.draining then .answered ticket.claims.taskId "runner_draining" true
  else if !readings.permit then .answered ticket.claims.taskId "runner_capacity" true
  else if readings.active then
    .answered ticket.claims.taskId "task_already_active" false
  else .started ticket

/-- The verified ticket of a frame, or how the frame ends without one. -/
def receiveTicket (frame : TaskFrame) (received : OffsetDateTime)
    : Except (TaskAcceptance Authorization) (TaskTicketDocument Authorization) :=
  match frame.ticket, frame.payload with
  | none, _ => .error (.ended "task_ticket_encoding_invalid")
  | some _, none => .error (.ended "task_payload_encoding_invalid")
  | some encoded, some payload =>
    if payload.length > maxTaskPayloadBytes then .error (.ended "task_payload_too_large")
    else
      match verifyTaskTicket checks encoded runnerId payload received with
      | .ok ticket => .ok ticket
      | .error (.expiredTask taskId) =>
        .error (.answered taskId "task_expired_before_execution" true)
      | .error _ => .error (.ended "task_ticket_invalid")

/-- The tickets that have passed the replay check and those whose execution has started,
over all sessions, with the cache of the current one.
-/
structure RunnerProcess (Authorization : Type) where
  replay : Option ReplayCache
  (passed started : List (TaskTicketDocument Authorization))
  deriving DecidableEq

def RunnerProcess.initial : RunnerProcess Authorization := ⟨none, [], []⟩

inductive RunnerEvent
  | connect (now : OffsetDateTime)
  | task (frame : TaskFrame) (readings : TaskReadings)
  | disconnect

variable (process : RunnerProcess Authorization)

def acceptTask (cache : ReplayCache) (frame : TaskFrame) (readings : TaskReadings)
    : RunnerProcess Authorization :=
  match receiveTicket checks runnerId frame readings.received with
  | .error (.ended _) => { process with replay := none }
  | .error _ => process
  | .ok ticket =>
    match cache.consume ticket readings.consumed with
    | (.error _, _) => { process with replay := none }
    | (.ok (), consumed) =>
      let passed := ticket :: process.passed
      match startConsumed ticket readings with
      | .ended _ => { process with replay := none, passed }
      | .answered _ _ _ => { process with replay := some consumed, passed }
      | .started document =>
        { replay := some consumed, passed, started := document :: process.started }

def RunnerProcess.step : RunnerEvent → RunnerProcess Authorization
  | .connect _ => { process with replay := some .new }
  | .disconnect => { process with replay := none }
  | .task frame readings =>
    match process.replay with
    | none => process
    | some cache => acceptTask checks runnerId process cache frame readings

def RunnerProcess.run (events : List RunnerEvent) : RunnerProcess Authorization :=
  events.foldl (RunnerProcess.step checks runnerId) process

/-- The steps under which the cache is enough: the clock is not read earlier than before,
and a session starts only when every ticket that has passed is expired.
-/
def RunnerProcess.Steady (process : RunnerProcess Authorization) (latest : OffsetDateTime)
    : List RunnerEvent → Prop
  | [] => True
  | .connect now :: rest =>
    latest ≤ now
    ∧ (∀ ticket ∈ process.passed, ticket.claims.expiresAt ≤ now.unixTimestamp)
    ∧ (process.step checks runnerId (.connect now)).Steady now rest
  | .disconnect :: rest => (process.step checks runnerId .disconnect).Steady latest rest
  | .task frame readings :: rest =>
    latest ≤ readings.consumed
    ∧ (process.step checks runnerId (.task frame readings)).Steady readings.consumed rest

/-- Every ticket that has passed is expired or still in the cache, and none has passed
twice.
-/
structure RunnerProcess.Remembers (process : RunnerProcess Authorization)
    (latest : OffsetDateTime) : Prop where
  known
    : ∀ cache ∈ process.replay, ∀ ticket ∈ process.passed,
        ticket.claims.expiresAt ≤ latest.unixTimestamp
        ∨ (ticket.claims.taskId, ticket.claims.expiresAt) ∈ cache.consumed
  once : process.passed.Nodup
  started : process.started.Sublist process.passed

theorem OffsetDateTime.unixTimestamp_mono {earlier later : OffsetDateTime} (ho : earlier ≤ later)
    : earlier.unixTimestamp ≤ later.unixTimestamp :=
  Int.ediv_le_ediv (by decide) ho

variable {cache : ReplayCache} {ticket : TaskTicketDocument Authorization} {now : OffsetDateTime}

/-- A consumed ticket is live and was not in the cache; what the cache had of live tickets
stays.
-/
theorem ReplayCache.consume_eq_ok {consumed : ReplayCache}
    (ha : cache.consume ticket now = (.ok (), consumed))
    : now.unixTimestamp < ticket.claims.expiresAt
      ∧ (∀ entry ∈ cache.consumed, now.unixTimestamp < entry.2 → entry.1 ≠ ticket.claims.taskId)
      ∧ (ticket.claims.taskId, ticket.claims.expiresAt) ∈ consumed.consumed
      ∧ ∀ entry ∈ cache.consumed, now.unixTimestamp < entry.2 → entry ∈ consumed.consumed := by
  unfold consume at ha
  split at ha
  · cases ha
  rename_i valid
  dsimp only at ha
  split at ha
  · cases ha
  rename_i hf
  cases ha
  have live : now.unixTimestamp < ticket.claims.expiresAt := by
    unfold validateTicketTime at valid
    split at valid
    · cases valid
    · rename_i inTime
      simp only [not_or, ge_iff_le, not_le] at inTime
      exact inTime.1
  refine ⟨live, ?_, List.mem_cons_self, ?_⟩
  · intro entry hm entryLive same
    refine hf (List.any_eq_true.mpr ⟨entry, ?_, decide_eq_true same⟩)
    exact List.mem_filter.mpr ⟨hm, decide_eq_true entryLive⟩
  · intro entry hm entryLive
    exact List.mem_cons_of_mem _ (List.mem_filter.mpr ⟨hm, decide_eq_true entryLive⟩)

variable {process : RunnerProcess Authorization} {latest : OffsetDateTime}

variable (remembers : process.Remembers latest)

include remembers in
/-- A ticket that is consumed was never consumed before. -/
theorem RunnerProcess.Remembers.fresh (session : process.replay = some cache) (ho : latest ≤ now)
    (ha : cache.consume ticket now = (.ok (), consumed))
    : ticket ∉ process.passed := by
  intro earlier
  obtain ⟨live, absent, _, _⟩ := ReplayCache.consume_eq_ok ha
  have later := OffsetDateTime.unixTimestamp_mono ho
  rcases remembers.known cache session ticket earlier with he | hs
  · omega
  · exact absent _ hs live rfl

include remembers in
theorem RunnerProcess.Remembers.consumed {consumed : ReplayCache}
    (session : process.replay = some cache)
    (ho : latest ≤ now) (ha : cache.consume ticket now = (.ok (), consumed))
    : ∀ other ∈ ticket :: process.passed,
        other.claims.expiresAt ≤ now.unixTimestamp
        ∨ (other.claims.taskId, other.claims.expiresAt) ∈ consumed.consumed := by
  obtain ⟨_, _, had, kept⟩ := ReplayCache.consume_eq_ok ha
  have later := OffsetDateTime.unixTimestamp_mono ho
  intro other hm
  rcases List.mem_cons.mp hm with ht | earlier
  · rw [ht]
    exact .inr had
  · by_cases he : other.claims.expiresAt ≤ now.unixTimestamp
    · exact .inl he
    · rcases remembers.known cache session other earlier with old | hs
      · omega
      · exact .inr (kept _ hs (by simpa using he))

include remembers in
theorem RunnerProcess.Remembers.acceptTask {frame : TaskFrame} {readings : TaskReadings}
    (session : process.replay = some cache) (ho : latest ≤ readings.consumed)
    : (acceptTask checks runnerId process cache frame readings).Remembers readings.consumed := by
  have later := OffsetDateTime.unixTimestamp_mono ho
  have he
      : ({ process with replay := none } : RunnerProcess Authorization).Remembers
          readings.consumed :=
    ⟨fun _ absent => absurd absent (Option.not_mem_none _), remembers.once, remembers.started⟩
  unfold AsterTeam.acceptTask
  split
  · exact he
  · refine ⟨?_, remembers.once, remembers.started⟩
    intro hk hc ticket hm
    rcases remembers.known hk hc ticket hm with hex | hst
    · exact .inl (hex.trans later)
    · exact .inr hst
  · rename_i ticket _
    split
    · exact he
    · rename_i consumed ha
      have hf := remembers.fresh session ho ha
      have once : (ticket :: process.passed).Nodup := List.nodup_cons.mpr ⟨hf, remembers.once⟩
      have hk := remembers.consumed session ho ha
      split
      · exact ⟨fun _ absent => absurd absent (Option.not_mem_none _), once,
          remembers.started.cons _⟩
      · refine ⟨?_, once, remembers.started.cons _⟩
        intro cache hc
        cases hc
        exact hk
      · rename_i document hs
        have same : document = ticket := by
          unfold startConsumed at hs
          repeat (split at hs; · cases hs)
          exact (TaskAcceptance.started.inj hs).symm
        refine ⟨?_, once, same ▸ remembers.started.cons_cons _⟩
        intro cache hc
        cases hc
        exact hk

include remembers in
/-- Over a whole run, by induction on its events. -/
theorem RunnerProcess.Remembers.run (hs : process.Steady checks runnerId latest events)
    : ∃ last, (process.run checks runnerId events).Remembers last := by
  induction events generalizing process latest with
  | nil => exact ⟨latest, remembers⟩
  | cons event rest ih =>
    cases event with
    | connect now =>
      obtain ⟨_, he, hs⟩ := hs
      refine ih ⟨?_, remembers.once, remembers.started⟩ hs
      intro cache _ ticket hm
      exact .inl (he ticket hm)
    | disconnect =>
      refine ih ⟨?_, remembers.once, remembers.started⟩ hs
      intro _ absent
      cases absent
    | task frame readings =>
      obtain ⟨ho, hs⟩ := hs
      cases session : process.replay with
      | none =>
        have idle : process.step checks runnerId (.task frame readings) = process := by
          simp only [RunnerProcess.step, session]
        refine ih ?_ hs
        rw [idle]
        refine ⟨?_, remembers.once, remembers.started⟩
        intro cache hc
        rw [session] at hc
        cases hc
      | some cache =>
        refine ih ?_ hs
        simp only [RunnerProcess.step, session]
        exact remembers.acceptTask checks runnerId session ho

/-- In every run of a Runner whose clock readings do not step back and whose sessions start
only after every ticket consumed before has expired, no signed ticket passes the replay
check twice, and none starts two executions.
-/
theorem steady_runner_uses_ticket_once {latest : OffsetDateTime}
    {events : List RunnerEvent}
    (steady : RunnerProcess.initial.Steady checks runnerId latest events)
    : (RunnerProcess.initial.run checks runnerId events).passed.Nodup
      ∧ (RunnerProcess.initial.run checks runnerId events).started.Nodup := by
  have hi : (RunnerProcess.initial : RunnerProcess Authorization).Remembers latest :=
    ⟨fun _ absent => absurd absent (Option.not_mem_none _), .nil, .slnil⟩
  obtain ⟨last, remembers⟩ := hi.run checks runnerId steady
  exact ⟨remembers.once, remembers.started.nodup remembers.once⟩

end

def sampleTicket (taskId : String) (issuedAt : Int) : TaskTicketDocument Unit where
  claims :=
    { schema := taskTicketSchema, keyId := "key-1", taskId, runnerId := "runner-1"
      providerId := "provider", credentialInstanceId := some "credential"
      credentialRevision := some 0, upstreamHost := "upstream", command := .execute
      authorization := (), payloadSha256 := "digest", issuedAt
      expiresAt := issuedAt + 120, executionDeadlineMs := issuedAt * 1000 + 600000
      nonce := "nonce" }
  signature := "signature"

/-- Tickets whose encoding is one byte: the first ticket or a later one. -/
def sampleChecks : TicketChecks Unit where
  decodeExact encoded :=
    .ok (if encoded = [1] then sampleTicket "task-1" 0 else sampleTicket "task-2" 100)
  authorized _ _ _ := true
  payloadDigest _ := "digest"
  digestLength _ := some 32
  verifySignature _ := .ok ()

def sampleTask (ticket : UInt8) (seconds : Int) : RunnerEvent :=
  .task ⟨some [ticket], some []⟩
    ⟨seconds * 1000000000, seconds * 1000000000, seconds * 1000000000, false, true, false⟩

theorem sample_tickets_used_once
    : RunnerProcess.initial.Steady sampleChecks "runner-1" 0
          [.connect 0, sampleTask 1 10, sampleTask 2 130]
      ∧ (RunnerProcess.initial.run sampleChecks "runner-1"
          [.connect 0, sampleTask 1 10, sampleTask 2 130]).passed.length
        = 2
      ∧ (RunnerProcess.initial.run sampleChecks "runner-1"
          [.connect 0, sampleTask 1 10, sampleTask 2 130]).passed.Nodup := by
  have hs
      : RunnerProcess.initial.Steady sampleChecks "runner-1" 0
          [.connect 0, sampleTask 1 10, sampleTask 2 130] :=
    ⟨le_refl _, fun _ absent => absurd absent List.not_mem_nil, by decide, by decide,
      trivial⟩
  exact ⟨hs, by decide +kernel, (steady_runner_uses_ticket_once _ _ hs).1⟩

/-- A ticket passes twice after a reconnect, and twice in one session when the clock steps
back behind the reading at which it was forgotten.
-/
theorem ticket_used_twice
    : (RunnerProcess.initial.run sampleChecks "runner-1"
          [.connect 0, sampleTask 1 10, .disconnect, .connect 0, sampleTask 1 20]).started
        = [sampleTicket "task-1" 0, sampleTicket "task-1" 0]
      ∧ (RunnerProcess.initial.run sampleChecks "runner-1"
          [.connect 0, sampleTask 1 10, sampleTask 2 130, sampleTask 1 20]).started
        = [sampleTicket "task-1" 0, sampleTicket "task-2" 100, sampleTicket "task-1" 0] := by
  decide +kernel

end AsterTeam
