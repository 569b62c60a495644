import AsterTeam.Control.Signing
import AsterTeam.Runner.TaskExecution

/-! The dispatch of an upstream request to the Runners. Control retries once, on another
Runner, and only while the first task cannot have reached the provider.
-/

namespace AsterTeam

structure RunnerDispatchFailure where
  error : ControlError
  excludedRunnerId : Option String

def RunnerDispatchFailure.of (error : ControlError) : RunnerDispatchFailure := ⟨error, none⟩

def RunnerDispatchFailure.unavailable (runnerId : Option String) : RunnerDispatchFailure :=
  ⟨.routing .noRunnerReady, runnerId⟩

structure RunnerConnection where
  (channel generation : Nat)

/-- The connections at one moment, and the channels whose receiver is gone. -/
structure HubReading where
  connections : String → Option RunnerConnection
  closed : Nat → Bool

structure ReservedRunnerDispatch where
  runnerId : String
  connection : RunnerConnection

variable (hub : HubReading) (runnerId : String)

/-- The Runner to exclude from the retry: none if it has reconnected meanwhile. -/
def HubReading.excluded (generation : Nat) : Option String :=
  if (hub.connections runnerId).any fun connection =>
      connection.generation != generation && !hub.closed connection.channel then
    none
  else some runnerId

def reserveDispatch (permit : Bool) (later : HubReading) (runnerId : String)
    : Except RunnerDispatchFailure ReservedRunnerDispatch :=
  match hub.connections runnerId with
  | none => .error (.unavailable (some runnerId))
  | some connection =>
    if permit then .ok ⟨runnerId, connection⟩
    else .error (.unavailable (later.excluded runnerId connection.generation))

/-- The frame of the task is enqueued exactly if this succeeds. -/
def dispatchReserved (slot : ReservedRunnerDispatch) (cancelFrame : Except ControlError Unit)
    : Except RunnerDispatchFailure Unit :=
  if hub.closed slot.connection.channel
      || !(hub.connections slot.runnerId).any fun connection =>
        connection.generation == slot.connection.generation
          && connection.channel == slot.connection.channel then
    .error (.unavailable (hub.excluded slot.runnerId slot.connection.generation))
  else cancelFrame.mapError .of

/-- How the mutation that enqueues the task ends for its caller: refused because the
instance drains, joined, or lost, in which case the task may have been enqueued.
-/
inductive MutationReading
  | draining
  | joined
  | lost (enqueued : Bool) (error : StorageError)

/-- What the dispatch of one task reads from Control, in the order of the reads. -/
structure DispatchReadings where
  authorize : Except ControlError Unit
  selectRunner : List String → Except ControlError String
  issuer : Except ControlError Unit
  taskId : Except ControlError String
  nonce : Except ControlError Unit
  hub : HubReading
  permit : Bool
  laterHub : HubReading
  reauthorize : Except ControlError Unit
  currentRunner : String → Except ControlError Bool
  (guardMutation issueTicket : Except ControlError Unit)
  mutation : MutationReading
  finalHub : HubReading
  cancelFrame : Except ControlError Unit

structure RunnerTaskHandle where
  (taskId runnerId : String)

def prepareDispatch (readings : DispatchReadings) (excludedRunnerIds : List String)
    : Except RunnerDispatchFailure (ReservedRunnerDispatch × RunnerTaskHandle) := do
  readings.authorize.mapError .of
  let runnerId ← (readings.selectRunner excludedRunnerIds).mapError .of
  readings.issuer.mapError .of
  let taskId ← readings.taskId.mapError .of
  readings.nonce.mapError .of
  let slot ← reserveDispatch readings.hub readings.permit readings.laterHub runnerId
  readings.reauthorize.mapError .of
  let ready ← (readings.currentRunner runnerId).mapError .of
  if !ready then throw (.unavailable (some runnerId))
  readings.guardMutation.mapError .of
  readings.issueTicket.mapError .of
  return (slot, ⟨taskId, runnerId⟩)

/-- The dispatch of one task, with whether its frame was enqueued for the Runner. -/
def dispatchRunnerTaskExcluding (readings : DispatchReadings)
    (excludedRunnerIds : List String)
    : Bool × Except RunnerDispatchFailure RunnerTaskHandle :=
  match prepareDispatch readings excludedRunnerIds with
  | .error failure => (false, .error failure)
  | .ok (slot, handle) =>
    match readings.mutation with
    | .draining => (false, .error (.of .instanceDraining))
    | .lost enqueued error => (enqueued, .error (.of (.storage error)))
    | .joined =>
      match dispatchReserved readings.finalHub slot readings.cancelFrame with
      | .error failure => (false, .error failure)
      | .ok () => (true, .ok handle)

structure StartedRunnerResponse where
  (runnerId taskId : String)
  status : Nat
  headers : List (String × String)

/-- A failed attempt: its error, whether it may be retried, and its Runner. -/
structure AttemptFailure where
  error : ControlError
  retryable : Bool
  runnerId : String

def AttemptFailure.forbidden : AttemptFailure :=
  ⟨.routing .retryForbidden, false, runnerId⟩

def AttemptFailure.invalid : AttemptFailure :=
  ⟨.invalidUpstreamResponse, false, runnerId⟩

/-- Reads the events of a task until its response starts. The list ends where the stream is
closed or the execution times out.
-/
def awaitStart (handle : RunnerTaskHandle) (accepted upstreamStarted : Bool)
    : List RunnerToControl → Except AttemptFailure StartedRunnerResponse
  | [] => .error (.forbidden handle.runnerId)
  | .taskAccepted taskId :: rest =>
    if taskId = handle.taskId ∧ !accepted then awaitStart handle true upstreamStarted rest
    else .error (.invalid handle.runnerId)
  | .upstreamStarted taskId :: rest =>
    if taskId = handle.taskId ∧ accepted ∧ !upstreamStarted then
      awaitStart handle accepted true rest
    else .error (.invalid handle.runnerId)
  | .taskResponseStarted taskId status headers :: _ =>
    if taskId = handle.taskId ∧ upstreamStarted ∧ 100 ≤ status ∧ status ≤ 599 then
      .ok ⟨handle.runnerId, handle.taskId, status, headers⟩
    else .error (.invalid handle.runnerId)
  | .taskFailed taskId _ retryableBeforeUpstream :: _ =>
    if taskId = handle.taskId then
      if retryableBeforeUpstream && !upstreamStarted then
        .error ⟨.upstreamRequestFailed, true, handle.runnerId⟩
      else .error (.forbidden handle.runnerId)
    else .error (.invalid handle.runnerId)
  | _ :: _ => .error (.invalid handle.runnerId)

/-- One attempt: what its dispatch reads and the events that arrive from the Runner. -/
structure AttemptReadings where
  dispatch : DispatchReadings
  delivered : List RunnerToControl

def startRunnerHttpRequestOnce (attempt : AttemptReadings) (excludedRunnerIds : List String)
    : Bool × Except AttemptFailure StartedRunnerResponse :=
  match dispatchRunnerTaskExcluding attempt.dispatch excludedRunnerIds with
  | (enqueued, .error failure) =>
    (enqueued, .error
      ⟨failure.error, failure.error = .routing .noRunnerReady, failure.excludedRunnerId.getD ""⟩)
  | (enqueued, .ok handle) => (enqueued, awaitStart handle false false attempt.delivered)

/-- What a request does: which attempts enqueue a task, whether there is a second attempt,
and the answer.
-/
structure RequestRun where
  (firstEnqueued retried secondEnqueued : Bool)
  result : Except ControlError StartedRunnerResponse

def startRunnerHttpRequest (first second : AttemptReadings) : RequestRun :=
  match startRunnerHttpRequestOnce first [] with
  | (enqueued, .ok started) => ⟨enqueued, false, false, .ok started⟩
  | (enqueued, .error failure) =>
    if failure.retryable then
      let excluded := if failure.runnerId = "" then [] else [failure.runnerId]
      match startRunnerHttpRequestOnce second excluded with
      | (again, .ok started) => ⟨enqueued, true, again, .ok started⟩
      | (again, .error failure) => ⟨enqueued, true, again, .error failure.error⟩
    else ⟨enqueued, false, false, .error failure.error⟩

/-- What a Runner performs for an attempt: nothing without a frame, and otherwise what its
code does with the frame, unless the frame is lost on the way.
-/
inductive RunnerPerforms : Bool → List TaskAction → Prop
  | idle (enqueued : Bool) : RunnerPerforms enqueued []
  | ran {Authorization : Type} (checks : UpstreamChecks)
      (tickets : TicketChecks Authorization) (runnerId : String) (cache : ReplayCache)
      (frame : TaskFrame) (task : TaskReadings) (readings : ExecutionReadings) (ending : TaskEnd)
      : RunnerPerforms true (runTask checks tickets runnerId cache frame task readings ending)

def emittedFrames (actions : List TaskAction) : List RunnerToControl :=
  actions.filterMap fun
    | .emit frame => some frame
    | .sendUpstream _ => none

/-- The two sides of one attempt: the Runner performs the actions, and what arrives of its
events is what was emitted, with any losses and cut off anywhere.
-/
structure AttemptReadings.Executed (attempt : AttemptReadings) (enqueued : Bool)
    (actions : List TaskAction) : Prop where
  performed : RunnerPerforms enqueued actions
  delivered : attempt.delivered.Sublist (emittedFrames actions)

variable {enqueued : Bool} {actions : List TaskAction}

theorem RunnerPerforms.retrySafe (hp : RunnerPerforms enqueued actions) : RetrySafe actions := by
  cases hp with
  | idle => exact fun _ => nil_reaches_nothing
  | ran => exact (runTask_guarded _ _ _ _ _ _ _ _).retrySafe

theorem RunnerPerforms.idle_of_not_enqueued (hp : RunnerPerforms false actions) : actions = [] := by
  cases hp
  rfl

theorem emit_of_mem_emittedFrames (emitted : frame ∈ emittedFrames actions)
    : .emit frame ∈ actions := by
  obtain ⟨action, hm, same⟩ := List.mem_filterMap.mp emitted
  cases action with
  | emit emitted =>
    cases same
    exact hm
  | sendUpstream request => cases same

variable {excludedRunnerIds : List String}

/-- Control regards a dispatch failure as retryable only if nothing was enqueued. -/
theorem dispatch_unavailable {failure : RunnerDispatchFailure}
    (hf : dispatchRunnerTaskExcluding readings excludedRunnerIds = (enqueued, .error failure))
    (unavailable : failure.error = .routing .noRunnerReady)
    : enqueued = false := by
  unfold dispatchRunnerTaskExcluding at hf
  split at hf
  · exact (Prod.mk.inj hf).1.symm
  · split at hf
    · exact (Prod.mk.inj hf).1.symm
    · obtain ⟨_, same⟩ := Prod.mk.inj hf
      rw [← Except.error.inj same] at unavailable
      cases unavailable
    · split at hf
      · exact (Prod.mk.inj hf).1.symm
      · cases (Prod.mk.inj hf).2

variable {failure : AttemptFailure}

/-- Only a failure event that is marked as retryable makes an attempt retryable. -/
theorem awaitStart_retryable
    (hf : awaitStart handle accepted upstreamStarted frames = .error failure)
    (retryable : failure.retryable)
    : ∃ category, .taskFailed handle.taskId category true ∈ frames := by
  induction frames generalizing accepted upstreamStarted with
  | nil =>
    cases hf
    cases retryable
  | cons frame rest ih =>
    have further {nextAccepted nextStarted : Bool}
        (continued : awaitStart handle nextAccepted nextStarted rest = .error failure)
        : ∃ category, .taskFailed handle.taskId category true ∈ frame :: rest :=
      (ih continued).imp fun _ hm => .tail _ hm
    have hre (final : failure = .invalid handle.runnerId)
        : ∃ category, .taskFailed handle.taskId category true ∈ frame :: rest := by
      rw [final] at retryable
      cases retryable
    cases frame with
    | taskAccepted taskId =>
      rw [awaitStart] at hf
      split_ifs at hf
      · exact further hf
      · exact hre (Except.error.inj hf).symm
    | upstreamStarted taskId =>
      rw [awaitStart] at hf
      split_ifs at hf
      · exact further hf
      · exact hre (Except.error.inj hf).symm
    | taskResponseStarted taskId status headers =>
      rw [awaitStart] at hf
      split_ifs at hf
      exact hre (Except.error.inj hf).symm
    | taskFailed taskId category retryableBeforeUpstream =>
      rw [awaitStart] at hf
      split_ifs at hf with own early
      · have hr := (Bool.and_eq_true_iff.mp early).1
        rw [own, hr]
        exact ⟨category, List.mem_cons_self⟩
      · rw [← Except.error.inj hf] at retryable
        cases retryable
      · exact hre (Except.error.inj hf).symm
    | taskChunk taskId sequence data => exact hre (Except.error.inj hf).symm
    | taskFinished taskId status => exact hre (Except.error.inj hf).symm
    | credentialRefreshed taskId credentialId expectedRevision status payload =>
      exact hre (Except.error.inj hf).symm

/-- After a retryable attempt nothing was enqueued, or the Runner has reported a retryable
failure.
-/
theorem retryable_attempt
    (hf : startRunnerHttpRequestOnce attempt excludedRunnerIds = (enqueued, .error failure))
    (retryable : failure.retryable)
    : enqueued = false
      ∨ ∃ taskId category, .taskFailed taskId category true ∈ attempt.delivered := by
  unfold startRunnerHttpRequestOnce at hf
  split at hf
  next _ _ dispatchFailure dispatched =>
    obtain ⟨he, same⟩ := Prod.mk.inj hf
    rw [← Except.error.inj same] at retryable
    rw [he] at dispatched
    exact .inl (dispatch_unavailable dispatched (of_decide_eq_true retryable))
  next _ _ handle dispatched =>
    obtain ⟨category, hm⟩ := awaitStart_retryable (Prod.mk.inj hf).2 retryable
    exact .inr ⟨handle.taskId, category, hm⟩

variable {first second : AttemptReadings}

theorem retried_after_retryable (retried : (startRunnerHttpRequest first second).retried)
    : ∃ failure,
        startRunnerHttpRequestOnce first []
          = ((startRunnerHttpRequest first second).firstEnqueued, .error failure)
        ∧ failure.retryable := by
  unfold startRunnerHttpRequest at retried ⊢
  split at retried
  · cases retried
  · next _ he failure hf =>
    split at retried
    · next retryable =>
      refine ⟨failure, ?_, retryable⟩
      dsimp only
      rw [if_pos retryable]
      split <;> exact hf
    · cases retried

theorem second_idle_unless_retried (hs : (startRunnerHttpRequest first second).retried = false)
    : (startRunnerHttpRequest first second).secondEnqueued = false := by
  unfold startRunnerHttpRequest at hs ⊢
  split at hs
  · rfl
  · next _ enqueued failure failed =>
    by_cases retryable : failure.retryable
    · rw [if_pos retryable] at hs
      dsimp only at hs
      split at hs <;> cases hs
    · rw [if_neg retryable]

/-- At most one of the two tasks of a request sends it to the provider: there is a second
attempt only if no task was enqueued by the first, or its Runner has reported a failure and
never reaches the provider.
-/
theorem request_sent_by_one_task (first second : AttemptReadings)
    {firstActions secondActions : List TaskAction}
    (firstExecuted
      : first.Executed (startRunnerHttpRequest first second).firstEnqueued firstActions)
    (secondExecuted
      : second.Executed (startRunnerHttpRequest first second).secondEnqueued secondActions)
    : ¬ (SendsUpstream firstActions ∧ SendsUpstream secondActions)
      ∧ ((startRunnerHttpRequest first second).retried = true
        → ¬ ReachesUpstream firstActions
          ∧ ((startRunnerHttpRequest first second).firstEnqueued = false
            ∨ ReportsRetryable firstActions))
      ∧ ((startRunnerHttpRequest first second).retried = false → secondActions = []) := by
  have ha
      : (startRunnerHttpRequest first second).retried = true
        → ¬ ReachesUpstream firstActions
          ∧ ((startRunnerHttpRequest first second).firstEnqueued = false
            ∨ ReportsRetryable firstActions) := by
    intro retried
    obtain ⟨failure, hf, retryable⟩ := retried_after_retryable retried
    rcases retryable_attempt hf retryable with notEnqueued | ⟨taskId, category, reported⟩
    · have hp := firstExecuted.performed
      rw [notEnqueued] at hp
      rw [hp.idle_of_not_enqueued]
      refine ⟨?_, .inl notEnqueued⟩
      intro ⟨_, hm, _⟩
      cases hm
    · have reports : ReportsRetryable firstActions :=
        ⟨taskId, category, emit_of_mem_emittedFrames (firstExecuted.delivered.subset reported)⟩
      exact ⟨firstExecuted.performed.retrySafe reports, .inr reports⟩
  have hs
      : (startRunnerHttpRequest first second).retried = false → secondActions = [] := by
    intro hs
    have hp := secondExecuted.performed
    rw [second_idle_unless_retried hs] at hp
    exact hp.idle_of_not_enqueued
  refine ⟨?_, ha, hs⟩
  intro ⟨firstSends, request, secondSends⟩
  cases hr : (startRunnerHttpRequest first second).retried with
  | true => exact (ha hr).1 firstSends.reaches
  | false =>
    rw [hs hr] at secondSends
    cases secondSends

def sampleHub : HubReading := ⟨fun _ => some ⟨0, 0⟩, fun _ => false⟩

def sampleDispatch (taskId : String) : DispatchReadings where
  authorize := .ok ()
  selectRunner _ := .ok "runner-1"
  issuer := .ok ()
  taskId := .ok taskId
  nonce := .ok ()
  hub := sampleHub
  permit := true
  laterHub := sampleHub
  reauthorize := .ok ()
  currentRunner _ := .ok true
  guardMutation := .ok ()
  issueTicket := .ok ()
  mutation := .joined
  finalHub := sampleHub
  cancelFrame := .ok ()

def sampleUpstreamRequest : UpstreamHttpRequest := ⟨"POST", "https://upstream", [], ""⟩

def sampleUpstreamChecks : UpstreamChecks where
  decodeRequest _ := some sampleUpstreamRequest
  decodeRefresh _ := none
  decodeBase64url _ := some []
  validateUpstreamUrl _ _ := true
  buildAssetClient _ _ := false
  headerName _ := none

def sampleActions (ticket : UInt8) (seconds : Int) (draining : Bool) : List TaskAction :=
  runTask sampleUpstreamChecks sampleChecks "runner-1" .new ⟨some [ticket], some []⟩
    ⟨seconds * 1000000000, seconds * 1000000000, seconds * 1000000000, draining, true, false⟩
    ⟨.reserved true, .reserved true, none⟩ .completed

def sampleAttempt (taskId : String) (actions : List TaskAction) : AttemptReadings :=
  ⟨sampleDispatch taskId, emittedFrames actions⟩

/-- A draining Runner refuses the first task, and the second one sends the request. -/
theorem sample_request_sent_by_second_task
    : (startRunnerHttpRequest (sampleAttempt "task-1" (sampleActions 1 10 true))
          (sampleAttempt "task-2" (sampleActions 2 130 false))).retried
        = true
      ∧ .sendUpstream sampleUpstreamRequest ∈ sampleActions 2 130 false
      ∧ ¬ (SendsUpstream (sampleActions 1 10 true)
          ∧ SendsUpstream (sampleActions 2 130 false)) := by
  have he
      : (startRunnerHttpRequest (sampleAttempt "task-1" (sampleActions 1 10 true))
            (sampleAttempt "task-2" (sampleActions 2 130 false))).firstEnqueued
          = true
        ∧ (startRunnerHttpRequest (sampleAttempt "task-1" (sampleActions 1 10 true))
            (sampleAttempt "task-2" (sampleActions 2 130 false))).secondEnqueued
          = true := by
    decide +kernel
  refine ⟨by decide +kernel, by decide +kernel, ?_⟩
  refine (request_sent_by_one_task (sampleAttempt "task-1" (sampleActions 1 10 true))
    (sampleAttempt "task-2" (sampleActions 2 130 false)) ⟨?_, List.Sublist.refl _⟩
    ⟨?_, List.Sublist.refl _⟩).1
  · rw [he.1]
    exact .ran _ _ _ _ _ _ _ _
  · rw [he.2]
    exact .ran _ _ _ _ _ _ _ _

end AsterTeam
