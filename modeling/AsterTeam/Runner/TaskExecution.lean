import AsterTeam.Runner.SingleUse

/-! The execution of one task frame on a Runner, as the actions that leave the Runner: event
frames for Control and the request to the upstream provider.
-/

namespace AsterTeam

open List

inductive RunnerToControl
  | taskAccepted (taskId : String)
  | upstreamStarted (taskId : String)
  | taskResponseStarted (taskId : String) (status : Nat) (headers : List (String × String))
  | taskChunk (taskId : String) (sequence : Nat) (data : List UInt8)
  | taskFinished (taskId : String) (status : Nat)
  | credentialRefreshed (taskId credentialId : String) (expectedRevision : UInt32)
      (status : Nat) (credentialPayload : List UInt8)
  | taskFailed (taskId category : String) (retryableBeforeUpstream : Bool)
  deriving DecidableEq

structure UpstreamHttpRequest where
  (method url : String)
  headers : List (String × String)
  bodyBase64url : String
  deriving DecidableEq

structure CredentialRefreshTask where
  credentialId : String
  expectedRevision : UInt32
  request : UpstreamHttpRequest

inductive TaskAction
  | emit (frame : RunnerToControl)
  | sendUpstream (request : UpstreamHttpRequest)
  deriving DecidableEq

/-- Decoding of the payload and the third-party checks of a request: the URL against the
configured hosts, the addresses of an asset host and the names of headers.
-/
structure UpstreamChecks where
  decodeRequest : List UInt8 → Option UpstreamHttpRequest
  decodeRefresh : List UInt8 → Option CredentialRefreshTask
  decodeBase64url : String → Option (List UInt8)
  (validateUpstreamUrl buildAssetClient : String → String → Bool)
  headerName : String → Option String

def maxResponseHeaderValueBytes : Nat := 8192
def maxCredentialRefreshResponseBytes : Nat := 2097152
def maxAssetBytes : Nat := 33554432

def forbiddenRequestHeaders : List String :=
  ["host", "content-length", "connection", "transfer-encoding", "upgrade", "proxy-authorization"]

def allowedResponseHeaders : List String :=
  ["content-type", "openai-processing-ms", "x-request-id", "request-id",
    "anthropic-ratelimit-unified-status"]

def sendFailure (taskId category : String) (retryable : Bool) : List TaskAction :=
  [.emit (.taskFailed taskId category retryable)]

/-- How the wait for a place in the event queue ends. After the deadline the expiry is
reported only if a place happens to be free.
-/
inductive SlotReading
  | closed
  | timedOut (free : Bool)
  | reserved (valid : Bool)

def expiredFrame (taskId : String) : List TaskAction :=
  sendFailure taskId "task_ticket_expired" true

/-- Sends an event while the ticket is valid; the continuation is what a valid ticket
permits.
-/
def sendBeforeUpstream (taskId : String) (slot : SlotReading) (event : RunnerToControl)
    (permitted : List TaskAction)
    : List TaskAction :=
  match slot with
  | .closed => []
  | .timedOut free => if free then expiredFrame taskId else []
  | .reserved valid => if !valid then expiredFrame taskId else .emit event :: permitted

/-- The answer of the upstream provider. A chunk that is missing is a stream error. -/
structure UpstreamResponse where
  status : Nat
  contentLength : Option Nat
  headers : List (String × List UInt8 × Option String)
  chunks : List (Option (List UInt8))

/-- The headers of a response that are forwarded: the allowed ones of bounded length whose
value is text.
-/
def responseHeaders (headers : List (String × List UInt8 × Option String))
    : List (String × String) :=
  (headers.filter fun (name, value, _) =>
      allowedResponseHeaders.contains name && value.length ≤ maxResponseHeaderValueBytes)
    |>.filterMap fun (name, _, text) => text.map fun value => (name, value)

def forwardChunks (taskId : String) (assetFetch : Bool) (status : Nat)
    : (sequence assetBytes : Nat) → List (Option (List UInt8)) → List TaskAction
  | _, _, [] => [.emit (.taskFinished taskId status)]
  | _, _, none :: _ => sendFailure taskId "upstream_stream" false
  | sequence, assetBytes, some chunk :: rest =>
    if assetFetch && assetBytes + chunk.length > maxAssetBytes then
      sendFailure taskId "asset_too_large" false
    else
      .emit (.taskChunk taskId sequence chunk)
        :: (if sequence + 1 ≥ 2 ^ 32 then []
          else
            forwardChunks taskId assetFetch status (sequence + 1) (assetBytes + chunk.length) rest)

def forwardResponse (taskId : String) (assetFetch : Bool)
    : Option UpstreamResponse → List TaskAction
  | none => sendFailure taskId "upstream_transport" false
  | some response =>
    if assetFetch && response.contentLength.any (· > maxAssetBytes) then
      sendFailure taskId "asset_too_large" false
    else
      .emit (.taskResponseStarted taskId response.status (responseHeaders response.headers))
        :: forwardChunks taskId assetFetch response.status 0 0 response.chunks

def collectRefreshed (taskId : String) (payload : CredentialRefreshTask) (status : Nat)
    : List UInt8 → List (Option (List UInt8)) → List TaskAction
  | body, [] =>
    [.emit (.credentialRefreshed taskId payload.credentialId payload.expectedRevision status body)]
  | _, none :: _ => sendFailure taskId "upstream_stream" false
  | body, some chunk :: rest =>
    if body.length + chunk.length > maxCredentialRefreshResponseBytes then
      sendFailure taskId "credential_refresh_response_too_large" false
    else collectRefreshed taskId payload status (body ++ chunk) rest

def forwardRefreshed (taskId : String) (payload : CredentialRefreshTask)
    : Option UpstreamResponse → List TaskAction
  | none => sendFailure taskId "upstream_transport" false
  | some response => collectRefreshed taskId payload response.status [] response.chunks

section

variable (checks : UpstreamChecks)

def UpstreamChecks.validHeader (header : String × String) : Bool :=
  (checks.headerName header.1).any fun name =>
    !forbiddenRequestHeaders.contains name && header.2.utf8ByteSize ≤ maxResponseHeaderValueBytes

def UpstreamChecks.validBody (request : UpstreamHttpRequest) (limit : Nat) : Bool :=
  (checks.decodeBase64url request.bodyBase64url).any (·.length ≤ limit)

/-- The request of a task, or the category of the failure that refuses it. -/
def prepareRequest (assetFetch : Bool) (upstreamHost : String) (rawPayload : List UInt8)
    : Except String UpstreamHttpRequest :=
  match checks.decodeRequest rawPayload with
  | none => .error "task_payload_invalid"
  | some payload =>
    if assetFetch && !checks.buildAssetClient payload.url upstreamHost then
      .error "asset_source_not_allowed"
    else if !assetFetch && !checks.validateUpstreamUrl payload.url upstreamHost then
      .error "upstream_not_allowed"
    else if payload.method ≠ "GET" && (assetFetch || payload.method ≠ "POST") then
      .error "upstream_method_invalid"
    else if payload.headers.length > 64 then .error "upstream_headers_invalid"
    else if assetFetch && (!payload.headers.isEmpty || payload.bodyBase64url ≠ "") then
      .error "asset_request_invalid"
    else if !payload.headers.all checks.validHeader then .error "upstream_headers_invalid"
    else if !checks.validBody payload maxTaskPayloadBytes then
      .error "upstream_body_invalid"
    else .ok payload

/-- The identifier `credential_` with 32 hexadecimal digits. -/
def validCredentialId (value : String) : Bool :=
  let bytes := utf8Bytes value
  bytes.take 11 == utf8Bytes "credential_"
    && bytes.length == 43
    && (bytes.drop 11).all fun byte =>
      (48 ≤ byte && byte ≤ 57) || (65 ≤ byte && byte ≤ 70) || (97 ≤ byte && byte ≤ 102)

def prepareRefresh (claims : TaskTicketClaims Authorization) (rawPayload : List UInt8)
    : Except String CredentialRefreshTask :=
  match checks.decodeRefresh rawPayload with
  | none => .error "credential_refresh_payload_invalid"
  | some payload =>
    if !validCredentialId payload.credentialId
        || claims.credentialInstanceId ≠ some payload.credentialId
        || claims.credentialRevision ≠ some payload.expectedRevision then
      .error "credential_refresh_payload_invalid"
    else if !checks.validateUpstreamUrl payload.request.url claims.upstreamHost then
      .error "upstream_not_allowed"
    else if payload.request.method ≠ "POST" then .error "upstream_method_invalid"
    else if payload.request.headers.length > 64 then .error "upstream_headers_invalid"
    else if !payload.request.headers.all checks.validHeader then
      .error "upstream_headers_invalid"
    else if !checks.validBody payload.request maxCredentialRefreshResponseBytes then
      .error "upstream_body_invalid"
    else .ok payload

/-- What an execution reads: the two waits for the event queue and the answer of the
provider.
-/
structure ExecutionReadings where
  (accepted started : SlotReading)
  response : Option UpstreamResponse

def executeProbe (taskId : String) (payload : List UInt8) : List TaskAction :=
  if payload.length ≠ 32 then sendFailure taskId "probe_payload_invalid" false
  else [.emit (.taskChunk taskId 0 payload), .emit (.taskFinished taskId 204)]

def executeTask (assetFetch : Bool) (taskId upstreamHost : String) (rawPayload : List UInt8)
    (readings : ExecutionReadings)
    : List TaskAction :=
  match prepareRequest checks assetFetch upstreamHost rawPayload with
  | .error category => sendFailure taskId category true
  | .ok request =>
    sendBeforeUpstream taskId readings.started (.upstreamStarted taskId)
      (.sendUpstream request :: forwardResponse taskId assetFetch readings.response)

def executeCredentialRefresh (claims : TaskTicketClaims Authorization)
    (rawPayload : List UInt8) (readings : ExecutionReadings)
    : List TaskAction :=
  match prepareRefresh checks claims rawPayload with
  | .error category => sendFailure claims.taskId category true
  | .ok payload =>
    sendBeforeUpstream claims.taskId readings.started (.upstreamStarted claims.taskId)
      (.sendUpstream payload.request
        :: forwardRefreshed claims.taskId payload readings.response)

def executeCommand (claims : TaskTicketClaims Authorization) (payload : List UInt8)
    (readings : ExecutionReadings)
    : List TaskAction :=
  sendBeforeUpstream claims.taskId readings.accepted (.taskAccepted claims.taskId)
    (match claims.command with
    | .probe => executeProbe claims.taskId payload
    | .execute | .discoverModels | .authorizeCredential =>
      executeTask checks false claims.taskId claims.upstreamHost payload readings
    | .fetchAsset => executeTask checks true claims.taskId claims.upstreamHost payload readings
    | .refreshCredential => executeCredentialRefresh checks claims payload readings)

/-- How a started future ends: by itself, with its session, by the cancellation of Control
or at its deadline. The future is dropped before the failure is reported.
-/
inductive TaskEnd
  | completed
  | aborted (performed : Nat)
  | cancelled (performed : Nat)
  | deadline (performed : Nat)

def supervise (taskId : String) (actions : List TaskAction) : TaskEnd → List TaskAction
  | .completed => actions
  | .aborted performed => actions.take performed
  | .cancelled performed =>
    actions.take performed ++ sendFailure taskId "task_cancelled" false
  | .deadline performed =>
    actions.take performed ++ sendFailure taskId "task_deadline_exceeded" false

def runTask (tickets : TicketChecks Authorization) (runnerId : String) (cache : ReplayCache)
    (frame : TaskFrame) (task : TaskReadings) (readings : ExecutionReadings) (ending : TaskEnd)
    : List TaskAction :=
  match receiveTicket tickets runnerId frame task.received with
  | .error (.answered taskId category retryable) => sendFailure taskId category retryable
  | .error _ => []
  | .ok ticket =>
    match cache.consume ticket task.consumed with
    | (.error _, _) => []
    | (.ok (), _) =>
      match startConsumed ticket task with
      | .ended _ => []
      | .answered taskId category retryable => sendFailure taskId category retryable
      | .started document =>
        supervise document.claims.taskId
          (executeCommand checks document.claims (frame.payload.getD []) readings)
          ending

end

/-- Actions that report a failure as one before the upstream request. -/
def ReportsRetryable (actions : List TaskAction) : Prop :=
  ∃ taskId category, .emit (.taskFailed taskId category true) ∈ actions

/-- The steps from which on the provider may have the request. -/
def TaskAction.isUpstream : TaskAction → Bool
  | .sendUpstream _ => true
  | .emit (.upstreamStarted _) => true
  | .emit _ => false

def ReachesUpstream (actions : List TaskAction) : Prop :=
  ∃ action ∈ actions, action.isUpstream = true

def SendsUpstream (actions : List TaskAction) : Prop :=
  ∃ request, .sendUpstream request ∈ actions

variable {actions : List TaskAction}

theorem SendsUpstream.reaches (sends : SendsUpstream actions) : ReachesUpstream actions :=
  sends.elim fun request hm => ⟨.sendUpstream request, hm, rfl⟩

/-- A retryable failure is reported only by a task that never reaches the provider. -/
def RetrySafe (actions : List TaskAction) : Prop :=
  ReportsRetryable actions → ¬ ReachesUpstream actions

theorem sendFailure_reaches_nothing (taskId category : String) (retryable : Bool)
    : ¬ ReachesUpstream (sendFailure taskId category retryable) := by
  intro ⟨action, hm, upstream⟩
  cases mem_singleton.mp hm
  cases upstream

theorem nil_reaches_nothing : ¬ ReachesUpstream [] :=
  fun ⟨_, hm, _⟩ => nomatch hm

theorem sendFailure_final (taskId category : String)
    : ¬ ReportsRetryable (sendFailure taskId category false) := by
  intro ⟨_, _, hm⟩
  cases mem_singleton.mp hm

theorem reportsRetryable_emit (hf : ∀ taskId category, frame ≠ .taskFailed taskId category true)
    : ReportsRetryable (.emit frame :: actions) ↔ ReportsRetryable actions := by
  refine exists_congr fun taskId => exists_congr fun category => ?_
  rw [mem_cons, or_iff_right fun same => ?_]
  exact hf taskId category (TaskAction.emit.inj same).symm

theorem reachesUpstream_cons {action : TaskAction} (idle : action.isUpstream = false)
    : ReachesUpstream (action :: actions) ↔ ReachesUpstream actions := by
  refine ⟨?_, fun ⟨later, hm, upstream⟩ => ⟨later, .tail _ hm, upstream⟩⟩
  intro ⟨later, hm, upstream⟩
  rcases mem_cons.mp hm with same | hm
  · rw [same, idle] at upstream
    cases upstream
  · exact ⟨later, hm, upstream⟩

/-- Nothing that follows the upstream request is reported as retryable. -/
theorem forwardChunks_final (taskId : String) (assetFetch : Bool) (status sequence : Nat)
    (assetBytes : Nat) (chunks : List (Option (List UInt8)))
    : ¬ ReportsRetryable (forwardChunks taskId assetFetch status sequence assetBytes chunks) := by
  induction chunks generalizing sequence assetBytes with
  | nil =>
    intro ⟨_, _, hm⟩
    cases mem_singleton.mp hm
  | cons chunk rest ih =>
    cases chunk with
    | none => exact sendFailure_final taskId _
    | some chunk =>
      unfold forwardChunks
      split
      · exact sendFailure_final taskId _
      · intro hr
        rw [reportsRetryable_emit] at hr
        · split at hr
          · obtain ⟨_, _, hm⟩ := hr
            cases hm
          · exact ih _ _ hr
        · exact fun _ _ => nofun

theorem forwardResponse_final (taskId : String) (assetFetch : Bool)
    (response : Option UpstreamResponse)
    : ¬ ReportsRetryable (forwardResponse taskId assetFetch response) := by
  cases response with
  | none => exact sendFailure_final taskId _
  | some response =>
    rw [forwardResponse]
    split
    · exact sendFailure_final taskId _
    · rw [reportsRetryable_emit]
      · exact forwardChunks_final _ _ _ _ _ _
      · exact fun _ _ => nofun

theorem collectRefreshed_final (taskId : String) (payload : CredentialRefreshTask)
    (status : Nat) (body : List UInt8) (chunks : List (Option (List UInt8)))
    : ¬ ReportsRetryable (collectRefreshed taskId payload status body chunks) := by
  induction chunks generalizing body with
  | nil =>
    intro ⟨_, _, hm⟩
    cases mem_singleton.mp hm
  | cons chunk rest ih =>
    cases chunk with
    | none => exact sendFailure_final taskId _
    | some chunk =>
      unfold collectRefreshed
      split
      · exact sendFailure_final taskId _
      · exact ih _

theorem forwardRefreshed_final (taskId : String) (payload : CredentialRefreshTask)
    (response : Option UpstreamResponse)
    : ¬ ReportsRetryable (forwardRefreshed taskId payload response) := by
  cases response with
  | none => exact sendFailure_final taskId _
  | some response => exact collectRefreshed_final _ _ _ _ _

variable {taskId : String} {permitted : List TaskAction}

/-- Actions that are safe to retry and that reach the provider only under a condition. -/
structure Guarded (condition : Prop) (actions : List TaskAction) : Prop where
  retrySafe : RetrySafe actions
  holds : ReachesUpstream actions → condition

variable {condition : Prop}

theorem Guarded.idle (idle : ¬ ReachesUpstream actions) : Guarded condition actions :=
  ⟨fun _ => idle, fun hr => absurd hr idle⟩

theorem nil_guarded : Guarded condition [] :=
  .idle nil_reaches_nothing

theorem sendFailure_guarded (taskId category : String) (retryable : Bool)
    : Guarded condition (sendFailure taskId category retryable) :=
  .idle (sendFailure_reaches_nothing taskId category retryable)

/-- A refused event ends the task; one sent under its permit hands over to what follows. -/
theorem sendBeforeUpstream_guarded
    (sent : slot = .reserved true → Guarded condition (.emit event :: permitted))
    : Guarded condition (sendBeforeUpstream taskId slot event permitted) := by
  cases slot with
  | closed => exact nil_guarded
  | timedOut free =>
    cases free with
    | false => exact nil_guarded
    | true => exact sendFailure_guarded _ _ _
  | reserved valid =>
    cases valid with
    | false => exact sendFailure_guarded _ _ _
    | true => exact sent rfl

theorem accepted_guarded (guarded : Guarded condition permitted)
    : Guarded condition (.emit (.taskAccepted taskId) :: permitted) := by
  have hr := @reachesUpstream_cons permitted (.emit (.taskAccepted taskId)) rfl
  refine ⟨fun hre => ?_, fun hrea => guarded.holds (hr.mp hrea)⟩
  rw [hr]
  rw [reportsRetryable_emit] at hre
  · exact guarded.retrySafe hre
  · exact fun _ _ => nofun

theorem started_retrySafe (hf : ¬ ReportsRetryable actions)
    : RetrySafe (.emit (.upstreamStarted taskId) :: .sendUpstream request :: actions) := by
  intro ⟨failed, category, reported⟩
  rcases mem_cons.mp reported with same | later
  · cases same
  · rcases mem_cons.mp later with same | later
    · cases same
    · exact absurd ⟨failed, category, later⟩ hf

section

variable (checks : UpstreamChecks)

theorem executeProbe_reaches_nothing (taskId : String) (payload : List UInt8)
    : ¬ ReachesUpstream (executeProbe taskId payload) := by
  unfold executeProbe
  split
  · exact sendFailure_reaches_nothing _ _ _
  · rw [reachesUpstream_cons rfl, reachesUpstream_cons rfl]
    exact nil_reaches_nothing

variable (readings : ExecutionReadings)

theorem executeTask_guarded (assetFetch : Bool) (taskId upstreamHost : String)
    (rawPayload : List UInt8)
    : Guarded (readings.started = .reserved true)
        (executeTask checks assetFetch taskId upstreamHost rawPayload readings) := by
  unfold executeTask
  split
  · exact sendFailure_guarded _ _ _
  · exact sendBeforeUpstream_guarded fun valid =>
      ⟨started_retrySafe (forwardResponse_final _ _ _), fun _ => valid⟩

theorem executeCredentialRefresh_guarded (claims : TaskTicketClaims Authorization)
    (rawPayload : List UInt8)
    : Guarded (readings.started = .reserved true)
        (executeCredentialRefresh checks claims rawPayload readings) := by
  unfold executeCredentialRefresh
  split
  · exact sendFailure_guarded _ _ _
  · exact sendBeforeUpstream_guarded fun valid =>
      ⟨started_retrySafe (forwardRefreshed_final _ _ _), fun _ => valid⟩

theorem executeCommand_guarded (claims : TaskTicketClaims Authorization) (payload : List UInt8)
    : Guarded (readings.started = .reserved true)
        (executeCommand checks claims payload readings) := by
  refine sendBeforeUpstream_guarded fun _ => accepted_guarded ?_
  cases claims.command with
  | probe => exact .idle (executeProbe_reaches_nothing _ _)
  | execute => exact executeTask_guarded checks readings _ _ _ _
  | discoverModels => exact executeTask_guarded checks readings _ _ _ _
  | authorizeCredential => exact executeTask_guarded checks readings _ _ _ _
  | fetchAsset => exact executeTask_guarded checks readings _ _ _ _
  | refreshCredential => exact executeCredentialRefresh_guarded checks readings _ _

/-- Dropping the future at any point keeps what was reported and sent before, and the
failure that the supervisor adds is final.
-/
theorem take_guarded (guarded : Guarded condition actions) (count : Nat) (taskId category : String)
    : Guarded condition (actions.take count)
      ∧ Guarded condition (actions.take count ++ sendFailure taskId category false) := by
  have kept : Guarded condition (actions.take count) := by
    refine ⟨?_, fun ⟨action, hp, upstream⟩ =>
      guarded.holds ⟨action, mem_of_mem_take hp, upstream⟩⟩
    intro ⟨id, reason, reported⟩ ⟨action, hp, upstream⟩
    exact guarded.retrySafe ⟨id, reason, mem_of_mem_take reported⟩
      ⟨action, mem_of_mem_take hp, upstream⟩
  have hre
      (hr : ReachesUpstream (actions.take count ++ sendFailure taskId category false))
      : ReachesUpstream (actions.take count) := by
    obtain ⟨action, hp, upstream⟩ := hr
    rcases mem_append.mp hp with hp | ha
    · exact ⟨action, hp, upstream⟩
    · exact absurd ⟨action, ha, upstream⟩ (sendFailure_reaches_nothing _ _ _)
  refine ⟨kept, ?_, fun hr => kept.holds (hre hr)⟩
  intro ⟨id, reason, reported⟩ hr
  rcases mem_append.mp reported with reported | ha
  · exact kept.retrySafe ⟨id, reason, reported⟩ (hre hr)
  · exact sendFailure_final taskId category ⟨id, reason, ha⟩

theorem supervise_guarded (guarded : Guarded condition actions) (taskId : String) (ending : TaskEnd)
    : Guarded condition (supervise taskId actions ending) := by
  cases ending with
  | completed => exact guarded
  | aborted hp => exact (take_guarded guarded hp "" "").1
  | cancelled hp => exact (take_guarded guarded hp taskId _).2
  | deadline hp => exact (take_guarded guarded hp taskId _).2

/-- A Runner reports a task as retryable only if it never reaches the provider with it, and
reaches the provider only after the second check of its permit.
-/
theorem runTask_guarded (tickets : TicketChecks Authorization) (runnerId : String)
    (cache : ReplayCache) (frame : TaskFrame) (task : TaskReadings) (ending : TaskEnd)
    : Guarded (readings.started = .reserved true)
        (runTask checks tickets runnerId cache frame task readings ending) := by
  unfold runTask
  split
  · exact sendFailure_guarded _ _ _
  · exact nil_guarded
  · split
    · exact nil_guarded
    · split
      · exact nil_guarded
      · exact sendFailure_guarded _ _ _
      · exact supervise_guarded (executeCommand_guarded checks readings _ _) _ _

end

end AsterTeam
