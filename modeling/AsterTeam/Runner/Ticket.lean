import AsterTeam.AuthCore

/-! Signed task tickets: what a Runner checks before it executes a task of Control, and the
cache that remembers the tickets it has consumed.
-/

namespace AsterTeam

inductive TaskCommand
  | execute
  | fetchAsset
  | discoverModels
  | refreshCredential
  | authorizeCredential
  | probe
  deriving DecidableEq

structure TaskTicketClaims (Authorization : Type) where
  (schema keyId taskId runnerId providerId : String)
  credentialInstanceId : Option String
  credentialRevision : Option UInt32
  upstreamHost : String
  command : TaskCommand
  authorization : Authorization
  payloadSha256 : String
  (issuedAt expiresAt executionDeadlineMs : Int)
  nonce : String
  deriving DecidableEq

structure TaskTicketDocument (Authorization : Type) where
  claims : TaskTicketClaims Authorization
  signature : String
  deriving DecidableEq

inductive RunnerProtocolError
  | invalidJson
  | invalidField
  | invalidSignature
  | untrustedKey
  | runnerMismatch
  | payloadMismatch
  | invalidTime
  | expiredTask (taskId : String)
  | replay
  deriving DecidableEq

/-- The encodings, digests and signatures of a ticket, and the check of what it
authorizes.
-/
structure TicketChecks (Authorization : Type) where
  decodeExact
    : List UInt8 → Except RunnerProtocolError (TaskTicketDocument Authorization)
  authorized : Authorization → TaskCommand → Int → Bool
  payloadDigest : List UInt8 → String
  digestLength : String → Option Nat
  verifySignature : TaskTicketDocument Authorization → Except RunnerProtocolError Unit

def taskTicketSchema : String := "aster.runner-task.v4"
def taskTicketLifetimeSeconds : Int := 120
def maxTaskExecutionMilliseconds : Int := 600000
def futureClockSkewSeconds : Int := 30
def probeTimeoutMs : Int := 3000

/-- A reading of the wall clock in nanoseconds since the epoch. -/
abbrev OffsetDateTime := Int

def OffsetDateTime.unixTimestamp (now : OffsetDateTime) : Int := now / 1000000000

def OffsetDateTime.unixMilliseconds (now : OffsetDateTime) : Int := Int.tdiv now 1000000

def validHostLabel (label : List UInt8) : Bool :=
  label ≠ []
    && label.length ≤ 63
    && label.head? ≠ some 45
    && label.getLast? ≠ some 45
    && label.all (fun byte => isAsciiAlphanumeric byte || byte == 45)

/-- A host name as a list of labels between dots, none of them empty. -/
def validateUpstreamHost (value : String) : Bool :=
  1 ≤ value.utf8ByteSize
    && value.utf8ByteSize ≤ 253
    && ((utf8Bytes value).splitOn 46).all validHostLabel

section

variable {Authorization : Type} (checks : TicketChecks Authorization)

variable (claims : TaskTicketClaims Authorization) (now : OffsetDateTime)

def validCredentialBinding : Bool :=
  match claims.command, claims.credentialInstanceId, claims.credentialRevision with
  | .probe, none, none =>
    claims.providerId = "aster"
      && claims.upstreamHost = "runner.internal"
      && claims.executionDeadlineMs - claims.issuedAt * 1000 ≤ probeTimeoutMs + 999
  | .probe, _, _ => false
  | .authorizeCredential, none, none => true
  | .authorizeCredential, _, _ => false
  | _, some id, some _ => validIdentifier id
  | _, _, _ => false

def validateClaims : Except RunnerProtocolError Unit :=
  let lifetime := claims.expiresAt - claims.issuedAt
  let execution := claims.executionDeadlineMs - claims.issuedAt * 1000
  if claims.schema = taskTicketSchema
      ∧ (1 ≤ lifetime ∧ lifetime ≤ taskTicketLifetimeSeconds)
      ∧ (1 ≤ execution ∧ execution ≤ maxTaskExecutionMilliseconds + 999)
      ∧ checks.digestLength claims.payloadSha256 = some 32
      ∧ checks.authorized claims.authorization claims.command claims.expiresAt
      ∧ validIdentifier claims.keyId
      ∧ validIdentifier claims.taskId
      ∧ validIdentifier claims.runnerId
      ∧ validIdentifier claims.providerId
      ∧ validIdentifier claims.nonce
      ∧ validateUpstreamHost claims.upstreamHost
      ∧ validCredentialBinding claims then
    .ok ()
  else .error .invalidField

/-- Clock readings are far inside the range of their type: adding the skew never
overflows.
-/
def verifyTaskTicket (encodedTicket : List UInt8) (expectedRunnerId : String)
    (payload : List UInt8) (now : OffsetDateTime)
    : Except RunnerProtocolError (TaskTicketDocument Authorization) := do
  let document ← checks.decodeExact encodedTicket
  validateClaims checks document.claims
  if document.claims.runnerId ≠ expectedRunnerId then .error .runnerMismatch
  else if document.claims.payloadSha256 ≠ checks.payloadDigest payload then
    .error .payloadMismatch
  else
    checks.verifySignature document
    if document.claims.issuedAt > now.unixTimestamp + futureClockSkewSeconds then
      .error .invalidTime
    else if now.unixMilliseconds ≥ document.claims.executionDeadlineMs
        ∨ now.unixTimestamp ≥ document.claims.expiresAt then
      .error (.expiredTask document.claims.taskId)
    else return document

/-- A verified signature is no perpetual grant: the time is checked again when the ticket
is consumed.
-/
def validateTicketTime : Except RunnerProtocolError Unit :=
  if now.unixTimestamp ≥ claims.expiresAt
      ∨ now.unixMilliseconds ≥ claims.executionDeadlineMs
      ∨ claims.issuedAt > now.unixTimestamp + futureClockSkewSeconds then
    .error .invalidTime
  else .ok ()

/-- The task ids that have been consumed, with the expiry of their tickets. -/
structure ReplayCache where
  consumed : List (String × Int)
  deriving DecidableEq

def ReplayCache.new : ReplayCache := ⟨[]⟩

/-- Consumes a ticket. Expired entries are forgotten first, also when the ticket is then
refused as a replay.
-/
def ReplayCache.consume (cache : ReplayCache) (ticket : TaskTicketDocument Authorization)
    (now : OffsetDateTime)
    : Except RunnerProtocolError Unit × ReplayCache :=
  match validateTicketTime ticket.claims now with
  | .error error => (.error error, cache)
  | .ok () =>
    let retained := cache.consumed.filter (fun entry => now.unixTimestamp < entry.2)
    if retained.any (fun entry => entry.1 = ticket.claims.taskId) then
      (.error .replay, ⟨retained⟩)
    else (.ok (), ⟨(ticket.claims.taskId, ticket.claims.expiresAt) :: retained⟩)

end

end AsterTeam
