import AsterTeam.Gateway.ResponseReducer
import AsterTeam.Gateway.SseFrames
import AsterTeam.Library.Utf8Lines

/-! Forwarding a streamed response to the client. Frames are rewritten to the public model
name and sent as they arrive, up to the first frame that completes the response; from there
on they are held until the usage is settled.
-/

namespace AsterTeam

open Json Utf8Lines

structure JsonCodec where
  parse : List Char → Option Document
  print : Document → List Char

def trim (text : List Char) : List Char :=
  ((text.dropWhile isWhitespace).reverse.dropWhile isWhitespace).reverse

def dataMark : List Char := ['d', 'a', 't', 'a', ':']

def dataPayload (text : List Char) : Option (List Char) :=
  if dataMark <+: trim text then some (trim ((trim text).drop dataMark.length)) else none

def setField (document : Document) (name : String) (value : Document) : Document :=
  (document.assign name value).getD document

/-- Replaces the model of an event and of its response, where they have one. -/
def rewriteModelFields (event : Document) (publicModel : String) : Document :=
  let event :=
    if (event.get "model").isSome then setField event "model" (.string publicModel)
    else event
  match event.get "response" with
  | some response =>
    if (response.get "model").isSome then
      setField event "response" (setField response "model" (.string publicModel))
    else event
  | none => event

/-- The messages that a Runner sends for a streamed task. The data of a chunk is decoded
from base64.
-/
inductive StreamFrame
  | taskChunk (taskId : String) (sequence : Nat) (data : Option (List UInt8))
  | taskFinished (taskId : String) (status : Nat)
  | taskFailed (taskId : String)
  | other

structure StreamTask where
  taskId : String
  status : Nat

def maxBufferedUpstreamResponseBytes : Nat := 100663296

structure ForwardState where
  expectedSequence : Nat
  (fullBody pending heldTail : List UInt8)
  terminalSeen : Bool
  sent : List (List UInt8)

def ForwardState.initial : ForwardState := ⟨0, [], [], [], false, []⟩

section

variable (codec : JsonCodec) (publicModel : String)

/-- The event of a line: its payload, when it is a data line with a JSON payload. -/
def lineEvent (line : List UInt8) : Option Document :=
  ((decode line).bind dataPayload).bind codec.parse

/-- A data line with its event rewritten; white space before the mark stays. -/
def rewriteLine (line : List UInt8) : List UInt8 :=
  match decode line, lineEvent codec line with
  | some text, some event =>
    encode
      (text.take ((findPattern dataMark text).getD 0)
        ++ (dataMark ++ ' ' :: codec.print (rewriteModelFields event publicModel)))
  | _, _ => line

variable (body frame : List UInt8)

/-- A frame that is not UTF-8 is passed on as it is. -/
def rewriteSseFrameModel : List UInt8 :=
  if isUtf8 frame then unlines ((lines frame).map (rewriteLine codec publicModel)) else frame

def isCompleted (event : Document) : Bool :=
  textField event "type" = some "response.completed"

def sseFrameIsTerminal : Bool :=
  isUtf8 frame && (lines frame).any (fun line => (lineEvent codec line).any isCompleted)

def bodyEvents : List Document :=
  (lines body).filterMap fun line =>
    match (decode line).bind dataPayload with
    | none => none
    | some data =>
      if data = [] ∨ data = "[DONE]".toList then none else codec.parse data

/-- The response and its usage; `none` is a panic. -/
def reduceSse : Option (Except ControlError (Document × ModelUsage)) :=
  if !isUtf8 body then some (.error .invalidUpstreamResponse)
  else
    (ResponseEventReducer.new.pushAll (bodyEvents codec body)).bind ResponseEventReducer.finish

/-- The usage of a streamed body, with the errors that the provider adapter keeps apart. -/
def parseOpenaiResponseStream : Option (Except ControlError (Document × ModelUsage)) :=
  (reduceSse codec body).map fun
    | .ok result => .ok result
    | .error .upstreamUsageInvalid => .error .upstreamUsageInvalid
    | .error .upstreamResponseTooLarge => .error .upstreamResponseTooLarge
    | .error _ => .error .invalidUpstreamResponse

def ForwardState.absorbFrame (state : ForwardState) (frame : List UInt8) : ForwardState :=
  let event := rewriteSseFrameModel codec publicModel frame
  if state.terminalSeen || sseFrameIsTerminal codec event then
    { state with terminalSeen := true, heldTail := state.heldTail ++ event }
  else { state with sent := state.sent ++ [event] }

def ForwardState.absorbChunk (state : ForwardState) (chunk : List UInt8) : ForwardState :=
  let frames := sseFrames (state.pending ++ chunk)
  { frames.1.foldl (ForwardState.absorbFrame codec publicModel) state with
    fullBody := state.fullBody ++ chunk
    pending := frames.2 }

inductive StreamEnd
  | finished (heldTail : List UInt8)
  | failed (error : ControlError)
  | aborted
  deriving DecidableEq

def forwardFrames (task : StreamTask) (state : ForwardState)
    : List StreamFrame → StreamEnd × ForwardState
  | [] => (.failed .upstreamRequestFailed, state)
  | .taskChunk taskId sequence data :: rest =>
    if taskId ≠ task.taskId ∨ sequence ≠ state.expectedSequence then
      (.failed .invalidUpstreamResponse, state)
    else
      match data with
      | none => (.failed .invalidUpstreamResponse, state)
      | some chunk =>
        if state.fullBody.length + chunk.length > maxBufferedUpstreamResponseBytes then
          (.failed .upstreamResponseTooLarge, state)
        else
          let next := state.absorbChunk codec publicModel chunk
          if state.expectedSequence + 1 ≥ 2 ^ 32 then
            (.failed .invalidUpstreamResponse, next)
          else
            forwardFrames task { next with expectedSequence := state.expectedSequence + 1 } rest
  | .taskFinished taskId status :: _ =>
    if taskId ≠ task.taskId ∨ status ≠ task.status then
      (.failed .invalidUpstreamResponse, state)
    else
      match parseOpenaiResponseStream codec state.fullBody with
      | none => (.aborted, state)
      | some (.error error) => (.failed error, state)
      | some (.ok _) => (.finished (state.heldTail ++ state.pending), state)
  | .taskFailed taskId :: _ =>
    if taskId ≠ task.taskId then (.failed .invalidUpstreamResponse, state)
    else (.failed .upstreamRequestFailed, state)
  | .other :: _ => (.failed .invalidUpstreamResponse, state)

/-- What the client sees, and where the settlement completes in between. -/
inductive ClientEvent
  | delivered (bytes : List UInt8)
  | settled (success : Bool)
  deriving DecidableEq

/-- Forwards a whole stream. The execution may time out after any number of deliveries;
settlements are answered by `settle`, and `errorFrame` is the frame that reports an error.
-/
def forwardOpenaiGatewayStream (task : StreamTask) (messages : List StreamFrame)
    (timeout : Option Nat) (settle : Except ControlError Unit)
    (errorFrame : ControlError → List UInt8)
    : List ClientEvent :=
  let read := forwardFrames codec publicModel task .initial messages
  let delivered := read.2.sent.map .delivered
  match timeout with
  | some count =>
    delivered.take count ++ [.settled settle.isOk, .delivered (errorFrame .upstreamRequestFailed)]
  | none =>
    match read.1 with
    | .aborted => delivered
    | .failed error => delivered ++ [.settled settle.isOk, .delivered (errorFrame error)]
    | .finished heldTail =>
      match settle with
      | .ok () =>
        delivered ++ .settled true
          :: (if heldTail = [] then [] else [.delivered heldTail])
      | .error error =>
        delivered ++ [.settled false, .delivered (errorFrame error)]

end

def sampleCompletion (model : String) : Document :=
  .object [("response", .object [("model", .string model),
      ("usage", .object [("input_tokens", .integer 1), ("output_tokens", .integer 1)])]),
    ("type", .string "response.completed")]

/-- The compact JSON text of a sample completion, with its names in order. -/
def sampleText (model : String) : List Char :=
  '{' :: ("\"response\":\x7b\"model\":".toList ++ quote model
    ++ ",\"usage\":\x7b\"input_tokens\":1,\"output_tokens\":1\x7d\x7d".toList
    ++ ",\"type\":\"response.completed\"".toList ++ ['}'])

/-- The JSON library on the texts of the sample completions. -/
def sampleCodec : JsonCodec where
  parse text :=
    (["upstream", "public"].find? fun model => sampleText model = text).map sampleCompletion
  print event := sampleText (((event.get "response").bind (textField · "model")).getD "")

def sampleStream (body : List UInt8) : List StreamFrame :=
  [.taskChunk "task" 0 (some body), .taskFinished "task" 200]

def sampleLine : List UInt8 := encode (dataMark ++ sampleText "upstream")

end AsterTeam
