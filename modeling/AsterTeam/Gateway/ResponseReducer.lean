import AsterTeam.Library.Document
import AsterTeam.TokenQuota.Calls

/-! The reducer that rebuilds a response from the events of an upstream stream. A result
`none` is a panic, which aborts the process.
-/

namespace AsterTeam

open AssocList Json MachineInteger

/-- The last completed response, the output items by index, and whether the stream has
failed.
-/
structure ResponseEventReducer where
  completed : Option Document
  output : List (Nat × Document)
  failed : Bool

def ResponseEventReducer.new : ResponseEventReducer := ⟨none, [], false⟩

/-- What an event asks of the reducer. -/
inductive ReducerAction
  | setItem (index : Nat) (item : Document)
  | setPart (index contentIndex : Nat) (part : Document)
  | appendText (index contentIndex : Nat) (delta : String)
  | setText (index contentIndex : Nat) (text : String)
  | appendArguments (index : Nat) (delta : String)
  | setArguments (index : Nat) (arguments : String)
  | complete (response : Option Document)
  | fail
  | skip

variable (reducer : ResponseEventReducer) (event : Document)

def outputIndex : Option Nat :=
  (event.get "output_index").bind Document.asU64

def contentIndex : Option Nat :=
  (event.get "content_index").bind Document.asU64

def textField (name : String) : Option String :=
  (event.get name).bind Document.asStr

def eventKind : String := (textField event "type").getD ""

/-- An action that needs an output index and one more value, or nothing to do. -/
def indexedAction {Value : Type} (event : Document) (value : Option Value)
    (action : Nat → Value → ReducerAction)
    : ReducerAction :=
  match outputIndex event, value with
  | some index, some value => action index value
  | _, _ => .skip

def eventAction : ReducerAction :=
  let kind := eventKind event
  if kind = "response.output_item.added" ∨ kind = "response.output_item.done" then
    indexedAction event (event.get "item") .setItem
  else if kind = "response.content_part.added" ∨ kind = "response.content_part.done" then
    match contentIndex event with
    | some content => indexedAction event (event.get "part") (.setPart · content ·)
    | none => .skip
  else if kind = "response.output_text.delta" then
    indexedAction event (textField event "delta") (.appendText · ((contentIndex event).getD 0) ·)
  else if kind = "response.output_text.done" then
    indexedAction event (textField event "text") (.setText · ((contentIndex event).getD 0) ·)
  else if kind = "response.function_call_arguments.delta" then
    indexedAction event (textField event "delta") .appendArguments
  else if kind = "response.function_call_arguments.done" then
    indexedAction event (textField event "arguments") .setArguments
  else if kind = "response.completed" then .complete (event.get "response")
  else if kind = "error" ∨ kind = "response.failed" ∨ kind = "response.incomplete" then
    .fail
  else .skip

/-- The most values of 32 bytes that one allocation can hold. -/
def maxContentSlots : Nat := 2 ^ 58 - 1

def resizeWithNull (values : List Document) (index : Nat) : Option (List Document) :=
  if values.length ≤ index then
    if index + 1 ≤ maxContentSlots then
      some (values ++ List.replicate (index + 1 - values.length) .null)
    else none
  else some values

/-- The content of an output item: it must be an object, and its content an array. -/
def ensureContent : Document → Option (List Document)
  | .object fields =>
    match lookup "content" fields with
    | none => some []
    | some content => content.asArray
  | _ => none

def setContent (item : Document) (content : List Document) : Option Document :=
  item.assign "content" (.array content)

def itemId : Document := (event.get "item_id").getD .null

def newMessage : Document :=
  .object [
    ("id", itemId event), ("type", .string "message"), ("status", .string "completed"),
    ("role", .string "assistant"),
    ("content", .array [])]

def newFunctionCall : Document :=
  .object [
    ("id", itemId event), ("type", .string "function_call"),
    ("arguments", .string "")]

def outputText (text : String) : Document :=
  .object [("type", .string "output_text"), ("text", .string text)]

/-- Changes one slot of the content of an output message, which is made when missing. -/
def ResponseEventReducer.updateContent (index content : Nat)
    (change : Document → Option Document)
    : Option ResponseEventReducer := do
  let item := (lookup index reducer.output).getD (newMessage event)
  let values ← ensureContent item
  let resized ← resizeWithNull values content
  let current ← resized[content]?
  let changed ← change current
  let next ← setContent item (resized.set content changed)
  return { reducer with output := upsert index next reducer.output }

def appendedText (delta : String) (part : Document) : Option Document :=
  let part := if part.isObject then part else outputText ""
  part.assign "text" (.string ((textField part "text").getD "" ++ delta))

def ResponseEventReducer.apply : ReducerAction → Option ResponseEventReducer
  | .setItem index item => some { reducer with output := upsert index item reducer.output }
  | .setPart index content part =>
    reducer.updateContent event index content fun _ => some part
  | .appendText index content delta =>
    reducer.updateContent event index content (appendedText delta)
  | .setText index content text =>
    reducer.updateContent event index content fun _ => some (outputText text)
  | .appendArguments index delta => do
      let item := (lookup index reducer.output).getD (newFunctionCall event)
      let arguments := (textField item "arguments").getD ""
      let next ← item.assign "arguments" (.string (arguments ++ delta))
      return { reducer with output := upsert index next reducer.output }
  | .setArguments index arguments =>
    match lookup index reducer.output with
    | none => some reducer
    | some item => do
        let next ← item.assign "arguments" (.string arguments)
        return { reducer with output := upsert index next reducer.output }
  | .complete response => some { reducer with completed := response }
  | .fail => some { reducer with failed := true }
  | .skip => some reducer

def ResponseEventReducer.push : Option ResponseEventReducer :=
  reducer.apply event (eventAction event)

/-- Pushes events in order, until one of them aborts. -/
def ResponseEventReducer.pushAll (reducer : ResponseEventReducer)
    : List Document → Option ResponseEventReducer
  | [] => some reducer
  | event :: rest => (reducer.push event).bind (·.pushAll rest)

def tokenField (object : Option Document) (name : String) : Int64 :=
  match object.bind (·.get name) with
  | some (.integer value) => (fit value).getD 0
  | _ => 0

def objectField (document : Document) (name : String) : Option Document :=
  (document.get name).filter Document.isObject

def requiredTokens (usage : Document) (name : String) : Except ControlError Int64 :=
  match usage.get name with
  | some (.integer value) => okOr .upstreamUsageInvalid (fit value)
  | _ => .error .upstreamUsageInvalid

/-- The usage that a completed response reports; tokens of generated images are added. -/
def usageFromResponse (completed : Document) : Except ControlError ModelUsage := do
  let usage ← okOr .upstreamUsageInvalid (objectField completed "usage")
  let input ← requiredTokens usage "input_tokens"
  let output ← requiredTokens usage "output_tokens"
  let details := objectField usage "input_tokens_details"
  let cachedInput := tokenField details "cached_tokens"
  let cacheWrite := tokenField details "cache_write_tokens"
  let images := (completed.get "tool_usage").bind (objectField · "image_gen")
  let imageInput := if images.isSome then tokenField images "input_tokens" else 0
  let imageOutput := if images.isSome then tokenField images "output_tokens" else 0
  let input ← okOr .upstreamUsageInvalid (checkedAdd input imageInput)
  let output ← okOr .upstreamUsageInvalid (checkedAdd output imageOutput)
  let cached := checkedAdd cachedInput cacheWrite
  if input < 0 ∨ output < 0 ∨ cachedInput < 0 ∨ cacheWrite < 0
      ∨ cached.all (fun total => total > input) then
    .error .upstreamUsageInvalid
  else
    return {
      uncachedInput := input - cachedInput - cacheWrite
      cachedInput
      cacheWrite
      outputTokens := output
      multiplierMicros := 1000000
      protocol := "openai_responses"
      model := ""
      requestedModel := none
      processingTier := none
      reasoningEffort := none
      runnerId := "" }

def ResponseEventReducer.items (reducer : ResponseEventReducer) : List Document :=
  (reducer.output.insertionSort (fun left right => left.1 ≤ right.1)).map Prod.snd

/-- The completed response, with the collected output when it has none of its own. -/
def ResponseEventReducer.rebuilt (reducer : ResponseEventReducer) (completed : Document)
    : Option Document :=
  let own := (completed.get "output").bind Document.asArray
  if own.all List.isEmpty && !reducer.output.isEmpty then
    completed.assign "output" (.array reducer.items)
  else some completed

def ResponseEventReducer.finish (reducer : ResponseEventReducer)
    : Option (Except ControlError (Document × ModelUsage)) :=
  if reducer.failed then some (.error .upstreamRequestFailed)
  else
    match reducer.completed with
    | none => some (.error .upstreamUsageInvalid)
    | some completed => do
        let rebuilt ← reducer.rebuilt completed
        return (usageFromResponse rebuilt).map (rebuilt, ·)

end AsterTeam
