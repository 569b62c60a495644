import AsterTeam.Gateway.ResponseReducer

/-! When the reducer cannot be made to abort, and how much it then holds. -/

namespace AsterTeam

open Option

open AssocList Json Document ResponseEventReducer

def contentSlots (item : Document) : Nat := ((ensureContent item).map List.length).getD 0

def ResponseEventReducer.slots (reducer : ResponseEventReducer) : Nat :=
  total (fun entry => contentSlots entry.2) reducer.output

def contentEntries (event : Document) : Nat := ((event.get "item").map contentSlots).getD 0

/-- The size of everything that the reducer holds. -/
def ResponseEventReducer.weight (reducer : ResponseEventReducer) : Nat :=
  total (fun entry => 1 + entry.2.weight) reducer.output
    + (reducer.completed.map Document.weight).getD 0

def assignable : Document → Bool
  | .object _ => true
  | .null => true
  | _ => false

/-- A text or part event is tame when its message has a content array, to which the event
adds at most the next slot.
-/
def ResponseEventReducer.ContentReady (reducer : ResponseEventReducer) (event : Document)
    (index content : Nat) : Prop :=
  ∃ values,
    ensureContent ((lookup index reducer.output).getD (newMessage event)) = some values
    ∧ content ≤ values.length
    ∧ content + 1 ≤ maxContentSlots

/-- The events that the reducer can handle in its state. -/
def ResponseEventReducer.Tame (reducer : ResponseEventReducer) (event : Document) : Prop :=
  match eventAction event with
  | .setPart index content _ => reducer.ContentReady event index content
  | .appendText index content _ => reducer.ContentReady event index content
  | .setText index content _ => reducer.ContentReady event index content
  | .appendArguments index _ => ∀ item ∈ lookup index reducer.output, assignable item = true
  | .setArguments index _ => ∀ item ∈ lookup index reducer.output, assignable item = true
  | _ => True

theorem itemId_weight (event : Document) : (itemId event).weight ≤ event.weight := by
  unfold itemId
  cases hf : event.get "item_id" with
  | none => exact event.weight_pos
  | some id => exact (weight_get_le hf).le

theorem newMessage_weight (event : Document) : (newMessage event).weight ≤ 70 + event.weight := by
  have id := itemId_weight event
  have constant
      : 1 + (1 + "id".utf8ByteSize + 0
          + (1 + "type".utf8ByteSize + (1 + "message".utf8ByteSize)
          + (1 + "status".utf8ByteSize + (1 + "completed".utf8ByteSize)
          + (1 + "role".utf8ByteSize + (1 + "assistant".utf8ByteSize)
          + (1 + "content".utf8ByteSize + (1 + 0) + 0)))))
        ≤ 70 := by
    decide
  simp only [newMessage, Document.weight, Document.weightFields, Document.weightItems]
  omega

theorem newFunctionCall_weight (event : Document)
    : (newFunctionCall event).weight ≤ 50 + event.weight := by
  have id := itemId_weight event
  have constant
      : 1 + (1 + "id".utf8ByteSize + 0
          + (1 + "type".utf8ByteSize + (1 + "function_call".utf8ByteSize)
          + (1 + "arguments".utf8ByteSize + (1 + "".utf8ByteSize) + 0)))
        ≤ 50 := by
    decide
  simp only [newFunctionCall, Document.weight, Document.weightFields]
  omega

theorem outputText_weight (text : String) : (outputText text).weight ≤ 30 + text.utf8ByteSize := by
  have constant
      : 1 + (1 + "type".utf8ByteSize + (1 + "output_text".utf8ByteSize)
          + (1 + "text".utf8ByteSize + 1 + 0))
        ≤ 30 := by
    decide
  simp only [outputText, Document.weight, Document.weightFields]
  omega

theorem textField_weight (hf : textField document name = some text)
    : text.utf8ByteSize < document.weight := by
  obtain ⟨value, hv, ht⟩ := bind_eq_some_iff.mp hf
  have hs := weight_get_le hv
  unfold asStr at ht
  split at ht
  · cases ht
    simp only [Document.weight] at hs
    omega
  · cases ht

/-- Appending to a text part adds the new text and at most a new part. -/
theorem appendedText_weight (delta : String) (part : Document)
    : ∃ current,
        appendedText delta part = some current
        ∧ current.weight ≤ part.weight + 40 + delta.utf8ByteSize := by
  have name : "text".utf8ByteSize = 4 := by decide
  have empty : "".utf8ByteSize = 0 := by decide
  have ho (target : Document) (isObject : target.isObject = true)
      : ∃ current,
          target.assign "text" (.string ((textField target "text").getD "" ++ delta)) = some current
          ∧ current.weight ≤ target.weight + 6 + delta.utf8ByteSize := by
    cases target with
    | object fields =>
      refine ⟨_, rfl, ?_⟩
      have hb :=
        @weight_assign_le (.object fields) _
          (.string ((textField (.object fields) "text").getD "" ++ delta)) "text" rfl
      cases hf : textField (.object fields) "text" with
      | none =>
        simp only [hf, getD_none, Document.weight, String.utf8ByteSize_append, name, empty] at hb ⊢
        omega
      | some text =>
        obtain ⟨value, hv, ht⟩ := bind_eq_some_iff.mp hf
        have held : value = .string text := by
          unfold asStr at ht
          split at ht
          · cases ht
            rfl
          · cases ht
        simp only [hf, hv, held, map_some, getD_some,
          Document.weight, String.utf8ByteSize_append, name] at hb ⊢
        omega
    | null => cases isObject
    | bool _ => cases isObject
    | integer _ => cases isObject
    | real _ => cases isObject
    | string _ => cases isObject
    | array _ => cases isObject
  unfold appendedText
  by_cases isObject : part.isObject = true
  · simp only [isObject, if_true]
    obtain ⟨current, ha, hs⟩ := ho part isObject
    exact ⟨current, ha, by omega⟩
  · simp only [isObject, Bool.false_eq_true, if_false]
    obtain ⟨current, ha, hs⟩ := ho (outputText "") rfl
    have hfr := outputText_weight ""
    exact ⟨current, ha, by omega⟩

variable {index : Nat}

/-- A content array that an event reaches has its slot after resizing. -/
theorem resizeWithNull_ready {values : List Document} (hr : index ≤ values.length)
    (ha : index + 1 ≤ maxContentSlots)
    : ∃ resized current,
        resizeWithNull values index = some resized
        ∧ resized[index]? = some current
        ∧ resized.length ≤ values.length + 1
        ∧ Document.weightItems resized ≤ Document.weightItems values + 1 := by
  unfold resizeWithNull
  by_cases hf : values.length ≤ index
  · have he : index = values.length := le_antisymm hr hf
    rw [if_pos hf, if_pos ha, he, Nat.add_sub_cancel_left]
    refine ⟨_, .null, rfl, by simp, by simp, ?_⟩
    rw [weightItems_append, weightItems_replicate_null]
  · rw [if_neg hf]
    have inside : index < values.length := Nat.lt_of_not_le hf
    exact ⟨values, values[index], rfl, List.getElem?_eq_getElem inside,
      Nat.le_succ _, Nat.le_succ _⟩

theorem setContent_ready (ensured : ensureContent item = some values)
    : ∃ next,
        setContent item content = some next
        ∧ contentSlots next = content.length
        ∧ next.weight + Document.weightItems values
          ≤ item.weight + 9 + Document.weightItems content := by
  unfold ensureContent at ensured
  split at ensured
  · rename_i fields
    refine ⟨_, rfl, ?_, ?_⟩
    · simp [contentSlots, ensureContent, asArray]
    · have hb :=
        @weight_assign_le (.object fields) _ (.array content) "content" rfl
      have name : "content".utf8ByteSize = 7 := by decide
      simp only [Document.get, Document.weight, name] at hb ⊢
      split at ensured
      · rename_i missing
        cases ensured
        simp only [missing, map_none, getD_none, Document.weightItems] at hb ⊢
        omega
      · rename_i held hf
        have ha : held = .array values := by
          unfold asArray at ensured
          split at ensured
          · cases ensured
            rfl
          · cases ensured
        simp only [hf, ha, map_some, getD_some, Document.weight] at hb
        omega
  · cases ensured

variable {Value : Type}

theorem total_upsert_le (measure : Nat × Value → Nat) (key : Nat) (value : Value)
    (entries : List (Nat × Value))
    (hb : measure (key, value)
        ≤ ((lookup key entries).map fun old => measure (key, old)).getD fresh + more)
    : total measure (upsert key value entries) ≤ total measure entries + fresh + more := by
  have he := total_upsert measure key value entries
  cases hf : lookup key entries with
  | none =>
    simp only [hf, map_none, getD_none] at he hb
    omega
  | some old =>
    simp only [hf, map_some, getD_some] at he hb
    omega

structure ResponseEventReducer.Grows (reducer next : ResponseEventReducer)
    (event : Document) : Prop where
  slots : next.slots ≤ reducer.slots + 1 + contentEntries event
  weight : next.weight ≤ reducer.weight + 128 + 2 * event.weight

variable {reducer : ResponseEventReducer} {event : Document}

/-- A change of one content slot grows the reducer by the change. -/
theorem ResponseEventReducer.updateContent_ready (ready : reducer.ContentReady event index content)
    (changes : ∀ current, ∃ hcha,
          change current = some hcha
          ∧ hcha.weight ≤ current.weight + 40 + event.weight)
    : ∃ next,
        reducer.updateContent event index content change = some next
        ∧ reducer.Grows next event := by
  obtain ⟨values, ensured, hre, ha⟩ := ready
  obtain ⟨resized, current, hr, hc, longer, heavier⟩ :=
    resizeWithNull_ready hre ha
  obtain ⟨hcha, hch, hs⟩ := changes current
  obtain ⟨next, hn, slots, weight⟩ :=
    @setContent_ready _ values (resized.set content hcha) ensured
  have he := weightItems_set hc hcha
  refine ⟨{ reducer with output := upsert index next reducer.output }, ?_, ?_, ?_⟩
  · simp only [updateContent, ensured, hr, hc, hch, hn, bind_eq_bind, bind_some, pure_def]
  · rw [List.length_set] at slots
    have old
        : contentSlots next
          ≤ ((lookup index reducer.output).map fun old => contentSlots old).getD 0 + 1 := by
      cases hf : lookup index reducer.output with
      | none =>
        rw [hf] at ensured
        cases ensured
        simp only [List.length_nil, map_none, getD_none] at *
        omega
      | some item =>
        rw [hf] at ensured
        simp only [getD_some] at ensured
        simp only [map_some, getD_some, contentSlots, ensured] at *
        omega
    have grown :=
      total_upsert_le (fun entry : Nat × Document => contentSlots entry.2) index next
        reducer.output old
    simp only [ResponseEventReducer.slots] at grown ⊢
    omega
  · have old
        : 1 + next.weight
          ≤ ((lookup index reducer.output).map fun old => 1 + old.weight).getD
              (71 + event.weight)
            + (50 + event.weight) := by
      cases hf : lookup index reducer.output with
      | none =>
        simp only [hf, getD_none] at weight
        have hfr := newMessage_weight event
        simp only [map_none, getD_none]
        omega
      | some item =>
        simp only [hf, getD_some] at weight
        simp only [map_some, getD_some]
        omega
    have grown :=
      total_upsert_le (fun entry : Nat × Document => 1 + entry.2.weight) index next
        reducer.output old
    simp only [ResponseEventReducer.weight] at grown ⊢
    omega

def ReducerAction.FromEvent (event : Document) : ReducerAction → Prop
  | .setItem _ item => event.get "item" = some item
  | .setPart _ _ part => event.get "part" = some part
  | .appendText _ _ delta => delta.utf8ByteSize ≤ event.weight
  | .setText _ _ text => text.utf8ByteSize ≤ event.weight
  | .appendArguments _ delta => delta.utf8ByteSize ≤ event.weight
  | .setArguments _ arguments => arguments.utf8ByteSize ≤ event.weight
  | .complete response => response = event.get "response"
  | .fail => True
  | .skip => True

theorem indexedAction_fromEvent
    (hf : ∀ index held, value = some held → (action index held).FromEvent event)
    : (indexedAction event value action).FromEvent event := by
  unfold indexedAction
  split
  · exact hf _ _ rfl
  · trivial

theorem eventAction_fromEvent (event : Document) : (eventAction event).FromEvent event := by
  have text {name : String} {value : String} (hf : textField event name = some value)
      : value.utf8ByteSize ≤ event.weight :=
    (textField_weight hf).le
  unfold eventAction
  dsimp only
  split_ifs
  · exact indexedAction_fromEvent fun _ _ => id
  · split
    · exact indexedAction_fromEvent fun _ _ => id
    · trivial
  · exact indexedAction_fromEvent fun _ _ hf => text hf
  · exact indexedAction_fromEvent fun _ _ hf => text hf
  · exact indexedAction_fromEvent fun _ _ hf => text hf
  · exact indexedAction_fromEvent fun _ _ hf => text hf
  · rfl
  · trivial
  · trivial

/-- Assigning the arguments of a call leaves its content alone. -/
theorem assign_arguments (ready : assignable item) (arguments : String)
    : ∃ next,
        item.assign "arguments" (.string arguments) = some next
        ∧ contentSlots next ≤ contentSlots item
        ∧ next.weight + ((item.get "arguments").map Document.weight).getD 0
          ≤ item.weight + 11 + arguments.utf8ByteSize := by
  have name : "arguments".utf8ByteSize = 9 := by decide
  have hb {next : Document}
      (ha : item.assign "arguments" (.string arguments) = some next)
      : next.weight + ((item.get "arguments").map Document.weight).getD 0
        ≤ item.weight + 11 + arguments.utf8ByteSize := by
    have hs := weight_assign_le ha
    simp only [Document.weight, name] at hs
    omega
  cases item with
  | object fields =>
    refine ⟨_, rfl, ?_, hb rfl⟩
    have other : "content" ≠ "arguments" := by decide
    simp only [contentSlots, ensureContent, lookup_upsert_ne other]
    exact le_refl _
  | null =>
    refine ⟨_, rfl, ?_, hb rfl⟩
    simp [contentSlots, ensureContent, lookup]
  | bool _ => cases ready
  | integer _ => cases ready
  | real _ => cases ready
  | string _ => cases ready
  | array _ => cases ready

theorem textField_getD_size (item : Document)
    : ((textField item "arguments").getD "").utf8ByteSize
      ≤ ((item.get "arguments").map Document.weight).getD 0 := by
  cases hf : textField item "arguments" with
  | none => exact Nat.zero_le _
  | some text =>
    obtain ⟨value, hv, ht⟩ := bind_eq_some_iff.mp hf
    unfold asStr at ht
    split at ht
    · cases ht
      simp only [hv, map_some, getD_some, Document.weight]
      omega
    · cases ht

/-- An update of one output item grows the reducer by what it adds to that item. -/
theorem ResponseEventReducer.grows_upsert {next : Document}
    (slots : contentSlots next
        ≤ ((lookup index reducer.output).map contentSlots).getD 0 + contentEntries event)
    (weight : next.weight
        ≤ ((lookup index reducer.output).map Document.weight).getD (51 + event.weight)
          + (60 + event.weight))
    : reducer.Grows { reducer with output := upsert index next reducer.output } event := by
  refine ⟨?_, ?_⟩
  · have grown :=
      total_upsert_le (fun entry : Nat × Document => contentSlots entry.2) index next
        reducer.output slots
    simp only [ResponseEventReducer.slots] at grown ⊢
    omega
  · have old
        : 1 + next.weight
          ≤ ((lookup index reducer.output).map fun old => 1 + old.weight).getD
              (52 + event.weight)
            + (60 + event.weight) := by
      cases hf : lookup index reducer.output with
      | none =>
        simp only [hf, map_none, getD_none] at weight ⊢
        omega
      | some item =>
        simp only [hf, map_some, getD_some] at weight ⊢
        omega
    have grown :=
      total_upsert_le (fun entry : Nat × Document => 1 + entry.2.weight) index next
        reducer.output old
    simp only [ResponseEventReducer.weight] at grown ⊢
    omega

/-- A tame event does not abort and grows the reducer by a slot and by its own size. -/
theorem ResponseEventReducer.push_tame (tame : reducer.Tame event)
    : ∃ next, reducer.push event = some next ∧ reducer.Grows next event := by
  have hf := eventAction_fromEvent event
  have hu : reducer.Grows reducer event := ⟨by omega, by omega⟩
  unfold Tame at tame
  unfold push
  cases ha : eventAction event with
  | setItem index item =>
    rw [ha] at hf
    have hs := weight_get_le hf
    have entries : contentEntries event = contentSlots item := by
      simp [contentEntries, show event.get "item" = some item from hf]
    refine ⟨_, rfl, grows_upsert ?_ ?_⟩
    · omega
    · omega
  | setPart index content part =>
    rw [ha] at hf tame
    have hs := weight_get_le hf
    exact updateContent_ready tame fun current => ⟨part, rfl, by omega⟩
  | appendText index content delta =>
    rw [ha] at hf tame
    refine updateContent_ready tame fun current => ?_
    obtain ⟨hch, hc, hs⟩ := appendedText_weight delta current
    exact ⟨hch, hc, hs.trans (Nat.add_le_add_left hf _)⟩
  | setText index content text =>
    rw [ha] at hf tame
    have hs := outputText_weight text
    have size : text.utf8ByteSize ≤ event.weight := hf
    exact updateContent_ready tame fun current => ⟨_, rfl, by omega⟩
  | appendArguments index delta =>
    rw [ha] at hf tame
    have size : delta.utf8ByteSize ≤ event.weight := hf
    have ready
        : assignable ((lookup index reducer.output).getD (newFunctionCall event)) = true := by
      cases hfo : lookup index reducer.output with
      | none => rfl
      | some item => exact tame item hfo
    obtain ⟨next, has, slots, weight⟩ :=
      assign_arguments ready
        ((textField ((lookup index reducer.output).getD (newFunctionCall event))
            "arguments").getD "" ++ delta)
    have held := textField_getD_size ((lookup index reducer.output).getD (newFunctionCall event))
    rw [String.utf8ByteSize_append] at weight
    refine ⟨{ reducer with output := upsert index next reducer.output }, ?_, grows_upsert ?_ ?_⟩
    · simp only [apply, has, bind_eq_bind, bind_some, pure_def]
    · cases hfo : lookup index reducer.output with
      | none =>
        rw [hfo] at slots
        have hfr : contentSlots (newFunctionCall event) = 0 := by
          simp [contentSlots, ensureContent, newFunctionCall, lookup]
        simp only [getD_none, hfr] at slots
        omega
      | some item =>
        rw [hfo] at slots
        simp only [getD_some] at slots
        simp only [map_some, getD_some]
        omega
    · cases hfo : lookup index reducer.output with
      | none =>
        have hfr := newFunctionCall_weight event
        simp only [hfo, getD_none] at weight held
        simp only [map_none, getD_none]
        omega
      | some item =>
        simp only [hfo, getD_some] at weight held
        simp only [map_some, getD_some]
        omega
  | setArguments index arguments =>
    rw [ha] at hf tame
    have size : arguments.utf8ByteSize ≤ event.weight := hf
    cases hfo : lookup index reducer.output with
    | none => exact ⟨reducer, by simp [apply, hfo], hu⟩
    | some item =>
      obtain ⟨next, has, slots, weight⟩ := assign_arguments (tame item hfo) arguments
      refine ⟨{ reducer with output := upsert index next reducer.output }, ?_, grows_upsert ?_ ?_⟩
      · simp only [apply, hfo, has, bind_eq_bind, bind_some, pure_def]
      · simp only [hfo, map_some, getD_some]
        omega
      · simp only [hfo, map_some, getD_some]
        omega
  | complete response =>
    rw [ha] at hf
    have hr : response = event.get "response" := hf
    refine ⟨_, rfl, by simp only [slots]; omega, ?_⟩
    simp only [ResponseEventReducer.weight, hr]
    cases hfo : event.get "response" with
    | none =>
      simp only [map_none, getD_none]
      omega
    | some value =>
      have hs := weight_get_le hfo
      simp only [map_some, getD_some]
      omega
  | fail => exact ⟨_, rfl, hu.slots, hu.weight⟩
  | skip => exact ⟨_, rfl, hu⟩

def ResponseEventReducer.FinishTame (reducer : ResponseEventReducer) : Prop :=
  reducer.failed = true
  ∨ reducer.output = []
  ∨ ∀ completed ∈ reducer.completed, assignable completed = true

/-- Every event is tame in the state in which it is pushed, and so is the end. -/
def ResponseEventReducer.TameRun (reducer : ResponseEventReducer) : List Document → Prop
  | [] => reducer.FinishTame
  | event :: rest =>
    reducer.Tame event ∧ ∀ next ∈ reducer.push event, next.TameRun rest

theorem weightItems_items (reducer : ResponseEventReducer)
    : Document.weightItems reducer.items
      ≤ total (fun entry => 1 + entry.2.weight) reducer.output := by
  have sum (entries : List (Nat × Document))
      : Document.weightItems (entries.map Prod.snd)
        ≤ total (fun entry => 1 + entry.2.weight) entries := by
    induction entries with
    | nil => exact le_refl _
    | cons entry rest ih =>
      simp only [List.map_cons, Document.weightItems, total, List.sum_cons] at ih ⊢
      omega
  refine (sum _).trans (le_of_eq ?_)
  exact ((List.perm_insertionSort _ _).map _).sum_eq

theorem ResponseEventReducer.finish_tame (tame : reducer.FinishTame)
    : ∃ result,
        reducer.finish = some result
        ∧ ∀ response usage,
            result = .ok (response, usage) → response.weight ≤ reducer.weight + 9 := by
  unfold finish
  by_cases hfa : reducer.failed = true
  · rw [if_pos hfa]
    exact ⟨_, rfl, nofun⟩
  rw [if_neg hfa]
  cases isCompleted : reducer.completed with
  | none => exact ⟨_, rfl, nofun⟩
  | some hc =>
    have held : reducer.weight
        = total (fun entry => 1 + entry.2.weight) reducer.output + hc.weight := by
      simp [ResponseEventReducer.weight, isCompleted]
    have hreb
        : ∃ rebuilt,
            reducer.rebuilt hc = some rebuilt
            ∧ rebuilt.weight ≤ reducer.weight + 9 := by
      unfold rebuilt
      dsimp only
      split
      · rename_i needed
        have hn : reducer.output ≠ [] := by
          intro empty
          simp [empty] at needed
        have ready : assignable hc := by
          rcases tame with hf | empty | ready
          · exact absurd hf hfa
          · exact absurd empty hn
          · exact ready hc isCompleted
        have name : "output".utf8ByteSize = 6 := by decide
        have items := weightItems_items reducer
        have hb {next : Document}
            (ha : hc.assign "output" (.array reducer.items) = some next)
            : next.weight ≤ reducer.weight + 9 := by
          have hs := weight_assign_le ha
          simp only [Document.weight, name] at hs
          omega
        cases hc with
        | object fields => exact ⟨_, rfl, hb rfl⟩
        | null => exact ⟨_, rfl, hb rfl⟩
        | bool _ => cases ready
        | integer _ => cases ready
        | real _ => cases ready
        | string _ => cases ready
        | array _ => cases ready
      · exact ⟨hc, rfl, by omega⟩
    obtain ⟨rebuilt, hre, hs⟩ := hreb
    refine ⟨(usageFromResponse rebuilt).map (rebuilt, ·), by simp [hre], ?_⟩
    intro response usage hr
    cases hu : usageFromResponse rebuilt with
    | error _ =>
      rw [hu] at hr
      cases hr
    | ok _ =>
      rw [hu] at hr
      cases hr
      exact hs

/-- The bounds over a whole run, by induction on the events from any state. -/
theorem ResponseEventReducer.pushAll_tame (tame : reducer.TameRun events)
    : ∃ last,
        reducer.pushAll events = some last
        ∧ last.FinishTame
        ∧ last.slots ≤ reducer.slots + events.length + (events.map contentEntries).sum
        ∧ last.weight ≤ reducer.weight + 130 * (events.map Document.weight).sum := by
  induction events generalizing reducer with
  | nil => exact ⟨reducer, rfl, tame, by simp, by simp⟩
  | cons event rest ih =>
    obtain ⟨tameEvent, later⟩ := tame
    obtain ⟨next, pushed, hg⟩ := push_tame tameEvent
    obtain ⟨last, hr, finish, slots, weight⟩ := ih (later next pushed)
    have hp := event.weight_pos
    have slotStep := hg.slots
    have weightStep := hg.weight
    refine ⟨last, by simp [pushAll, pushed, hr], finish, ?_, ?_⟩
    · simp only [List.length_cons, List.map_cons, List.sum_cons]
      omega
    · simp only [List.map_cons, List.sum_cons]
      omega

/-- Tame events never abort the process: the reducer holds at most one content slot for
each event and each content entry in the events, its size and that of the rebuilt response
are bounded by a multiple of the size of the events.
-/
theorem tame_events_bounded {events : List Document}
    (tame : new.TameRun events)
    : ∃ reducer result,
        new.pushAll events = some reducer
        ∧ reducer.finish = some result
        ∧ reducer.slots ≤ events.length + (events.map contentEntries).sum
        ∧ reducer.weight ≤ 130 * (events.map Document.weight).sum
        ∧ ∀ response usage,
            result = .ok (response, usage)
            → response.weight ≤ 130 * (events.map Document.weight).sum + 9 := by
  obtain ⟨last, hre, finish, slots, weight⟩ := pushAll_tame tame
  obtain ⟨result, hr, response⟩ := finish_tame finish
  have he : new.slots = 0 := rfl
  have hem : new.weight = 0 := rfl
  refine ⟨last, result, hre, hr, by omega, by omega, ?_⟩
  intro document usage hd
  have hs := response document usage hd
  omega

def textDelta (content : Int) : Document :=
  .object [("type", .string "response.output_text.delta"), ("output_index", .integer 0),
    ("content_index", .integer content), ("delta", .string "a")]

def addedItem (item : Document) : Document :=
  .object [("type", .string "response.output_item.added"), ("output_index", .integer 0),
    ("item", item)]

def completedEvent (response : Document) : Document :=
  .object [("type", .string "response.completed"), ("response", response)]

theorem sample_events_bounded
    : new.TameRun [textDelta 0, textDelta 0]
      ∧ ∃ reducer,
          new.pushAll [textDelta 0, textDelta 0] = some reducer
          ∧ reducer.slots ≤ 2 := by
  have tame : new.TameRun [textDelta 0, textDelta 0] := by
    refine ⟨⟨[], rfl, le_refl _, by decide⟩, ?_⟩
    intro next pushed
    cases pushed
    refine ⟨⟨[outputText "a"], rfl, Nat.zero_le _, by decide⟩, ?_⟩
    intro last more
    cases more
    exact .inr (.inr (fun _ absent => absurd absent (not_mem_none _)))
  obtain ⟨reducer, _, hr, _, slots, _⟩ := tame_events_bounded tame
  exact ⟨tame, reducer, hr, slots⟩

/-- Text for an item that is a number aborts; so do a content index too large to allocate
and a completed response that is a number; and one short event makes a hundred slots.
-/
theorem upstream_events_abort
    : (new.pushAll [addedItem (.integer 5), textDelta 0]).isNone
      ∧ (new.pushAll [textDelta (2 ^ 64 - 1)]).isNone
      ∧ ((new.pushAll [textDelta 0, completedEvent (.integer 5)]).bind (·.finish)).isNone
      ∧ (new.pushAll [textDelta 99]).map (·.slots) = some 100 := by
  decide +kernel

end AsterTeam
