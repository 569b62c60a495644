import AsterTeam.Gateway.StreamForwarding

/-! What a client receives of a stream, and when. -/

namespace AsterTeam

open List

open AssocList Json Utf8Lines

section

variable (codec : JsonCodec) (publicModel : String)

/-- A frame that is sent before the settlement when no earlier frame is held. -/
def isForwarded (frame : List UInt8) : Bool :=
  !sseFrameIsTerminal codec (rewriteSseFrameModel codec publicModel frame)

/-- The frames read so far: those before the first held one are sent and the others are
held, all of them rewritten.
-/
structure ForwardState.Holds (frames : List (List UInt8)) (state : ForwardState) : Prop where
  sent
    : state.sent
      = (frames.takeWhile (isForwarded codec publicModel)).map
          (rewriteSseFrameModel codec publicModel)
  held
    : state.heldTail
      = ((frames.dropWhile (isForwarded codec publicModel)).map
          (rewriteSseFrameModel codec publicModel)).flatten
  terminal
    : state.terminalSeen = !(frames.dropWhile (isForwarded codec publicModel)).isEmpty

theorem takeWhile_dropWhile_append {Item : Type} (test : Item → Bool) (items : List Item)
    (item : Item)
    : (items ++ [item]).takeWhile test
        = (if (items.dropWhile test).isEmpty ∧ test item = true then items ++ [item]
          else items.takeWhile test)
      ∧ (items ++ [item]).dropWhile test
        = (if (items.dropWhile test).isEmpty ∧ test item = true then []
          else items.dropWhile test ++ [item]) := by
  induction items with
  | nil => cases passes : test item <;> simp [passes]
  | cons first rest ih =>
    cases passes : test first with
    | true =>
      simp only [cons_append, takeWhile_cons, dropWhile_cons, passes, if_true, ih.1, ih.2, and_true]
      split <;> rfl
    | false => simp [passes]

variable {state : ForwardState}

theorem ForwardState.Holds.absorbFrame (hh : state.Holds codec publicModel frames)
    (frame : List UInt8)
    : (state.absorbFrame codec publicModel frame).Holds codec publicModel (frames ++ [frame]) := by
  obtain ⟨ht, dropped⟩ :=
    takeWhile_dropWhile_append (isForwarded codec publicModel) frames frame
  unfold ForwardState.absorbFrame
  dsimp only
  have hf
      : sseFrameIsTerminal codec (rewriteSseFrameModel codec publicModel frame)
        = !isForwarded codec publicModel frame := by
    simp [isForwarded]
  cases empty : (frames.dropWhile (isForwarded codec publicModel)).isEmpty with
  | true =>
    have all : frames.takeWhile (isForwarded codec publicModel) = frames := by
      have parts := @takeWhile_append_dropWhile _ (isForwarded codec publicModel) frames
      rw [isEmpty_iff.mp empty, append_nil] at parts
      exact parts
    cases passes : isForwarded codec publicModel frame with
    | true =>
      rw [hh.terminal, empty, hf, passes]
      simp only [empty, passes, and_self, if_true] at ht dropped
      have sent := hh.sent
      rw [all] at sent
      refine ⟨?_, ?_, ?_⟩
      · rw [ht, map_append, ← sent]
        rfl
      · rw [dropped]
        have none := hh.held
        rw [isEmpty_iff.mp empty] at none
        exact none
      · rw [dropped]
        rfl
    | false =>
      rw [hh.terminal, empty, hf, passes]
      simp only [passes, Bool.false_eq_true, and_false, if_false] at ht dropped
      refine ⟨?_, ?_, ?_⟩
      · rw [ht]
        exact hh.sent
      · rw [dropped, map_append, flatten_append, ← hh.held]
        simp
      · rw [dropped]
        simp
  | false =>
    rw [hh.terminal, empty]
    simp only [empty, Bool.false_eq_true, false_and, if_false] at ht dropped
    refine ⟨?_, ?_, ?_⟩
    · rw [ht]
      exact hh.sent
    · rw [dropped, map_append, flatten_append, ← hh.held]
      simp
    · rw [dropped]
      simp

theorem ForwardState.Holds.foldl {read more : List (List UInt8)} {state : ForwardState}
    (hh : state.Holds codec publicModel read)
    : (more.foldl (ForwardState.absorbFrame codec publicModel) state).Holds codec
        publicModel (read ++ more) := by
  induction more generalizing read state with
  | nil => simpa using hh
  | cons frame rest ih =>
    have step := ih (hh.absorbFrame codec publicModel frame)
    rwa [append_assoc, singleton_append] at step

/-- The state is that of reading the whole body at once. -/
structure ForwardState.Reads (state : ForwardState) : Prop where
  holds : state.Holds codec publicModel (sseFrames state.fullBody).1
  pending : state.pending = (sseFrames state.fullBody).2

theorem ForwardState.Reads.absorbChunk (reads : state.Reads codec publicModel) (chunk : List UInt8)
    : (state.absorbChunk codec publicModel chunk).Reads codec publicModel := by
  have joined := sseFrames_append state.fullBody chunk
  rw [← reads.pending] at joined
  have next := @ForwardState.Holds.foldl codec publicModel _
    (sseFrames (state.pending ++ chunk)).1 _ reads.holds
  refine ⟨?_, ?_⟩
  · show ForwardState.Holds codec publicModel (sseFrames (state.fullBody ++ chunk)).1 _
    rw [joined]
    exact ⟨next.sent, next.held, next.terminal⟩
  · show (sseFrames (state.pending ++ chunk)).2 = (sseFrames (state.fullBody ++ chunk)).2
    rw [joined]

/-- However the messages arrive, the state is that of the body they carry. -/
theorem forwardFrames_reads {task : StreamTask} {state : ForwardState}
    {messages : List StreamFrame} (reads : state.Reads codec publicModel)
    : (forwardFrames codec publicModel task state messages).2.Reads codec publicModel := by
  induction messages generalizing state with
  | nil => exact reads
  | cons message rest ih =>
    cases message with
    | taskChunk taskId sequence data =>
      unfold forwardFrames
      split
      · exact reads
      split
      · exact reads
      rename_i chunk
      split
      · exact reads
      have next := reads.absorbChunk codec publicModel chunk
      dsimp only
      split
      · exact next
      · exact ih ⟨⟨next.holds.sent, next.holds.held, next.holds.terminal⟩, next.pending⟩
    | taskFinished taskId status =>
      unfold forwardFrames
      split
      · exact reads
      split <;> exact reads
    | taskFailed taskId =>
      unfold forwardFrames
      split <;> exact reads
    | other => exact reads

/-- A stream that finishes has a body with a usage, and hands out all that it held. -/
theorem forwardFrames_finished {task : StreamTask} {messages : List StreamFrame}
    {heldTail : List UInt8}
    (finished : (forwardFrames codec publicModel task state messages).1 = .finished heldTail)
    : let last := (forwardFrames codec publicModel task state messages).2
      heldTail = last.heldTail ++ last.pending
      ∧ ∃ result, reduceSse codec last.fullBody = some (.ok result) := by
  induction messages generalizing state with
  | nil => cases finished
  | cons message rest ih =>
    cases message with
    | taskChunk taskId sequence data =>
      unfold forwardFrames at finished ⊢
      split at finished
      · cases finished
      rename_i expected
      rw [if_neg expected]
      split at finished
      · cases finished
      rename_i chunk
      dsimp only at finished ⊢
      split at finished
      · cases finished
      rename_i hs
      rw [if_neg hs]
      split at finished
      · cases finished
      rename_i more
      rw [if_neg more]
      exact ih finished
    | taskFinished taskId status =>
      unfold forwardFrames at finished ⊢
      split at finished
      · cases finished
      rename_i expected
      rw [if_neg expected]
      cases parsed : parseOpenaiResponseStream codec state.fullBody with
      | none =>
        rw [parsed] at finished
        cases finished
      | some answer =>
        cases answer with
        | error error =>
          simp only [parsed] at finished
          cases finished
        | ok result =>
          simp only [parsed] at finished ⊢
          refine ⟨(StreamEnd.finished.inj finished).symm, ?_⟩
          obtain ⟨reduced, hr, same⟩ := Option.map_eq_some_iff.mp parsed
          cases reduced with
          | ok value => exact ⟨value, hr⟩
          | error error => cases error <;> cases same
    | taskFailed taskId =>
      unfold forwardFrames at finished
      split at finished <;> cases finished
    | other => cases finished

theorem initial_reads : ForwardState.initial.Reads codec publicModel := ⟨⟨rfl, rfl, rfl⟩, rfl⟩

/-- The line is a data line that completes the response. -/
def CompletesResponse (line : List UInt8) : Prop :=
  ∃ event ∈ lineEvent codec line, isCompleted event = true

theorem isUtf8_rewriteLine (valid : isUtf8 line) : isUtf8 (rewriteLine codec publicModel line) := by
  unfold rewriteLine
  split
  · exact isUtf8_encode _
  · exact valid

variable {frame : List UInt8}

theorem isUtf8_rewriteSseFrameModel (valid : isUtf8 frame)
    : isUtf8 (rewriteSseFrameModel codec publicModel frame) := by
  rw [rewriteSseFrameModel, if_pos valid]
  apply isUtf8_unlines
  intro line member
  obtain ⟨original, ho, rfl⟩ := mem_map.mp member
  exact isUtf8_rewriteLine codec publicModel (isUtf8_of_mem_lines valid ho)

/-- A forwarded frame completes the response exactly when it is not UTF-8 and one of its
lines does: such a frame is neither rewritten nor recognized.
-/
theorem forwarded_completes_iff (hf : isForwarded codec publicModel frame)
    : (∃ line ∈ lines (rewriteSseFrameModel codec publicModel frame),
        CompletesResponse codec line)
      ↔ isUtf8 frame = false ∧ ∃ line ∈ lines frame, CompletesResponse codec line := by
  cases valid : isUtf8 frame with
  | false => simp [rewriteSseFrameModel, valid]
  | true =>
    have hr := isUtf8_rewriteSseFrameModel codec publicModel valid
    simp only [isForwarded, sseFrameIsTerminal, hr, Bool.true_and,
      Bool.not_eq_true', any_eq_false] at hf
    simp only [Bool.true_eq_false, false_and, iff_false]
    intro some
    obtain ⟨line, member, event, he, hc⟩ := some
    refine hf line member ?_
    rw [he, Option.any_some]
    exact hc

/-- What follows the deliveries made before the settlement: nothing when the process aborts,
one error frame, or the held frames and the rest of the body after a settlement that
succeeded.
-/
inductive AfterSettlement (errorFrame : ControlError → List UInt8) (tail : List UInt8)
    : List ClientEvent → Prop
  | aborted : AfterSettlement errorFrame tail []
  | refused (success : Bool) (error : ControlError)
    : AfterSettlement errorFrame tail [.settled success, .delivered (errorFrame error)]
  | succeeded
    : AfterSettlement errorFrame tail
        (.settled true :: (if tail = [] then [] else [.delivered tail]))

/-- Whatever the upstream sends and however it is cut: before the settlement the client gets
exactly the rewritten frames that precede the first terminal one, or fewer when the
execution times out; the terminal frame and everything after it follow only a settlement
that succeeded, and otherwise one error frame follows. A line that completes the response is
among the early deliveries exactly when a frame that is not UTF-8 has one.
-/
theorem stream_held_until_settled (task : StreamTask) (messages : List StreamFrame)
    (timeout : Option Nat) (settle : Except ControlError Unit)
    (errorFrame : ControlError → List UInt8)
    : let body := (forwardFrames codec publicModel task .initial messages).2.fullBody
      let frames := (sseFrames body).1
      let early := frames.takeWhile (isForwarded codec publicModel)
      let tail :=
        ((frames.dropWhile (isForwarded codec publicModel)).map
            (rewriteSseFrameModel codec publicModel)).flatten
          ++ (sseFrames body).2
      ∃ sent after,
        forwardOpenaiGatewayStream codec publicModel task messages timeout settle errorFrame
          = sent.map (fun frame =>
              .delivered (rewriteSseFrameModel codec publicModel frame)) ++ after
        ∧ sent <+: early
        ∧ (timeout = none → sent = early)
        ∧ AfterSettlement errorFrame tail after
        ∧ ((∃ frame ∈ sent, ∃ line ∈ lines (rewriteSseFrameModel codec publicModel frame),
              CompletesResponse codec line)
          ↔ ∃ frame ∈ sent,
              isUtf8 frame = false ∧ ∃ line ∈ lines frame, CompletesResponse codec line) := by
  intro body frames early tail
  have reads :=
    @forwardFrames_reads codec publicModel task .initial messages (initial_reads codec publicModel)
  have hc (sent : List (List UInt8)) (he : sent <+: early)
      : (∃ frame ∈ sent, ∃ line ∈ lines (rewriteSseFrameModel codec publicModel frame),
            CompletesResponse codec line)
        ↔ ∃ frame ∈ sent,
            isUtf8 frame = false ∧ ∃ line ∈ lines frame, CompletesResponse codec line := by
    refine exists_congr fun frame => and_congr_right fun member => ?_
    exact forwarded_completes_iff codec publicModel (mem_takeWhile_imp (he.subset member))
  have delivered
      : (forwardFrames codec publicModel task .initial messages).2.sent.map .delivered
        = early.map (fun frame =>
            ClientEvent.delivered (rewriteSseFrameModel codec publicModel frame)) := by
    rw [reads.holds.sent, map_map]
    rfl
  unfold forwardOpenaiGatewayStream
  dsimp only
  rw [delivered]
  cases timeout with
  | some count =>
    refine ⟨early.take count, _, ?_, take_prefix _ _, nofun,
      .refused settle.isOk .upstreamRequestFailed,
      hc _ ( take_prefix _ _)⟩
    simp only [map_take]
  | none =>
    have hw := hc early (prefix_refl _)
    cases hen : (forwardFrames codec publicModel task .initial messages).1 with
    | aborted =>
      exact ⟨early, [], (append_nil _).symm, prefix_refl _, fun _ => rfl, .aborted, hw⟩
    | failed error =>
      exact ⟨early, _, rfl, prefix_refl _, fun _ => rfl, .refused _ error, hw⟩
    | finished heldTail =>
      have ht : heldTail = tail := by
        rw [(forwardFrames_finished codec publicModel hen).1, reads.holds.held, reads.pending]
      cases settle with
      | error error =>
        exact ⟨early, _, rfl, prefix_refl _, fun _ => rfl, .refused _ error, hw⟩
      | ok done =>
        rw [ht]
        exact ⟨early, _, rfl, prefix_refl _, fun _ => rfl, .succeeded, hw⟩

end

/-- A frame with a byte that is not UTF-8 is delivered at once, with the line that completes
the response; the settlement that follows is that of a failure.
-/
theorem undecodable_frame_completes_early
    : forwardOpenaiGatewayStream sampleCodec "public" ⟨"task", 200⟩
          (sampleStream ([255, 10] ++ sampleLine ++ [10, 10])) none (.ok ()) (fun _ => [])
        = [.delivered ([255, 10] ++ sampleLine ++ [10, 10]), .settled true, .delivered []]
      ∧ sampleLine ∈ lines ([255, 10] ++ sampleLine ++ [10, 10])
      ∧ (lineEvent sampleCodec sampleLine).any isCompleted = true := by
  decide +kernel

end AsterTeam
