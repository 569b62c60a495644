import Mathlib

/-! Splitting a stream of server-sent events into frames: a frame ends with the first blank
line, however the bytes arrive.
-/

namespace AsterTeam

open List

section

variable {Symbol : Type} [DecidableEq Symbol]

def findPattern (pattern : List Symbol) : List Symbol → Option Nat
  | [] => none
  | symbol :: rest =>
    if pattern <+: symbol :: rest then some 0
    else (findPattern pattern rest).map (· + 1)

variable {pattern buffer : List Symbol}

theorem findPattern_eq_some (hn : pattern ≠ [])
    : findPattern pattern buffer = some position
      ↔ pattern <+: buffer.drop position
        ∧ ∀ earlier < position, ¬ pattern <+: buffer.drop earlier := by
  induction buffer generalizing position with
  | nil => simp [findPattern, hn]
  | cons symbol rest ih =>
    unfold findPattern
    split
    · rename_i here
      constructor
      · intro hf
        cases hf
        exact ⟨here, fun _ absurdly => absurd absurdly (Nat.not_lt_zero _)⟩
      · intro first
        cases position with
        | zero => rfl
        | succ position => exact absurd here (first.2 0 (Nat.succ_pos _))
    · rename_i elsewhere
      cases position with
      | zero => simp [elsewhere]
      | succ position =>
        simp only [Option.map_eq_some_iff, Nat.add_right_cancel_iff,
          exists_eq_right, ih, drop_succ_cons]
        refine and_congr_right fun _ => ⟨?_, ?_⟩
        · intro none earlier less
          cases earlier with
          | zero => exact elsewhere
          | succ earlier => exact none earlier (Nat.lt_of_succ_lt_succ less)
        · intro none earlier less
          exact none (earlier + 1) (Nat.succ_lt_succ less)

theorem not_prefix_of_findPattern (hn : pattern ≠ [])
    (missing : findPattern pattern buffer = none) (position : Nat)
    : ¬ pattern <+: buffer.drop position := by
  induction buffer generalizing position with
  | nil => simp [hn]
  | cons symbol rest ih =>
    unfold findPattern at missing
    split at missing
    · cases missing
    next elsewhere =>
      cases position with
      | zero => exact elsewhere
      | succ position => exact ih (Option.map_eq_none_iff.mp missing) position

end

def lineFeeds : List UInt8 := [10, 10]

def carriageReturns : List UInt8 := [13, 10, 13, 10]

def frameEnd (buffer : List UInt8) : Option Nat :=
  match findPattern lineFeeds buffer, findPattern carriageReturns buffer with
  | some lf, some crlf => if lf ≤ crlf then some (lf + 2) else some (crlf + 4)
  | some lf, none => some (lf + 2)
  | none, some crlf => some (crlf + 4)
  | none, none => none

def takeSseFrame (buffer : List UInt8) : Option (List UInt8 × List UInt8) :=
  (frameEnd buffer).map fun length => (buffer.take length, buffer.drop length)

/-- Takes complete frames; a frame is never empty, so the length is enough fuel. -/
def takeFrames : Nat → List UInt8 → List (List UInt8) × List UInt8
  | 0, buffer => ([], buffer)
  | fuel + 1, buffer =>
    match takeSseFrame buffer with
    | none => ([], buffer)
    | some (frame, rest) => (frame :: (takeFrames fuel rest).1, (takeFrames fuel rest).2)

def sseFrames (buffer : List UInt8) : List (List UInt8) × List UInt8 :=
  takeFrames buffer.length buffer

/-- The first bytes up to the position end with a blank line. -/
def EndsAt (buffer : List UInt8) (position : Nat) : Prop :=
  (∃ start, position = start + 2 ∧ lineFeeds <+: buffer.drop start)
  ∨ ∃ start, position = start + 4 ∧ carriageReturns <+: buffer.drop start

variable {buffer : List UInt8}

/-- A blank line of carriage returns overlaps no blank line of line feeds. -/
theorem start_ne_of_overlap (feeds : lineFeeds <+: buffer.drop lf)
    (returns : carriageReturns <+: buffer.drop crlf)
    : lf ≠ crlf + 1 := by
  intro same
  obtain ⟨after, hf⟩ := feeds
  obtain ⟨behind, hr⟩ := returns
  have second := congrArg (fun bytes => bytes[1]?) hf
  have third := congrArg (fun bytes => bytes[2]?) hr
  simp [lineFeeds, carriageReturns] at second third
  rw [same] at second
  rw [show crlf + 1 + 1 = crlf + 2 from rfl, ← third] at second
  exact absurd second (by decide)

variable {position : Nat}

/-- The end of the first frame is the first position at which a blank line ends. -/
theorem frameEnd_eq_some
    : frameEnd buffer = some position
      ↔ EndsAt buffer position ∧ ∀ earlier < position, ¬ EndsAt buffer earlier := by
  have feedsNe : lineFeeds ≠ [] := by decide
  have hr : carriageReturns ≠ [] := by decide
  have hu {left right : Nat}
      (first : EndsAt buffer left ∧ ∀ earlier < left, ¬ EndsAt buffer earlier)
      (second : EndsAt buffer right ∧ ∀ earlier < right, ¬ EndsAt buffer earlier)
      : left = right := by
    rcases Nat.lt_trichotomy left right with less | same | more
    · exact absurd first.1 (second.2 _ less)
    · exact same
    · exact absurd second.1 (first.2 _ more)
  have least {end_ : Nat} (he : frameEnd buffer = some end_)
      : EndsAt buffer end_ ∧ ∀ earlier < end_, ¬ EndsAt buffer earlier := by
    unfold frameEnd at he
    split at he
    · rename_i lf crlf hl hc
      obtain ⟨feeds, noFeeds⟩ := (findPattern_eq_some feedsNe).mp hl
      obtain ⟨returns, hn⟩ := (findPattern_eq_some hr).mp hc
      have ha := start_ne_of_overlap feeds returns
      split at he
      · cases he
        refine ⟨.inl ⟨lf, rfl, feeds⟩, ?_⟩
        intro earlier less ends
        rcases ends with ⟨start, hs, here⟩ | ⟨start, hs, here⟩
        · exact noFeeds start (by omega) here
        · exact hn start (by omega) here
      · cases he
        refine ⟨.inr ⟨crlf, rfl, returns⟩, ?_⟩
        intro earlier less ends
        rcases ends with ⟨start, hs, here⟩ | ⟨start, hs, here⟩
        · exact noFeeds start (by omega) here
        · exact hn start (by omega) here
    · rename_i lf hl hc
      obtain ⟨feeds, noFeeds⟩ := (findPattern_eq_some feedsNe).mp hl
      have hn := not_prefix_of_findPattern hr hc
      cases he
      refine ⟨.inl ⟨lf, rfl, feeds⟩, ?_⟩
      intro earlier less ends
      rcases ends with ⟨start, hs, here⟩ | ⟨start, hs, here⟩
      · exact noFeeds start (by omega) here
      · exact hn start here
    · rename_i crlf hl hc
      obtain ⟨returns, hn⟩ := (findPattern_eq_some hr).mp hc
      have noFeeds := not_prefix_of_findPattern feedsNe hl
      cases he
      refine ⟨.inr ⟨crlf, rfl, returns⟩, ?_⟩
      intro earlier less ends
      rcases ends with ⟨start, hs, here⟩ | ⟨start, hs, here⟩
      · exact noFeeds start here
      · exact hn start (by omega) here
    · cases he
  refine ⟨least, ?_⟩
  intro first
  cases he : frameEnd buffer with
  | some end_ => rw [hu (least he) first]
  | none =>
    unfold frameEnd at he
    split at he
    · split at he <;> cases he
    · cases he
    · cases he
    · rename_i hl hc
      rcases first.1 with ⟨start, _, here⟩ | ⟨start, _, here⟩
      · exact absurd here (not_prefix_of_findPattern feedsNe hl start)
      · exact absurd here (not_prefix_of_findPattern hr hc start)

theorem EndsAt.le_length (ends : EndsAt buffer position)
    : 2 ≤ position ∧ position ≤ buffer.length := by
  rcases ends with ⟨start, hs, here⟩ | ⟨start, hs, here⟩
  · have length := here.length_le
    simp only [lineFeeds, length_cons, length_nil, length_drop] at length
    omega
  · have length := here.length_le
    simp only [carriageReturns, length_cons, length_nil, length_drop] at length
    omega

/-- More bytes change no blank line that is already complete. -/
theorem endsAt_append (inside : position ≤ buffer.length)
    : EndsAt (buffer ++ more) position ↔ EndsAt buffer position := by
  have hw {pattern : List UInt8} {start : Nat}
      (hf : start + pattern.length ≤ buffer.length)
      : pattern <+: (buffer ++ more).drop start ↔ pattern <+: buffer.drop start := by
    rw [drop_append_of_le_length (by omega)]
    constructor
    · intro here
      refine prefix_of_prefix_length_le here (prefix_append _ _) ?_
      rw [length_drop]
      omega
    · intro here
      exact here.trans (prefix_append _ _)
  unfold EndsAt
  refine or_congr ?_ ?_
  · refine exists_congr fun start => and_congr_right fun hs => hw ?_
    simp only [lineFeeds, length_cons, length_nil]
    omega
  · refine exists_congr fun start => and_congr_right fun hs => hw ?_
    simp only [carriageReturns, length_cons, length_nil]
    omega

variable {frame rest : List UInt8}

section

variable (taken : takeSseFrame buffer = some (frame, rest))

include taken

/-- A frame that is complete stays the first one when more bytes arrive. -/
theorem takeSseFrame_append (more : List UInt8)
    : takeSseFrame (buffer ++ more) = some (frame, rest ++ more) := by
  obtain ⟨position, he, split⟩ := Option.map_eq_some_iff.mp taken
  cases split
  obtain ⟨ends, first⟩ := frameEnd_eq_some.mp he
  have inside := ends.le_length.2
  have hen : frameEnd (buffer ++ more) = some position := by
    refine frameEnd_eq_some.mpr ⟨(endsAt_append inside).mpr ends, ?_⟩
    intro earlier less here
    exact first earlier less ((endsAt_append (by omega)).mp here)
  rw [takeSseFrame, hen, Option.map_some, take_append_of_le_length inside,
    drop_append_of_le_length inside]

/-- A frame is not empty and ends with a line feed. -/
theorem takeSseFrame_eq_some : buffer = frame ++ rest ∧ ∃ body, frame = body ++ [10] := by
  obtain ⟨position, he, split⟩ := Option.map_eq_some_iff.mp taken
  cases split
  obtain ⟨ends, _⟩ := frameEnd_eq_some.mp he
  refine ⟨(take_append_drop _ _).symm, ?_⟩
  have last {pattern body : List UInt8} {start : Nat} (hp : pattern = body ++ [10])
      (hs : position = start + pattern.length) (here : pattern <+: buffer.drop start)
      : ∃ body, buffer.take position = body ++ [10] := by
    obtain ⟨after, ha⟩ := here
    have cut : buffer = buffer.take start ++ (pattern ++ after) := by
      rw [ha, take_append_drop]
    have shorter : start ≤ buffer.length := by
      by_contra longer
      rw [drop_eq_nil_of_le (by omega)] at ha
      simp [hp] at ha
    refine ⟨buffer.take start ++ body, ?_⟩
    rw [hs, take_add, ← ha, take_left, hp, append_assoc]
  rcases ends with ⟨start, hs, here⟩ | ⟨start, hs, here⟩
  · exact last (show lineFeeds = [10] ++ [10] from rfl) hs here
  · exact last (show carriageReturns = [13, 10, 13] ++ [10] from rfl) hs here

theorem takeSseFrame_shorter : rest.length < buffer.length := by
  obtain ⟨hb, body, hf⟩ := takeSseFrame_eq_some taken
  rw [hb, hf]
  simp only [length_append, length_singleton]
  omega

end

theorem takeFrames_of_enough (enough : buffer.length ≤ fuel)
    : takeFrames fuel buffer = sseFrames buffer := by
  have same (left right : Nat) (buffer : List UInt8) (leftEnough : buffer.length ≤ left)
      (rightEnough : buffer.length ≤ right)
      : takeFrames left buffer = takeFrames right buffer := by
    induction left generalizing right buffer with
    | zero =>
      have empty : buffer = [] := length_eq_zero_iff.mp (by omega)
      cases right with
      | zero => rfl
      | succ right =>
        rw [empty]
        rfl
    | succ left ih =>
      cases right with
      | zero =>
        have empty : buffer = [] := length_eq_zero_iff.mp (by omega)
        rw [empty]
        rfl
      | succ right =>
        simp only [takeFrames]
        cases ht : takeSseFrame buffer with
        | none => rfl
        | some pair =>
          have shorter := takeSseFrame_shorter ht
          simp only [ih right pair.2 (by omega) (by omega)]
  exact same _ _ _ enough (le_refl _)

theorem sseFrames_of_none (hi : takeSseFrame buffer = none) : sseFrames buffer = ([], buffer) := by
  unfold sseFrames
  cases buffer.length with
  | zero => rfl
  | succ fuel => simp only [takeFrames, hi]

theorem sseFrames_of_some (ht : takeSseFrame buffer = some (frame, rest))
    : sseFrames buffer = (frame :: (sseFrames rest).1, (sseFrames rest).2) := by
  have shorter := takeSseFrame_shorter ht
  unfold sseFrames
  cases hl : buffer.length with
  | zero => omega
  | succ fuel =>
    simp only [takeFrames, ht]
    rw [takeFrames_of_enough (by omega)]
    rfl

/-- The frames of a stream do not depend on where it is cut into chunks. -/
theorem sseFrames_append (buffer more : List UInt8)
    : sseFrames (buffer ++ more)
      = ((sseFrames buffer).1 ++ (sseFrames ((sseFrames buffer).2 ++ more)).1,
          (sseFrames ((sseFrames buffer).2 ++ more)).2) := by
  induction isLength : buffer.length using Nat.strong_induction_on generalizing buffer with
  | _ length ih =>
    cases ht : takeSseFrame buffer with
    | none => rw [sseFrames_of_none ht, nil_append]
    | some pair =>
      obtain ⟨frame, rest⟩ := pair
      have shorter := takeSseFrame_shorter ht
      rw [sseFrames_of_some (takeSseFrame_append ht more), sseFrames_of_some ht,
        ih rest.length (by omega) rest rfl]
      rfl

/-- The frames and the rest are the whole stream, and every frame ends with a line feed. -/
theorem sseFrames_join (buffer : List UInt8)
    : buffer = (sseFrames buffer).1.flatten ++ (sseFrames buffer).2
      ∧ ∀ frame ∈ (sseFrames buffer).1, ∃ body, frame = body ++ [10] := by
  induction isLength : buffer.length using Nat.strong_induction_on generalizing buffer with
  | _ length ih =>
    cases ht : takeSseFrame buffer with
    | none =>
      rw [sseFrames_of_none ht]
      exact ⟨rfl, fun _ absent => absurd absent not_mem_nil⟩
    | some pair =>
      obtain ⟨frame, rest⟩ := pair
      have shorter := takeSseFrame_shorter ht
      obtain ⟨hb, feed⟩ := takeSseFrame_eq_some ht
      obtain ⟨hr, feeds⟩ := ih rest.length (by omega) rest rfl
      rw [sseFrames_of_some ht]
      refine ⟨?_, forall_mem_cons.mpr ⟨feed, feeds⟩⟩
      rw [flatten_cons, append_assoc, ← hr]
      exact hb

end AsterTeam
