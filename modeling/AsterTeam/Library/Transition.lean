import Mathlib

/-! Labelled step relations and the invariants of their runs. -/

namespace Transition

variable {State Label : Type} {step : State → Label → State → Prop}

/-- A finite run: the labels of its steps in order, between two states. -/
inductive Run (step : State → Label → State → Prop) : State → List Label → State → Prop
  | nil (state) : Run step state [] state
  | cons {first middle last label rest} (head : step first label middle)
    (tail : Run step middle rest last)
    : Run step first (label :: rest) last

/-- What every step keeps, every run keeps. -/
theorem Run.invariant {holds : State → Prop}
    (kept : ∀ {first label next}, step first label next → holds first → holds next)
    {first last : State} {labels : List Label} (run : Run step first labels last)
    (initially : holds first)
    : holds last := by
  induction run with
  | nil => exact initially
  | cons head _ ih => exact ih (kept head initially)

variable {first last : State} {labels : List Label}

/-- What every step keeps of a state and the labels before it, every run keeps. -/
theorem Run.history_invariant {holds : List Label → State → Prop}
    (kept : ∀ {past first label next}, step first label next → holds past first
        → holds (past ++ [label]) next) {past : List Label} (run : Run step first labels last)
    (initially : holds past first)
    : holds (past ++ labels) last := by
  induction run generalizing past with
  | nil =>
    rw [List.append_nil]
    exact initially
  | cons head _ ih =>
    rw [List.append_cons]
    exact ih (kept head initially)

/-- A run over appended labels passes through a state between the two parts. -/
theorem run_append
    : Run step first (front ++ back) last
      ↔ ∃ middle, Run step first front middle ∧ Run step middle back last := by
  induction front generalizing first with
  | nil =>
    constructor
    · intro run
      exact ⟨first, .nil first, run⟩
    · rintro ⟨middle, head, tail⟩
      cases head
      exact tail
  | cons label rest ih =>
    constructor
    · rintro (_ | ⟨head, tail⟩)
      obtain ⟨middle, left, right⟩ := ih.mp tail
      exact ⟨middle, .cons head left, right⟩
    · rintro ⟨middle, _ | ⟨head, left⟩, right⟩
      exact .cons head (ih.mpr ⟨middle, left, right⟩)

/-- A run of a larger system is a run of a part of it, if each step is a step of the part or
leaves it as it is.
-/
theorem Run.project {Part PartLabel : Type} {partStep : Part → PartLabel → Part → Prop}
    (part : State → Part) (label : Label → Option PartLabel)
    (projects : ∀ {first next big}, step first big next
        → match label big with
          | none => part next = part first
          | some small => partStep (part first) small (part next))
    (run : Run step first labels last)
    : Run partStep (part first) (labels.filterMap label) (part last) := by
  induction run with
  | nil => exact .nil _
  | @cons first middle last big rest head tail ih =>
    have hs := projects head
    cases hl : label big with
    | none =>
      rw [hl] at hs
      rw [List.filterMap_cons_none hl, ← hs]
      exact ih
    | some small =>
      rw [hl] at hs
      rw [List.filterMap_cons_some hl]
      exact .cons hs ih

end Transition
