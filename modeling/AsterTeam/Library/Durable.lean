import Mathlib

/-! Programs over durable state that may stop after any of their writes, and a logic for
what they write on the way and what holds at the end.
-/

namespace Durable

/-- Durable state that changes by single atomic writes. -/
class Disk (State : Type) (Write : outParam Type) where
  apply : State → Write → State

/-- A program reads a state and answers with its writes in order and its result. -/
def Program (State Write Error α : Type) : Type := State → List Write × Except Error α

variable {State Write Error α β : Type} [Disk State Write]

def after (state : State) (writes : List Write) : State :=
  writes.foldl Disk.apply state

@[simp]
theorem after_nil (state : State) : after state [] = state := rfl

theorem after_append (state : State) (first second : List Write)
    : after state (first ++ second) = after (after state first) second :=
  List.foldl_append

def pure (value : α) : Program State Write Error α := fun _ => ([], .ok value)

def bind (program : Program State Write Error α) (next : α → Program State Write Error β)
    : Program State Write Error β := fun state =>
  match program state with
  | (writes, .error error) => (writes, .error error)
  | (writes, .ok value) =>
    let rest := next value (after state writes)
    (writes ++ rest.1, rest.2)

instance : Monad (Program State Write Error) where
  pure := pure
  bind := bind

def get : Program State Write Error State := fun state => ([], .ok state)

def write (change : Write) : Program State Write Error Unit := fun _ => ([change], .ok ())

def lift (result : Except Error α) : Program State Write Error α := fun _ => ([], result)

def require (condition : Bool) (error : Error) : Program State Write Error Unit :=
  lift (if condition then .ok () else .error error)

/-- Programs that only read. -/
def Silent (program : Program State Write Error α) : Prop :=
  ∀ state, (program state).1 = []

section

omit [Disk State Write]

theorem silent_get : Silent (get : Program State Write Error State) := fun _ => rfl

theorem silent_lift (result : Except Error α)
    : Silent (lift result : Program State Write Error α) :=
  fun _ => rfl

theorem silent_require (condition : Bool) (error : Error)
    : Silent (require condition error : Program State Write Error Unit) :=
  fun _ => rfl

end

theorem silent_pure (value : α) : Silent (Pure.pure value : Program State Write Error α) :=
  fun _ => rfl

variable {program : Program State Write Error α} {next : α → Program State Write Error β}

omit [Disk State Write] in
/-- A read ends with an error or a value, and writes nothing. -/
theorem Silent.cases (silent : Silent program) (state : State)
    : (∃ error, program state = ([], .error error)) ∨ ∃ value, program state = ([], .ok value) := by
  have hn := silent state
  cases hr : program state with
  | mk writes result =>
    rw [hr] at hn
    cases hn
    cases result with
    | error error => exact .inl ⟨error, rfl⟩
    | ok value => exact .inr ⟨value, rfl⟩

theorem silent_bind (first : Silent program) (second : ∀ value, Silent (next value))
    : Silent (program >>= next) := by
  intro state
  simp only [Bind.bind, Durable.bind]
  rcases first.cases state with ⟨error, hr⟩ | ⟨value, hr⟩
  · rw [hr]
  · rw [hr]
    exact second value state

variable {state : State}

/-- A read that succeeds hands its value to the rest, on the same state. -/
theorem bind_eq_ok (silent : Silent program) (hs : ((program >>= next) state).2 = .ok value)
    : ∃ middle, (program state).2 = .ok middle ∧ (next middle state).2 = .ok value := by
  simp only [Bind.bind, Durable.bind] at hs
  rcases silent.cases state with ⟨error, hr⟩ | ⟨middle, hr⟩
  · rw [hr] at hs
    cases hs
  · rw [hr] at hs
    exact ⟨middle, by rw [hr], hs⟩

theorem bind_of_ok (next : α → Program State Write Error β)
    (hs : program state = (writes, .ok value))
    : (program >>= next) state
      = (writes ++ (next value (after state writes)).1, (next value (after state writes)).2) := by
  simp only [Bind.bind, Durable.bind, hs]

omit [Disk State Write] in
theorem require_eq_ok
    (hs : (require condition error state : List Write × Except Error Unit).2 = .ok value)
    : condition := by
  cases ht : condition with
  | true => rfl
  | false =>
    rw [ht] at hs
    cases hs

/-- Writes that a rule permits one after the other. -/
inductive Permits (rule : State → Write → Prop) : State → List Write → Prop
  | nil (state : State) : Permits rule state []
  | cons {state : State} {write : Write} {writes : List Write} (permitted : rule state write)
    (rest : Permits rule (Disk.apply state write) writes)
    : Permits rule state (write :: writes)

namespace Permits

variable {rule : State → Write → Prop}

theorem append (head : Permits rule state first) (tail : Permits rule (after state first) second)
    : Permits rule state (first ++ second) := by
  induction head with
  | nil => exact tail
  | cons hp _ ih => exact .cons hp (ih tail)

/-- A program that stops early has still kept to the rule. -/
theorem take (permits : Permits rule state writes) (count : Nat)
    : Permits rule state (writes.take count) := by
  induction permits generalizing count with
  | nil =>
    rw [List.take_nil]
    exact .nil _
  | cons hp _ ih =>
    cases count with
    | zero => exact .nil _
    | succ count => exact .cons hp (ih count)

theorem stopped (permits : Permits rule state all) (early : writes <+: all)
    : Permits rule state writes := by
  rw [List.prefix_iff_eq_take.mp early]
  exact permits.take _

end Permits

/-- From a state of the precondition, every write of the program is permitted, and the
postcondition holds where it succeeds.
-/
structure Follows (rule : State → Write → Prop) (pre : State → Prop)
    (program : Program State Write Error α) (post : α → State → Prop) : Prop where
  permits : ∀ state, pre state → Permits rule state (program state).1
  succeeds
    : ∀ state, pre state → ∀ value, (program state).2 = .ok value
      → post value (after state (program state).1)

namespace Follows

variable {rule : State → Write → Prop} {pre : State → Prop} {post : α → State → Prop}

/-- A read keeps the precondition and adds what its result says. -/
theorem read {holds : α → State → Prop} (silent : Silent program)
    (result : ∀ state value, (program state).2 = .ok value → holds value state)
    : Follows rule pre program (fun value state => pre state ∧ holds value state) := by
  refine ⟨fun state start => ?_, fun state start value ho => ?_⟩
  · rw [silent state]
    exact .nil state
  · rw [silent state]
    exact ⟨start, result state value ho⟩

theorem require {condition : Bool}
    : Follows rule pre (require condition error : Program State Write Error Unit)
        (fun _ state => pre state ∧ condition) :=
  read (silent_require condition error) fun _ _ ho => require_eq_ok ho

theorem pure (holds : ∀ state, pre state → post value state)
    : Follows rule pre (Pure.pure value : Program State Write Error α) post := by
  refine ⟨fun state _ => .nil state, fun state start result ho => ?_⟩
  cases ho
  exact holds state start

theorem write {post : Unit → State → Prop} (hp : ∀ state, pre state → rule state change)
    (holds : ∀ state, pre state → post () (Disk.apply state change))
    : Follows rule pre (write change : Program State Write Error Unit) post := by
  refine ⟨fun state start => .cons (hp state start) (.nil _), fun state start value ho => ?_⟩
  cases ho
  exact holds state start

theorem bind {post : β → State → Prop} (first : Follows rule pre program mid)
    (second : ∀ value, Follows rule (mid value) (next value) post)
    : Follows rule pre (program >>= next) post := by
  refine ⟨fun state start => ?_, fun state start value ho => ?_⟩
  · have hf := first.permits state start
    simp only [Bind.bind, Durable.bind]
    cases hr : program state with
    | mk writes result =>
      rw [hr] at hf
      cases result with
      | error error => exact hf
      | ok value =>
        have reached := first.succeeds state start value (by rw [hr])
        rw [hr] at reached
        exact hf.append ((second value).permits _ reached)
  · simp only [Bind.bind, Durable.bind] at ho ⊢
    cases hr : program state with
    | mk writes result =>
      rw [hr] at ho
      cases result with
      | error error => cases ho
      | ok reachedValue =>
        have reached := first.succeeds state start reachedValue (by rw [hr])
        rw [hr] at reached
        dsimp only
        rw [after_append]
        exact (second reachedValue).succeeds _ reached _ ho

/-- A write with what holds right after it. -/
theorem write_bind {next : Unit → Program State Write Error β} {post : β → State → Prop}
    (mid : State → Prop) (hp : ∀ state, pre state → rule state change)
    (holds : ∀ state, pre state → mid (Disk.apply state change))
    (rest : Follows rule mid (next ()) post)
    : Follows rule pre (Durable.write change >>= next) post :=
  have first : Follows rule pre (Durable.write change : Program State Write Error Unit)
      (fun _ => mid) := write hp holds
  bind first fun _ => rest

theorem weaken (follows : Follows rule pre program post) (starts : ∀ state, hs state → pre state)
    (ends : ∀ value state, post value state → looser value state)
    : Follows rule hs program looser :=
  ⟨fun state start => follows.permits state (starts state start),
    fun state start value ho =>
      ends value _ (follows.succeeds state (starts state start) value ho)⟩

/-- After a requirement its condition may be assumed. -/
theorem require_bind {condition : Bool} {next : Unit → Program State Write Error β}
    {post : β → State → Prop} (rest : condition → Follows rule pre (next ()) post)
    : Follows rule pre (Durable.require condition error >>= next) post :=
  bind require fun _ =>
    ⟨fun state start => (rest start.2).permits state start.1,
      fun state start => (rest start.2).succeeds state start.1⟩

end Follows

end Durable
