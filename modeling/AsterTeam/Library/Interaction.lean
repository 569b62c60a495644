import AsterTeam.Library.Transition

/-! Programs that call an environment and go on with its replies, and the executor that runs
them one after another. The environment may answer as it likes within a relation; the
executor may stop between any two calls. A logic says which calls a program makes, given
what it has seen before in the same run of the program.
-/

namespace Interaction

/-- The calls of an environment and the replies to each of them. -/
structure Interface where
  Call : Type
  Reply : Call → Type

abbrev Event (interface : Interface) : Type := (call : interface.Call) × interface.Reply call

inductive Program (interface : Interface) (Error α : Type) : Type
  | done (value : α)
  | fail (error : Error)
  | call (request : interface.Call) (next : interface.Reply request → Program interface Error α)

variable {interface : Interface} {Error OtherError State α β : Type}

namespace Program

def bind : Program interface Error α → (α → Program interface Error β)
    → Program interface Error β
  | done value, next => next value
  | fail error, _ => .fail error
  | call request rest, next => .call request fun reply => (rest reply).bind next

instance : Monad (Program interface Error) where
  pure := done
  bind := bind

def request (call : interface.Call) : Program interface Error (interface.Reply call) :=
  .call call .done

def require (condition : Bool) (error : Error) : Program interface Error Unit :=
  if condition then .done () else .fail error

def lift (convert : OtherError → Error) : Except OtherError α → Program interface Error α
  | .ok value => .done value
  | .error error => .fail (convert error)

def mapError (convert : OtherError → Error)
    : Program interface OtherError α → Program interface Error α
  | done value => .done value
  | fail error => .fail (convert error)
  | call request next => .call request fun reply => (next reply).mapError convert

end Program

/-- The effect of a call on the state, with the reply. -/
abbrev Answers (interface : Interface) (State : Type) : Type :=
  State → (call : interface.Call) → interface.Reply call → State → Prop

variable (answers : Answers interface State)
  (rule : State → List (Event interface) → interface.Call → Prop)

/-- Every call that the program makes obeys the rule, whatever the replies, and the
postcondition holds where it ends.
-/
def Safe (post : α → State → List (Event interface) → Prop)
    : Program interface Error α → State → List (Event interface) → Prop
  | .done value, state, seen => post value state seen
  | .fail _, _, _ => True
  | .call request next, state, seen =>
    rule state seen request
      ∧ ∀ reply state', answers state request reply state'
        → Safe post (next reply) state' (seen ++ [⟨request, reply⟩])

variable {answers rule} {program : Program interface Error α} {state : State}
  {seen : List (Event interface)}

theorem safe_bind {next : α → Program interface Error β}
    (first
      : Safe answers rule (fun value state seen => Safe answers rule post (next value) state seen)
          program state seen)
    : Safe answers rule post (program >>= next) state seen := by
  induction program generalizing state seen with
  | done value => exact first
  | fail error => trivial
  | call request rest ih =>
    exact ⟨first.1, fun reply state' ha => ih reply (first.2 reply state' ha)⟩

section

variable {post : α → State → List (Event interface) → Prop}

theorem Safe.weaken (safe : Safe answers rule post program state seen)
    (implied : ∀ value state seen, post value state seen → looser value state seen)
    : Safe answers rule looser program state seen := by
  induction program generalizing state seen with
  | done value => exact implied value state seen safe
  | fail error => trivial
  | call request rest ih =>
    exact ⟨safe.1, fun reply state' ha => ih reply (safe.2 reply state' ha)⟩

variable {convert : OtherError → Error}

theorem safe_mapError {program : Program interface OtherError α}
    (safe : Safe answers rule post program state seen)
    : Safe answers rule post (program.mapError convert) state seen := by
  induction program generalizing state seen with
  | done value => exact safe
  | fail error => trivial
  | call request rest ih =>
    exact ⟨safe.1, fun reply state' ha => ih reply (safe.2 reply state' ha)⟩

theorem safe_require {condition : Bool} {post : Unit → State → List (Event interface) → Prop}
    (hh : condition → post () state seen)
    : Safe answers rule post (Program.require condition error) state seen := by
  unfold Program.require
  split_ifs with ht
  · exact hh ht
  · trivial

theorem safe_guard {condition : Bool} {next : Unit → Program interface Error α}
    (hh : condition → Safe answers rule post (next ()) state seen)
    : Safe answers rule post (Program.require condition error >>= next) state seen :=
  safe_bind (safe_require hh)

theorem safe_lift (hh : ∀ value, result = .ok value → post value state seen)
    : Safe answers rule post (Program.lift convert result) state seen := by
  cases result with
  | ok value => exact hh value rfl
  | error error => trivial

/-- The calls of a program are those of a looser rule as well. -/
theorem Safe.loosen (safe : Safe answers rule post program state seen)
    (implied : ∀ state seen call, rule state seen call → looser state seen call)
    : Safe answers looser post program state seen := by
  induction program generalizing state seen with
  | done value => exact safe
  | fail error => trivial
  | call request rest ih =>
    exact ⟨implied state seen request safe.1,
      fun reply state' ha => ih reply (safe.2 reply state' ha)⟩

end

/-- The program ends with a value after these calls and replies. -/
inductive Ends (answers : Answers interface State)
    : Program interface Error α → State → List (Event interface) → α → State → Prop
  | done (value : α) (state : State) : Ends answers (.done value) state [] value state
  | call {request : interface.Call} {next : interface.Reply request → Program interface Error α}
    {reply : interface.Reply request} {state state' last : State}
    {events : List (Event interface)} {value : α} (answered : answers state request reply state')
    (rest : Ends answers (next reply) state' events value last)
    : Ends answers (.call request next) state (⟨request, reply⟩ :: events) value last

/-- A safe program ends in its postcondition. -/
theorem Ends.post {post : α → State → List (Event interface) → Prop}
    (ends : Ends answers program state events value last)
    (safe : Safe answers rule post program state seen)
    : post value last (seen ++ events) := by
  induction ends generalizing seen with
  | done value state =>
    rw [List.append_nil]
    exact safe
  | call ha rest ih =>
    rw [List.append_cons]
    exact ih (safe.2 _ _ ha)

-- Running programs

/-- The state, everything that has been answered so far, and the rest of the program that
is running with what it has seen.
-/
structure Executor (interface : Interface) (Error State α : Type) where
  state : State
  history : List (Event interface)
  running : Option (Program interface Error α × List (Event interface))

inductive ExecutorLabel
  | starts
  | stops
  | goesOn

/-- A program may be started at any time, which ends the one before; the executor may stop;
and a call may be answered.
-/
inductive ExecutorStep (answers : Answers interface State)
    (programs : Program interface Error α → Prop)
    : Executor interface Error State α → ExecutorLabel → Executor interface Error State α → Prop
  | starts (executor : Executor interface Error State α)
    {program : Program interface Error α} (isProgram : programs program)
    : ExecutorStep answers programs executor .starts { executor with running := some (program, []) }
  | stops (executor : Executor interface Error State α)
    : ExecutorStep answers programs executor .stops { executor with running := none }
  | goesOn {state state' : State} {history seen : List (Event interface)}
    {request : interface.Call} {next : interface.Reply request → Program interface Error α}
    {reply : interface.Reply request} (answered : answers state request reply state')
    : ExecutorStep answers programs ⟨state, history, some (.call request next, seen)⟩ .goesOn
        ⟨state', history ++ [⟨request, reply⟩], some (next reply, seen ++ [⟨request, reply⟩])⟩

/-- A run from a state with nothing running. -/
abbrev ExecutorRun (answers : Answers interface State)
    (programs : Program interface Error α → Prop) (initial : State)
    (labels : List ExecutorLabel) (executor : Executor interface Error State α)
    : Prop :=
  Transition.Run (ExecutorStep answers programs) ⟨initial, [], none⟩ labels executor

variable {programs : Program interface Error α → Prop}

/-- What is running is safe, and it has seen nothing that did not happen. -/
structure Executor.Obeys (answers : Answers interface State)
    (rule : State → List (Event interface) → interface.Call → Prop)
    (executor : Executor interface Error State α)
    : Prop where
  safe
    : ∀ program seen, executor.running = some (program, seen)
      → Safe answers rule (fun _ _ _ => True) program executor.state seen
  happened
    : ∀ program seen, executor.running = some (program, seen)
      → ∀ event ∈ seen, event ∈ executor.history

variable {executor : Executor interface Error State α}

theorem Executor.Obeys.idle (state : State) (history : List (Event interface))
    : (⟨state, history, none⟩ : Executor interface Error State α).Obeys answers rule := by
  refine ⟨fun program seen hr => ?_, fun program seen hr => ?_⟩
  · cases hr
  · cases hr

section

variable {initial : State} {labels : List ExecutorLabel}
  (safe : ∀ program, programs program → ∀ state : State,
        Safe answers rule (fun _ _ _ => True) program state [])

include safe

theorem Executor.Obeys.step {next : Executor interface Error State α}
    (obeys : executor.Obeys answers rule) (hst : ExecutorStep answers programs executor label next)
    : next.Obeys answers rule := by
  cases hst with
  | starts _ hp =>
    refine ⟨fun other seen hr => ?_, fun other seen hr event hs => ?_⟩
    · cases hr
      exact safe _ hp executor.state
    · cases hr
      exact absurd hs List.not_mem_nil
  | stops =>
    refine ⟨fun other seen hr => ?_, fun other seen hr event hs => ?_⟩
    · cases hr
    · cases hr
  | @goesOn state state' history seen request rest reply ha =>
    have before := obeys.safe _ seen rfl
    refine ⟨fun other after hr => ?_, fun other after hr event hs => ?_⟩
    · cases hr
      exact before.2 reply state' ha
    · cases hr
      rcases List.mem_append.mp hs with earlier | isLast
      · exact List.mem_append_left _ (obeys.happened _ seen rfl event earlier)
      · exact List.mem_append_right _ isLast

/-- Programs that are safe from every state obey the rule in every run. -/
theorem Executor.Obeys.run (hr : ExecutorRun answers programs initial labels executor)
    : executor.Obeys answers rule := by
  exact hr.invariant (fun head before => before.step safe head) (.idle initial [])

/-- What each step of an obedient executor keeps, every run keeps. -/
theorem ExecutorRun.keeps (holds : Executor interface Error State α → Prop)
    (kept : ∀ {executor next label}, executor.Obeys answers rule
        → ExecutorStep answers programs executor label next → holds executor → holds next)
    (hr : ExecutorRun answers programs initial labels executor)
    (initially : holds ⟨initial, [], none⟩)
    : holds executor := by
  have both : executor.Obeys answers rule ∧ holds executor :=
    @Transition.Run.invariant _ _ _ (fun state => state.Obeys answers rule ∧ holds state)
      (fun head before => ⟨before.1.step safe head, kept before.1 head before.2⟩)
      _ _ _ hr ⟨.idle initial [], initially⟩
  exact both.2

end

/-- The rule permits the call that is about to be made. -/
theorem Executor.Obeys.permits (obeys : executor.Obeys answers rule)
    {next : interface.Reply request → Program interface Error α}
    (hr : executor.running = some (.call request next, seen))
    : rule executor.state seen request :=
  (obeys.safe _ seen hr).1

-- Environments that compute their replies

/-- A reply and the next state for every call. -/
abbrev Environment (interface : Interface) (State : Type) : Type :=
  State → (call : interface.Call) → interface.Reply call × State

def Executor.answer (environment : Environment interface State)
    (executor : Executor interface Error State α)
    : Executor interface Error State α :=
  match executor.running with
  | some (.call request next, seen) =>
    let (reply, state) := environment executor.state request
    ⟨state, executor.history ++ [⟨request, reply⟩], some (next reply, seen ++ [⟨request, reply⟩])⟩
  | _ => executor

/-- Starts a program and answers its first calls. -/
def Executor.perform (environment : Environment interface State)
    (program : Program interface Error α) (calls : Nat)
    (executor : Executor interface Error State α)
    : Executor interface Error State α :=
  (Executor.answer environment)^[calls] { executor with running := some (program, []) }

def Reachable (answers : Answers interface State)
    (programs : Program interface Error α → Prop) (initial : State)
    (executor : Executor interface Error State α)
    : Prop :=
  ∃ labels, ExecutorRun answers programs initial labels executor

variable {environment : Environment interface State}
  (faithful
    : ∀ state call, answers state call (environment state call).1 (environment state call).2)

include faithful

theorem Executor.run_answer (executor : Executor interface Error State α)
    : ∃ labels,
        Transition.Run (ExecutorStep answers programs) executor labels
          (executor.answer environment) := by
  obtain ⟨state, history, running⟩ := executor
  unfold Executor.answer
  split
  · rename_i request next seen hr
    cases hr
    exact ⟨[.goesOn], .cons (.goesOn (faithful state request)) (.nil _)⟩
  · exact ⟨[], .nil _⟩

/-- An environment within the relation makes a run. -/
theorem Executor.run_perform (hp : programs program) (calls : Nat)
    (executor : Executor interface Error State α)
    : ∃ labels,
        Transition.Run (ExecutorStep answers programs) executor labels
          (executor.perform environment program calls) := by
  unfold Executor.perform
  induction calls with
  | zero => exact ⟨[.starts], .cons (.starts executor hp) (.nil _)⟩
  | succ calls ih =>
    rw [Function.iterate_succ_apply']
    obtain ⟨front, before⟩ := ih
    obtain ⟨back, after⟩ := run_answer faithful _
    exact ⟨front ++ back, Transition.run_append.mpr ⟨_, before, after⟩⟩

theorem Reachable.perform (reachable : Reachable answers programs initial executor)
    (hp : programs program) (calls : Nat)
    : Reachable answers programs initial (executor.perform environment program calls) := by
  obtain ⟨front, before⟩ := reachable
  obtain ⟨back, after⟩ := executor.run_perform faithful hp calls
  exact ⟨front ++ back, Transition.run_append.mpr ⟨_, before, after⟩⟩

end Interaction
