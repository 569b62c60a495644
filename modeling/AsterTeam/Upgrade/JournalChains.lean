import AsterTeam.Library.RecordChain
import AsterTeam.Upgrade.SwitchbackJournal

/-! The order of the records of a journal. Each record is accepted after the one before it;
the order of the phases of a switchback is derived from the revisions.
-/

namespace AsterTeam.Upgrade

open List
open RecordChain (History Rules)
open MachineInteger (checkedSucc checkedSucc_eq_some)

/-- Every present value of the first list is the one at its place in the second. -/
def KeptFields {Value : Type} (first second : List (Option Value)) : Prop :=
  ∀ (field : Nat) value, first[field]? = some (some value) → second[field]? = some (some value)

/-- What is said of the records of a journal: no more than seven, with their positions as
revisions, one plan, evidence that is never replaced, nothing after a terminal phase, and
phases that run along one of the two paths.
-/
structure OrderedRecords {Record Plan Phase : Type} (revision : Record → UInt64)
    (plan : Record → Plan) (phase : Record → Phase)
    (snapshots : Record → List (Option RuntimeSnapshot))
    (times : Record → List (Option UInt64)) (exhausted complete : Phase)
    (paths : List (List Phase)) (records : List Record)
    : Prop where
  atMost : records.length ≤ 7
  revisions
    : ∀ {index : Nat} {record}, records[index]? = some record → (revision record).toNat = index
  plans : ∀ first ∈ records, ∀ second ∈ records, plan first = plan second
  snapshotsKept
    : ∀ {index later : Nat} {record other}, index ≤ later → records[index]? = some record
      → records[later]? = some other → KeptFields (snapshots record) (snapshots other)
  timesKept
    : ∀ {index later : Nat} {record other}, index ≤ later → records[index]? = some record
      → records[later]? = some other → KeptFields (times record) (times other)
  ends
    : ∀ {index : Nat} {record}, records[index]? = some record
      → phase record = exhausted ∨ phase record = complete → index + 1 = records.length
  phases : ∃ path ∈ paths, records.map phase <+: path

theorem keptFields_refl {Value : Type} (fields : List (Option Value)) : KeptFields fields fields :=
  fun _ _ => id

theorem KeptFields.trans {Value : Type} {first second third : List (Option Value)}
    (head : KeptFields first second) (tail : KeptFields second third)
    : KeptFields first third :=
  fun field value present => tail field value (head field value present)

theorem keptFields_nil {Value : Type} : KeptFields ([] : List (Option Value)) [] :=
  fun _ _ => id

theorem keptFields_cons {Value : Type} [DecidableEq Value] {previous next : Option Value}
    {first second : List (Option Value)} (hk : kept previous next) (rest : KeptFields first second)
    : KeptFields (previous :: first) (next :: second) := by
  intro field value present
  cases field with
  | zero =>
    rw [getElem?_cons_zero, Option.some.injEq] at present ⊢
    exact eq_of_kept hk present
  | succ field => exact rest field value present

section

variable {Record Plan Phase : Type} {first : Record → Prop} {next : Record → Record → Prop}
  {revision : Record → UInt64} {plan : Record → Plan} {phase : Record → Phase}
  {path : Phase → List Phase} {snapshots : Record → List (Option RuntimeSnapshot)}
  {times : Record → List (Option UInt64)} {exhausted complete : Phase}
  {paths : List (List Phase)}

/-- What holds of every step of a journal orders all of its records. -/
theorem orderedRecords_of_history
    (rules : Rules first next (fun record => (revision record).toNat) phase path)
    (hs : ∀ {previous record}, next previous record → plan record = plan previous)
    (hk : ∀ {previous record}, next previous record
        → KeptFields (snapshots previous) (snapshots record))
    (hke : ∀ {previous record}, next previous record → KeptFields (times previous) (times record))
    (final : ∀ {previous record}, next previous record
        → phase previous ≠ exhausted ∧ phase previous ≠ complete)
    (onPath : ∀ phase, (path phase).length ≤ 7 ∧ ∃ full ∈ paths, path phase <+: full)
    (somePath : paths ≠ []) (history : History first next records)
    : OrderedRecords revision plan phase snapshots times exhausted complete paths records := by
  refine
    { atMost := ?_
      revisions := fun hr => rules.revision_eq history hr
      plans := ?_
      snapshotsKept := fun hor hr ho =>
        history.related (fun record other => KeptFields (snapshots record) (snapshots other))
          (fun record => keptFields_refl (snapshots record)) KeptFields.trans hk
          hor hr ho
      timesKept := fun hor hr ho =>
        history.related (fun record other => KeptFields (times record) (times other))
          (fun record => keptFields_refl (times record)) KeptFields.trans hke
          hor hr ho
      ends := ?_
      phases := ?_ }
  · cases isLast : records.getLast? with
    | none =>
      rw [getLast?_eq_none_iff.mp isLast]
      exact Nat.zero_le 7
    | some last =>
      have hp := congrArg List.length (rules.map_phase history isLast)
      rw [length_map] at hp
      rw [hp]
      exact (onPath (phase last)).1
  · intro record hr other ho
    obtain ⟨index, hi⟩ := mem_iff_getElem?.mp hr
    obtain ⟨later, hl⟩ := mem_iff_getElem?.mp ho
    have start : ∀ {index : Nat} {record}, records[index]? = some record
        → records[0]?.map plan = some (plan record) := by
      intro index record hr
      obtain ⟨hw, _⟩ := List.getElem?_eq_some_iff.mp hr
      have hf := getElem?_eq_getElem (Nat.zero_lt_of_lt hw)
      have same := history.related (fun record other => plan record = plan other)
        (fun _ => rfl) Eq.trans (fun step => (hs step).symm) (Nat.zero_le index) hf
        hr
      rw [hf, Option.map_some, same]
    exact Option.some.inj ((start hi).symm.trans (start hl))
  · intro index record hr terminal
    refine history.last_of_final (fun other step => ?_) hr
    rcases terminal with he | hc
    · exact (final step).1 he
    · exact (final step).2 hc
  · cases isLast : records.getLast? with
    | none =>
      obtain ⟨full, hfu⟩ := exists_mem_of_ne_nil paths somePath
      rw [getLast?_eq_none_iff.mp isLast]
      exact ⟨full, hfu, nil_prefix⟩
    | some last =>
      rw [rules.map_phase history isLast]
      exact (onPath (phase last)).2

end

-- Forward journals

def onlineDrainPath : List OnlinePhase :=
  [.openingCandidate, .switchingTraffic, .closingPrevious, .drainingPrevious]

def OnlinePhase.path : OnlinePhase → List OnlinePhase
  | openingCandidate => [.openingCandidate]
  | switchingTraffic => [.openingCandidate, .switchingTraffic]
  | closingPrevious => [.openingCandidate, .switchingTraffic, .closingPrevious]
  | drainingPrevious => onlineDrainPath
  | drainBudgetExhausted => onlineDrainPath ++ [.drainBudgetExhausted]
  | retiringPrevious => onlineDrainPath ++ [.retiringPrevious]
  | committing => onlineDrainPath ++ [.retiringPrevious, .committing]
  | complete => onlineDrainPath ++ [.retiringPrevious, .committing, .complete]

def onlinePaths : List (List OnlinePhase) :=
  [OnlinePhase.drainBudgetExhausted.path, OnlinePhase.complete.path]

def OnlineHistory : List OnlineJournal → Prop :=
  History (fun journal => journal.follows none = true)
    (fun previous journal => journal.follows (some previous) = true)

def OnlineOrder : List OnlineJournal → Prop :=
  OrderedRecords (·.revision) (·.plan) (·.phase)
    (fun journal => [journal.opened, journal.closed, journal.drained])
    (fun journal => [journal.cutoverStartedAtMs, journal.drainStartedAtMs])
    .drainBudgetExhausted .complete onlinePaths

theorem OnlinePhase.path_of_precedes {previous next : OnlinePhase} (hp : previous.precedes next)
    : next.path = previous.path ++ [next] := by
  cases previous <;> cases next <;> first | rfl | cases hp

theorem onlineRules
    : Rules (fun journal : OnlineJournal => journal.follows none)
        (fun previous journal => journal.follows (some previous))
        (fun journal => journal.revision.toNat) (·.phase) OnlinePhase.path where
  first_revision := by
    intro journal hf
    obtain ⟨valid, ho⟩ := OnlineJournal.first_of_follows hf
    rw [(OnlineJournal.valid_facts valid).2, ho]
    rfl
  first_path := by
    intro journal hf
    rw [(OnlineJournal.first_of_follows hf).2]
    rfl
  next_revision := fun step =>
    checkedSucc_eq_some.mp (OnlineJournal.succeeds_of_follows step).revision
  next_path := fun step =>
    OnlinePhase.path_of_precedes (OnlineJournal.succeeds_of_follows step).phase

theorem onlineOrder_of_history (history : OnlineHistory records) : OnlineOrder records := by
  refine orderedRecords_of_history onlineRules
    (fun step => (OnlineJournal.succeeds_of_follows step).plan) (fun step => ?_)
    (fun step => ?_) (fun {previous record} step => ?_) (fun phase => ?_) (by simp [onlinePaths])
    history
  · have hs := OnlineJournal.succeeds_of_follows step
    exact keptFields_cons hs.opened (keptFields_cons hs.closed
      (keptFields_cons hs.drained keptFields_nil))
  · have hs := OnlineJournal.succeeds_of_follows step
    exact keptFields_cons hs.cutoverStarted (keptFields_cons hs.drainStarted keptFields_nil)
  · have hp := (OnlineJournal.succeeds_of_follows step).phase
    refine ⟨fun he => ?_, fun hc => ?_⟩
    · rw [he] at hp
      cases hn : record.phase <;> rw [hn] at hp <;> cases hp
    · rw [hc] at hp
      cases hn : record.phase <;> rw [hn] at hp <;> cases hp
  · cases phase <;> decide

-- Switchback journals

def switchbackDrainPath : List SwitchbackPhase :=
  [.preparingPrevious, .switchingBack, .closingCandidate, .drainingCandidate]

def SwitchbackPhase.path : SwitchbackPhase → List SwitchbackPhase
  | preparingPrevious => [.preparingPrevious]
  | switchingBack => [.preparingPrevious, .switchingBack]
  | closingCandidate => [.preparingPrevious, .switchingBack, .closingCandidate]
  | drainingCandidate => switchbackDrainPath
  | drainBudgetExhausted => switchbackDrainPath ++ [.drainBudgetExhausted]
  | retiringCandidate => switchbackDrainPath ++ [.retiringCandidate]
  | committingPrevious => switchbackDrainPath ++ [.retiringCandidate, .committingPrevious]
  | complete => switchbackDrainPath ++ [.retiringCandidate, .committingPrevious, .complete]

def switchbackPaths : List (List SwitchbackPhase) :=
  [SwitchbackPhase.drainBudgetExhausted.path, SwitchbackPhase.complete.path]

def SwitchbackHistory : List SwitchbackJournal → Prop :=
  History (fun journal => journal.follows none = true)
    (fun previous journal => journal.follows (some previous) = true)

def SwitchbackOrder : List SwitchbackJournal → Prop :=
  OrderedRecords (·.revision) (·.plan) (·.phase)
    (fun journal => [journal.opened, journal.closed, journal.drained])
    (fun journal => [journal.switchStartedMs, journal.drainStartedMs])
    .drainBudgetExhausted .complete switchbackPaths

/-- The revisions of two phases decide their order: after a phase that is not terminal comes
the phase with the next revision.
-/
theorem SwitchbackPhase.path_of_revision {previous next : SwitchbackPhase}
    (hn : next.revision.toNat = previous.revision.toNat + 1)
    (hno : previous ≠ .complete) (hnot : previous ≠ .drainBudgetExhausted)
    : next.path = previous.path ++ [next] := by
  cases previous <;> cases next <;>
    first
    | rfl
    | exact absurd hn (by decide)
    | exact absurd rfl hno
    | exact absurd rfl hnot

theorem SwitchbackJournal.phase_of_follows {previous journal : SwitchbackJournal}
    (step : journal.follows (some previous))
    : journal.phase.path = previous.phase.path ++ [journal.phase] := by
  have hs := succeeds_of_follows step
  have hn := checkedSucc_eq_some.mp hs.revision
  rw [(valid_facts hs.valid).2, (valid_facts hs.previousValid).2] at hn
  exact SwitchbackPhase.path_of_revision hn hs.notComplete hs.notExhausted

theorem switchbackRules
    : Rules (fun journal : SwitchbackJournal => journal.follows none)
        (fun previous journal => journal.follows (some previous))
        (fun journal => journal.revision.toNat) (·.phase) SwitchbackPhase.path where
  first_revision := by
    intro journal hf
    rw [(SwitchbackJournal.first_of_follows hf).2]
    rfl
  first_path := by
    intro journal hf
    obtain ⟨valid, hz⟩ := SwitchbackJournal.first_of_follows hf
    rw [(SwitchbackJournal.valid_facts valid).2] at hz
    cases hp : journal.phase <;> rw [hp] at hz <;>
      first | rfl | exact absurd hz (by decide)
  next_revision := fun step =>
    checkedSucc_eq_some.mp (SwitchbackJournal.succeeds_of_follows step).revision
  next_path := SwitchbackJournal.phase_of_follows

theorem switchbackOrder_of_history (history : SwitchbackHistory records)
    : SwitchbackOrder records := by
  refine orderedRecords_of_history switchbackRules
    (fun step => (SwitchbackJournal.succeeds_of_follows step).plan) (fun step => ?_)
    (fun step => ?_) (fun step => ?_) (fun phase => ?_) (by simp [switchbackPaths]) history
  · have hs := SwitchbackJournal.succeeds_of_follows step
    exact keptFields_cons hs.opened (keptFields_cons hs.closed
      (keptFields_cons hs.drained keptFields_nil))
  · have hs := SwitchbackJournal.succeeds_of_follows step
    exact keptFields_cons hs.switchStarted (keptFields_cons hs.drainStarted keptFields_nil)
  · have hs := SwitchbackJournal.succeeds_of_follows step
    exact ⟨hs.notExhausted, hs.notComplete⟩
  · cases phase <;> decide

/-- Every sequence of accepted records, of a cutover or of a switchback, is in order. -/
theorem accepted_records_in_order
    : (∀ records : List OnlineJournal, OnlineHistory records → OnlineOrder records)
      ∧ (∀ records : List SwitchbackJournal, SwitchbackHistory records → SwitchbackOrder records) :=
  ⟨fun _ => onlineOrder_of_history, fun _ => switchbackOrder_of_history⟩

-- A whole cutover and a whole switchback

def sampleRelease (slot : ReleaseSlot) (version runnerId : String) : ActiveReleaseSlot where
  schema := activeSlotRuntimeSchema
  slot := slot
  version := version
  localRunner := some
    { runnerId
      manifestSha256 := "0123456789abcdef0123456789abcdef0123456789abcdef0123456789abcdef" }

def sampleProcess (slot : ReleaseSlot) (version instanceId invocationId : String)
    (processId : UInt32) (accepting : Bool)
    : RuntimeSnapshot where
  schema := "aster.control-runtime.v1"
  installationId := "installation"
  slot := slot
  instanceId := instanceId
  service := some { processId, invocationId }
  productVersion := version
  lifecycle :=
    { accepting, stopping := false, revision := 0, inFlight := 0, oldestRequestAgeMs := 0 }

def sampleAt (process : RuntimeSnapshot) (accepting : Bool) (revision : UInt64)
    : RuntimeSnapshot :=
  { process with lifecycle := { process.lifecycle with accepting, revision } }

def samplePrevious : RuntimeSnapshot :=
  sampleProcess .blue "1.0.0" "previous" "0123456789abcdef0123456789abcdef" 10 true

def sampleCandidate : RuntimeSnapshot :=
  sampleProcess .green "1.1.0" "candidate" "1123456789abcdef0123456789abcdef" 20 false

def samplePlan : OnlinePlan where
  jobId := "job"
  previous := sampleRelease .blue "1.0.0" "runner_0123456789abcdef0123456789abcdef"
  candidate := sampleRelease .green "1.1.0" "runner_1123456789abcdef0123456789abcdef"
  previousProcess := samplePrevious
  candidateProcess := sampleCandidate
  previousRunnerProcess := { processId := 11, invocationId := "2123456789abcdef0123456789abcdef" }
  candidateRunnerProcess := { processId := 21, invocationId := "3123456789abcdef0123456789abcdef" }
  readiness :=
    { manifestSha256 := "0123456789abcdef0123456789abcdef0123456789abcdef0123456789abcdef"
      models := ["model"]
      runnerIds := ["runner_1123456789abcdef0123456789abcdef"] }
  proxy :=
    { slot := .blue
      configurationSha256 := "0123456789abcdef0123456789abcdef0123456789abcdef0123456789abcdef"
      streamCloseDelayMs := 2000 }
  clock := { bootId := "boot", uptimeMs := 100 }
  drainBudgetMs := 1000

def sampleSwitching : OnlineJournal :=
  { OnlineJournal.start samplePlan with
    revision := 1
    phase := .switchingTraffic
    opened := some (sampleAt sampleCandidate true 1)
    cutoverStartedAtMs := some 110 }

def sampleClosing : OnlineJournal :=
  { sampleSwitching with
    revision := 2
    phase := .closingPrevious
    drainStartedAtMs := some 120 }

def sampleDraining : OnlineJournal :=
  { sampleClosing with
    revision := 3
    phase := .drainingPrevious
    closed := some (sampleAt samplePrevious false 1) }

def sampleRetiring : OnlineJournal :=
  { sampleDraining with
    revision := 4
    phase := .retiringPrevious
    drained := some (sampleAt samplePrevious false 1) }

def sampleCutover : List OnlineJournal :=
  [.start samplePlan, sampleSwitching, sampleClosing, sampleDraining, sampleRetiring,
    { sampleRetiring with revision := 5, phase := .committing },
    { sampleRetiring with revision := 6, phase := .complete }]

def sampleSwitchbackPlan : SwitchbackPlan where
  original := sampleDraining
  previous := sampleAt samplePrevious false 1
  candidate := sampleAt sampleCandidate true 1
  candidateBudget := { runtime := sampleAt sampleCandidate true 1, requestBudgetMs := 1000 }
  proxy := { samplePlan.proxy with slot := .green }
  clock := { bootId := "boot", uptimeMs := 200 }

def sampleSwitchingBack : SwitchbackJournal :=
  { SwitchbackJournal.start sampleSwitchbackPlan with
    revision := 1
    phase := .switchingBack
    opened := some (sampleAt samplePrevious true 2)
    switchStartedMs := some 210 }

def sampleClosingCandidate : SwitchbackJournal :=
  { sampleSwitchingBack with
    revision := 2
    phase := .closingCandidate
    drainStartedMs := some 220 }

def sampleDrainingCandidate : SwitchbackJournal :=
  { sampleClosingCandidate with
    revision := 3
    phase := .drainingCandidate
    closed := some (sampleAt sampleCandidate false 2) }

def sampleSwitchback : List SwitchbackJournal :=
  [.start sampleSwitchbackPlan, sampleSwitchingBack, sampleClosingCandidate,
    sampleDrainingCandidate,
    { sampleDrainingCandidate with revision := 4, phase := .drainBudgetExhausted }]

theorem sampleCutover_history : OnlineHistory sampleCutover := by
  refine ⟨fun record hf => ?_, ?_⟩
  · cases hf
    decide +kernel
  · change IsChain _ [_, _, _, _, _, _, _]
    simp only [isChain_cons_cons, isChain_singleton, and_true]
    decide +kernel

theorem sampleSwitchback_history : SwitchbackHistory sampleSwitchback := by
  refine ⟨fun record hf => ?_, ?_⟩
  · cases hf
    decide +kernel
  · change IsChain _ [_, _, _, _, _]
    simp only [isChain_cons_cons, isChain_singleton, and_true]
    decide +kernel

theorem sample_records_in_order : OnlineOrder sampleCutover ∧ SwitchbackOrder sampleSwitchback :=
  ⟨accepted_records_in_order.1 sampleCutover sampleCutover_history,
    accepted_records_in_order.2 sampleSwitchback sampleSwitchback_history⟩

end AsterTeam.Upgrade
