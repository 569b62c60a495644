import AsterTeam.Upgrade.Switchback

/-! The durable storage of an executor, and the rule for its calls: what must be stored, and
what must have been seen in the same step, before each command to a slot, the proxy or a
Runner.
-/

namespace AsterTeam.Upgrade

open Except (ok)
open Interaction (Program Safe safe_bind safe_require safe_guard safe_lift safe_mapError)
open Lifecycle (Instant)
open MachineInteger (checkedSucc)

variable {adapter : Adapter}

/-- The two journals. The first record of a switchback claims the forward journal. -/
structure UpgradeStorage where
  forward : Option OnlineJournal
  switchback : Option SwitchbackJournal
  deriving DecidableEq

/-- Saving is a compare-and-swap on the record before, which may take effect although its
reply is an error. All other calls are answered arbitrarily and store nothing.
-/
def UpgradeAnswers (storage : UpgradeStorage)
    : (call : UpgradeCall adapter) → UpgradeReply adapter call → UpgradeStorage → Prop
  | .assertCurrent journal, reply, next =>
    next = storage
    ∧ (reply = ok () → storage.forward = some journal ∧ storage.switchback = none)
  | .save previous value, reply, next =>
    (storage.forward = previous ∧ storage.switchback = none
      ∧ next = { storage with forward := some value })
    ∨ (next = storage ∧ reply ≠ ok ())
  | .assertCurrentSwitchback journal, reply, next =>
    next = storage ∧ (reply = ok () → storage.switchback = some journal)
  | .saveSwitchback previous value, reply, next =>
    (storage.switchback = previous
      ∧ (previous = none → storage.forward = some value.plan.original)
      ∧ next = { storage with switchback := some value })
    ∨ (next = storage ∧ reply ≠ ok ())
  | _, _, next => next = storage

-- The rule

/-- The candidate was read open one revision after the plan and was ready, and the previous
slot was read still accepting at the revision of the plan.
-/
structure SwitchEvidence (seen : List (UpgradeEvent adapter)) (plan : OnlinePlan)
    (snapshot : RuntimeSnapshot)
    : Prop where
  read : ⟨.status .candidate, ok snapshot⟩ ∈ seen
  process : snapshot.sameProcess plan.candidateProcess = true
  accepting : snapshot.lifecycle.accepting = true
  revision
    : checkedSucc plan.candidateProcess.lifecycle.revision = some snapshot.lifecycle.revision
  ready
    : ∃ permit, ⟨.readiness .candidate snapshot plan.readiness, ok permit⟩ ∈ seen
  previous
    : ∃ old : RuntimeSnapshot,
        ⟨.status .previous, ok old⟩ ∈ seen
        ∧ old.sameProcess plan.previousProcess = true
        ∧ old.lifecycle.accepting = true
        ∧ old.lifecycle.revision = plan.previousProcess.lifecycle.revision

/-- A stored snapshot of a closed process without requests, at the revision of its closing. -/
structure DrainEvidence (closed drained : Option RuntimeSnapshot) (snapshot : RuntimeSnapshot)
    : Prop where
  stored : drained = some snapshot
  empty : snapshot.lifecycle.inFlight = 0
  closed
    : ∃ closing : RuntimeSnapshot,
        closed = some closing ∧ snapshot.sameProcess closing = true
        ∧ snapshot.lifecycle.revision = closing.lifecycle.revision
  accepting : snapshot.lifecycle.accepting = false
  stopping : snapshot.lifecycle.stopping = false

/-- The previous slot was read open at the revision of its opening and was ready. -/
structure SwitchBackEvidence (seen : List (UpgradeEvent adapter)) (journal : SwitchbackJournal)
    : Prop where
  previous
    : ∃ old opened : RuntimeSnapshot,
        journal.opened = some opened ∧ ⟨.status .previous, ok old⟩ ∈ seen
        ∧ old.sameProcess opened = true ∧ old.lifecycle.accepting = true
        ∧ old.lifecycle.revision = opened.lifecycle.revision
        ∧ ∃ permit, ⟨.readiness .previous old journal.plan.previousReadiness, ok permit⟩ ∈ seen

/-- Control and Runner of the plan's previous slot have been reported as exited. -/
def ForwardExits (plan : OnlinePlan) (seen : List (UpgradeEvent adapter)) : Prop :=
  ∃ journal drained,
    journal.plan = plan ∧ DrainEvidence journal.closed journal.drained drained
    ∧ ⟨.observeControl drained, ok ProcessProgress.exited⟩ ∈ seen
    ∧ ⟨.retire journal, ok ProcessProgress.exited⟩ ∈ seen

/-- Control and Runner of the plan's candidate slot have been reported as exited. -/
def SwitchbackExits (plan : SwitchbackPlan) (seen : List (UpgradeEvent adapter)) : Prop :=
  ∃ journal drained,
    journal.plan = plan ∧ DrainEvidence journal.closed journal.drained drained
    ∧ ⟨.observeControl drained, ok ProcessProgress.exited⟩ ∈ seen
    ∧ ⟨.retireCandidateRunner journal, ok ProcessProgress.exited⟩ ∈ seen

/-- The forward journal is the stored one and has not been claimed. -/
structure UpgradeStorage.Forward (storage : UpgradeStorage) (journal : OnlineJournal)
    : Prop where
  stored : storage.forward = some journal
  unclaimed : storage.switchback = none

def UpgradeRule (storage : UpgradeStorage) (seen : List (UpgradeEvent adapter))
    : UpgradeCall adapter → Prop
  | .openAdmission .candidate _ =>
    ∃ journal, storage.Forward journal ∧ journal.phase = .openingCandidate
  | .switchTo snapshot =>
    ∃ journal, storage.Forward journal ∧ SwitchEvidence seen journal.plan snapshot
  | .closeAdmission .previous _ =>
    ∃ journal, storage.Forward journal
      ∧ ∃ traffic : RuntimeSnapshot,
          ⟨.traffic, ok traffic⟩ ∈ seen
          ∧ traffic.sameProcess journal.plan.candidateProcess = true
  | .retireDrained .previous drained =>
    ∃ journal, storage.Forward journal ∧ journal.phase = .retiringPrevious
      ∧ DrainEvidence journal.closed journal.drained drained
  | .retire journal =>
    storage.Forward journal ∧ journal.phase = .retiringPrevious
      ∧ ∃ drained,
          DrainEvidence journal.closed journal.drained drained
          ∧ ⟨.observeControl drained, ok ProcessProgress.exited⟩ ∈ seen
  | .commit journal => storage.Forward journal ∧ journal.phase = .committing
  | .save previous next =>
    next.follows previous = true
      ∧ (∀ journal, previous = some journal → storage.Forward journal)
      ∧ (next.phase = .committing → ForwardExits next.plan seen)
  | .openAdmission .previous _ =>
    ∃ journal, storage.switchback = some journal ∧ journal.phase = .preparingPrevious
  | .switchBack journal =>
    storage.switchback = some journal ∧ SwitchBackEvidence seen journal
  | .closeAdmission .candidate _ =>
    ∃ journal, storage.switchback = some journal
      ∧ ⟨.trafficSlot journal, ok journal.plan.original.plan.previous.slot⟩ ∈ seen
  | .retireDrained .candidate drained =>
    ∃ journal, storage.switchback = some journal ∧ journal.phase = .retiringCandidate
      ∧ DrainEvidence journal.closed journal.drained drained
  | .retireCandidateRunner journal =>
    storage.switchback = some journal ∧ journal.phase = .retiringCandidate
      ∧ ∃ drained,
          DrainEvidence journal.closed journal.drained drained
          ∧ ⟨.observeControl drained, ok ProcessProgress.exited⟩ ∈ seen
  | .commitPrevious journal =>
    storage.switchback = some journal ∧ journal.phase = .committingPrevious
  | .saveSwitchback previous next =>
    next.follows previous = true
      ∧ (∀ journal, previous = some journal → storage.switchback = some journal)
      ∧ (next.phase = .committingPrevious → SwitchbackExits next.plan seen)
  | .now | .assertCurrent _ | .traffic | .status _ | .readiness _ _ _ | .observeControl _
  | .assertCurrentSwitchback _ | .trafficSlot _ => True

abbrev Keeps {Error α : Type} (post : α → UpgradeStorage → List (UpgradeEvent adapter) → Prop)
    (program : Program (upgradeInterface adapter) Error α) (storage : UpgradeStorage)
    (seen : List (UpgradeEvent adapter))
    : Prop :=
  Safe UpgradeAnswers UpgradeRule post program storage seen

-- The calls

section

variable {Error : Type}

/-- A call that stores nothing. Afterwards its reply has been seen, and what had been. -/
theorem keeps_ask (silent : ∀ reply next, UpgradeAnswers storage call reply next → next = storage)
    (permitted : rule storage seen call)
    (hh : ∀ reply after, seen ⊆ after → ⟨call, reply⟩ ∈ after → post reply storage after)
    : Safe UpgradeAnswers rule post (ask call : Program (upgradeInterface adapter) Error _)
        storage seen := by
  refine ⟨permitted, fun reply next ha => ?_⟩
  rw [silent reply next ha]
  exact hh reply _ (List.subset_append_left _ _)
    (List.mem_append_right _ (List.mem_singleton.mpr rfl))

theorem keeps_readClock (hh : ∀ reply after, seen ⊆ after → post reply storage after)
    : Keeps post (readClock : Program (upgradeInterface adapter) Error Instant) storage seen :=
  keeps_ask (fun _ _ => id) trivial fun reply after hg _ =>
    hh reply after hg

theorem keeps_before {post : Unit → UpgradeStorage → List (UpgradeEvent adapter) → Prop}
    (hh : ∀ after, seen ⊆ after → post () storage after)
    : Keeps post (before deadline) storage seen := by
  refine safe_bind (keeps_readClock fun current after hg => ?_)
  exact safe_require fun _ => hh after hg

variable {post : RuntimeSnapshot → UpgradeStorage → List (UpgradeEvent adapter) → Prop}

theorem keeps_status
    (hh : ∀ snapshot after, seen ⊆ after → ⟨.status side, ok snapshot⟩ ∈ after
        → post snapshot storage after)
    : Keeps post (status side) storage seen := by
  refine safe_bind (keeps_ask (fun _ _ => id) trivial fun reply after hg hs => ?_)
  refine safe_lift fun snapshot ho => ?_
  rw [ho] at hs
  exact hh snapshot after hg hs

variable {observed : RuntimeSnapshot}

theorem keeps_readiness
    {post : adapter.Permit → UpgradeStorage → List (UpgradeEvent adapter) → Prop}
    (hh : ∀ permit after, seen ⊆ after
        → ⟨.readiness side observed expected, ok permit⟩ ∈ after
        → post permit storage after)
    : Keeps post (readiness side observed expected) storage seen := by
  refine safe_bind (keeps_ask (fun _ _ => id) trivial fun reply after hg hs => ?_)
  refine safe_lift fun permit ho => ?_
  rw [ho] at hs
  exact hh permit after hg hs

theorem keeps_traffic
    (hh : ∀ snapshot after, seen ⊆ after → ⟨.traffic, ok snapshot⟩ ∈ after
        → post snapshot storage after)
    : Keeps post traffic storage seen := by
  refine safe_bind (keeps_ask (fun _ _ => id) trivial fun reply after hg hs => ?_)
  refine safe_lift fun snapshot ho => ?_
  rw [ho] at hs
  exact hh snapshot after hg hs

theorem keeps_openAdmission (permitted : UpgradeRule storage seen (.openAdmission side permit))
    (hh : ∀ snapshot after, seen ⊆ after → post snapshot storage after)
    : Keeps post (openAdmission side permit) storage seen := by
  refine safe_bind (keeps_ask (fun _ _ => id) permitted fun reply after hg _ => ?_)
  exact safe_lift fun snapshot _ => hh snapshot after hg

theorem keeps_closeAdmission (permitted : UpgradeRule storage seen (.closeAdmission side observed))
    (hh : ∀ snapshot after, seen ⊆ after → post snapshot storage after)
    : Keeps post (closeAdmission side observed) storage seen := by
  refine safe_bind (keeps_ask (fun _ _ => id) permitted fun reply after hg _ => ?_)
  exact safe_lift fun snapshot _ => hh snapshot after hg

end

-- The retirement of a Control

section

variable {storage : UpgradeStorage} {seen : List (UpgradeEvent adapter)} {side : Side}
  {drained observed : RuntimeSnapshot}

def UpgradeCall.ofRetirement (side : Side) (drained : RuntimeSnapshot) : UpgradeCall adapter → Prop
  | .now => True
  | .observeControl pinned => pinned = drained
  | .status other => other = side
  | .retireDrained other snapshot => other = side ∧ snapshot = drained
  | _ => False

abbrev RetirementRule (storage : UpgradeStorage) (side : Side) (drained : RuntimeSnapshot)
    (state : UpgradeStorage) (_seen : List (UpgradeEvent adapter)) (call : UpgradeCall adapter)
    : Prop :=
  state = storage ∧ call.ofRetirement side drained

/-- A program that makes the calls of a retirement step only, and stores nothing. -/
abbrev Retires {α : Type} (side : Side) (drained : RuntimeSnapshot)
    (post : α → UpgradeStorage → List (UpgradeEvent adapter) → Prop)
    (program : Retirement adapter α) (storage : UpgradeStorage) (seen : List (UpgradeEvent adapter))
    : Prop :=
  Safe UpgradeAnswers (RetirementRule storage side drained) post program storage seen

theorem retires_observe
    (hh : ∀ state after, seen ⊆ after → ⟨.observeControl drained, ok state⟩ ∈ after
        → post state storage after)
    : Retires side drained post (observe drained deadline) storage seen := by
  refine safe_bind (keeps_ask (fun _ _ => id) ⟨rfl, trivial⟩ fun start first hg _ => ?_)
  refine safe_guard fun _ => ?_
  refine safe_bind (keeps_ask (fun _ _ => id) ⟨rfl, rfl⟩ fun reply second further hs => ?_)
  refine safe_bind (safe_lift fun state ho => ?_)
  rw [ho] at hs
  refine safe_bind (keeps_ask (fun _ _ => id) ⟨rfl, trivial⟩ fun finish third last _ => ?_)
  refine safe_guard fun _ => ?_
  exact hh state third (fun event he => last (further (hg he))) (last hs)

/-- What a retirement step ends with: an exit only where the process manager has reported
one.
-/
def RetirementPost (drained : RuntimeSnapshot) (storage : UpgradeStorage)
    (seen : List (UpgradeEvent adapter))
    (progress : ControlRetirementProgress) (stored : UpgradeStorage)
    (after : List (UpgradeEvent adapter))
    : Prop :=
  stored = storage ∧ seen ⊆ after
  ∧ (progress = .exited → ⟨.observeControl drained, ok ProcessProgress.exited⟩ ∈ after)

theorem retires_confirmExit
    : Retires side drained (RetirementPost drained storage seen) (confirmExit drained deadline)
        storage seen := by
  refine safe_bind (retires_observe fun state after hg hs => ?_)
  refine ⟨rfl, hg, fun exited => ?_⟩
  split_ifs at exited with he
  rw [he] at hs
  exact hs

theorem retires_reconcileFailure
    : Retires side drained (RetirementPost drained storage seen)
        (observe drained deadline >>= fun state => reconcileFailure state error) storage
        seen := by
  refine safe_bind (retires_observe fun state after hg hs => ?_)
  cases state with
  | exited => exact ⟨rfl, hg, fun _ => hs⟩
  | stopping => exact ⟨rfl, hg, nofun⟩
  | running => trivial

theorem RetirementPost.weaken (hg : earlier ⊆ seen)
    (post : RetirementPost drained storage seen progress stored after)
    : RetirementPost drained storage earlier progress stored after :=
  ⟨post.1, fun _ he => post.2.1 (hg he), post.2.2⟩

theorem retires_commandRetirement
    : Retires side drained (RetirementPost drained storage seen)
        (commandRetirement side drained observed deadline) storage seen := by
  unfold commandRetirement
  split_ifs
  · exact retires_confirmExit
  · trivial
  · refine safe_bind (keeps_ask (fun _ _ => id) ⟨rfl, rfl, rfl⟩ fun reply after hg _ => ?_)
    cases reply with
    | ok reply =>
      dsimp only
      split_ifs
      · exact retires_confirmExit.weaken fun _ _ _ post => post.weaken hg
      · trivial
    | error error =>
      exact retires_reconcileFailure.weaken fun _ _ _ post => post.weaken hg

theorem retires_retireRunning
    : Retires side drained (RetirementPost drained storage seen)
        (retireRunning side drained deadline) storage seen := by
  refine safe_bind (keeps_ask (fun _ _ => id) ⟨rfl, rfl⟩ fun reply after hg _ => ?_)
  cases reply with
  | error error => exact retires_reconcileFailure.weaken fun _ _ _ post => post.weaken hg
  | ok observed =>
    refine safe_bind (keeps_ask (fun _ _ => id) ⟨rfl, trivial⟩ fun current later further _ => ?_)
    refine safe_guard fun _ => ?_
    exact retires_commandRetirement.weaken fun _ _ _ post =>
      post.weaken fun _ he => further (hg he)

theorem retires_retireControl
    : Retires side drained (RetirementPost drained storage seen)
        (retireControl side drained deadline) storage seen := by
  refine safe_guard fun _ => ?_
  refine safe_bind (retires_observe fun state after hg hs => ?_)
  cases state with
  | exited => exact ⟨rfl, hg, fun _ => hs⟩
  | stopping => exact ⟨rfl, hg, nofun⟩
  | running => exact retires_retireRunning.weaken fun _ _ _ post => post.weaken hg

theorem keeps_retireControl
    (permitted : ∀ seen : List (UpgradeEvent adapter),
          UpgradeRule storage seen (.retireDrained side drained))
    : Keeps (RetirementPost drained storage seen) (retireControl side drained deadline) storage
        seen := by
  refine retires_retireControl.loosen fun state seen call hc => ?_
  obtain ⟨rfl, hc⟩ := hc
  unfold UpgradeCall.ofRetirement at hc
  split at hc
  · trivial
  · trivial
  · trivial
  · obtain ⟨rfl, rfl⟩ := hc
    exact permitted seen
  · exact hc.elim

end

end AsterTeam.Upgrade
