import AsterTeam.LicenseState.AntiReplay

/-! The clock of an installation: what a licence store remembers of the times at which it was
used, although close observations are not written and stored times are truncated.
-/

namespace AsterTeam

open Durable (lift write after_nil)
open List (nil_append mem_append mem_singleton)
open Transition (Run)

inductive ObservingKind
  | initializeState
  | checkAndObserve
  | checkObserveAndTrackSeats (isOverLimit : Bool)
  | acceptReplacement

abbrev ObservingKind.Answer : ObservingKind → Type
  | .checkObserveAndTrackSeats _ => Option Int
  | _ => Unit

/-- A call of an operation that observes the clock, with the exclusive lease available or
not.
-/
structure ObservingCall (verify : List UInt8 → Option LicenseClaims) where
  kind : ObservingKind
  lease : Bool
  license : VerifiedProductLicense verify
  now : Int

section Clock

variable {verify : List UInt8 → Option LicenseClaims} (encoding : LicenseEncoding)
  (files : LicenseFiles) (call : ObservingCall verify)

def ObservingCall.program : StoreProgram call.kind.Answer :=
  match call with
  | ⟨.initializeState, lease, license, now⟩ => initializeState encoding lease license now
  | ⟨.checkAndObserve, lease, license, now⟩ => checkAndObserve encoding lease license now
  | ⟨.checkObserveAndTrackSeats isOverLimit, lease, license, now⟩ =>
    checkObserveAndTrackSeats encoding lease license isOverLimit now
  | ⟨.acceptReplacement, lease, license, now⟩ => acceptReplacement encoding lease license now

/-- A call that succeeds. A crash between two calls leaves the files as they are. -/
def ObservingStep (files : LicenseFiles) (call : ObservingCall verify) (next : LicenseFiles)
    : Prop :=
  ∃ writes answer,
    call.program encoding files = (writes, .ok answer) ∧ next = Durable.after files writes

/-- Nothing is written, and the error is that of the clock or the same at every time. -/
def ObservingCall.Refused : Prop :=
  ∃ error,
    call.program encoding files = ([], .error error)
    ∧ (error = .clockRollback
      ∨ ∀ now,
          ({ call with now } : ObservingCall verify).program encoding files = ([], .error error))

/-- Stored times have no digits below a millisecond. -/
def LicenseFiles.Whole : Prop := ∀ current ∈ files.history, current.lastSeenAt % 1000000 = 0

/-- The common start of the calls that need a history. -/
def observing {α : Type} (license : VerifiedProductLicense verify)
    (rest : Int → StateClaims → StateClaims → StoreProgram α) (now : Int) : StoreProgram α := do
  requireNoPendingUpdate encoding
  let current ← load encoding
  let updated ← lift (observe encoding.digest current license now)
  rest now current updated

def observeSeats (lease isOverLimit : Bool) (now : Int) (current updated : StateClaims)
    : StoreProgram (Option Int) := do
  persistObservation lease current (trackSeats updated isOverLimit now) now
  return (trackSeats updated isOverLimit now).seatOverLimitFirstObservedAt

variable {encoding files call}

/-- Only the last check of the start depends on the time. -/
theorem observing_cases {α : Type} (license : VerifiedProductLicense verify)
    (rest : Int → StateClaims → StateClaims → StoreProgram α)
    : (∃ error, ∀ now, observing encoding license rest now files = ([], .error error))
      ∨ ∃ current,
          files.history = some current
          ∧ ∀ now,
              observing encoding license rest now files
              = if now + clockRollbackTolerance < current.lastSeenAt then
                  ([], .error .clockRollback)
                else rest now current (observed encoding.digest current license now) files := by
  simp only [observing, bind, Durable.bind]
  rcases silent_requireNoPendingUpdate.cases files with ⟨error, pending⟩ | ⟨_, pending⟩ <;>
    rw [pending]
  · exact .inl ⟨error, fun _ => rfl⟩
  simp only [after_nil, nil_append]
  rcases silent_load.cases files with ⟨error, loaded⟩ | ⟨current, loaded⟩ <;> rw [loaded]
  · exact .inl ⟨error, fun _ => rfl⟩
  simp only [after_nil, nil_append, lift, observe, validateObservation]
  cases validateLicenseProgress encoding.digest current license with
  | error error => exact .inl ⟨error, fun _ => rfl⟩
  | ok _ =>
    refine .inr ⟨current, (load_eq_ok (by rw [loaded])).1, fun now => ?_⟩
    split_ifs <;> rfl

theorem initializeState_cases (lease : Bool) (license : VerifiedProductLicense verify)
    : (∃ error, ∀ now, initializeState encoding lease license now files = ([], .error error))
      ∨ files.history = none
        ∧ ∀ now,
            initializeState encoding lease license now files
            = ([.history (stateFromLicense encoding.digest license now)], .ok ()) := by
  cases lease with
  | false => exact .inl ⟨_, fun _ => rfl⟩
  | true =>
    rcases (@silent_requireNoPendingUpdate encoding).cases files with
      ⟨error, pending⟩ | ⟨_, pending⟩
    · refine .inl ⟨error, fun now => ?_⟩
      simp [initializeState, bind, Durable.bind, Durable.require, lift, pending]
    · cases recorded : files.history with
      | none =>
        refine .inr ⟨rfl, fun now => ?_⟩
        simp [initializeState, bind, Durable.bind, Durable.require, lift, pending, Durable.get,
          recorded, write]
      | some history =>
        refine .inl ⟨.alreadyInitialized, fun now => ?_⟩
        simp [initializeState, bind, Durable.bind, Durable.require, lift, pending, Durable.get,
          recorded]

variable {license : VerifiedProductLicense verify} {now : Int}

theorem eq_ok_of_bind_pure {program : StoreProgram Unit} {writes : List FileWrite}
    {answer value : Option Int}
    (ended : (program >>= fun _ => pure answer) files = (writes, .ok value))
    : program files = (writes, .ok ()) := by
  simp only [bind, Durable.bind] at ended
  cases hp : program files with
  | mk written result =>
    rw [hp] at ended
    cases result with
    | error error => cases ended
    | ok _ => simpa [pure, Durable.pure] using congrArg Prod.fst ended

theorem observing_eq_ok {α : Type} (rest : Int → StateClaims → StateClaims → StoreProgram α)
    {writes : List FileWrite} {value : α}
    (ended : observing encoding license rest now files = (writes, .ok value))
    : ∃ current,
        files.history = some current
        ∧ rest now current (observed encoding.digest current license now) files
          = (writes, .ok value) := by
  rcases observing_cases license rest with ⟨error, refused⟩ | ⟨current, recorded, runs⟩
  · cases (refused now).symm.trans ended
  · rw [runs] at ended
    split_ifs at ended
    · cases ended
    · exact ⟨current, recorded, ended⟩

/-- A stored time, in whole milliseconds, that is not before the record and behind a call by
less than the interval of the writes.
-/
structure Remembers (seen : Int) (recorded : Option StateClaims) (now : Int) : Prop where
  whole : seen % 1000000 = 0
  close : now < seen + observationPersistInterval
  later : ∀ current ∈ recorded, current.lastSeenAt ≤ seen

variable {current : StateClaims}

theorem observed_remembers (whole : current.lastSeenAt % 1000000 = 0)
    : Remembers (observed encoding.digest current license now).lastSeenAt (some current) now := by
  have seen
      : (observed encoding.digest current license now).lastSeenAt
        = if now > current.lastSeenAt then now - now % 1000000 else current.lastSeenAt := rfl
  rw [seen]
  refine ⟨?_, ?_, fun other isOther => ?_⟩
  · split_ifs <;> omega
  · rw [observationPersistInterval]
    split_ifs <;> omega
  · cases isOther
    split_ifs <;> omega

/-- An observation is written, or it is close to the one that is stored. -/
theorem persistObservation_remembers
    (ended : persistObservation lease current updated now files = (writes, .ok ()))
    (recorded : files.history = some current) (whole : current.lastSeenAt % 1000000 = 0)
    (observation : Remembers updated.lastSeenAt (some current) now)
    : ∃ state,
        (Durable.after files writes).history = some state
        ∧ Remembers state.lastSeenAt (some current) now := by
  unfold persistObservation guardObservationChange at ended
  split at ended
  · cases allowed : (current.lastLicenseSha256 = updated.lastLicenseSha256 || lease : Bool) <;>
      rw [allowed] at ended <;> cases ended
    exact ⟨updated, rfl, observation⟩
  · rename_i coalesced
    cases ended
    simp only [shouldPersistObservation, Bool.or_eq_true, decide_eq_true_eq, not_or] at coalesced
    exact ⟨current, recorded, whole, not_le.mp coalesced.2, fun _ same => by cases same; rfl⟩

theorem trackSeats_lastSeenAt (updated : StateClaims) (isOverLimit : Bool)
    : (trackSeats updated isOverLimit now).lastSeenAt = updated.lastSeenAt := by
  unfold trackSeats
  split_ifs <;> rfl

/-- Every call that succeeds is remembered. -/
theorem ObservingStep.remembers {next : LicenseFiles}
    (step : ObservingStep encoding files call next) (whole : files.Whole)
    : ∃ state, next.history = some state ∧ Remembers state.lastSeenAt files.history call.now := by
  obtain ⟨writes, answer, ended, rfl⟩ := step
  obtain ⟨kind, lease, license, now⟩ := call
  cases kind with
  | initializeState =>
    rcases initializeState_cases lease license with ⟨error, refused⟩ | ⟨recorded, writing⟩
    · cases (refused now).symm.trans ended
    · cases (writing now).symm.trans ended
      rw [recorded]
      refine ⟨_, rfl, ?_, ?_, fun _ absent => absurd absent (Option.not_mem_none _)⟩
      · simp only [stateFromLicense, formatTime]
        omega
      · simp only [stateFromLicense, formatTime, observationPersistInterval]
        omega
  | checkAndObserve =>
    obtain ⟨current, recorded, ended⟩ :=
      observing_eq_ok (fun now current updated => persistObservation lease current updated now)
        ended
    rw [recorded]
    exact persistObservation_remembers ended recorded (whole _ recorded)
      (observed_remembers (whole _ recorded))
  | checkObserveAndTrackSeats isOverLimit =>
    obtain ⟨current, recorded, ended⟩ := observing_eq_ok (observeSeats lease isOverLimit) ended
    rw [recorded]
    refine persistObservation_remembers (eq_ok_of_bind_pure ended) recorded (whole _ recorded) ?_
    rw [trackSeats_lastSeenAt]
    exact observed_remembers (whole _ recorded)
  | acceptReplacement =>
    cases lease with
    | false => cases ended
    | true =>
      obtain ⟨current, recorded, ended⟩ :=
        observing_eq_ok (fun _ _ updated => write (.history updated)) ended
      cases ended
      exact ⟨_, rfl, recorded ▸ observed_remembers (whole _ recorded)⟩

/-- A call far before the stored time is refused. -/
theorem ObservingCall.refused (recorded : files.history = some current)
    (behind : call.now + clockRollbackTolerance < current.lastSeenAt)
    : call.Refused encoding files := by
  have observing {α : Type} (rest : Int → StateClaims → StateClaims → StoreProgram α)
      : ∃ error,
          observing encoding call.license rest call.now files = ([], .error error)
          ∧ (error = .clockRollback
            ∨ ∀ now, observing encoding call.license rest now files = ([], .error error)) := by
    rcases observing_cases call.license rest with ⟨error, refused⟩ | ⟨_, isRecorded, runs⟩
    · exact ⟨error, refused _, .inr refused⟩
    · cases recorded.symm.trans isRecorded
      exact ⟨_, (runs _).trans (if_pos behind), .inl rfl⟩
  obtain ⟨kind, lease, license, now⟩ := call
  cases kind with
  | initializeState =>
    rcases initializeState_cases lease license with ⟨error, refused⟩ | ⟨absent, _⟩
    · exact ⟨error, refused now, .inr refused⟩
    · rw [absent] at recorded
      cases recorded
  | checkAndObserve =>
    exact observing fun now current updated => persistObservation lease current updated now
  | checkObserveAndTrackSeats isOverLimit =>
    exact observing (observeSeats lease isOverLimit)
  | acceptReplacement =>
    cases lease with
    | false => exact ⟨_, rfl, .inr fun _ => rfl⟩
    | true => exact observing fun _ _ updated => write (.history updated)

-- Runs

/-- The stored time is not before the one at the start, and close to every call. -/
structure Watched (start : Option StateClaims) (past : List (ObservingCall verify))
    (files : LicenseFiles) : Prop where
  whole : files.Whole
  later : ∀ old ∈ start, ∃ current ∈ files.history, old.lastSeenAt ≤ current.lastSeenAt
  close
    : ∀ call ∈ past, ∃ current ∈ files.history,
        call.now < current.lastSeenAt + observationPersistInterval

theorem Watched.start (whole : files.Whole)
    : Watched files.history ([] : List (ObservingCall verify)) files :=
  ⟨whole, fun old ho => ⟨old, ho, le_rfl⟩, fun _ none => absurd none List.not_mem_nil⟩

variable {start : Option StateClaims} {past calls more : List (ObservingCall verify)}

theorem Watched.step {next : LicenseFiles} (step : ObservingStep encoding files call next)
    (watched : Watched start past files)
    : Watched start (past ++ [call]) next := by
  obtain ⟨state, hs, remembers⟩ := step.remembers watched.whole
  refine ⟨fun current hc => ?_, fun old ho => ?_, fun other hm => ?_⟩
  · cases hs.symm.trans hc
    exact remembers.whole
  · obtain ⟨current, hc, before⟩ := watched.later old ho
    exact ⟨state, hs, before.trans (remembers.later current hc)⟩
  · rcases mem_append.mp hm with earlier | own
    · obtain ⟨current, hc, close⟩ := watched.close other earlier
      have later := remembers.later current hc
      exact ⟨state, hs, by omega⟩
    · cases mem_singleton.mp own
      exact ⟨state, hs, remembers.close⟩

theorem Watched.run {next : LicenseFiles} (run : Run (ObservingStep encoding) files calls next)
    (watched : Watched start past files)
    : Watched start (past ++ calls) next :=
  run.history_invariant (fun step kept => kept.step step) watched

variable {first middle last : LicenseFiles}

/-- The stored time never decreases, and a call six minutes before one that succeeded is refused
and changes nothing.
-/
theorem clock_rollback_refused (run : Run (ObservingStep encoding) first calls middle)
    (moreRun : Run (ObservingStep encoding) middle more last) (whole : first.Whole)
    : (∀ old ∈ middle.history, ∃ current ∈ last.history, old.lastSeenAt ≤ current.lastSeenAt)
      ∧ ∀ call : ObservingCall verify,
          (∃ past ∈ calls ++ more, call.now ≤ past.now - 360000000000)
          → call.Refused encoding last := by
  have before := (Watched.start whole).run run
  refine ⟨((Watched.start before.whole).run moreRun).later, fun call behind => ?_⟩
  obtain ⟨past, hp, behind⟩ := behind
  obtain ⟨current, hc, close⟩ := (before.run moreRun).close past hp
  refine call.refused hc ?_
  rw [clockRollbackTolerance]
  rw [observationPersistInterval] at close
  omega

end Clock

/-- Two observations less than a minute apart, of which the second is not stored, and a later
one; then the clock goes back. -/
theorem sample_clock_rollback
    : ∃ files error,
        Run (ObservingStep sampleEncoding) LicenseFiles.empty
          [⟨.initializeState, true, sampleFirst, 720000000000⟩,
            ⟨.checkAndObserve, true, sampleFirst, 750000000000⟩,
            ⟨.checkObserveAndTrackSeats false, true, sampleFirst, 900000000000⟩] files
        ∧ ObservingCall.program sampleEncoding ⟨.checkAndObserve, true, sampleFirst, 540000000000⟩
            files
          = ([], .error error) := by
  have run
      : ∃ files,
          Run (ObservingStep sampleEncoding) LicenseFiles.empty
            [⟨.initializeState, true, sampleFirst, 720000000000⟩,
              ⟨.checkAndObserve, true, sampleFirst, 750000000000⟩,
              ⟨.checkObserveAndTrackSeats false, true, sampleFirst, 900000000000⟩] files :=
    ⟨_, .cons ⟨_, _, rfl, rfl⟩ (.cons ⟨_, _, rfl, rfl⟩ (.cons ⟨_, _, rfl, rfl⟩ (.nil _)))⟩
  obtain ⟨files, run⟩ := run
  have refused := (clock_rollback_refused run (.nil _)
    fun _ none => absurd none (Option.not_mem_none _)).2
    ⟨.checkAndObserve, true, sampleFirst, 540000000000⟩
    ⟨⟨.checkObserveAndTrackSeats false, true, sampleFirst, 900000000000⟩, by simp, by decide⟩
  obtain ⟨error, hr, _⟩ := refused
  exact ⟨files, error, run, hr⟩

-- The whole store

section Store

variable {verify : List UInt8 → Option LicenseClaims} {encoding : LicenseEncoding}

theorem HistoryMove.lastSeenAt_le (move : HistoryMove verify encoding.digest before next)
    (whole : ∀ current ∈ before, current.lastSeenAt % 1000000 = 0)
    : next.lastSeenAt % 1000000 = 0
      ∧ ∀ current ∈ before, current.lastSeenAt ≤ next.lastSeenAt := by
  cases move with
  | observes moves =>
    cases moves with
    | first license now =>
      refine ⟨?_, fun _ absent => absurd absent (Option.not_mem_none _)⟩
      simp only [stateFromLicense, formatTime]
      omega
    | observed license now =>
      have remembers := @observed_remembers verify encoding license now _ (whole _ rfl)
      exact ⟨remembers.whole, remembers.later⟩
  | switches moves =>
    cases moves with
    | switched license _ now =>
      have remembers := @observed_remembers verify encoding license now _ (whole _ rfl)
      exact ⟨remembers.whole, remembers.later⟩
  | repeats => exact ⟨whole _ rfl, fun _ same => (Option.some.inj same ▸ le_rfl)⟩

theorem run_lastSeenAt_le (run : Run (HistoryStep verify encoding.digest) before histories last)
    (whole : ∀ current ∈ before, current.lastSeenAt % 1000000 = 0)
    : (∀ current ∈ last, current.lastSeenAt % 1000000 = 0)
      ∧ ∀ old ∈ before, ∃ current ∈ last, old.lastSeenAt ≤ current.lastSeenAt := by
  induction run with
  | nil => exact ⟨whole, fun old ho => ⟨old, ho, le_rfl⟩⟩
  | cons head _ ih =>
    cases head with
    | record move =>
      obtain ⟨hw, bound⟩ := move.lastSeenAt_le whole
      obtain ⟨wholeLast, later⟩ := ih fun _ same => Option.some.inj same ▸ hw
      obtain ⟨current, hc, le⟩ := later _ rfl
      exact ⟨wholeLast, fun old ho => ⟨current, hc, (bound old ho).trans le⟩⟩

/-- Whatever the processes do and wherever they stop, no later call goes back more than five
minutes behind a recorded time.
-/
theorem recorded_time_binds_store {target : String} {middle last : StoreSystem verify}
    {labels more : List (StoreEvent verify × List FileWrite)}
    (run : Run (StoreStep encoding target) .initial labels middle)
    (moreRun : Run (StoreStep encoding target) middle more last) {old : StateClaims}
    (recorded : middle.files.history = some old) (call : ObservingCall verify)
    (behind : call.now + clockRollbackTolerance < old.lastSeenAt)
    : call.Refused encoding last.files := by
  have idle : @LicenseFiles.Intends verify encoding [] .empty := .of_idle rfl
  have writes := run_fileMove run
  have histories := run_historyStep (run_fileMove moreRun) (run_intends writes idle)
  have whole := (run_lastSeenAt_le (run_historyStep writes idle) nofun).1
  obtain ⟨current, hc, le⟩ := (run_lastSeenAt_le histories whole).2 old recorded
  exact call.refused hc (behind.trans_le le)

end Store

theorem sample_recorded_time_binds
    : ∃ system : StoreSystem sampleVerify,
        system.files.pending = none
        ∧ (ObservingCall.program sampleEncoding
            ⟨.acceptReplacement, true, sampleSecond, 720000000000⟩ system.files).2 = .ok ()
        ∧ ObservingCall.Refused sampleEncoding system.files
            ⟨.acceptReplacement, true, sampleSecond, 0⟩ :=
  ⟨_, rfl, rfl, @recorded_time_binds_store _ sampleEncoding "target" _ _ _ _
    (.cons (.operation (.installDocument sampleFirst 720000000000) List.prefix_rfl) (.nil _))
    (.cons (.operation (.installDocument sampleSecond 720000000000) List.prefix_rfl) (.nil _)) _ rfl
    _ (by decide)⟩

end AsterTeam
