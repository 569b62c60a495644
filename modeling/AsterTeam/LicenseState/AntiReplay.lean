import AsterTeam.Library.Transition
import AsterTeam.LicenseState.StorePrograms

/-! No document returns. The processes refine a machine of single writes, and this one a
machine of recorded histories, on which a document that was replaced stays behind the
recorded position.
-/

namespace AsterTeam

open List

section

variable {verify : List UInt8 → Option LicenseClaims} {digest : List UInt8 → String}

/-- What can be recorded after a history: what the progress rule or a switch permits, or the
same once more when a recovery repeats it.
-/
inductive HistoryMove (verify : List UInt8 → Option LicenseClaims)
    (digest : List UInt8 → String)
    : Option StateClaims → StateClaims → Prop
  | observes {recorded : Option StateClaims} {next : StateClaims} {source : List UInt8}
    (moves : Observes verify digest recorded next source)
    : HistoryMove verify digest recorded next
  | switches {recorded : Option StateClaims} {next : StateClaims} {source : List UInt8}
    (moves : Switches verify digest recorded next source)
    : HistoryMove verify digest recorded next
  | repeats (history : StateClaims)
    : HistoryMove verify digest (some history) history

inductive HistoryStep (verify : List UInt8 → Option LicenseClaims)
    (digest : List UInt8 → String)
    : Option StateClaims → StateClaims → Option StateClaims → Prop
  | record {recorded : Option StateClaims} {next : StateClaims}
    (move : HistoryMove verify digest recorded next)
    : HistoryStep verify digest recorded next (some next)

/-- A history names a document and, unless this is a public free one, has its position. -/
def StateClaims.Recorded (verify : List UInt8 → Option LicenseClaims)
    (digest : List UInt8 → String) (history : StateClaims)
    : Prop :=
  ∃ document : VerifiedProductLicense verify,
    history.Names digest document ∧ (isPublicFree document = false → history.At document)

/-- A document that no later history can name. -/
structure StateClaims.Retires (digest : List UInt8 → String) (history : StateClaims)
    (document : VerifiedProductLicense verify)
    : Prop where
  superseded : history.Supersedes digest document
  unnamed : history.lastLicenseSha256 ≠ some (digest document.source)

def DistinctDigests (verify : List UInt8 → Option LicenseClaims)
    (digest : List UInt8 → String)
    : Prop :=
  ∀ first second : VerifiedProductLicense verify,
    digest first.source = digest second.source → first.source = second.source

variable {first second : VerifiedProductLicense verify}

theorem VerifiedProductLicense.eq_of_source (same : first.source = second.source)
    : first = second := by
  obtain ⟨source, claims, hv⟩ := first
  obtain ⟨otherSource, otherClaims, otherVerified⟩ := second
  cases same
  cases hv.symm.trans otherVerified
  rfl

theorem DistinctDigests.eq (hd : DistinctDigests verify digest)
    (same : digest first.source = digest second.source)
    : first = second :=
  VerifiedProductLicense.eq_of_source (hd first second same)

variable {next : StateClaims}

theorem HistoryMove.recorded {recorded : Option StateClaims}
    (move : HistoryMove verify digest recorded next)
    (before : ∀ history ∈ recorded, history.Recorded verify digest)
    : next.Recorded verify digest := by
  cases move with
  | observes hm =>
    cases hm with
    | first license now => exact ⟨license, ⟨rfl, rfl⟩, fun _ => ⟨rfl, rfl⟩⟩
    | observed license now seats ha =>
      refine ⟨license, ⟨rfl, rfl⟩, fun paid => ?_⟩
      have position := observed_at now ha (by simp [isRecordedFree, paid])
      exact ⟨position.issuedAt, position.sequence⟩
  | switches hm =>
    cases hm with
    | switched license free now recorded ha hf =>
      refine ⟨free, ⟨rfl, rfl⟩, fun paid => ?_⟩
      rw [hf] at paid
      cases paid
  | repeats => exact before _ rfl

variable {history : StateClaims}

theorem HistoryMove.issuedAt_le (move : HistoryMove verify digest (some history) next)
    : history.lastIssuedAt ≤ next.lastIssuedAt := by
  cases move with
  | observes hm =>
    cases hm with
    | observed license now seats ha => exact observed_issuedAt_le now ha
  | switches hm =>
    cases hm with
    | switched license free now hr ha hf =>
      exact observed_issuedAt_le now ha
  | repeats => exact le_rfl

variable {document : VerifiedProductLicense verify}

/-- A free document is never the same as one that is not. -/
theorem DistinctDigests.ne_of_free (hd : DistinctDigests verify digest)
    {free : VerifiedProductLicense verify} (hf : isPublicFree free)
    (paid : isPublicFree document = false)
    : digest free.source ≠ digest document.source := by
  intro same
  rw [hd.eq same, paid] at hf
  cases hf

theorem StateClaims.Retires.move (retired : history.Retires digest document)
    (hdi : DistinctDigests verify digest) (paid : isPublicFree document = false)
    (move : HistoryMove verify digest (some history) next)
    : next.Retires digest document := by
  cases move with
  | observes hm =>
    cases hm with
    | observed license now seats ha =>
      refine ⟨retired.superseded.observed now ha, fun same => ?_⟩
      cases hdi.eq (Option.some.inj same)
      exact retired.superseded.not_advances paid ha
  | switches hm =>
    cases hm with
    | switched license free now hr ha hf =>
      have hd := hdi.ne_of_free hf paid
      refine ⟨(retired.superseded.observed now ha).switched hd, ?_⟩
      exact fun same => hd (Option.some.inj same)
  | repeats => exact retired

/-- Recording another document retires the one before. -/
theorem StateClaims.Recorded.retires (hre : history.Recorded verify digest)
    (hdis : DistinctDigests verify digest) (paid : isPublicFree document = false)
    (hd : history.lastLicenseSha256 = some (digest document.source))
    (move : HistoryMove verify digest (some history) next)
    (hdi : next.lastLicenseSha256 ≠ some (digest document.source))
    : next.Retires digest document := by
  obtain ⟨hn, names, position⟩ := hre
  cases hdis.eq (Option.some.inj (names.sha256.symm.trans hd))
  refine ⟨?_, hdi⟩
  cases move with
  | observes hm =>
    cases hm with
    | observed license now seats ha =>
      refine Supersedes.of_at names (position paid) now ?_ ha
      exact fun same => hdi (congrArg some same)
  | switches hm =>
    cases hm with
    | switched license free now hr ha hf =>
      cases hdis.eq (Option.some.inj (hr.symm.trans hd))
      refine Supersedes.of_switch ?_ (hdis.ne_of_free hf paid)
      exact observed_at now ha (by simp [isRecordedFree, paid])
  | repeats => exact absurd hd hdi

open Transition (Run)

theorem retired_not_recorded (hd : DistinctDigests verify digest)
    (paid : isPublicFree document = false)
    (run : Run (HistoryStep verify digest) (some history) histories last)
    (retired : history.Retires digest document)
    : ∀ later ∈ histories, later.lastLicenseSha256 ≠ some (digest document.source) := by
  generalize hf : some history = first at run
  induction run generalizing history with
  | nil => exact nofun
  | cons head _ ih =>
    cases hf
    cases head with
    | record move =>
      have next := retired.move hd paid move
      intro later hl
      rcases mem_cons.mp hl with hh | ht
      · rw [hh]
        exact next.unnamed
      · exact ih next rfl later ht

/-- From a history of the document on, it does not return after another one. -/
theorem replaced_not_recorded (hdis : DistinctDigests verify digest)
    (paid : isPublicFree document = false)
    (run : Run (HistoryStep verify digest) (some history) histories last)
    (hr : history.Recorded verify digest)
    (hd : history.lastLicenseSha256 = some (digest document.source))
    {later : StateClaims} (hl : [other, later].Sublist histories)
    (hdi : other.lastLicenseSha256 ≠ some (digest document.source))
    : later.lastLicenseSha256 ≠ some (digest document.source) := by
  generalize hf : some history = first at run
  induction run generalizing history with
  | nil => cases hl
  | @cons _ _ _ next rest head tail ih =>
    cases hf
    cases head with
    | record move =>
      by_cases hs : next.lastLicenseSha256 = some (digest document.source)
      · have hn := move.recorded fun _ same => Option.some.inj same ▸ hr
        cases hl with
        | cons _ hi => exact ih hn hs hi rfl
        | cons_cons _ hi => exact absurd hs hdi
      · have retired := hr.retires hdis paid hd move hs
        refine retired_not_recorded hdis paid tail retired later ?_
        cases hl with
        | cons _ hi => exact hi.subset (by simp)
        | cons_cons _ hi => exact hi.subset (by simp)

theorem replaced_never_recorded {recorded : Option StateClaims}
    (hdis : DistinctDigests verify digest) (paid : isPublicFree document = false)
    (run : Run (HistoryStep verify digest) recorded histories last)
    (before : ∀ history ∈ recorded, history.Recorded verify digest) {later : StateClaims}
    (inOrder : [history, other, later].Sublist histories)
    (hd : history.lastLicenseSha256 = some (digest document.source))
    (hdi : other.lastLicenseSha256 ≠ some (digest document.source))
    : later.lastLicenseSha256 ≠ some (digest document.source) := by
  induction run with
  | nil => cases inOrder
  | cons head tail ih =>
    cases head with
    | record move =>
      have hn := move.recorded before
      cases inOrder with
      | cons _ hi =>
        exact ih (fun _ same => Option.some.inj same ▸ hn) hi
      | cons_cons _ hi =>
        exact replaced_not_recorded hdis paid tail hn hd hi hdi

/-- The issue time never decreases. -/
theorem issuedAt_pairwise (run : Run (HistoryStep verify digest) recorded histories last)
    : (∀ history ∈ recorded, ∀ later ∈ histories, history.lastIssuedAt ≤ later.lastIssuedAt)
      ∧ histories.Pairwise (·.lastIssuedAt ≤ ·.lastIssuedAt) := by
  induction run with
  | nil => exact ⟨fun _ _ => nofun, .nil⟩
  | cons head _ ih =>
    cases head with
    | record move =>
      have inTail := ih.1 _ rfl
      refine ⟨?_, .cons inTail ih.2⟩
      intro history hh later hl
      cases hh
      rcases mem_cons.mp hl with hhe | ht
      · rw [hhe]
        exact move.issuedAt_le
      · exact move.issuedAt_le.trans (inTail later ht)

theorem last_recorded (run : Run (HistoryStep verify digest) recorded histories last)
    : last = histories.getLast?.or recorded := by
  induction run with
  | nil => rfl
  | cons head _ ih =>
    cases head with
    | record move =>
      rw [ih, getLast?_cons]
      cases getLast? _ <;> rfl

end

section

variable {verify : List UInt8 → Option LicenseClaims} {encoding : LicenseEncoding} {target : String}

open Transition (Run run_append)

/-- The machine of single writes, each with the event that makes it. -/
inductive FileMove (verify : List UInt8 → Option LicenseClaims) (encoding : LicenseEncoding)
    (target : String)
    : LicenseFiles → StoreEvent verify × FileWrite → LicenseFiles → Prop
  | write {files : LicenseFiles} {event : StoreEvent verify} {change : FileWrite}
    (exclusive : Bool)
    (permitted : FileStep verify encoding target (event.mode exclusive) files change)
    : FileMove verify encoding target files (event, change) (Durable.Disk.apply files change)

def writeTrace (labels : List (StoreEvent verify × List FileWrite))
    : List (StoreEvent verify × FileWrite) :=
  labels.flatMap fun label => label.2.map (label.1, ·)

def recordedHistory : StoreEvent verify × FileWrite → Option StateClaims
  | (_, .history history) => some history
  | _ => none

def recordedHistories (trace : List (StoreEvent verify × FileWrite)) : List StateClaims :=
  trace.filterMap recordedHistory

variable {files : LicenseFiles} {event : StoreEvent verify} {exclusive : Bool}

theorem Permits.fileRun
    (permits
      : Durable.Permits (FileStep verify encoding target (event.mode exclusive)) files writes)
    : Run (FileMove verify encoding target) files (writes.map (event, ·))
        (Durable.after files writes) := by
  induction permits with
  | nil => exact .nil _
  | cons hp _ ih => exact .cons (.write exclusive hp) ih

/-- The processes refine the machine of single writes. -/
theorem run_fileMove (run : Run (StoreStep encoding target) first labels last)
    : Run (FileMove verify encoding target) first.files (writeTrace labels) last.files := by
  induction run with
  | nil => exact .nil _
  | cons head _ ih =>
    obtain ⟨permits, hn⟩ := head.permits
    refine run_append.mpr ⟨_, Permits.fileRun permits, ?_⟩
    rw [← hn]
    exact ih

/-- A pending update continues the recorded history, as the event that intended it may, or
has recorded its own.
-/
def LicenseFiles.Intends (encoding : LicenseEncoding)
    (trace : List (StoreEvent verify × FileWrite)) (files : LicenseFiles)
    : Prop :=
  ∀ update, files.pending = some (.update update) →
    files.history = some update.state
    ∨ ∃ event exclusive,
        (event, .pending (some (.update update))) ∈ trace
        ∧ (Observes verify encoding.digest files.history update.state update.license
          ∨ (event.mode exclusive).switching = true
            ∧ Switches verify encoding.digest files.history update.state update.license)

variable {trace : List (StoreEvent verify × FileWrite)} {next : LicenseFiles}

theorem LicenseFiles.Intends.later (intends : files.Intends encoding trace)
    (hpe : next.pending = files.pending) (history : next.history = files.history)
    : next.Intends encoding (trace ++ more) := by
  intro update hp
  rw [history]
  rcases intends update (hpe ▸ hp) with done | ⟨event, he, written, hm⟩
  · exact .inl done
  · exact .inr ⟨event, he, mem_append_left _ written, hm⟩

theorem LicenseFiles.Intends.of_idle (idle : files.pending = none)
    : files.Intends encoding trace := by
  intro update hp
  rw [idle] at hp
  cases hp

theorem FileMove.intends (move : FileMove verify encoding target files label next)
    (intends : files.Intends encoding trace)
    : next.Intends encoding (trace ++ [label]) := by
  cases move with
  | @write event change he hpe =>
    cases hpe with
    | observe ho idle => exact .of_idle idle
    | intend hl idle prepared =>
      intro other hp
      cases hp
      exact .inr ⟨event, he, by simp, prepared.history⟩
    | history hl hpen =>
      intro other hp
      rw [show (Durable.Disk.apply files _).pending = files.pending from rfl, hpen]
        at hp
      cases hp
      exact .inl rfl
    | license => exact intends.later rfl rfl
    | activation => exact intends.later rfl rfl
    | finish => exact .of_idle rfl
    | intendStaged hl idle prepared =>
      intro other hp
      cases hp
    | stagedFile => exact intends.later rfl rfl
    | stagedActivation => exact intends.later rfl rfl
    | finishStaged => exact .of_idle rfl
    | stage => exact intends.later rfl rfl
    | acknowledge => exact intends.later rfl rfl

variable {mode : StoreMode}

theorem FileStep.historyMove {history : StateClaims}
    (hp : FileStep verify encoding target mode files (.history history))
    (intends : files.Intends encoding trace)
    : HistoryMove verify encoding.digest files.history history := by
  cases hp with
  | observe ho idle hm hl => exact .observes hm
  | history hl hpe =>
    rcases intends _ hpe with done | ⟨_, _, _, hm | ⟨_, hm⟩⟩
    · rw [done]
      exact .repeats _
    · exact .observes hm
    · exact .switches hm

variable {labels : List (StoreEvent verify × FileWrite)} {first : LicenseFiles}

/-- The machine of single writes refines that of the recorded histories. -/
theorem run_historyStep (run : Run (FileMove verify encoding target) first labels last)
    (intends : first.Intends encoding trace)
    : Run (HistoryStep verify encoding.digest) first.history (recordedHistories labels)
        last.history := by
  induction run generalizing trace with
  | nil => exact .nil _
  | cons head _ ih =>
    have rest := ih (head.intends intends)
    cases head with
    | @write event change he hp =>
      cases change with
      | history history => exact .cons (.record (hp.historyMove intends)) rest
      | license => exact rest
      | staged => exact rest
      | activation => exact rest
      | pending => exact rest

theorem run_intends (run : Run (FileMove verify encoding target) first labels last)
    (intends : first.Intends encoding trace)
    : last.Intends encoding (trace ++ labels) := by
  induction run generalizing trace with
  | nil =>
    rw [append_nil]
    exact intends
  | @cons _ _ _ label rest head _ ih =>
    have after := ih (head.intends intends)
    rw [append_assoc] at after
    exact after

variable {current : StateClaims} {free : VerifiedProductLicense verify}

/-- The progress rule alone never moves on to another free-distribution document. -/
theorem Observes.free_recorded {next : StateClaims} (hd : DistinctDigests verify encoding.digest)
    (hm : Observes verify encoding.digest (some current) next source) (hf : free.isFreeDistribution)
    (hn : next.lastLicenseSha256 = some (encoding.digest free.source))
    : current.lastLicenseSha256 = next.lastLicenseSha256 := by
  rw [hn]
  cases hm with
  | observed license now seats ha =>
    cases hd.eq (Option.some.inj hn)
    cases ha with
    | recordedFree hr =>
      simp only [isRecordedFree, Bool.and_eq_true, decide_eq_true_eq] at hr
      exact hr.2
    | newIdentity paid => exact paid hf
    | sameIdentity paid => exact paid hf

theorem StoreEvent.mode_switching (switching : (event.mode exclusive).switching)
    : ∃ free, event = .commitSwitch free := by
  cases event with
  | commitSwitch free => exact ⟨free, rfl⟩
  | operation => cases switching
  | guard => cases switching
  | release => cases switching
  | beginSwitch => cases switching
  | abandonSwitch => cases switching

/-- Another free-distribution document is recorded only for the intent of a switch. -/
theorem FileStep.free_switched {next : StateClaims} (hdi : DistinctDigests verify encoding.digest)
    (hp : FileStep verify encoding target mode files (.history next))
    (intends : files.Intends encoding trace) (hc : files.history = some current)
    (hf : free.isFreeDistribution)
    (hn : next.lastLicenseSha256 = some (encoding.digest free.source))
    (hd : current.lastLicenseSha256 ≠ next.lastLicenseSha256)
    : ∃ switched update,
        (.commitSwitch switched, .pending (some (.update update))) ∈ trace
        ∧ update.state = next ∧ update.license = free.source := by
  cases hp with
  | observe ho idle hm hl =>
    rw [hc] at hm
    exact absurd (hm.free_recorded hdi hf hn) hd
  | @history update hl hpe =>
    rcases intends update hpe with done | ⟨event, he, written, hm⟩
    · rw [hc] at done
      rw [Option.some.inj done] at hd
      exact absurd rfl hd
    · rw [hc] at hm
      rcases hm with hm | ⟨switching, hm⟩
      · exact absurd (hm.free_recorded hdi hf hn) hd
      · obtain ⟨switched, rfl⟩ := StoreEvent.mode_switching switching
        refine ⟨switched, update, written, rfl, ?_⟩
        generalize update.state = state at hm hn
        generalize update.license = source at hm
        cases hm with
        | switched license other =>
          exact hdi other free (Option.some.inj hn)

/-- In every run of the processes: the recorded history is the last one written; a document
other than a public free one that was recorded and then replaced is never recorded again; the
issue time never decreases; and a free-distribution document other than the recorded one
comes only from the intent of a switch.
-/
theorem replaced_document_stays_replaced (distinct : DistinctDigests verify encoding.digest)
    {labels : List (StoreEvent verify × List FileWrite)} {system : StoreSystem verify}
    (run : Run (StoreStep encoding target) .initial labels system)
    : system.files.history = (recordedHistories (writeTrace labels)).getLast?
      ∧ (∀ (document : VerifiedProductLicense verify) (history other later : StateClaims),
          isPublicFree document = false
          → [history, other, later].Sublist (recordedHistories (writeTrace labels))
          → history.lastLicenseSha256 = some (encoding.digest document.source)
          → other.lastLicenseSha256 ≠ some (encoding.digest document.source)
          → later.lastLicenseSha256 ≠ some (encoding.digest document.source))
      ∧ (recordedHistories (writeTrace labels)).Pairwise (·.lastIssuedAt ≤ ·.lastIssuedAt)
      ∧ (∀ (free : VerifiedProductLicense verify) (event : StoreEvent verify)
          (front back : List (StoreEvent verify × FileWrite)) (current next : StateClaims),
          free.isFreeDistribution = true
          → writeTrace labels = front ++ (event, .history next) :: back
          → (recordedHistories front).getLast? = some current
          → next.lastLicenseSha256 = some (encoding.digest free.source)
          → current.lastLicenseSha256 ≠ next.lastLicenseSha256
          → ∃ switched update,
              (.commitSwitch switched, .pending (some (.update update))) ∈ front
              ∧ update.state = next ∧ update.license = free.source) := by
  have hi : @LicenseFiles.Intends verify encoding [] .empty := .of_idle rfl
  have writes := run_fileMove run
  have histories := run_historyStep writes hi
  refine ⟨?_, ?_, (issuedAt_pairwise histories).2, ?_⟩
  · rw [last_recorded histories]
    exact Option.or_none
  · intro document history other later paid inOrder hd hdi
    exact replaced_never_recorded distinct paid histories nofun inOrder hd hdi
  · intro free event front back current next hf ht hc hn hdi
    rw [ht] at writes
    obtain ⟨middle, head, tail⟩ := run_append.mp writes
    have intends := run_intends head hi
    rw [nil_append] at intends
    have hh := last_recorded (run_historyStep head hi)
    rw [hc] at hh
    cases tail with
    | cons move _ =>
      cases move with
      | write exclusive hp =>
        exact hp.free_switched distinct intends hh hf hn hdi

/-- Two commercial documents and the public free one. -/
def sampleVerify : List UInt8 → Option LicenseClaims
  | [1] =>
    some ⟨"license_first", 1000000, 0, none, .commercialOrder, .unbound, by decide,
      by decide⟩
  | [2] =>
    some ⟨"license_second", 2000000, 0, none, .commercialOrder, .unbound, by decide,
      by decide⟩
  | [3] =>
    some ⟨"license_free", 0, 0, none, .freeDistribution, .unbound, by decide, by decide⟩
  | _ => none

def sampleDigest : List UInt8 → String
  | [1] => "first"
  | [2] => "second"
  | _ => "free"

def sampleEncoding : LicenseEncoding where
  digest := sampleDigest
  stateDigest _ := "state"
  auditsDigest _ := "audits"
  stagedDigest _ := "staged"
  stateBytes _ := 512
  auditsBytes _ := 512
  stagedBytes _ := 512
  intentBytes _ := 1024

def sampleFirst : VerifiedProductLicense sampleVerify := ⟨[1], _, rfl⟩
def sampleSecond : VerifiedProductLicense sampleVerify := ⟨[2], _, rfl⟩
def sampleFree : VerifiedProductLicense sampleVerify := ⟨[3], _, rfl⟩

theorem sampleVerify_source (hv : sampleVerify source = some claims)
    : source = [1] ∨ source = [2] ∨ source = [3] := by
  unfold sampleVerify at hv
  split at hv
  · exact .inl rfl
  · exact .inr (.inl rfl)
  · exact .inr (.inr rfl)
  · cases hv

theorem sampleDigest_distinct : DistinctDigests sampleVerify sampleDigest := by
  intro first second same
  rcases sampleVerify_source first.verified with hf | hf | hf <;>
    rcases sampleVerify_source second.verified with hs | hs | hs <;>
    rw [hf, hs] at same ⊢ <;> revert same <;> decide

/-- An interrupted installation, its recovery, a second document and a switch. -/
theorem sample_documents_stay_replaced
    : ∃ labels : List (StoreEvent sampleVerify × List FileWrite),
        (∃ system, Run (StoreStep sampleEncoding "target") .initial labels system)
        ∧ (recordedHistories (writeTrace labels)).map (·.lastLicenseSha256)
          = [some "first", some "first", some "second", some "free"]
        ∧ (recordedHistories (writeTrace labels)).Pairwise (·.lastIssuedAt ≤ ·.lastIssuedAt) := by
  have run
      : ∃ (labels : List (StoreEvent sampleVerify × List FileWrite))
          (system : StoreSystem sampleVerify),
          Run (StoreStep sampleEncoding "target") .initial labels system
          ∧ (recordedHistories (writeTrace labels)).map (·.lastLicenseSha256)
            = [some "first", some "first", some "second", some "free"] :=
    ⟨_, _,
      .cons (.operation (.installDocument sampleFirst 0) ⟨_, take_append_drop 2 _⟩)
        (.cons (.operation .readCommittedDocument prefix_rfl)
          (.cons (.operation (.installDocument sampleSecond 0) prefix_rfl)
            (.cons (.beginSwitch sampleSecond 0 rfl)
              (.cons
                (.commitSwitch sampleFree 0 ⟨"license_import_1", .localCommand, .switchFree⟩
                  rfl prefix_rfl)
                (.nil _))))),
      by decide +kernel⟩
  obtain ⟨labels, system, run, histories⟩ := run
  exact ⟨labels, ⟨system, run⟩, histories,
    (replaced_document_stays_replaced sampleDigest_distinct run).2.2.1⟩

end

end AsterTeam
