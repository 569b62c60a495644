import AsterTeam.Gateway.ResponseReducer

/-! The usage that a client is told, against the usage that is charged.
The built-in translation encodes the charged usage, or returns the usage object of the
upstream response. A plugin adapter reads the upstream object into a canonical usage, from
which both the charge and the reported object are made.
-/

namespace AsterTeam.ReportedUsage

open AssocList Json MachineInteger Relational

-- The built-in translation

def tokens (value : Int64) : Document := .integer value.toInt

def chatUsage (usage : ModelUsage) : Document :=
  let promptTokens :=
    saturatingAdd (saturatingAdd usage.uncachedInput usage.cachedInput) usage.cacheWrite
  .object [
    ("prompt_tokens", tokens promptTokens), ("completion_tokens", tokens usage.outputTokens),
    ("total_tokens", tokens (saturatingAdd promptTokens usage.outputTokens)),
    ("prompt_tokens_details", .object [("cached_tokens", tokens usage.cachedInput)]),
    ("completion_tokens_details", .object [])]

def anthropicUsage (usage : ModelUsage) : Document :=
  .object [
    ("input_tokens", tokens (saturatingAdd usage.uncachedInput usage.cachedInput)),
    ("cache_creation_input_tokens", tokens usage.cacheWrite),
    ("cache_read_input_tokens", tokens usage.cachedInput),
    ("output_tokens", tokens usage.outputTokens)]

/-- What a client has after the events of a stream: the output figure of the last event in place
of the zero in the first.
-/
def sseUsage (usage : Document) : Document :=
  let field (name : String) : String × Document := (name, (usage.get name).getD .null)
  .object (upsert "output_tokens" (field "output_tokens").2
    [field "input_tokens", field "cache_creation_input_tokens", field "cache_read_input_tokens",
      ("output_tokens", .integer 0)])

-- The plugin adapter

/-- A protocol of an upstream and of a client. -/
inductive Protocol
  | chat
  | responses
  | anthropic

structure UsageKeys where
  (input inputDetails cache output outputDetails : String)

def Protocol.keys : Protocol → UsageKeys
  | .chat =>
    ⟨"prompt_tokens", "prompt_tokens_details", "cached_tokens", "completion_tokens",
      "completion_tokens_details"⟩
  | .responses =>
    ⟨"input_tokens", "input_tokens_details", "cached_tokens", "output_tokens",
      "output_tokens_details"⟩
  | .anthropic =>
    ⟨"input_tokens", "input_tokens_details", "cache_read_input_tokens", "output_tokens",
      "output_tokens_details"⟩

structure CanonicalUsage where
  (inputTokens cachedInputTokens outputTokens reasoningOutputTokens : Option Nat)

def isTable : Document → Bool
  | .object _ | .array _ => true
  | _ => false

/-- An absent count, a count, or no result. A floating point number fails the check or the
conversion into the typed result.
-/
def validCount : Option Document → Option (Option Nat)
  | none | some .null => some none
  | some (.integer value) =>
    if 0 ≤ value ∧ value < 2 ^ 63 then some (some value.toNat) else none
  | some _ => none

/-- A count that the details have, or that stands beside them. -/
def detailed (raw : Document) (details inside beside : String) : Option Document :=
  match (raw.get details).filter isTable with
  | some table => table.get inside
  | none => raw.get beside

def usageValue (wire : Protocol) (raw : Document) : Option CanonicalUsage :=
  let keys := wire.keys
  if !isTable raw then none
  else do
    let inputTokens ← validCount (raw.get keys.input)
    let outputTokens ← validCount (raw.get keys.output)
    let cachedInputTokens ← validCount (detailed raw keys.inputDetails "cached_tokens" keys.cache)
    let reasoningOutputTokens ←
      validCount (detailed raw keys.outputDetails "reasoning_tokens" "reasoning_tokens")
    return ⟨inputTokens, cachedInputTokens, outputTokens, reasoningOutputTokens⟩

/-- The reported object of a plugin, buffered and in the last event of a stream. The total is a
sum of 64-bit integers, which wraps.
-/
def publicUsage (usage : CanonicalUsage) (protocol : Protocol) : Option Document :=
  let keys := protocol.keys
  match usage.inputTokens, usage.outputTokens with
  | some input, some output =>
    let figures := [(keys.input, .integer input), (keys.output, .integer output)]
    match protocol with
    | .anthropic => some (.object figures)
    | _ =>
      let details (cached : Nat) := .object [("cached_tokens", .integer cached)]
      some (.object (figures ++ ("total_tokens", tokens (.ofNat (input + output)))
        :: usage.cachedInputTokens.toList.map fun cached => (keys.inputDetails, details cached)))
  | _, _ => none

/-- The charged usage of a plugin; the request gives the other columns. -/
def pluginUsage (usage : CanonicalUsage) (request : ModelUsage)
    : Except ControlError ModelUsage := do
  let input ← okOr .upstreamUsageInvalid usage.inputTokens
  let output ← okOr .upstreamUsageInvalid usage.outputTokens
  let cached := usage.cachedInputTokens.getD 0
  if cached > input then .error .upstreamUsageInvalid
  else do
    let uncachedInput ← okOr .upstreamUsageInvalid (fit (input - cached))
    let cachedInput ← okOr .upstreamUsageInvalid (fit cached)
    let outputTokens ← okOr .upstreamUsageInvalid (fit output)
    return { request with uncachedInput, cachedInput, cacheWrite := 0, outputTokens }

-- What the reported object says

def figure (reported : Document) (name : String) : Option Int :=
  match reported.get name with
  | some (.integer value) => some value
  | _ => none

def totalInput (usage : ModelUsage) : Int :=
  usage.uncachedInput.toInt + usage.cachedInput.toInt + usage.cacheWrite.toInt

/-- The reported object determines the charged input, by a figure that includes the cached
tokens, which are repeated in the details.
-/
structure Inclusive (reported : Document) (keys : UsageKeys) (usage : ModelUsage)
    : Prop where
  input : figure reported keys.input = some (totalInput usage)
  cached
    : ∀ found, (reported.get keys.inputDetails).bind (·.get "cached_tokens") = some found
      → found = .null ∨ found = tokens usage.cachedInput

/-- The reported object determines the charged totals. -/
def Reconciles (usage : ModelUsage) (reported : Document) (protocol : Protocol) : Prop :=
  figure reported protocol.keys.output = some usage.outputTokens.toInt
  ∧ match protocol with
    | .anthropic =>
      ∃ input, figure reported "input_tokens" = some input
        ∧ input + (figure reported "cache_read_input_tokens").getD 0
            + (figure reported "cache_creation_input_tokens").getD 0
          = totalInput usage
    | _ => Inclusive reported protocol.keys usage

-- Proofs

def imageTokens (completed : Document) (name : String) : Int64 :=
  tokenField ((completed.get "tool_usage").bind (objectField · "image_gen")) name

/-- What an accepted usage was made of. -/
structure Extracted (completed reported : Document) (usage : ModelUsage) : Prop where
  field : objectField completed "usage" = some reported
  input
    : ∃ input, figure reported "input_tokens" = some input
      ∧ totalInput usage = input + (imageTokens completed "input_tokens").toInt
  output
    : ∃ output, figure reported "output_tokens" = some output
      ∧ usage.outputTokens.toInt = output + (imageTokens completed "output_tokens").toInt
  cached
    : usage.cachedInput = tokenField (objectField reported "input_tokens_details") "cached_tokens"
  nonneg
    : 0 ≤ usage.uncachedInput.toInt ∧ 0 ≤ usage.cachedInput.toInt ∧ 0 ≤ usage.cacheWrite.toInt
  fits : totalInput usage < 2 ^ 63

theorem figure_of_requiredTokens (hr : requiredTokens usage name = .ok value)
    : figure usage name = some value.toInt := by
  unfold requiredTokens at hr
  split at hr
  · rename_i found hf
    rw [figure, hf]
    exact congrArg some (fit_eq_some.mp (okOr_eq_ok.mp hr)).symm
  · cases hr

theorem extracted_of_usageFromResponse (hu : usageFromResponse completed = .ok usage)
    : ∃ reported, Extracted completed reported usage := by
  obtain ⟨reported, hre, hu⟩ := bind_ok hu
  obtain ⟨first, hf, hu⟩ := bind_ok hu
  obtain ⟨second, hs, hu⟩ := bind_ok hu
  obtain ⟨input, hi, hu⟩ := bind_ok hu
  obtain ⟨output, ho, hu⟩ := bind_ok hu
  obtain ⟨accepted, hu⟩ := guard_of_ok hu
  cases hu
  have images (name : String)
      : (if ((completed.get "tool_usage").bind (objectField · "image_gen")).isSome then
          tokenField ((completed.get "tool_usage").bind (objectField · "image_gen")) name
        else 0)
        = imageTokens completed name := by
    unfold imageTokens
    cases (completed.get "tool_usage").bind (objectField · "image_gen") <;> rfl
  rw [images] at hi ho
  have inputSum := checkedAdd_eq_some.mp (okOr_eq_ok.mp hi)
  have outputSum := checkedAdd_eq_some.mp (okOr_eq_ok.mp ho)
  simp only [not_or, Option.all_eq_true, decide_eq_true_eq, not_forall, Int64.not_lt,
    nonneg_iff] at accepted
  obtain ⟨_, _, hc, hw, total, ht, hle⟩ := accepted
  rw [Int64.le_iff_toInt_le, checkedAdd_eq_some.mp ht] at hle
  have high := input.toInt_lt
  have once := @toInt_sub_of_range input
    (tokenField (objectField reported "input_tokens_details") "cached_tokens") (by omega) (by omega)
  have twice := @toInt_sub_of_range
    (input - tokenField (objectField reported "input_tokens_details") "cached_tokens")
    (tokenField (objectField reported "input_tokens_details") "cache_write_tokens") (by omega)
    (by omega)
  refine ⟨reported, okOr_eq_ok.mp hre, ⟨_, figure_of_requiredTokens hf, ?_⟩,
    ⟨_, figure_of_requiredTokens hs, outputSum⟩, rfl, ⟨?_, hc, hw⟩, ?_⟩
  all_goals
    simp only [totalInput]
    omega

variable {completed reported : Document} {usage : ModelUsage}

-- The figures of an encoded object are read by name.
attribute [local simp] figure Document.get lookup tokens

variable (extracted : Extracted completed reported usage)

include extracted in
theorem Extracted.chat : Reconciles usage (chatUsage usage) .chat := by
  obtain ⟨hu, hc, hw⟩ := extracted.nonneg
  have fits := extracted.fits
  unfold totalInput at fits
  have first := @toInt_saturatingAdd usage.uncachedInput usage.cachedInput (by omega) (by omega)
  have second := @toInt_saturatingAdd (saturatingAdd usage.uncachedInput usage.cachedInput)
    usage.cacheWrite (by omega) (by omega)
  refine ⟨rfl, congrArg some (second.trans (by rw [first, totalInput])), fun found hf => ?_⟩
  cases hf
  exact .inr rfl

include extracted in
/-- The input figure has the cached tokens, which are then counted a second time. -/
theorem Extracted.anthropic
    : (Reconciles usage (anthropicUsage usage) .anthropic ↔ usage.cachedInput = 0)
      ∧ (Reconciles usage (sseUsage (anthropicUsage usage)) .anthropic
        ↔ usage.cachedInput = 0) := by
  obtain ⟨hu, hc, hw⟩ := extracted.nonneg
  have fits := extracted.fits
  unfold totalInput at fits
  have first := @toInt_saturatingAdd usage.uncachedInput usage.cachedInput (by omega) (by omega)
  have total
      : (saturatingAdd usage.uncachedInput usage.cachedInput).toInt + usage.cachedInput.toInt
          + usage.cacheWrite.toInt
        = totalInput usage
        ↔ usage.cachedInput = 0 := by
    rw [first, totalInput, ← Int64.toInt_inj, Int64.toInt_zero]
    omega
  refine ⟨⟨?_, fun none => ⟨rfl, _, rfl, total.mpr none⟩⟩,
    ?_, fun none => ⟨rfl, _, rfl, total.mpr none⟩⟩
  all_goals
    rintro ⟨_, input, hi, sum⟩
    cases hi
    exact total.mp sum

/-- A response whose usage object holds all that is charged: no input or output tokens of
generated images, and a cached count, if any, that can be read.
-/
structure PlainUsage (completed : Document) : Prop where
  inputImages : imageTokens completed "input_tokens" = 0
  outputImages : imageTokens completed "output_tokens" = 0
  cached
    : ∀ found, ((objectField completed "usage").bind fun usage =>
        (usage.get "input_tokens_details").bind (·.get "cached_tokens")) = some found
      → found = .null ∨ ∃ value : Int64, found = tokens value

theorem isObject_of_get {document found : Document} (hg : document.get name = some found)
    : document.isObject := by
  cases document <;> first | rfl | cases hg

theorem tokenField_of_given (hf : (reported.get details).bind (·.get name) = some (tokens value))
    : tokenField (objectField reported details) name = value := by
  obtain ⟨inner, hi, hg⟩ := Option.bind_eq_some_iff.mp hf
  have field : objectField reported details = some inner := by
    rw [objectField, hi, Option.filter_some, if_pos (isObject_of_get hg)]
  rw [tokenField, field, Option.bind_some, hg]
  exact congrArg (Option.getD · 0) (fit_eq_some.mpr rfl)

include extracted in
/-- The upstream figures are the charged ones exactly if nothing was added to them. -/
theorem Extracted.responses : Reconciles usage reported .responses ↔ PlainUsage completed := by
  obtain ⟨input, hi, total⟩ := extracted.input
  obtain ⟨output, ho, sum⟩ := extracted.output
  constructor
  · rintro ⟨outputs, inputs, cached⟩
    have same := Option.some.inj (hi.symm.trans inputs)
    have others := Option.some.inj (ho.symm.trans outputs)
    refine ⟨Int64.toInt_inj.mp ?_, Int64.toInt_inj.mp ?_, fun found hf => ?_⟩
    · rw [Int64.toInt_zero]
      omega
    · rw [Int64.toInt_zero]
      omega
    · rw [extracted.field] at hf
      exact (cached found hf).imp id fun given => ⟨_, given⟩
  · intro plain
    rw [plain.inputImages, Int64.toInt_zero, add_zero] at total
    rw [plain.outputImages, Int64.toInt_zero, add_zero] at sum
    refine ⟨sum ▸ ho, total ▸ hi, fun found hf => ?_⟩
    have given := plain.cached found (by rw [extracted.field]; exact hf)
    refine given.imp id fun ⟨value, hv⟩ => ?_
    rw [hv] at hf ⊢
    rw [extracted.cached]
    exact congrArg tokens (tokenField_of_given hf).symm

/-- What a plugin charges. -/
theorem pluginUsage_eq_ok (hu : pluginUsage canonical request = .ok usage)
    : ∃ input output,
        canonical.inputTokens = some input ∧ canonical.outputTokens = some output
        ∧ totalInput usage = input ∧ usage.outputTokens.toInt = output
        ∧ usage.cachedInput.toInt = canonical.cachedInputTokens.getD 0 := by
  obtain ⟨input, hi, hu⟩ := bind_ok hu
  obtain ⟨output, ho, hu⟩ := bind_ok hu
  obtain ⟨hle, hu⟩ := guard_of_ok hu
  obtain ⟨uncached, hun, hu⟩ := bind_ok hu
  obtain ⟨cached, hc, hu⟩ := bind_ok hu
  obtain ⟨outputTokens, hou, hu⟩ := bind_ok hu
  cases hu
  have cachedSum := fit_eq_some.mp (okOr_eq_ok.mp hc)
  have uncachedSum := fit_eq_some.mp (okOr_eq_ok.mp hun)
  have outputSum := fit_eq_some.mp (okOr_eq_ok.mp hou)
  refine ⟨input, output, okOr_eq_ok.mp hi, okOr_eq_ok.mp ho, ?_, outputSum, cachedSum⟩
  simp only [totalInput, uncachedSum, cachedSum, Int64.toInt_zero]
  omega

theorem publicUsage_reconciles (hu : pluginUsage canonical request = .ok usage)
    (protocol : Protocol)
    : ∃ reported, publicUsage canonical protocol = some reported
      ∧ Reconciles usage reported protocol := by
  obtain ⟨input, output, hi, ho, total, sum, hc⟩ := pluginUsage_eq_ok hu
  obtain ⟨_, cached, _, reasoning⟩ := canonical
  cases hi
  cases ho
  cases protocol
  case anthropic => exact ⟨_, rfl, congrArg some sum.symm, _, rfl, by simp [total, Protocol.keys]⟩
  all_goals
    refine ⟨_, rfl, congrArg some sum.symm, congrArg some total.symm, fun found hf => ?_⟩
    cases cached with
    | none => cases hf
    | some cached =>
      cases hf
      exact .inr (congrArg Document.integer hc.symm)

theorem validCount_eq_some (hv : validCount field = some count)
    : (field = none ∨ field = some .null) ∧ count = none
      ∨ ∃ value : Nat, field = some (.integer value) ∧ count = some value := by
  unfold validCount at hv
  split at hv
  · cases hv
    exact .inl ⟨.inl rfl, rfl⟩
  · cases hv
    exact .inl ⟨.inr rfl, rfl⟩
  · rename_i value
    split_ifs at hv with range
    cases hv
    exact .inr ⟨value.toNat, by rw [Int.toNat_of_nonneg range.1], rfl⟩
  · cases hv

theorem figure_of_validCount {raw : Document} (hv : validCount (raw.get name) = some (some value))
    : figure raw name = some (value : Int) := by
  rcases validCount_eq_some hv with ⟨_, absent⟩ | ⟨_, hf, same⟩
  · cases absent
  · cases same
    rw [figure, hf]

/-- The upstream object itself, which a stream in the client's own protocol passes on. -/
theorem usageValue_reconciles (hr : usageValue wire raw = some canonical)
    (hu : pluginUsage canonical request = .ok usage) (inclusive : wire ≠ .anthropic)
    : Reconciles usage raw wire := by
  obtain ⟨input, output, hi, ho, total, sum, hc⟩ := pluginUsage_eq_ok hu
  unfold usageValue at hr
  split_ifs at hr
  obtain ⟨inputTokens, hin, hr⟩ := Option.bind_eq_some_iff.mp hr
  obtain ⟨outputTokens, hou, hr⟩ := Option.bind_eq_some_iff.mp hr
  obtain ⟨cached, hca, hr⟩ := Option.bind_eq_some_iff.mp hr
  obtain ⟨_, _, hr⟩ := Option.bind_eq_some_iff.mp hr
  cases hr
  cases hi
  cases ho
  have encoded : Inclusive raw wire.keys usage := by
    refine ⟨total ▸ figure_of_validCount hin, fun found hf => ?_⟩
    obtain ⟨inner, hd, hg⟩ := Option.bind_eq_some_iff.mp hf
    have table : isTable inner := by
      cases inner <;> first | rfl | cases hg
    rw [detailed, hd, Option.filter_some, if_pos table] at hca
    dsimp only at hca
    rw [hg] at hca
    rcases validCount_eq_some hca with ⟨absent, _⟩ | ⟨value, hfo, rfl⟩
    · exact .inl (Option.some.inj (absent.resolve_left nofun))
    · rw [tokens, hc]
      exact .inr (Option.some.inj hfo)
  refine ⟨sum ▸ figure_of_validCount hou, ?_⟩
  cases wire with
  | anthropic => exact absurd rfl inclusive
  | chat => exact encoded
  | responses => exact encoded

/-- The reported usage determines the charged one, apart from two cases of the built-in
translation: a Messages reply counts cached tokens twice, so it reconciles exactly if there are
none, and a Responses reply reconciles exactly if its usage object holds all that is charged.
-/
theorem usage_reconciles (completed raw : Document) (usage charged request : ModelUsage)
    (wire : Protocol) (canonical : CanonicalUsage)
    : (usageFromResponse completed = .ok usage
        → Reconciles usage (chatUsage usage) .chat
          ∧ (Reconciles usage (anthropicUsage usage) .anthropic ↔ usage.cachedInput = 0)
          ∧ (Reconciles usage (sseUsage (anthropicUsage usage)) .anthropic
            ↔ usage.cachedInput = 0)
          ∧ ∃ reported, objectField completed "usage" = some reported
            ∧ (Reconciles usage reported .responses ↔ PlainUsage completed))
      ∧ (usageValue wire raw = some canonical → pluginUsage canonical request = .ok charged
        → (∀ protocol, ∃ reported, publicUsage canonical protocol = some reported
            ∧ Reconciles charged reported protocol)
          ∧ (wire ≠ .anthropic → Reconciles charged raw wire)) := by
  refine ⟨fun hu => ?_, fun hr hu => ?_⟩
  · obtain ⟨reported, extracted⟩ := extracted_of_usageFromResponse hu
    exact ⟨extracted.chat, extracted.anthropic.1, extracted.anthropic.2, reported,
      extracted.field, extracted.responses⟩
  · exact ⟨publicUsage_reconciles hu, usageValue_reconciles hr hu⟩

def sampleUsage (cached : Int) : Document :=
  .object [("input_tokens", .integer 10), ("output_tokens", .integer 2),
    ("input_tokens_details", .object [("cached_tokens", .integer cached)])]

def sampleReply (cached image : Int) : Document :=
  .object [("usage", sampleUsage cached),
    ("tool_usage", .object [("image_gen", .object [("input_tokens", .integer image)])])]

theorem sample_usage_reconciles
    : ∃ usage canonical charged, usageFromResponse (sampleReply 4 0) = .ok usage
      ∧ Reconciles usage (chatUsage usage) .chat
      ∧ usageValue .responses (sampleUsage 4) = some canonical
      ∧ pluginUsage canonical usage = .ok charged
      ∧ Reconciles charged (sampleUsage 4) .responses := by
  obtain ⟨usage, hu⟩ : ∃ usage, usageFromResponse (sampleReply 4 0) = .ok usage := ⟨_, rfl⟩
  have reply := (usage_reconciles _ .null usage usage usage .chat ⟨none, none, none, none⟩).1 hu
  exact ⟨usage, _, _, hu, reply.1, rfl, rfl,
    ((usage_reconciles .null _ usage _ usage .responses _).2 rfl rfl).2 nofun⟩

/-- A Messages reply reports 14 input tokens for 10 charged ones, buffered and streamed, and a
Responses reply 10 for 13.
-/
theorem reported_usage_differs
    : (∃ usage, usageFromResponse (sampleReply 4 0) = .ok usage
        ∧ ¬ Reconciles usage (anthropicUsage usage) .anthropic
        ∧ ¬ Reconciles usage (sseUsage (anthropicUsage usage)) .anthropic)
      ∧ ∃ usage reported, usageFromResponse (sampleReply 0 3) = .ok usage
        ∧ objectField (sampleReply 0 3) "usage" = some reported
        ∧ ¬ Reconciles usage reported .responses := by
  refine ⟨⟨_, rfl, ?_, ?_⟩, _, _, rfl, rfl, ?_⟩
  · rintro ⟨_, input, hi, total⟩
    cases hi
    exact absurd total (by decide)
  · rintro ⟨_, input, hi, total⟩
    cases hi
    exact absurd total (by decide)
  · rintro ⟨_, inclusive⟩
    exact absurd (Option.some.inj inclusive.input) (by decide)

end AsterTeam.ReportedUsage
