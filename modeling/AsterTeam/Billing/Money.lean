import AsterTeam.Storage.Records

/-! Exact money arithmetic: amounts are billionths of a currency unit, prices are per
million tokens, and every intermediate value is a checked 128-bit integer.
-/

namespace AsterTeam

open MachineInteger Relational

inductive BillingError
  | unsupportedUsage
  | unsupportedImageSpec
  | inconsistentRateCard
  | currencyMismatch
  | invalidRate
  | overflow
  | invalidParallelLimit
  | trackerUnavailable
  deriving DecidableEq

structure Money where
  currency : Currency
  nanos : Int64
  deriving DecidableEq

/-- A 128-bit result, when it is in range. -/
def fitWide (value : Int) : Except BillingError Int :=
  if -2 ^ 127 ≤ value ∧ value < 2 ^ 127 then .ok value else .error .overflow

variable (currency : Currency)

/-- The amount with a value in nanos, when it is in range. -/
def Money.ofNanos (nanos : Int) : Except BillingError Money :=
  match fit nanos with
  | none => .error .overflow
  | some nanos => .ok ⟨currency, nanos⟩

/-- Division of a non-negative number, rounded half up. -/
def roundDiv (numerator denominator : Int) : Except BillingError Int :=
  if numerator < 0 ∨ denominator ≤ 0 then .error .invalidRate
  else do
    let shifted ← fitWide (numerator + denominator / 2)
    return shifted / denominator

def nanosPerUnit : Int := 1000000000

structure ExchangeRate where
  (source target : Currency)
  destinationNanosPerUnit : Int64
  deriving DecidableEq

def ExchangeRate.convert (rate : ExchangeRate) (amount : Money) : Except BillingError Money :=
  if amount.currency ≠ rate.source ∨ rate.source = rate.target then
    .error .currencyMismatch
  else if rate.destinationNanosPerUnit ≤ 0 then .error .invalidRate
  else do
    let numerator ← fitWide (amount.nanos.toInt * rate.destinationNanosPerUnit.toInt)
    let nanos ← roundDiv numerator nanosPerUnit
    Money.ofNanos rate.target nanos

def ExchangeRate.convertReverse (rate : ExchangeRate) (amount : Money)
    : Except BillingError Money :=
  if amount.currency ≠ rate.target ∨ rate.source = rate.target then
    .error .currencyMismatch
  else if rate.destinationNanosPerUnit ≤ 0 then .error .invalidRate
  else do
    let numerator ← fitWide (amount.nanos.toInt * nanosPerUnit)
    let nanos ← roundDiv numerator rate.destinationNanosPerUnit.toInt
    Money.ofNanos rate.source nanos

/-- Nanos per million tokens of each category; a missing price means that the category is
not supported.
-/
structure TokenPrices where
  (input cachedRead cachedWrite output imageInput imageOutput : Option Int64)
  deriving DecidableEq

-- Conversions

variable {currency}

theorem fitWide_eq_ok
    : fitWide value = .ok result ↔ (-2 ^ 127 ≤ value ∧ value < 2 ^ 127) ∧ value = result := by
  unfold fitWide
  split_ifs with range
  · exact ⟨fun he => ⟨range, Except.ok.inj he⟩, fun he => congrArg _ he.2⟩
  · exact ⟨nofun, fun he => absurd he.1 range⟩

theorem roundDiv_eq_ok
    : roundDiv numerator denominator = .ok result
      ↔ (0 ≤ numerator ∧ 0 < denominator ∧ numerator + denominator / 2 < 2 ^ 127)
        ∧ result = (numerator + denominator / 2) / denominator := by
  unfold roundDiv fitWide
  split_ifs <;> simp [bind, Except.bind, pure, Except.pure] <;> omega

theorem ofNanos_eq_ok {money : Money}
    : Money.ofNanos currency nanos = .ok money
      ↔ money.currency = currency ∧ money.nanos.toInt = nanos := by
  unfold Money.ofNanos
  split
  · rename_i absent
    refine ⟨nofun, fun same => ?_⟩
    rw [fit_eq_some.mpr same.2] at absent
    cases absent
  · rename_i value hv
    rw [← fit_eq_some, hv, ← Option.some_inj]
    obtain ⟨_, nanos⟩ := money
    simp [eq_comm]

/-- At a rate of at least one the way back succeeds and undoes the rounding. -/
theorem conversion_comes_back {rate : ExchangeRate} {amount converted : Money}
    (large : nanosPerUnit ≤ rate.destinationNanosPerUnit.toInt)
    (hc : rate.convert amount = .ok converted)
    : rate.convertReverse converted = .ok amount := by
  unfold ExchangeRate.convert at hc
  split_ifs at hc with mismatch invalid
  obtain ⟨numerator, hn, hc⟩ := bind_ok hc
  obtain ⟨nanos, hr, hc⟩ := bind_ok hc
  obtain ⟨_, rfl⟩ := fitWide_eq_ok.mp hn
  obtain ⟨⟨nonneg, _⟩, rfl⟩ := roundDiv_eq_ok.mp hr
  obtain ⟨target, there⟩ := ofNanos_eq_ok.mp hc
  simp only [not_or, not_not] at mismatch
  have small := converted.nanos.toInt_lt
  have price := rate.destinationNanosPerUnit.toInt_lt
  unfold ExchangeRate.convertReverse
  rw [if_neg (by simp [target, mismatch.2]), if_neg invalid]
  unfold nanosPerUnit at *
  generalize rate.destinationNanosPerUnit.toInt = rate at *
  have back : amount.nanos.toInt = (converted.nanos.toInt * 1000000000 + rate / 2) / rate := by
    rw [there]
    refine ((Int.ediv_eq_iff_of_pos (by omega)).mpr ?_).symm
    rcases large.eq_or_lt with rfl | above
    · omega
    · generalize amount.nanos.toInt * rate = product
      omega
  exact bind_eq_ok.mpr ⟨_, fitWide_eq_ok.mpr ⟨by omega, rfl⟩, bind_eq_ok.mpr ⟨_,
    roundDiv_eq_ok.mpr ⟨by omega, rfl⟩, ofNanos_eq_ok.mpr ⟨mismatch.1, back⟩⟩⟩

theorem sample_conversion_comes_back
    : ExchangeRate.convertReverse ⟨.usd, .cny, 7100000000⟩ ⟨.cny, 71⟩ = .ok ⟨.usd, 10⟩ :=
  conversion_comes_back (by decide) (by decide)

end AsterTeam
