import Mathlib

/-! Checked and saturating arithmetic on fixed-width integers.
Every operation is specified by the mathematical value it returns, so later proofs
work over `Int` and `Nat` and never mention wrap-around.
-/

namespace MachineInteger

-- Signed 64-bit integers

/-- The signed 64-bit integer with the given value, when the value is in range. -/
def fit (value : Int) : Option Int64 :=
  if -2 ^ 63 ≤ value ∧ value < 2 ^ 63 then some (Int64.ofInt value) else none

def checkedAdd (left right : Int64) : Option Int64 := fit (left.toInt + right.toInt)

def checkedSub (left right : Int64) : Option Int64 := fit (left.toInt - right.toInt)

def checkedNeg (value : Int64) : Option Int64 := fit (-value.toInt)

def saturatingAdd (left right : Int64) : Int64 :=
  (checkedAdd left right).getD (if left < 0 then Int64.minValue else Int64.maxValue)

variable {value : Int}

/-- An in-range value is represented without change, by the range of the balanced modulus.
-/
theorem toInt_ofInt_of_range (low : -2 ^ 63 ≤ value) (high : value < 2 ^ 63)
    : (Int64.ofInt value).toInt = value := by
  rw [Int64.toInt_ofInt]
  apply Int.bmod_eq_of_le
  · simp only [Int64.size]
    omega
  · simp only [Int64.size]
    omega

variable {result : Int64}

/-- A fitted integer is determined by its value, and only in-range values fit. -/
@[simp]
theorem fit_eq_some : fit value = some result ↔ result.toInt = value := by
  unfold fit
  constructor
  · intro h
    split at h
    · rename_i range
      cases h
      exact toInt_ofInt_of_range range.1 range.2
    · cases h
  · rintro rfl
    rw [if_pos ⟨result.le_toInt, result.toInt_lt⟩, Int64.ofInt_toInt]

theorem exists_fit (value : Int) (low : -2 ^ 63 ≤ value) (high : value < 2 ^ 63)
    : ∃ result, fit value = some result ∧ result.toInt = value := by
  have fits : fit value = some _ := if_pos ⟨low, high⟩
  exact ⟨_, fits, fit_eq_some.mp fits⟩

variable {left right : Int64}

@[simp]
theorem checkedAdd_eq_some
    : checkedAdd left right = some result ↔ result.toInt = left.toInt + right.toInt :=
  fit_eq_some

/-- Saturating addition agrees with the integers whenever the sum is in range. -/
theorem toInt_saturatingAdd (low : -2 ^ 63 ≤ left.toInt + right.toInt)
    (high : left.toInt + right.toInt < 2 ^ 63)
    : (saturatingAdd left right).toInt = left.toInt + right.toInt := by
  obtain ⟨sum, hf, hs⟩ := exists_fit _ low high
  rw [saturatingAdd, checkedAdd, hf]
  exact hs

@[simp]
theorem checkedSub_eq_some
    : checkedSub left right = some result ↔ result.toInt = left.toInt - right.toInt :=
  fit_eq_some

@[simp]
theorem checkedNeg_eq_some {value : Int64}
    : checkedNeg value = some result ↔ result.toInt = -value.toInt :=
  fit_eq_some

/-- A non-negative result compared with a fitted value or the sentinel `-1` is that value:
the sentinel is negative.
-/
theorem toInt_of_eq_fit_getD (h : result = (fit value).getD (-1)) (nonneg : 0 ≤ result)
    : result.toInt = value := by
  cases fitted : fit value with
  | none =>
    rw [fitted, Option.getD_none] at h
    subst h
    exact absurd nonneg (by decide)
  | some actual =>
    rw [fitted, Option.getD_some] at h
    exact h ▸ fit_eq_some.mp fitted

/-- For a non-negative result the sentinel can be ignored. -/
theorem eq_fit_getD_iff (nonneg : 0 ≤ result)
    : result = (fit value).getD (-1) ↔ result.toInt = value := by
  constructor
  · intro h
    exact toInt_of_eq_fit_getD h nonneg
  · intro h
    rw [fit_eq_some.mpr h, Option.getD_some]

/-- Plain subtraction agrees with the integers whenever the difference is in range. -/
theorem toInt_sub_of_range (low : -2 ^ 63 ≤ left.toInt - right.toInt)
    (high : left.toInt - right.toInt < 2 ^ 63)
    : (left - right).toInt = left.toInt - right.toInt := by
  rw [Int64.toInt_sub]
  apply Int.bmod_eq_of_le
  · omega
  · omega

/-- Subtracting from a non-negative integer can only wrap to a negative one. -/
theorem toInt_sub_of_nonneg (leftNonneg : 0 ≤ left.toInt) (nonneg : 0 ≤ (left - right).toInt)
    : (left - right).toInt = left.toInt - right.toInt := by
  have leftHigh := left.toInt_lt
  have rightLow := right.le_toInt
  have rightHigh := right.toInt_lt
  by_cases high : left.toInt - right.toInt < 2 ^ 63
  · exact toInt_sub_of_range (by omega) high
  · rw [Int64.toInt_sub] at nonneg
    have wraps
        : (left.toInt - right.toInt).bmod (2 ^ 64) = left.toInt - right.toInt - 2 ^ 64 := by
      rw [← Int.sub_bmod_right, Int.bmod_eq_of_le]
      · omega
      · omega
      · omega
    omega

theorem nonneg_iff {value : Int64} : 0 ≤ value ↔ 0 ≤ value.toInt := by
  rw [Int64.le_iff_toInt_le, Int64.toInt_zero]

theorem pos_iff {value : Int64} : 0 < value ↔ 0 < value.toInt := by
  rw [Int64.lt_iff_toInt_lt, Int64.toInt_zero]

-- Unsigned 64-bit counters

/-- The next counter value, absent at the largest one. -/
def checkedSucc (value : UInt64) : Option UInt64 :=
  if value.toNat + 1 < 2 ^ 64 then some (value + 1) else none

/-- The next counter value, which stays at the largest one. -/
def saturatingSucc (value : UInt64) : UInt64 := (checkedSucc value).getD value

@[simp]
theorem checkedSucc_eq_some {value result : UInt64}
    : checkedSucc value = some result ↔ result.toNat = value.toNat + 1 := by
  unfold checkedSucc
  constructor
  · intro h
    split at h
    · rename_i room
      cases h
      rw [UInt64.toNat_add]
      exact Nat.mod_eq_of_lt room
    · cases h
  · intro h
    have bound := result.toNat_lt
    rw [if_pos (by omega), Option.some.injEq, ← UInt64.toNat_inj, UInt64.toNat_add, h]
    exact Nat.mod_eq_of_lt (by simpa using h ▸ bound)

theorem saturatingSucc_of_checkedSucc {value result : UInt64} (h : checkedSucc value = some result)
    : saturatingSucc value = result := by
  rw [saturatingSucc, h, Option.getD_some]

/-- A signed 64-bit column holds exactly the counters below `2 ^ 63`. -/
def fitsSigned (value : UInt64) : Bool := value.toNat < 2 ^ 63

theorem checkedSucc_of_fitsSigned {value : UInt64} (fits : fitsSigned value)
    : ∃ next, checkedSucc value = some next := by
  have small : value.toNat < 2 ^ 63 := of_decide_eq_true fits
  exact ⟨value + 1, if_pos (by omega)⟩

end MachineInteger
