import Mathlib

/-! Text as 16-bit code units. Characters beyond the basic plane take two surrogate units,
so the order of code units is not the order of characters; the units still determine the
text.
-/

namespace Utf16

def encodeChar (char : Char) : List Nat :=
  if char.toNat < 0x10000 then [char.toNat]
  else [0xD800 + (char.toNat - 0x10000) / 0x400, 0xDC00 + (char.toNat - 0x10000) % 0x400]

def encode (text : String) : List Nat := text.toList.flatMap encodeChar

/-- The first character and what follows it can be read off the units, because no
character of one unit is a surrogate.
-/
theorem encodeChar_cancel {left right : Char} {after next : List Nat}
    (same : encodeChar left ++ after = encodeChar right ++ next)
    : left = right ∧ after = next := by
  have leftValid := left.valid
  have rightValid := right.valid
  simp only [UInt32.isValidChar, Nat.isValidChar] at leftValid rightValid
  have chars (codes : left.toNat = right.toNat) : left = right := by
    rw [← Char.ofNat_toNat left, ← Char.ofNat_toNat right, codes]
  simp only [Char.toNat] at *
  unfold encodeChar at same
  simp only [Char.toNat] at same
  split at same <;> split at same <;>
    simp only [List.cons_append, List.nil_append, List.cons.injEq] at same
  · exact ⟨chars same.1, same.2⟩
  · omega
  · omega
  · exact ⟨chars (by omega), same.2.2⟩

theorem encodeChar_ne_nil (char : Char) : encodeChar char ≠ [] := by
  unfold encodeChar
  split <;> simp

theorem flatMap_encodeChar_injective {left right : List Char}
    (same : left.flatMap encodeChar = right.flatMap encodeChar)
    : left = right := by
  induction left generalizing right with
  | nil =>
    cases right with
    | nil => rfl
    | cons char rest => simp [encodeChar_ne_nil] at same
  | cons char rest ih =>
    cases right with
    | nil => simp [encodeChar_ne_nil] at same
    | cons other more =>
      simp only [List.flatMap_cons] at same
      obtain ⟨heads, tails⟩ := encodeChar_cancel same
      rw [heads, ih tails]

theorem encode_injective : Function.Injective encode := by
  intro left right same
  exact String.ext (flatMap_encodeChar_injective same)

end Utf16
