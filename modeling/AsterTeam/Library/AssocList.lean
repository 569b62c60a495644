import Mathlib

/-! Maps as lists of pairs, with a lookup, an update in place and sums over the entries. -/

namespace AssocList

variable {Key Value : Type} [DecidableEq Key]

def lookup (key : Key) : List (Key × Value) → Option Value
  | [] => none
  | entry :: rest => if entry.1 = key then some entry.2 else lookup key rest

/-- Replaces the first entry of the key, or adds one at the end. -/
def upsert (key : Key) (value : Value) : List (Key × Value) → List (Key × Value)
  | [] => [(key, value)]
  | entry :: rest =>
    if entry.1 = key then (key, value) :: rest else entry :: upsert key value rest

def total (measure : Key × Value → Nat) (entries : List (Key × Value)) : Nat :=
  (entries.map measure).sum

@[simp]
theorem lookup_upsert (key : Key) (value : Value) (entries : List (Key × Value))
    : lookup key (upsert key value entries) = some value := by
  induction entries with
  | nil => simp [lookup, upsert]
  | cons entry rest ih =>
    unfold upsert
    split
    · simp [lookup]
    · rename_i other
      simp [lookup, other, ih]

theorem lookup_upsert_ne (ha : other ≠ key) (value : Value) (entries : List (Key × Value))
    : lookup other (upsert key value entries) = lookup other entries := by
  induction entries with
  | nil => simp [lookup, upsert, ha.symm]
  | cons entry rest ih =>
    unfold upsert
    split
    · rename_i same
      simp [lookup, same, ha.symm]
    · simp only [lookup, ih]

/-- An update exchanges the measure of the old entry, if any, for that of the new one. -/
theorem sum_upsert {Sum : Type} [AddCommMonoid Sum] (measure : Key × Value → Sum) (key : Key)
    (value : Value) (entries : List (Key × Value))
    : ((upsert key value entries).map measure).sum
        + ((lookup key entries).map fun old => measure (key, old)).getD 0
      = (entries.map measure).sum + measure (key, value) := by
  induction entries with
  | nil => simp [lookup, upsert]
  | cons entry rest ih =>
    unfold upsert
    split
    · rename_i same
      obtain ⟨name, old⟩ := entry
      cases same
      simp only [lookup, if_true, Option.map_some, Option.getD_some, List.map_cons, List.sum_cons]
      abel
    · rename_i other
      simp only [lookup, other, if_false, List.map_cons, List.sum_cons]
      rw [add_assoc, ih, add_assoc]

theorem total_upsert (measure : Key × Value → Nat) (key : Key) (value : Value)
    (entries : List (Key × Value))
    : total measure (upsert key value entries)
        + ((lookup key entries).map fun old => measure (key, old)).getD 0
      = total measure entries + measure (key, value) :=
  sum_upsert measure key value entries

theorem mem_keys_upsert {key other : Key} {value : Value} {entries : List (Key × Value)}
    (hf : other ∈ (upsert key value entries).map Prod.fst)
    : other = key ∨ other ∈ entries.map Prod.fst := by
  induction entries with
  | nil => simpa [upsert] using hf
  | cons entry rest ih =>
    unfold upsert at hf
    split at hf
    · rename_i same
      rw [List.map_cons, same]
      exact .inr hf
    · rcases List.mem_cons.mp hf with same | later
      · exact .inr (List.mem_cons.mpr (.inl same))
      · exact (ih later).imp_right (List.mem_cons_of_mem _)

theorem nodup_upsert {entries : List (Key × Value)} (hd : (entries.map Prod.fst).Nodup)
    : ((upsert key value entries).map Prod.fst).Nodup := by
  induction entries with
  | nil => simp [upsert]
  | cons entry rest ih =>
    obtain ⟨hf, hd⟩ := List.nodup_cons.mp hd
    unfold upsert
    split
    · rename_i same
      exact List.nodup_cons.mpr ⟨same ▸ hf, hd⟩
    · rename_i ha
      refine List.nodup_cons.mpr ⟨fun hfo => ?_, ih hd⟩
      rcases mem_keys_upsert hfo with same | hk
      · exact ha same
      · exact hf hk

theorem le_total_of_lookup {measure : Key × Value → Nat} {key : Key} {value : Value}
    {entries : List (Key × Value)} (hf : lookup key entries = some value)
    : measure (key, value) ≤ total measure entries := by
  induction entries with
  | nil => cases hf
  | cons entry rest ih =>
    simp only [total, List.map_cons, List.sum_cons] at ih ⊢
    unfold lookup at hf
    split at hf
    · rename_i same
      have he : entry = (key, value) := Prod.ext same (Option.some.inj hf)
      rw [he]
      exact Nat.le_add_right _ _
    · exact (ih hf).trans (Nat.le_add_left _ _)

end AssocList
