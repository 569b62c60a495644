import Mathlib

/-! Directory trees with links and special files, the entries below a directory and their
paths, and looking up a path name by name.
-/

namespace FileTree

open List

variable {Name Content : Type}

inductive Node (Name Content : Type) : Type
  | file (content : Content)
  | directory (entries : List (Name × Node Name Content))
  | symlink
  | special

namespace Node

mutual
/-- Everything below a node, with its path from there. -/
def inside : Node Name Content → List (List Name × Node Name Content)
  | .file _ => []
  | .directory entries => inEntries entries
  | .symlink => []
  | .special => []

def inEntries : List (Name × Node Name Content) → List (List Name × Node Name Content)
  | [] => []
  | (name, node) :: rest =>
    ([name], node) :: node.inside.map (fun entry => (name :: entry.1, entry.2)) ++ inEntries rest
end

mutual
/-- No directory has two entries of one name. -/
def Distinct : Node Name Content → Prop
  | .file _ => True
  | .directory entries => (entries.map Prod.fst).Nodup ∧ DistinctEntries entries
  | .symlink => True
  | .special => True

def DistinctEntries : List (Name × Node Name Content) → Prop
  | [] => True
  | (_, node) :: rest => node.Distinct ∧ DistinctEntries rest
end

def find [DecidableEq Name] : List Name → Node Name Content → Option (Node Name Content)
  | [], node => some node
  | name :: path, .directory entries => (entries.lookup name).bind (find path)
  | _ :: _, _ => none

/-- A node that is no link and no special file. -/
def Ordinary : Node Name Content → Prop
  | .file _ => True
  | .directory _ => True
  | .symlink => False
  | .special => False

theorem mem_inEntries
    : (path, node) ∈ inEntries entries
      ↔ ∃ name child, (name, child) ∈ entries
        ∧ ((path = [name] ∧ node = child)
          ∨ ∃ rest, path = name :: rest ∧ (rest, node) ∈ child.inside) := by
  induction entries with
  | nil => simp [inEntries]
  | cons entry entries ih =>
    obtain ⟨name, child⟩ := entry
    rw [inEntries, cons_append, mem_cons, mem_append, ih]
    refine ⟨?_, ?_⟩
    · intro hm
      rcases hm with same | under | ⟨other, node', he, hf⟩
      · cases same
        exact ⟨name, _, mem_cons_self, .inl ⟨rfl, rfl⟩⟩
      · obtain ⟨⟨rest, inner⟩, hi, same⟩ := mem_map.mp under
        cases same
        exact ⟨name, child, mem_cons_self, .inr ⟨rest, rfl, hi⟩⟩
      · exact ⟨other, node', mem_cons_of_mem _ he, hf⟩
    · intro hf
      obtain ⟨other, node', he, hf⟩ := hf
      rcases mem_cons.mp he with same | he
      · cases same
        rcases hf with ⟨rfl, rfl⟩ | ⟨rest, rfl, hi⟩
        · exact .inl rfl
        · exact .inr (.inl (mem_map.mpr ⟨(rest, node), hi, rfl⟩))
      · exact .inr (.inr ⟨other, node', he, hf⟩)

theorem path_ne_nil (hm : (path, node) ∈ inEntries entries) : path ≠ [] := by
  obtain ⟨name, child, _, ⟨rfl, _⟩ | ⟨rest, rfl, _⟩⟩ := mem_inEntries.mp hm
  · exact cons_ne_nil _ _
  · exact cons_ne_nil _ _

theorem distinct_of_mem (hd : DistinctEntries entries) (he : (name, child) ∈ entries)
    : child.Distinct := by
  induction entries with
  | nil => cases he
  | cons entry rest ih =>
    rcases mem_cons.mp he with same | he
    · cases same
      exact hd.1
    · exact ih hd.2 he

section

variable [DecidableEq Name] {entries : List (Name × Node Name Content)}

theorem lookup_of_mem (hd : (entries.map Prod.fst).Nodup) (he : (name, child) ∈ entries)
    : entries.lookup name = some child := by
  induction entries with
  | nil => cases he
  | cons entry rest ih =>
    obtain ⟨first, node⟩ := entry
    rw [map_cons, nodup_cons] at hd
    rcases mem_cons.mp he with same | he
    · cases same
      rw [lookup_cons_self]
    · have other : ¬ name = first := by
        intro same
        exact hd.1 (mem_map.mpr ⟨(name, child), he, same⟩)
      rw [List.lookup_cons, beq_false_of_ne other]
      exact ih hd.2 he

theorem mem_of_lookup (hf : entries.lookup name = some child) : (name, child) ∈ entries := by
  induction entries with
  | nil => cases hf
  | cons entry rest ih =>
    obtain ⟨first, node⟩ := entry
    rw [List.lookup_cons] at hf
    split at hf
    · rename_i same
      cases hf
      rw [beq_iff_eq.mp same]
      exact mem_cons_self
    · exact mem_cons_of_mem _ (ih hf)

variable {node : Node Name Content}

/-- A path that leads somewhere leads to an entry. -/
theorem mem_inside_of_find (nonempty : path ≠ []) (hf : find path node = some found)
    : (path, found) ∈ node.inside := by
  induction path generalizing node with
  | nil => exact absurd rfl nonempty
  | cons name rest ih =>
    cases node with
    | directory entries =>
      obtain ⟨child, hc, hf⟩ := Option.bind_eq_some_iff.mp hf
      refine mem_inEntries.mpr ⟨name, child, mem_of_lookup hc, ?_⟩
      cases rest with
      | nil =>
        cases hf
        exact .inl ⟨rfl, rfl⟩
      | cons next path =>
        exact .inr ⟨next :: path, rfl, ih (cons_ne_nil _ _) hf⟩
    | file content => cases hf
    | symlink => cases hf
    | special => cases hf

/-- An entry is found by its path, if names are distinct. -/
theorem find_of_mem_inside (hd : node.Distinct) (hm : (path, found) ∈ node.inside)
    : find path node = some found := by
  induction path generalizing node with
  | nil =>
    cases node with
    | directory entries => exact absurd rfl (path_ne_nil hm)
    | file content => cases hm
    | symlink => cases hm
    | special => cases hm
  | cons name rest ih =>
    cases node with
    | directory entries =>
      obtain ⟨other, child, he, place⟩ := mem_inEntries.mp hm
      have hc := lookup_of_mem hd.1 he
      rcases place with ⟨same, rfl⟩ | ⟨path, same, under⟩
      · cases same
        exact Option.bind_eq_some_iff.mpr ⟨found, hc, rfl⟩
      · cases same
        exact Option.bind_eq_some_iff.mpr ⟨child, hc, ih (distinct_of_mem hd.2 he) under⟩
    | file content => cases hm
    | symlink => cases hm
    | special => cases hm

end

end Node

end FileTree
